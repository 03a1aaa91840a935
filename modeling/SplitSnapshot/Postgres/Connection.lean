import SplitSnapshot.ReadError
import SplitSnapshot.Text.Blank

namespace SplitSnapshot

namespace ConnectionString

def standardDatabase : List Char := "postgres".toList

def before (mark : List Char) : List Char → List Char
  | [] => []
  | c :: s => if mark.isPrefixOf (c :: s) then [] else c :: before mark s

def settingDatabase? (s : List Char) : Option (List Char) :=
  (Text.words s).findSome? (Text.dropStart? "dbname=".toList)

def pathDatabase? (s : List Char) : Option (List Char) := do
  let rest ← Text.after? "://".toList s
  let (_, path) ← Text.cutAt? '/' (before "://".toList rest)
  let segment := path.takeWhile fun c => c ≠ '/' && c ≠ '?'
  if segment.isEmpty then none else some segment

def database (s : String) : String :=
  String.ofList ((settingDatabase? s.toList <|> pathDatabase? s.toList).getD standardDatabase)

def unreadable : ReadError :=
  .sourceUnavailable .connectionFailed (some (.client .configuration))

end ConnectionString

end SplitSnapshot
