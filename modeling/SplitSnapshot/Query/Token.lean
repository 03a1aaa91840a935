import SplitSnapshot.Query.Quoting

namespace SplitSnapshot

inductive SqlToken where
  | word (s : String)
  | name (s : String)
  | literal (s : String)
  | star
  | comma
  | point
  | cast
  | atLeast
  | atMost
  | below
  deriving DecidableEq, Repr

namespace SqlToken

def chars : SqlToken → List Char
  | word s => s.toList
  | name s => (Quoting.identifier s).toList
  | literal s => (Quoting.literal s).toList
  | star => ['*']
  | comma => [',']
  | point => ['.']
  | cast => [':', ':']
  | atLeast => ['>', '=']
  | atMost => ['<', '=']
  | below => ['<']

def closeBefore : SqlToken → Bool
  | comma | point | cast => true
  | _ => false

def closeAfter : SqlToken → Bool
  | point | cast => true
  | _ => false

def gap (a b : SqlToken) : List Char :=
  if a.closeAfter || b.closeBefore then [] else [' ']

def line : List SqlToken → List Char
  | [] => []
  | [t] => t.chars
  | t :: u :: ts => t.chars ++ gap t u ++ line (u :: ts)

end SqlToken

end SplitSnapshot
