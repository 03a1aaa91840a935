namespace SplitSnapshot.Text

def lowerAscii (s : List Char) : List Char :=
  s.map Char.toLower

def sameIgnoringCase (s t : String) : Bool :=
  lowerAscii s.toList == lowerAscii t.toList

def dropStart? : List Char → List Char → Option (List Char)
  | [], s => some s
  | _ :: _, [] => none
  | p :: ps, c :: s => if p = c then dropStart? ps s else none

def splitAt (sep : Char) : List Char → List (List Char)
  | [] => [[]]
  | c :: s =>
      if c = sep then [] :: splitAt sep s
      else match splitAt sep s with
        | [] => [[c]]
        | p :: ps => (c :: p) :: ps

def cutAt? (sep : Char) : List Char → Option (List Char × List Char)
  | [] => none
  | c :: s => if c = sep then some ([], s) else (cutAt? sep s).map fun p => (c :: p.1, p.2)

def after? (mark : List Char) : List Char → Option (List Char)
  | [] => dropStart? mark []
  | c :: s =>
      match dropStart? mark (c :: s) with
      | some rest => some rest
      | none => after? mark s

end SplitSnapshot.Text
