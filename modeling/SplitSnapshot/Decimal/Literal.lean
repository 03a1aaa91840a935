import SplitSnapshot.Text.Ascii

namespace SplitSnapshot

structure DecimalParts where
  negative : Bool
  whole : List Char
  places : List Char
  deriving DecidableEq, Repr

namespace DecimalLiteral

def isSign (c : Char) : Bool :=
  c == '-' || c == '+'

def unsigned : List Char → List Char
  | [] => []
  | c :: s => if isSign c then s else c :: s

def isLiteral (s : List Char) : Bool :=
  match Text.cutAt? '.' (unsigned s) with
  | some (whole, places) =>
      !(whole.isEmpty && places.isEmpty) && whole.all Char.isDigit && places.all Char.isDigit
  | none => !(unsigned s).isEmpty && (unsigned s).all Char.isDigit

def dropZeros (ds : List Char) : List Char :=
  ds.dropWhile (· == '0')

def parts (s : List Char) : DecimalParts :=
  let (whole, places) := (Text.cutAt? '.' (unsigned s)).getD (unsigned s, [])
  let whole := dropZeros whole
  let places := (dropZeros places.reverse).reverse
  ⟨s.head? == some '-' && !(whole.isEmpty && places.isEmpty), whole, places⟩

def compareMagnitude (a b : DecimalParts) : Ordering :=
  (compare a.whole.length b.whole.length).then
    ((compare a.whole b.whole).then (compare a.places b.places))

def compareParts (a b : DecimalParts) : Ordering :=
  match a.negative, b.negative with
  | false, false => compareMagnitude a b
  | true, true => (compareMagnitude a b).swap
  | true, false => .lt
  | false, true => .gt

def compareTexts (a b : List Char) : Ordering :=
  compareParts (parts a) (parts b)

end DecimalLiteral

end SplitSnapshot
