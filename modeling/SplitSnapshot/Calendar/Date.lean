import SplitSnapshot.Text.Ascii
import SplitSnapshot.Text.Blank
import SplitSnapshot.Text.Numeral

namespace SplitSnapshot

structure Date where
  year : Int
  month : Nat
  day : Nat
  deriving DecidableEq, Repr

namespace Date

def firstYear : Int := -262143

def lastYear : Int := 262142

def isLeap (year : Int) : Bool :=
  year % 4 == 0 && (year % 100 != 0 || year % 400 == 0)

def monthLength (year : Int) (month : Nat) : Nat :=
  if month == 2 then if isLeap year then 29 else 28
  else if month == 4 || month == 6 || month == 9 || month == 11 then 30 else 31

def isValid (d : Date) : Bool :=
  decide (firstYear ≤ d.year ∧ d.year ≤ lastYear) && decide (1 ≤ d.month ∧ d.month ≤ 12) &&
    decide (1 ≤ d.day ∧ d.day ≤ monthLength d.year d.month)

def ofParts? (year : Int) (month day : Nat) : Option Date :=
  if isValid ⟨year, month, day⟩ then some ⟨year, month, day⟩ else none

protected def compare (a b : Date) : Ordering :=
  (compare a.year b.year).then ((compare a.month b.month).then (compare a.day b.day))

def dayNumber (d : Date) : Int :=
  let year := if d.month ≤ 2 then d.year - 1 else d.year
  let era := year / 400
  let ofEra := year - era * 400
  let month : Int := if d.month ≤ 2 then d.month + 9 else d.month - 3
  era * 146097 + ofEra * 365 + ofEra / 4 - ofEra / 100 + (153 * month + 2) / 5 + d.day - 1

def ofDayNumber? (n : Int) : Option Date :=
  let era := n / 146097
  let ofEra := n - era * 146097
  let yearOfEra := (ofEra - ofEra / 1460 + ofEra / 36524 - ofEra / 146096) / 365
  let ofYear := ofEra - (365 * yearOfEra + yearOfEra / 4 - yearOfEra / 100)
  let march := (5 * ofYear + 2) / 153
  let day := ofYear - (153 * march + 2) / 5 + 1
  let month := if march < 10 then march + 3 else march - 9
  let year := yearOfEra + era * 400 + (if month ≤ 2 then 1 else 0)
  ofParts? year month.toNat day.toNat

def yearText (year : Int) : List Char :=
  if 0 ≤ year ∧ year ≤ 9999 then Text.decimalWide 4 year.natAbs
  else (if year < 0 then '-' else '+') :: Text.decimalWide 4 year.natAbs

def text (d : Date) : List Char :=
  yearText d.year ++ '-' :: Text.decimalWide 2 d.month ++ '-' :: Text.decimalWide 2 d.day

def takeNumber? (width : Nat) (s : List Char) : Option (Nat × List Char) :=
  let s := Text.trimStart s
  let digits := (s.take width).takeWhile Char.isDigit
  (Text.readDecimal? digits).map fun n => (n, s.drop digits.length)

def takeYear? (s : List Char) : Option (Int × List Char) :=
  match Text.trimStart s with
  | '-' :: t => (Text.readDecimal? (t.takeWhile Char.isDigit)).map fun n =>
      (-(n : Int), t.dropWhile Char.isDigit)
  | '+' :: t => (Text.readDecimal? (t.takeWhile Char.isDigit)).map fun n =>
      ((n : Int), t.dropWhile Char.isDigit)
  | t => (takeNumber? 4 t).map fun (n, rest) => ((n : Int), rest)

def take? (s : List Char) : Option (Date × List Char) := do
  let (year, s) ← takeYear? s
  let s ← Text.dropStart? ['-'] s
  let (month, s) ← takeNumber? 2 s
  let s ← Text.dropStart? ['-'] s
  let (day, s) ← takeNumber? 2 s
  let date ← ofParts? year month day
  pure (date, s)

def read? (s : List Char) : Option Date :=
  match take? s with
  | some (date, []) => some date
  | _ => none

end Date

end SplitSnapshot
