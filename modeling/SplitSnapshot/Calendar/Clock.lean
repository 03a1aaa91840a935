import SplitSnapshot.Calendar.Date
import SplitSnapshot.Power

namespace SplitSnapshot

structure Clock where
  hour : Nat
  minute : Nat
  second : Nat
  nano : Nat
  deriving DecidableEq, Repr

namespace Clock

def isValid (t : Clock) : Bool :=
  decide (t.hour ≤ 23) && decide (t.minute ≤ 59) && decide (t.second ≤ 60) &&
    decide (t.nano < 1000000000)

def ofParts? (hour minute second nano : Nat) : Option Clock :=
  if isValid ⟨hour, minute, second, nano⟩ then some ⟨hour, minute, second, nano⟩ else none

protected def compare (a b : Clock) : Ordering :=
  (compare a.hour b.hour).then ((compare a.minute b.minute).then
    ((compare a.second b.second).then (compare a.nano b.nano)))

def fractionText (nano : Nat) : List Char :=
  if nano == 0 then []
  else if nano % 1000000 == 0 then '.' :: Text.decimalWide 3 (nano / 1000000)
  else if nano % 1000 == 0 then '.' :: Text.decimalWide 6 (nano / 1000)
  else '.' :: Text.decimalWide 9 nano

def text (t : Clock) : List Char :=
  Text.decimalWide 2 t.hour ++ ':' :: Text.decimalWide 2 t.minute ++
    ':' :: Text.decimalWide 2 t.second ++ fractionText t.nano

def takeFraction? : List Char → Option (Nat × List Char)
  | '.' :: s =>
      let digits := (s.take 9).takeWhile Char.isDigit
      (Text.readDecimal? digits).map fun n =>
        (n * pow10 (9 - digits.length), s.dropWhile Char.isDigit)
  | s => some (0, s)

def take? (s : List Char) : Option (Clock × List Char) := do
  let (hour, s) ← Date.takeNumber? 2 s
  let s ← Text.dropStart? [':'] s
  let (minute, s) ← Date.takeNumber? 2 s
  let s ← Text.dropStart? [':'] s
  let (second, s) ← Date.takeNumber? 2 s
  let (nano, s) ← takeFraction? s
  let clock ← ofParts? hour minute second nano
  pure (clock, s)

def read? (s : List Char) : Option Clock :=
  match take? s with
  | some (clock, []) => some clock
  | _ => none

def ofMicros (n : Int) : Clock :=
  let n := (n % 86400000000).toNat
  ⟨n / 3600000000, n / 60000000 % 60, n / 1000000 % 60, n % 1000000 * 1000⟩

end Clock

end SplitSnapshot
