import SplitSnapshot.Calendar.Clock

namespace SplitSnapshot

structure Timestamp where
  date : Date
  clock : Clock
  deriving DecidableEq, Repr

structure ZonedTimestamp where
  wall : Timestamp
  offset : Int
  deriving DecidableEq, Repr

namespace Timestamp

protected def compare (a b : Timestamp) : Ordering :=
  (a.date.compare b.date).then (a.clock.compare b.clock)

def text (t : Timestamp) : List Char :=
  t.date.text ++ ' ' :: t.clock.text

def read? (s : List Char) : Option Timestamp := do
  let (date, s) ← Date.take? s
  match Clock.read? (Text.trimStart s), s with
  | some clock, _ => some ⟨date, clock⟩
  | none, 'T' :: t => (Clock.read? t).map (⟨date, ·⟩)
  | none, _ => none

def epoch2000 : Int :=
  Date.dayNumber ⟨2000, 1, 1⟩

def ofMicros2000? (n : Int) : Option Timestamp :=
  (Date.ofDayNumber? (epoch2000 + n / 86400000000)).map (⟨·, Clock.ofMicros n⟩)

end Timestamp

namespace ZonedTimestamp

def minutes (t : ZonedTimestamp) : Int :=
  t.wall.date.dayNumber * 1440 + t.wall.clock.hour * 60 + t.wall.clock.minute - t.offset

protected def compare (a b : ZonedTimestamp) : Ordering :=
  (compare a.minutes b.minutes).then
    ((compare a.wall.clock.second b.wall.clock.second).then
      (compare a.wall.clock.nano b.wall.clock.nano))

def offsetText (offset : Int) : List Char :=
  (if offset < 0 then '-' else '+') :: Text.decimalWide 2 (offset.natAbs / 60) ++
    ':' :: Text.decimalWide 2 (offset.natAbs % 60)

def text (t : ZonedTimestamp) : List Char :=
  t.wall.date.text ++ 'T' :: t.wall.clock.text ++ offsetText t.offset

def takeExact? (width : Nat) (s : List Char) : Option (Nat × List Char) :=
  let digits := s.take width
  if digits.length = width ∧ digits.all Char.isDigit then
    (Text.readDecimal? digits).map fun n => (n, s.drop width)
  else none

def takeOffsetSize? (s : List Char) : Option (Int × List Char) := do
  let (hours, s) ← takeExact? 2 s
  let s ← Text.dropStart? [':'] s
  let (minutes, s) ← takeExact? 2 s
  if hours ≤ 23 ∧ minutes ≤ 59 then pure (hours * 60 + minutes, s) else none

def takeOffset? : List Char → Option (Int × List Char)
  | [] => none
  | c :: s =>
      if c = 'Z' ∨ c = 'z' then some (0, s)
      else if c = '+' then takeOffsetSize? s
      else if c = '-' ∨ c = '\u2212' then (takeOffsetSize? s).map fun (n, rest) => (-n, rest)
      else none

def isSeparator (c : Char) : Bool :=
  c == 'T' || c == 't' || c == ' '

def read? (s : List Char) : Option ZonedTimestamp := do
  let (year, s) ← takeExact? 4 s
  let s ← Text.dropStart? ['-'] s
  let (month, s) ← takeExact? 2 s
  let s ← Text.dropStart? ['-'] s
  let (day, s) ← takeExact? 2 s
  let date ← Date.ofParts? year month day
  let c ← s.head?
  if isSeparator c then
    let (hour, s) ← takeExact? 2 (s.drop 1)
    let s ← Text.dropStart? [':'] s
    let (minute, s) ← takeExact? 2 s
    let s ← Text.dropStart? [':'] s
    let (second, s) ← takeExact? 2 s
    let (nano, s) ← Clock.takeFraction? s
    let clock ← Clock.ofParts? hour minute second nano
    let (offset, s) ← takeOffset? s
    if s.isEmpty then some ⟨⟨date, clock⟩, offset⟩ else none
  else none

end ZonedTimestamp

end SplitSnapshot
