import SplitSnapshot.Binary64
import SplitSnapshot.Power
import SplitSnapshot.Text.Blank
import SplitSnapshot.Text.Numeral

namespace SplitSnapshot

structure Duration where
  nanos : Nat
  deriving DecidableEq, Repr

namespace Duration

def ofSeconds (n : Nat) : Duration := ⟨n * 1000000000⟩

def ofMillis (n : Nat) : Duration := ⟨n * 1000000⟩

def seconds (d : Duration) : Nat := d.nanos / 1000000000

def millis (d : Duration) : Nat := d.nanos / 1000000

def subsecond (d : Duration) : Nat := d.nanos % 1000000000

def inSeconds (d : Duration) : Binary64 :=
  Binary64.addMagnitudes (.ofNat d.seconds) (.div (.ofNat d.subsecond) (.ofNat 1000000000))

def fractional (n unit places : Nat) : List Char :=
  let digits := (Text.decimalWide places (n % unit)).reverse.dropWhile (· == '0')
  Text.decimal (n / unit) ++ if n % unit == 0 then [] else '.' :: digits.reverse

def report (d : Duration) : List Char :=
  if 1000000000 ≤ d.nanos then fractional d.nanos 1000000000 9 ++ ['s']
  else if 1000000 ≤ d.nanos then fractional d.nanos 1000000 6 ++ "ms".toList
  else if 1000 ≤ d.nanos then fractional d.nanos 1000 3 ++ "µs".toList
  else Text.decimal d.nanos ++ "ns".toList

inductive Scale where
  | nano | micro | milli | second | minute | hour | day | week | month | year
  deriving DecidableEq, Repr

namespace Scale

def names : Scale → List String
  | nano => ["nanos", "nsec", "ns"]
  | micro => ["usec", "us", "µs"]
  | milli => ["millis", "msec", "ms"]
  | second => ["seconds", "second", "secs", "sec", "s"]
  | minute => ["minutes", "minute", "min", "mins", "m"]
  | hour => ["hours", "hour", "hr", "hrs", "h"]
  | day => ["days", "day", "d"]
  | week => ["weeks", "week", "wk", "wks", "w"]
  | month => ["months", "month", "M"]
  | year => ["years", "year", "yr", "yrs", "y"]

def all : List Scale :=
  [nano, micro, milli, second, minute, hour, day, week, month, year]

def ofName? (name : List Char) : Option Scale :=
  all.find? fun u => u.names.any fun n => n.toList == name

def whole : Scale → Nat × Bool
  | nano => (1, false)
  | micro => (1000, false)
  | milli => (1000000, false)
  | second => (1, true)
  | minute => (60, true)
  | hour => (3600, true)
  | day => (86400, true)
  | week => (604800, true)
  | month => (2630016, true)
  | year => (31557600, true)

def fraction? : Scale → Option (Nat × Bool)
  | nano => none
  | micro => some (1000, false)
  | milli => some (1000000, false)
  | second => some (1000000000, false)
  | minute => some (60000000000, false)
  | hour => some (3600, true)
  | day => some (86400, true)
  | week => some (604800, true)
  | month => some (2630016, true)
  | year => some (31557600, true)

end Scale

def word? (n : Nat) : Option Nat :=
  if n < pow2 64 then some n else none

def add? (d : Duration) (count : Nat × Bool) : Option Duration := do
  let nano ← word? (d.subsecond + if count.2 then 0 else count.1)
  let second ← word? ((if count.2 then count.1 else 0) + nano / 1000000000)
  let second ← word? (d.seconds + second)
  pure ⟨second * 1000000000 + nano % 1000000000⟩

def addSpan? (d : Duration) (n : Nat) (fraction : Option (Nat × Nat)) (unit : Scale) :
    Option Duration := do
  let count ← word? (n * unit.whole.1)
  let d ← d.add? (count, unit.whole.2)
  match fraction with
  | none => pure d
  | some (num, den) =>
      let (factor, inSeconds) ← unit.fraction?
      let scaled ← word? (num * factor)
      if scaled % den == 0 then d.add? (scaled / den, inSeconds) else none

def isUnitChar (c : Char) : Bool :=
  c.isAlpha || c == 'µ'

def takeDigits? : Nat → List Char → Option (Nat × List Char)
  | n, [] => some (n, [])
  | n, c :: s =>
      if c.isDigit then (word? (10 * n + (c.toNat - 48))).bind fun m => takeDigits? m s
      else if Text.isBlank c then takeDigits? n s
      else some (n, c :: s)

def takePlaces? : Nat → Nat → List Char → Option ((Nat × Nat) × List Char)
  | n, d, [] => some ((n, d), [])
  | n, d, c :: s =>
      if c.isDigit then do
        let d ← word? (10 * d)
        let n ← word? (10 * n + (c.toNat - 48))
        takePlaces? n d s
      else if Text.isBlank c then takePlaces? n d s
      else some ((n, d), c :: s)

def takeAmount? (s : List Char) : Option (Nat × Option (Nat × Nat) × List Char) := do
  let first ← (Text.trimStart s).head?
  if first.isDigit then
    let (n, s) ← takeDigits? 0 s
    match s with
    | '.' :: t =>
        let (fraction, t) ← takePlaces? 0 1 t
        if fraction.2 == 1 then none else pure (n, some fraction, t)
    | _ => pure (n, none, s)
  else none

def endsUnit : List Char → Bool
  | [] => true
  | c :: _ => Text.isBlank c || c.isDigit

def readSpans? : Nat → Duration → List Char → Option Duration
  | 0, _, _ => none
  | fuel + 1, d, s => do
      let (n, fraction, s) ← takeAmount? s
      let unit ← Scale.ofName? (s.takeWhile isUnitChar)
      let rest := s.dropWhile isUnitChar
      if endsUnit rest then
        let d ← d.addSpan? n fraction unit
        if (Text.trimStart rest).isEmpty then pure d else readSpans? fuel d rest
      else none

def read? (s : List Char) : Option Duration :=
  if s = ['0'] then some ⟨0⟩ else readSpans? (s.length + 1) ⟨0⟩ s

def item (n : Nat) (unit : String) (plural : Bool) : List (List Char) :=
  if n == 0 then []
  else [Text.decimal n ++ unit.toList ++ if plural && decide (1 < n) then ['s'] else []]

def text (d : Duration) : List Char :=
  if d.nanos == 0 then "0s".toList
  else
    let ofYear := d.seconds % 31557600
    let ofMonth := ofYear % 2630016
    let ofDay := ofMonth % 86400
    let n := d.subsecond
    let items := item (d.seconds / 31557600) "year" true ++ item (ofYear / 2630016) "month" true ++
      item (ofMonth / 86400) "day" true ++ item (ofDay / 3600) "h" false ++
      item (ofDay % 3600 / 60) "m" false ++ item (ofDay % 60) "s" false ++
      item (n / 1000000) "ms" false ++ item (n / 1000 % 1000) "us" false ++
      item (n % 1000) "ns" false
    List.intercalate [' '] items

end Duration

end SplitSnapshot
