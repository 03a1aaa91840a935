import SplitSnapshot.Binary64
import SplitSnapshot.Power
import SplitSnapshot.Text.Ascii
import SplitSnapshot.Text.Numeral

namespace SplitSnapshot

namespace Binary64

def ofDecimal (negative : Bool) (n : Nat) (e : Int) : Binary64 :=
  let top := e + (Text.decimal n).length
  if n == 0 ∨ top < -330 then zero negative
  else if 330 < top then infinity negative
  else ofRatio negative (n * pow10 e.toNat) (pow10 (-e).toNat)

def readExponent? : List Char → Option Int
  | [] => some 0
  | c :: s => if c = 'e' ∨ c = 'E' then Text.readSigned? s else none

def readDigits? (s : List Char) : Option (Nat × Nat × Int) :=
  let whole := s.takeWhile Char.isDigit
  let rest := s.dropWhile Char.isDigit
  let (places, rest) := match rest with
    | '.' :: t => (t.takeWhile Char.isDigit, t.dropWhile Char.isDigit)
    | _ => ([], rest)
  match readExponent? rest, Text.readDecimal? (whole ++ places) with
  | some e, some n => some (n, places.length, e)
  | _, _ => none

def readMagnitude? (negative : Bool) (s : List Char) : Option Binary64 :=
  let name := Text.lowerAscii s
  if name = "inf".toList ∨ name = "infinity".toList then some (infinity negative)
  else if name = "nan".toList then some nan
  else (readDigits? s).map fun (n, places, e) => ofDecimal negative n (e - places)

def read? : List Char → Option Binary64
  | '-' :: s => readMagnitude? true s
  | '+' :: s => readMagnitude? false s
  | s => readMagnitude? false s

def quickStep : Nat := 308

def quickScale? (x : Binary64) (e : Int) : Nat → Option Binary64
  | 0 => some (zero false)
  | fuel + 1 =>
      let power := ofDecimal false 1 (min (e.natAbs : Int) quickStep)
      if e.natAbs ≤ quickStep then
        if 0 ≤ e then
          let y := mul x power
          if y.isFinite then some y else none
        else some (div x power)
      else if x.isZero then some x
      else if 0 ≤ e then none
      else quickScale? (div x power) (e + quickStep) fuel

def quick? (n : Nat) (e : Int) : Option Binary64 :=
  quickScale? (ofNat n) e 5

def takeWord : Nat → List Char → Nat × List Char
  | n, [] => (n, [])
  | n, c :: s =>
      let m := 10 * n + (c.toNat - 48)
      if m < pow2 64 then takeWord m s else (n, c :: s)

def ofQuickParts? (whole places : List Char) (e : Int) : Option Binary64 :=
  let (n, left) := takeWord 0 whole
  let (n, used) :=
    let (m, rest) := takeWord n places
    (m, places.length - rest.length)
  quick? n (e + left.length - used)

end Binary64

end SplitSnapshot
