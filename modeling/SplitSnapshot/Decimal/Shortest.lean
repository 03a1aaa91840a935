import SplitSnapshot.Binary64
import SplitSnapshot.Power
import SplitSnapshot.Text.Numeral

namespace SplitSnapshot

structure Decimal where
  coefficient : Nat
  exponent : Int
  deriving DecidableEq, Repr

namespace Decimal

inductive Tie where
  | even
  | up
  deriving DecidableEq, Repr

def compareScaled (c : Nat) (i : Int) (n : Nat) (j : Int) : Ordering :=
  compare (c * pow10 i.toNat * pow2 (-j).toNat) (n * pow2 j.toNat * pow10 (-i).toNat)

/-- The decimal lies among the reals that round to the double: between the halfway points to its two
neighbours, which belong to it iff its significand is even. -/
def identifies (d : Decimal) (x : Binary64) : Bool :=
  let m := x.significand
  let lo := if x.narrowBelow then 4 * m - 1 else 4 * m - 2
  let closed := m % 2 == 0
  let below := compareScaled d.coefficient d.exponent lo (x.scale - 2)
  let above := compareScaled d.coefficient d.exponent (4 * m + 2) (x.scale - 2)
  (below == .gt || (closed && below == .eq)) && (above == .lt || (closed && above == .eq))

def decade (x : Binary64) : Int :=
  let guess := ((x.significand.log2 : Int) + x.scale) * 30103 / 100000
  let low := guess - 1
  (([0, 1, 2, 3] : List Int).map (low + ·)).find?
    (fun k => compareScaled 1 k x.significand x.scale == .gt) |>.getD (low + 4)

def onGrid? (tie : Tie) (x : Binary64) (grid : Int) : Option Decimal :=
  let num := x.significand * pow2 x.scale.toNat * pow10 (-grid).toNat
  let den := pow10 grid.toNat * pow2 (-x.scale).toNat
  let c := num / den
  let low : Decimal := ⟨c, grid⟩
  let high : Decimal := ⟨c + 1, grid⟩
  match low.identifies x, high.identifies x with
  | false, false => none
  | true, false => some low
  | false, true => some high
  | true, true =>
      match compare (2 * num) ((2 * c + 1) * den), tie with
      | .lt, _ => some low
      | .gt, _ => some high
      | .eq, .up => some high
      | .eq, .even => some (if c % 2 == 0 then low else high)

def stripZeros : Nat → Decimal → Decimal
  | 0, d => d
  | n + 1, d =>
      if d.coefficient != 0 && d.coefficient % 10 == 0
      then stripZeros n ⟨d.coefficient / 10, d.exponent + 1⟩ else d

def exact (x : Binary64) : Decimal :=
  ⟨x.significand * pow2 x.scale.toNat * Nat.pow 5 (-x.scale).toNat, min x.scale 0⟩

def shortest (tie : Tie) (x : Binary64) : Decimal :=
  if x.significand == 0 then ⟨0, 0⟩
  else
    let k := decade x
    let found := (List.range 17).findSome? fun n : Nat => onGrid? tie x (k - 1 - n)
    stripZeros 20 (found.getD (exact x))

def leading (d : Decimal) : Int :=
  (Text.decimal d.coefficient).length + d.exponent - 1

def positional (d : Decimal) : List Char :=
  let digits := Text.decimal d.coefficient
  if 0 ≤ d.exponent then
    if d.coefficient == 0 then digits else digits ++ List.replicate d.exponent.toNat '0'
  else
    let places := (-d.exponent).toNat
    if places < digits.length then
      digits.take (digits.length - places) ++ '.' :: digits.drop (digits.length - places)
    else '0' :: '.' :: List.replicate (places - digits.length) '0' ++ digits

def scientific (d : Decimal) : List Char :=
  let digits := Text.decimal d.coefficient
  let e := d.leading
  let mark := if e < 0 then ['e', '-'] else ['e', '+']
  let rest := digits.drop 1
  digits.take 1 ++ (if rest.isEmpty then [] else '.' :: rest) ++ mark ++ Text.decimal e.natAbs

end Decimal

namespace Binary64

def signText (x : Binary64) : List Char :=
  if x.isNegative then ['-'] else []

def plainText (x : Binary64) : List Char :=
  if x.isNaN then "NaN".toList
  else x.signText ++
    if x.isFinite then (Decimal.shortest .up x).positional else "inf".toList

def documentText (x : Binary64) : List Char :=
  let d := Decimal.shortest .even x
  x.signText ++
    if d.coefficient == 0 then "0.0".toList
    else if -5 ≤ d.leading ∧ d.leading < 16 then
      if 0 ≤ d.exponent then d.positional ++ ".0".toList else d.positional
    else d.scientific

end Binary64

end SplitSnapshot
