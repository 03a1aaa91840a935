import SplitSnapshot.Power

namespace SplitSnapshot

structure Binary64 where
  bits : UInt64
  deriving DecidableEq, Repr

namespace Binary64

def exponentField (x : Binary64) : Nat :=
  ((x.bits >>> 52) &&& 0x7FF).toNat

def fractionField (x : Binary64) : Nat :=
  (x.bits &&& 0xFFFFFFFFFFFFF).toNat

def isNegative (x : Binary64) : Bool :=
  x.bits >>> 63 == 1

def isNaN (x : Binary64) : Bool :=
  x.exponentField == 2047 && x.fractionField != 0

def isFinite (x : Binary64) : Bool :=
  x.exponentField != 2047

def isZero (x : Binary64) : Bool :=
  x.exponentField == 0 && x.fractionField == 0

def significand (x : Binary64) : Nat :=
  if x.exponentField == 0 then x.fractionField else pow2 52 + x.fractionField

def scale (x : Binary64) : Int :=
  if x.exponentField == 0 then -1074 else (x.exponentField : Int) - 1075

def narrowBelow (x : Binary64) : Bool :=
  x.fractionField == 0 && decide (1 < x.exponentField)

def ofMagnitude (negative : Bool) (magnitude : Nat) : Binary64 :=
  ⟨UInt64.ofNat (if negative then pow2 63 + magnitude else magnitude)⟩

def zero (negative : Bool) : Binary64 :=
  ofMagnitude negative 0

def infinity (negative : Bool) : Binary64 :=
  ofMagnitude negative (2047 * pow2 52)

def nan : Binary64 :=
  ofMagnitude false (2047 * pow2 52 + pow2 51)

def roundDiv (num den : Nat) : Nat :=
  let q := num / den
  match compare (2 * (num % den)) den with
  | .lt => q
  | .gt => q + 1
  | .eq => if q % 2 == 0 then q else q + 1

def roundScaled (num den : Nat) (scale : Int) : Nat :=
  roundDiv (num * pow2 (-scale).toNat) (den * pow2 scale.toNat)

def ofRatio (negative : Bool) (num den : Nat) : Binary64 :=
  if num == 0 then zero negative
  else
    let guess : Int := (num.log2 : Int) - den.log2 - 53
    let fits := num * pow2 (-guess).toNat < pow2 53 * (den * pow2 guess.toNat)
    let scale := max (-1074) (if fits then guess else guess + 1)
    let q := roundScaled num den scale
    let magnitude := (scale + 1074).toNat * pow2 52 + q
    if magnitude < 2047 * pow2 52 then ofMagnitude negative magnitude else infinity negative

def ofNat (n : Nat) : Binary64 :=
  ofRatio false n 1

def ofInt (n : Int) : Binary64 :=
  ofRatio (n < 0) n.natAbs 1

def neg (x : Binary64) : Binary64 :=
  ⟨x.bits ^^^ 0x8000000000000000⟩

def addMagnitudes (x y : Binary64) : Binary64 :=
  let s := min x.scale y.scale
  let n := x.significand * pow2 (x.scale - s).toNat + y.significand * pow2 (y.scale - s).toNat
  ofRatio false (n * pow2 s.toNat) (pow2 (-s).toNat)

def roundMagnitude (x : Binary64) : Nat :=
  let den := pow2 (-x.scale).toNat
  (2 * x.significand * pow2 x.scale.toNat + den) / (2 * den)

def mul (x y : Binary64) : Binary64 :=
  let s := x.scale + y.scale
  ofRatio (x.isNegative != y.isNegative)
    (x.significand * y.significand * pow2 s.toNat) (pow2 (-s).toNat)

def div (x y : Binary64) : Binary64 :=
  let s := x.scale - y.scale
  ofRatio (x.isNegative != y.isNegative)
    (x.significand * pow2 s.toNat) (y.significand * pow2 (-s).toNat)

def rank (x : Binary64) : Int :=
  let magnitude : Int := ((x.bits &&& 0x7FFFFFFFFFFFFFFF).toNat : Int)
  if x.isNegative then -magnitude else magnitude

def compare? (x y : Binary64) : Option Ordering :=
  if x.isNaN || y.isNaN then none else some (compare x.rank y.rank)

def ofSingle (bits : UInt32) : Binary64 :=
  let negative := bits >>> 31 == 1
  let e := ((bits >>> 23) &&& 0xFF).toNat
  let f := (bits &&& 0x7FFFFF).toNat
  if e == 255 then if f == 0 then infinity negative else nan
  else if e == 0 then ofRatio negative f (pow2 149)
  else ofRatio negative ((pow2 23 + f) * pow2 e) (pow2 150)

end Binary64

end SplitSnapshot
