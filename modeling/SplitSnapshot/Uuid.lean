import SplitSnapshot.Text.Ascii
import SplitSnapshot.Text.Numeral

namespace SplitSnapshot

structure Uuid where
  bits : BitVec 128
  deriving DecidableEq, Repr

namespace Uuid

protected def compare (a b : Uuid) : Ordering :=
  compare a.bits.toNat b.bits.toNat

def hexDigits : Nat → Nat → List Char
  | 0, _ => []
  | width + 1, n => hexDigits width (n / 16) ++ [Text.lowerHexChar (n % 16)]

def groups : List Nat := [8, 4, 4, 4, 12]

def grouped : List Nat → List Char → List Char
  | [], _ => []
  | [n], s => s.take n
  | n :: ns, s => s.take n ++ '-' :: grouped ns (s.drop n)

def text (u : Uuid) : List Char :=
  grouped groups (hexDigits 32 u.bits.toNat)

def ungroup? : List Nat → List Char → Option (List Char)
  | [], s => if s.isEmpty then some [] else none
  | [n], s => if s.length = n then some s else none
  | n :: ns, s =>
      if (s.take n).length = n then
        match s.drop n with
        | '-' :: rest => (ungroup? ns rest).map (s.take n ++ ·)
        | _ => none
      else none

def ofDigits? (s : List Char) : Option Uuid :=
  if s.length = 32 then (Text.readHex? s).map fun n => ⟨BitVec.ofNat 128 n⟩ else none

def readGrouped? (s : List Char) : Option Uuid :=
  (ungroup? groups s).bind ofDigits?

def unbraced? : List Char → Option (List Char)
  | '\x7b' :: s => if s.getLast? = some '\x7d' then some s.dropLast else none
  | _ => none

def read? (s : List Char) : Option Uuid :=
  if s.length = 32 then ofDigits? s
  else match unbraced? s with
    | some inner => readGrouped? inner
    | none =>
        if Text.lowerAscii (s.take 9) = "urn:uuid:".toList then readGrouped? (s.drop 9)
        else readGrouped? s

end Uuid

end SplitSnapshot
