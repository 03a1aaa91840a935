import SplitSnapshot.Json.Value
import SplitSnapshot.Power
import SplitSnapshot.Text.Ascii
import SplitSnapshot.Text.Blank
import SplitSnapshot.Text.Numeral

namespace SplitSnapshot

structure Lsn where
  value : UInt64
  deriving DecidableEq, Repr

namespace Lsn

protected def compare (a b : Lsn) : Ordering :=
  compare a.value.toNat b.value.toNat

def precedes (a b : Lsn) : Bool :=
  decide (a.value.toNat < b.value.toNat)

def high (p : Lsn) : Nat := p.value.toNat / pow2 32

def low (p : Lsn) : Nat := p.value.toNat % pow2 32

def ofHalves (high low : Nat) : Lsn :=
  ⟨UInt64.ofNat (high * pow2 32 + low)⟩

def chars (p : Lsn) : List Char :=
  Text.upperHex p.high ++ '/' :: Text.upperHex p.low

def text (p : Lsn) : String :=
  String.ofList p.chars

def readHalf? (s : List Char) : Option Nat :=
  let digits := match s with
    | '+' :: t => t
    | t => t
  (Text.readHex? digits).filter (· < pow2 32)

def read? (s : String) : Option Lsn := do
  let (high, low) ← Text.cutAt? '/' (Text.trim s.toList)
  let high ← readHalf? high
  let low ← readHalf? low
  pure (ofHalves high low)

def toJson (p : Lsn) : Json :=
  .text p.text

def ofJson? (v : Json) : Option Lsn :=
  v.text?.bind read?

def sorted (ps : List Lsn) : List Lsn :=
  ps.foldr (fun p rest => rest.takeWhile (·.precedes p) ++ p :: rest.dropWhile (·.precedes p)) []

end Lsn

end SplitSnapshot
