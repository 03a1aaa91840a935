import SplitSnapshot.ReadError

namespace SplitSnapshot

structure PositionScript where
  pending : List Lsn
  last : Option Lsn
  failAt : Option Nat
  calls : Nat
  deriving DecidableEq, Repr

namespace PositionScript

def ofList (positions : List Lsn) (failAt : Option Nat) : PositionScript :=
  ⟨positions, none, failAt, 0⟩

def read (s : PositionScript) : Except ReadError Lsn × PositionScript :=
  let s := { s with calls := s.calls + 1 }
  if s.failAt = some s.calls then
    (.error (.sourceUnavailable (.unavailableOnCall s.calls) none), s)
  else
    match s.pending, s.last with
    | p :: pending, _ => (.ok p, { s with pending := pending, last := some p })
    | [], some p => (.ok p, s)
    | [], none => (.error (.sourceUnavailable .noPosition none), s)

end PositionScript

end SplitSnapshot
