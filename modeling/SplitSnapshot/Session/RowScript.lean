import SplitSnapshot.Session.Host
import SplitSnapshot.Duration

namespace SplitSnapshot

structure RowScript where
  rows : List Row
  failAfter : Option Nat
  failure : ReadError
  cancelAt : Option Nat
  delay : Duration
  openFailure : Option ReadError
  closeFailure : Option ReadError
  deriving Repr

structure ScriptedScan where
  script : RowScript
  pending : List Row
  returned : Nat
  deriving Repr

namespace ScriptedScan

def start (script : RowScript) : ScriptedScan :=
  ⟨script, script.rows, 0⟩

def next (s : ScriptedScan) (h : Host) : Except ReadError (Option Row) × ScriptedScan × Host :=
  if s.script.failAfter = some s.returned then (.error s.script.failure, s, h)
  else match s.pending with
    | [] => (.ok none, s, h)
    | row :: pending =>
        let h := h.sleep s.script.delay
        let h := if s.script.cancelAt = some (s.returned + 1) then h.cancel else h
        (.ok (some row), { s with pending := pending, returned := s.returned + 1 }, h)

end ScriptedScan

end SplitSnapshot
