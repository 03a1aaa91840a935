import SplitSnapshot.Duration
import SplitSnapshot.ReadError
import SplitSnapshot.StableSort

namespace SplitSnapshot

inductive MetricUpdate where
  | started
  | completed (elapsed : Duration)
  | failed (code : String)
  | interrupted
  | rows (count : UInt64)
  deriving DecidableEq, Repr

structure Counters where
  started : UInt64
  completed : UInt64
  failed : UInt64
  interrupted : UInt64
  rows : UInt64
  deriving DecidableEq, Repr

namespace Counters

def zero : Counters := ⟨0, 0, 0, 0, 0⟩

def record (c : Counters) : MetricUpdate → Counters
  | .started => { c with started := c.started + 1 }
  | .completed _ => { c with completed := c.completed + 1 }
  | .failed _ => { c with failed := c.failed + 1 }
  | .interrupted => { c with interrupted := c.interrupted + 1 }
  | .rows n => { c with rows := c.rows + n }

def inFlight (c : Counters) : Nat :=
  c.started.toNat - (c.completed.toNat + c.failed.toNat + c.interrupted.toNat)

end Counters

inductive Measure where
  | counter (total : UInt64)
  | gauge (value : Nat)
  | histogram (seconds : List Binary64)
  deriving DecidableEq, Repr

def wholeMillis (seconds : Binary64) : UInt64 :=
  UInt64.ofNat (min (pow2 64 - 1) (seconds.mul (.ofNat 1000)).roundMagnitude)

def totalMillis (seconds : List Binary64) : UInt64 :=
  seconds.foldl (fun total s => total + wholeMillis s) 0

abbrev Published := Fields Measure

namespace Published

def nameWith (name : String) (labels : List (String × String)) : String :=
  let texts := sortBy (fun a b => decide (a ≤ b)) (labels.map fun (k, v) => k ++ "=" ++ v)
  name ++ "\x7b" ++ String.intercalate "," texts ++ "\x7d"

def count (p : Published) (name : String) (n : UInt64) : Published :=
  let total := match p.get? name with
    | some (.counter total) => total
    | _ => 0
  p.put name (.counter (total + n))

def observe (p : Published) (name : String) (d : Duration) : Published :=
  let before := match p.get? name with
    | some (.histogram seconds) => seconds
    | _ => []
  p.put name (.histogram (before ++ [d.inSeconds]))

def set (p : Published) (name : String) (value : Nat) : Published :=
  p.put name (.gauge value)

def record (p : Published) (source : String) : MetricUpdate → Published
  | .started => p.count (nameWith "rivven_snapshot_splits_started_total" [("source", source)]) 1
  | .completed elapsed =>
      (p.count (nameWith "rivven_snapshot_splits_completed_total" [("source", source)]) 1).observe
        (nameWith "rivven_snapshot_split_duration_seconds" [("source", source)]) elapsed
  | .failed code =>
      p.count
        (nameWith "rivven_snapshot_splits_failed_total" [("source", source), ("code", code)]) 1
  | .interrupted =>
      p.count (nameWith "rivven_snapshot_splits_interrupted_total" [("source", source)]) 1
  | .rows n =>
      if n = 0 then p
      else p.count (nameWith "rivven_snapshot_rows_total" [("source", source)]) n

def progress (p : Published) (table : TableId) (rows : Nat) : Published :=
  p.set (nameWith "rivven_snapshot_split_rows_scanned" [("table", table.text)]) rows

end Published

end SplitSnapshot
