import SplitSnapshot.Read.Run
import SplitSnapshot.Session.Host

namespace SplitSnapshot

inductive ProgressTarget where
  | recorded
  | discarded
  | published
  deriving DecidableEq, Repr

structure PlannedRead where
  task : ReadTask
  cancelled : Bool
  heeded : Bool
  receiverGoneAt : Option Nat
  progress : ProgressTarget
  deriving Repr

structure ReadReport where
  splitId : String
  outcome : Option Outcome
  marks : Watermarks
  cancelled : Bool
  progress : ProgressTarget
  journal : List Entry

structure Telemetry where
  counters : Counters
  published : Published
  deriving Repr

namespace PlannedRead

def host (p : PlannedRead) (clock : Nat) (epoch : Int) : Host :=
  ⟨clock, epoch, p.cancelled, p.heeded, 0, p.receiverGoneAt, true⟩

def report {σ : Type} (p : PlannedRead) (run : Run σ) (host : Host) : ReadReport :=
  ⟨p.task.split.splitId, run.outcome, run.marks, host.cancellation, p.progress, run.journal⟩

end PlannedRead

namespace ReadReport

def events (r : ReadReport) : List SplitEvent :=
  acceptedEvents r.journal

def recordedProgress (r : ReadReport) : List (TableId × Nat) :=
  if r.progress = .recorded then progressReports r.journal else []

def notes (r : ReadReport) : List LogEntry :=
  logEntries r.journal

end ReadReport

namespace Telemetry

def zero : Telemetry := ⟨.zero, []⟩

def enter (source : String) (target : ProgressTarget) (t : Telemetry) : Entry → Telemetry
  | .counted update =>
      ⟨t.counters.record update, Published.record t.published source update⟩
  | .progressed table rows =>
      if target = .published then { t with published := Published.progress t.published table rows }
      else t
  | _ => t

def addReport (source : String) (t : Telemetry) (r : ReadReport) : Telemetry :=
  r.journal.foldl (enter source r.progress) t

end Telemetry

end SplitSnapshot
