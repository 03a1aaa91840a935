import SplitSnapshot.Metrics
import SplitSnapshot.Read.Services

namespace SplitSnapshot

inductive Entry where
  | schemaRead (answer : Except ReadError TableSchema)
  | positionRead (answer : Except ReadError Lsn)
  | scanOpened (answer : Except ReadError Unit) (time : Nat)
  | cancellationChecked (cancelled : Bool)
  | rowRead (answer : Except ReadError (Option Row)) (time : Nat)
  | scanClosed (answer : Except ReadError Unit)
  | sent (event : SplitEvent) (answer : Except ReadError Unit)
  | counted (update : MetricUpdate)
  | progressed (table : TableId) (rows : Nat)
  | noted (note : LogEntry)

namespace Entry

def accepted? : Entry → Option SplitEvent
  | sent event (.ok _) => some event
  | _ => none

def update? : Entry → Option MetricUpdate
  | counted update => some update
  | _ => none

def progress? : Entry → Option (TableId × Nat)
  | progressed table rows => some (table, rows)
  | _ => none

def note? : Entry → Option LogEntry
  | noted note => some note
  | _ => none

end Entry

def shown {β : Type} (view : Entry → Option β) (journal : List Entry) : List β :=
  journal.filterMap view

@[simp] abbrev acceptedEvents (journal : List Entry) : List SplitEvent :=
  shown Entry.accepted? journal

@[simp] abbrev metricUpdates (journal : List Entry) : List MetricUpdate :=
  shown Entry.update? journal

@[simp] abbrev progressReports (journal : List Entry) : List (TableId × Nat) :=
  shown Entry.progress? journal

@[simp] abbrev logEntries (journal : List Entry) : List LogEntry :=
  shown Entry.note? journal

end SplitSnapshot
