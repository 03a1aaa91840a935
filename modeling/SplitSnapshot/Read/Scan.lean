import SplitSnapshot.Config
import SplitSnapshot.Offset
import SplitSnapshot.Progress
import SplitSnapshot.Read.Stage

namespace SplitSnapshot

structure ReadTask where
  split : Split
  part : Partition
  config : Config
  deriving Repr

structure ScanContext where
  offset : OffsetContext
  rows : Nat
  started : Nat
  deriving Repr

namespace ScanContext

def start (part : Partition) (low : Lsn) (now : Nat) : ScanContext :=
  ⟨.start part low, 0, now⟩

def elapsed (c : ScanContext) (now : Nat) : Duration :=
  ⟨now - c.started⟩

end ScanContext

namespace ReadTask

variable {σ : Type}

def splitField (task : ReadTask) : String × String :=
  ("split_id", task.split.splitId)

def tableField (task : ReadTask) : String × String :=
  ("table", task.split.table.text)

def ofTable (task : ReadTask) (e : ReadError) : ReadError :=
  .ofTable task.split.table e

def arm (timer : ProgressTimer) : Stage σ ProgressTimer :=
  if timer.inRange then pure timer else Stage.overflow

def reportProgress (sv : Services σ) (task : ReadTask) (scan : ScanContext) (timer : ProgressTimer) :
    Stage σ ProgressTimer := do
  let now ← Stage.look sv.clock
  if timer.expired now then
    Stage.note .info
      ("Exported " ++ toString scan.rows ++ " records for split '" ++ task.split.splitId ++
        "' after " ++ String.ofList (scan.elapsed now).report)
      [task.splitField, task.tableField]
    Stage.write (.progressed task.split.table scan.rows)
    arm (timer.reset now)
  else pure timer

def rowEvent (task : ReadTask) (offset : OffsetContext) (width : Nat) (millis : Int) (row : Row) :
    SplitEvent :=
  .dataChange ⟨task.split.table, offset.stamp task.split.table millis, row.fitTo width⟩

def exportRows (sv : Services σ) (task : ReadTask) (width : Nat) :
    Nat → ScanContext → ProgressTimer → Stage σ (ScanContext × Except ReadError Unit)
  | 0, _, _ => Stage.stopAtLimit
  | limit + 1, scan, timer => do
      let cancelled ← Stage.look sv.cancelled
      Stage.write (.cancellationChecked cancelled)
      if cancelled then
        Stage.note .debug "Cancellation observed" [task.splitField, ("rows", toString scan.rows)]
        pure (scan, .error .interrupted)
      else
        match ← Stage.ask sv.nextRow fun a => .rowRead a.result (sv.clock a.world) with
        | .error e => pure (scan, .error (task.ofTable e))
        | .ok none => pure (scan, .ok ())
        | .ok (some row) => do
            let scan := { scan with rows := scan.rows + 1 }
            let timer ← reportProgress sv task scan timer
            let millis ← Stage.look sv.wallMillis
            let event := task.rowEvent scan.offset width millis row
            let scan := { scan with offset := scan.offset.event task.split.table millis }
            match ← Stage.ask (sv.send event) fun a => .sent event a.result with
            | .error e => pure (scan, .error (task.ofTable e))
            | .ok () => exportRows sv task width limit scan timer

def timedRows (sv : Services σ) (task : ReadTask) (width limit : Nat) (scan : ScanContext) :
    Stage σ (ScanContext × Except ReadError Unit) := do
  let now ← Stage.look sv.clock
  let timer ← arm (.start task.config.progressInterval now)
  exportRows sv task width limit scan timer

def openFailure (task : ReadTask) : ReadError → ReadError
  | .queryConstruction fault => .queryConstruction fault
  | e => task.ofTable e

def scan (sv : Services σ) (task : ReadTask) (limit : Nat) (schema : TableSchema)
    (scan : ScanContext) : Stage σ ScanContext := do
  let opened ← Stage.ask (sv.openScan task.split schema task.config.fetchSize) fun a =>
    .scanOpened a.result (sv.clock a.world)
  Stage.orFail task.openFailure opened
  let (scan, exported) ← timedRows sv task schema.width limit scan
  match ← Stage.ask sv.closeScan fun a => .scanClosed a.result with
  | .ok () => pure ()
  | .error e =>
      Stage.note .warn ("Failed to close split scan: " ++ e.message)
        [task.splitField, task.tableField]
  Stage.write (.counted (.rows (UInt64.ofNat scan.rows)))
  Stage.orFail id exported
  let now ← Stage.look sv.clock
  Stage.note .info
    ("Finished exporting " ++ toString scan.rows ++ " records for split '" ++ task.split.splitId ++
      "', total duration '" ++ String.ofList (scan.elapsed now).report ++ "'")
    [task.splitField, task.tableField, ("rows", toString scan.rows)]
  pure scan

end ReadTask

end SplitSnapshot
