import SplitSnapshot.Read.Scan

namespace SplitSnapshot

inductive Outcome where
  | completed (offset : OffsetContext)
  | interrupted
  | failed (e : ReadError)
  deriving Repr

namespace Outcome

def name : Outcome → String
  | completed _ => "completed"
  | interrupted => "interrupted"
  | failed _ => "failed"

def offset? : Outcome → Option OffsetContext
  | completed offset => some offset
  | _ => none

def error? : Outcome → Option ReadError
  | failed e => some e
  | _ => none

def ofError : ReadError → Outcome
  | .interrupted => interrupted
  | e => failed e

def toExcept : Outcome → Except ReadError OffsetContext
  | completed offset => .ok offset
  | interrupted => .error .interrupted
  | failed e => .error e

end Outcome

/-- How a read ends. Its clock may overflow, and it may be followed only up to a row limit: then it has no
outcome. -/
inductive Ending where
  | returned (outcome : Outcome)
  | overflowed
  | unfinished
  deriving Repr

def Ending.outcome? : Ending → Option Outcome
  | returned outcome => some outcome
  | overflowed | unfinished => none

structure Run (σ : Type) where
  ending : Ending
  marks : Watermarks
  journal : List Entry
  world : σ

def Run.outcome {σ : Type} (run : Run σ) : Option Outcome :=
  run.ending.outcome?

namespace ReadTask

variable {σ : Type}

def watermark (task : ReadTask) (kind : WatermarkKind) (p : Lsn) : SplitEvent :=
  .watermark ⟨task.split.splitId, task.part, kind, p⟩

def sendEvent (sv : Services σ) (task : ReadTask) (event : SplitEvent) : Stage σ Unit := do
  let sent ← Stage.ask (sv.send event) fun a => .sent event a.result
  Stage.orFail task.ofTable sent

def readPosition (sv : Services σ) (kind : WatermarkKind) : Stage σ Lsn := do
  let p ← Stage.ask sv.position fun a => .positionRead a.result
  Stage.orFail (.watermarkFailed kind) p

def positionNote (task : ReadTask) (start : String) (p : Lsn) : Stage σ Unit :=
  Stage.note .info (start ++ p.text ++ " for split " ++ task.split.splitId) [task.splitField]

def closeWindow (sv : Services σ) (task : ReadTask) (low : Lsn) (scan : ScanContext) :
    Stage σ OffsetContext := do
  let high ← readPosition sv .high
  if high.precedes low then
    Stage.fail (.watermarkFailed .high (.sourceUnavailable (.positionsReversed high low) none))
  else do
    positionNote task "Snapshot step 3 - Determining high watermark " high
    Stage.recordHigh high
    sendEvent sv task (task.watermark .high high)
    sendEvent sv task (.completed task.split.splitId)
    pure (scan.offset.advanceTo high)

def stages (sv : Services σ) (task : ReadTask) (limit : Nat) : Stage σ OffsetContext := do
  Stage.orFail id (task.config.validate.mapError .config)
  Stage.orFail id (task.split.validate.mapError .queryConstruction)
  let schema ← Stage.ask (sv.schema task.split.table.withoutCatalog) fun a => .schemaRead a.result
  let schema ← Stage.orFail task.ofTable schema
  let low ← readPosition sv .low
  positionNote task "Snapshot step 1 - Determining low watermark " low
  Stage.recordLow low
  sendEvent sv task (task.watermark .low low)
  let now ← Stage.look sv.clock
  Stage.note .info "Snapshot step 2 - Snapshotting data" [task.splitField, task.tableField]
  let scan ← task.scan sv limit schema (.start task.part low now)
  closeWindow sv task low scan

def endingOf : Except Stop OffsetContext → Ending
  | .ok offset => .returned (.completed offset)
  | .error (.failed e) => .returned (.ofError e)
  | .error .overflow => .overflowed
  | .error .rowLimit => .unfinished

def closing (task : ReadTask) (elapsed : Duration) : Outcome → List Entry
  | .completed offset =>
      [.counted (.completed elapsed),
        .noted ⟨.info, "Snapshot split completed",
          [task.splitField, task.tableField, ("position", offset.position.text)]⟩]
  | .interrupted =>
      [.counted .interrupted,
        .noted ⟨.warn, "Snapshot was interrupted before completion",
          [task.splitField, task.tableField]⟩]
  | .failed e =>
      [.counted (.failed e.code),
        .noted ⟨.error, "Snapshot split failed: " ++ e.message,
          [task.splitField, task.tableField, ("code", e.code),
            ("retriable", if e.isRetriable then "true" else "false")]⟩]

/-- Reads the split, following its scan for at most `limit` rows. -/
def execute (sv : Services σ) (task : ReadTask) (limit : Nat) (marks : Watermarks) (world : σ) :
    Run σ :=
  let r := task.stages sv limit ⟨world, marks⟩
  let ending := endingOf r.value
  let elapsed : Duration := ⟨sv.clock r.state.world - sv.clock world⟩
  let last := (ending.outcome?.map (task.closing elapsed)).getD []
  ⟨ending, r.state.marks, .counted .started :: r.journal ++ last, r.state.world⟩

end ReadTask

end SplitSnapshot
