import SplitSnapshot.Proofs.Read.Calls

namespace SplitSnapshot

variable {σ : Type}

structure Delivery where
  row : Row
  time : Nat
  change : DataChange

namespace Delivery

def calls (d : Delivery) : List Entry :=
  [.cancellationChecked false, .rowRead (.ok (some d.row)) d.time,
    .sent (.dataChange d.change) (.ok ())]

@[simp] theorem shown_accepted? (ds : List Delivery) :
    shown Entry.accepted? (ds.flatMap calls) = ds.map fun d => .dataChange d.change := by
  induction ds with
  | nil => rfl
  | cons d ds ih => exact congrArg (List.cons _) ih

@[simp] theorem shown_sending? (ds : List Delivery) :
    shown Entry.sending? (ds.flatMap calls) = ds.map fun d => (.dataChange d.change, .ok ()) := by
  induction ds with
  | nil => rfl
  | cons d ds ih => exact congrArg (List.cons _) ih

@[simp] theorem shown_position? (ds : List Delivery) :
    shown Entry.position? (ds.flatMap calls) = [] := by
  induction ds with
  | nil => rfl
  | cons d ds ih => exact ih

@[simp] theorem shown_row? (ds : List Delivery) :
    shown Entry.row? (ds.flatMap calls) = ds.map row := by
  induction ds with
  | nil => rfl
  | cons d ds ih => exact congrArg (List.cons _) ih

end Delivery

inductive RowsEnd where
  | unfinished
  | untimed
  | overrun (row : Row) (time : Nat)
  | cancelled
  | failed (e : ReadError) (time : Nat)
  | exhausted (time : Nat)
  | refused (d : Delivery) (e : ReadError)

namespace RowsEnd

def calls : RowsEnd → List Entry
  | unfinished | untimed => []
  | overrun row time => [.cancellationChecked false, .rowRead (.ok (some row)) time]
  | cancelled => [.cancellationChecked true]
  | failed e time => [.cancellationChecked false, .rowRead (.error e) time]
  | exhausted time => [.cancellationChecked false, .rowRead (.ok none) time]
  | refused d e =>
      [.cancellationChecked false, .rowRead (.ok (some d.row)) d.time,
        .sent (.dataChange d.change) (.error e)]

def refusals : RowsEnd → List (SplitEvent × ReadError)
  | refused d e => [(.dataChange d.change, e)]
  | _ => []

def lostRows : RowsEnd → List Row
  | refused d _ => [d.row]
  | overrun row _ => [row]
  | _ => []

def stop? (task : ReadTask) : RowsEnd → Option Stop
  | unfinished => some .rowLimit
  | untimed | overrun _ _ => some .overflow
  | cancelled => some (.failed .interrupted)
  | failed e _ | refused _ e => some (.failed (task.ofTable e))
  | exhausted _ => none

@[simp] theorem shown_accepted? (ending : RowsEnd) :
    shown Entry.accepted? ending.calls = [] := by
  cases ending <;> rfl

@[simp] theorem shown_sending? (ending : RowsEnd) :
    shown Entry.sending? ending.calls = ending.refusals.map fun r => (r.1, .error r.2) := by
  cases ending <;> rfl

@[simp] theorem shown_position? (ending : RowsEnd) :
    shown Entry.position? ending.calls = [] := by
  cases ending <;> rfl

@[simp] theorem shown_row? (ending : RowsEnd) :
    shown Entry.row? ending.calls = ending.lostRows := by
  cases ending <;> rfl

theorem stop?_eq_none {task : ReadTask} {ending : RowsEnd} (h : ending.stop? task = none) :
    ∃ time, ending = exhausted time := by
  cases ending with
  | exhausted time => exact ⟨time, rfl⟩
  | _ => cases h

def isCut : RowsEnd → Bool
  | unfinished | untimed | overrun _ _ => true
  | _ => false

theorem isCut_iff {task : ReadTask} {ending : RowsEnd} :
    ending.isCut = true ↔ ∃ stop, ending.stop? task = some stop ∧ stop.isCut = true := by
  cases ending <;> simp [stop?, isCut, Stop.isCut]

end RowsEnd

def Stop.of? {α : Type} : Except Stop α → Option Stop
  | .ok _ => none
  | .error stop => some stop

theorem Stop.of?_eq_some {α : Type} {value : Except Stop α} {stop : Stop} :
    Stop.of? value = some stop ↔ value = .error stop := by
  cases value <;> simp [of?]

def rowsStop? : Except Stop (ScanContext × Except ReadError Unit) → Option Stop
  | .error stop => some stop
  | .ok (_, .error e) => some (.failed e)
  | .ok (_, .ok ()) => none

theorem RowCourse.deliveries {sv : Services σ} {task : ReadTask} {width : Nat} {marks : Watermarks}
    {scan : ScanContext} {timer : ProgressTimer} {w : σ}
    {r : StageResult σ (ScanContext × Except ReadError Unit)}
    (h : RowCourse sv task width marks scan timer w r) :
    ∃ (ds : List Delivery) (ending : RowsEnd),
      calls r.journal = ds.flatMap Delivery.calls ++ ending.calls ∧
        rowsStop? r.value = ending.stop? task ∧
        ∀ d ∈ ds, d.change.row = d.row.fitTo width := by
  induction h with
  | limit => exact ⟨[], .unfinished, rfl, rfl, by simp⟩
  | untimed => exact ⟨[], .untimed, rfl, rfl, by simp⟩
  | @overrun _ _ _ row _ w₁ go read late =>
      exact ⟨[], .overrun row (sv.clock w₁), by simp [RowsEnd.calls], rfl, by simp⟩
  | cancelled stop => exact ⟨[], .cancelled, rfl, rfl, by simp⟩
  | @failed _ _ _ e _ w₁ go read =>
      exact ⟨[], .failed e (sv.clock w₁), by simp [RowsEnd.calls, Entry.isCall], rfl, by simp⟩
  | @ended _ _ _ _ w₁ go read =>
      exact ⟨[], .exhausted (sv.clock w₁), by simp [RowsEnd.calls, Entry.isCall], rfl, by simp⟩
  | @refused scan _ _ row _ w₁ e _ _ go read sent =>
      refine ⟨[], .refused ⟨row, sv.clock w₁, ⟨task.split.table,
        scan.offset.stamp task.split.table (sv.wallMillis w₁), row.fitTo width⟩⟩ e, ?_, rfl, by simp⟩
      simp [RowsEnd.calls, ReadTask.rowEvent, Entry.isCall]
  | @sent scan _ _ row _ w₁ _ _ r go read sent rest ih =>
      obtain ⟨ds, ending, hc, hv, hr⟩ := ih
      refine ⟨⟨row, sv.clock w₁, ⟨task.split.table,
        scan.offset.stamp task.split.table (sv.wallMillis w₁), row.fitTo width⟩⟩ :: ds, ending,
        ?_, hv, ?_⟩
      · simp [StageResult.after, hc, Delivery.calls, ReadTask.rowEvent, Entry.isCall]
      · simpa using hr

inductive WindowEnd where
  | unread (e : ReadError)
  | reversed (high : Lsn)
  | refused (high : Lsn) (e : ReadError)
  | uncompleted (high : Lsn) (e : ReadError)
  | completed (high : Lsn)

namespace WindowEnd

def calls (task : ReadTask) : WindowEnd → List Entry
  | unread e => [.positionRead (.error e)]
  | reversed high => [.positionRead (.ok high)]
  | refused high e => [.positionRead (.ok high), .sent (task.watermark .high high) (.error e)]
  | uncompleted high e =>
      [.positionRead (.ok high), .sent (task.watermark .high high) (.ok ()),
        .sent (.completed task.split.splitId) (.error e)]
  | completed high =>
      [.positionRead (.ok high), .sent (task.watermark .high high) (.ok ()),
        .sent (.completed task.split.splitId) (.ok ())]

def stop? (task : ReadTask) (low : Lsn) : WindowEnd → Option Stop
  | unread e => some (.failed (.watermarkFailed .high e))
  | reversed high =>
      some (.failed (.watermarkFailed .high
        (.sourceUnavailable (.positionsReversed high low) none)))
  | refused _ e | uncompleted _ e => some (.failed (task.ofTable e))
  | completed _ => none

def position : WindowEnd → Except ReadError Lsn
  | unread e => .error e
  | reversed high | refused high _ | uncompleted high _ | completed high => .ok high

def accepted (task : ReadTask) : WindowEnd → List SplitEvent
  | unread _ | reversed _ | refused _ _ => []
  | uncompleted high _ => [task.watermark .high high]
  | completed high => [task.watermark .high high, .completed task.split.splitId]

def refusals (task : ReadTask) : WindowEnd → List (SplitEvent × ReadError)
  | refused high e => [(task.watermark .high high, e)]
  | uncompleted _ e => [(.completed task.split.splitId, e)]
  | _ => []

def marks (marks : Watermarks) : WindowEnd → Watermarks
  | unread _ | reversed _ => marks
  | refused high _ | uncompleted high _ | completed high => ⟨marks.low, some high⟩

def Ordered (low : Lsn) : WindowEnd → Prop
  | unread _ => True
  | reversed high => high.precedes low = true
  | refused high _ | uncompleted high _ | completed high => high.precedes low = false

end WindowEnd

theorem WindowCourse.ending {sv : Services σ} {task : ReadTask} {low : Lsn} {scan : ScanContext}
    {marks : Watermarks} {w : σ} {r : StageResult σ OffsetContext}
    (h : WindowCourse sv task low scan marks w r) :
    ∃ ending : WindowEnd, calls r.journal = ending.calls task ∧
      Stop.of? r.value = ending.stop? task low ∧ ending.Ordered low ∧
      r.state.marks = ending.marks marks := by
  cases h with
  | @unread e => exact ⟨.unread e, by simp [WindowEnd.calls, Entry.isCall], rfl, trivial, rfl⟩
  | @reversed high _ _ _ order =>
      exact ⟨.reversed high, by simp [WindowEnd.calls, Entry.isCall], rfl, order, rfl⟩
  | @refused high _ _ e _ _ _ order =>
      exact ⟨.refused high e, by simp [WindowEnd.calls, Entry.isCall], rfl, order, rfl⟩
  | @uncompleted high _ _ _ _ e _ _ _ order =>
      exact ⟨.uncompleted high e, by simp [WindowEnd.calls, Entry.isCall], rfl, order, rfl⟩
  | @completed high _ _ _ _ _ _ _ order =>
      exact ⟨.completed high, by simp [WindowEnd.calls, Entry.isCall], rfl, order, rfl⟩

inductive Story where
  | invalid (e : ReadError)
  | schemaUnread (e : ReadError)
  | lowUnread (schema : TableSchema) (e : ReadError)
  | lowRefused (schema : TableSchema) (low : Lsn) (e : ReadError)
  | unopened (schema : TableSchema) (low : Lsn) (e : ReadError) (time : Nat)
  | broken (schema : TableSchema) (low : Lsn) (time : Nat) (ds : List Delivery) (ending : RowsEnd)
      (closing : Option (Except ReadError Unit))
  | exported (schema : TableSchema) (low : Lsn) (time : Nat) (ds : List Delivery) (finish : Nat)
      (closing : Except ReadError Unit) (window : WindowEnd)

namespace Story

def calls (task : ReadTask) : Story → List Entry
  | invalid _ => []
  | schemaUnread e => [.schemaRead (.error e)]
  | lowUnread schema e => [.schemaRead (.ok schema), .positionRead (.error e)]
  | lowRefused schema low e =>
      [.schemaRead (.ok schema), .positionRead (.ok low),
        .sent (task.watermark .low low) (.error e)]
  | unopened schema low e time =>
      [.schemaRead (.ok schema), .positionRead (.ok low), .sent (task.watermark .low low) (.ok ()),
        .scanOpened (.error e) time]
  | broken schema low time ds ending closing =>
      [.schemaRead (.ok schema), .positionRead (.ok low), .sent (task.watermark .low low) (.ok ()),
        .scanOpened (.ok ()) time] ++ ds.flatMap Delivery.calls ++ ending.calls ++
        (closing.map .scanClosed).toList
  | exported schema low time ds finish closing window =>
      [.schemaRead (.ok schema), .positionRead (.ok low), .sent (task.watermark .low low) (.ok ()),
        .scanOpened (.ok ()) time] ++ ds.flatMap Delivery.calls ++
        (RowsEnd.exhausted finish).calls ++ [.scanClosed closing] ++ window.calls task

def stop? (task : ReadTask) : Story → Option Stop
  | invalid e => some (.failed e)
  | schemaUnread e | lowRefused _ _ e => some (.failed (task.ofTable e))
  | lowUnread _ e => some (.failed (.watermarkFailed .low e))
  | unopened _ _ e _ => some (.failed (task.openFailure e))
  | broken _ _ _ _ ending _ => ending.stop? task
  | exported _ low _ _ _ _ window => window.stop? task low

def accepted (task : ReadTask) : Story → List SplitEvent
  | unopened _ low _ _ => [task.watermark .low low]
  | broken _ low _ ds _ _ => task.watermark .low low :: ds.map fun d => .dataChange d.change
  | exported _ low _ ds _ _ window =>
      task.watermark .low low :: ((ds.map fun d => .dataChange d.change) ++ window.accepted task)
  | _ => []

def refusals (task : ReadTask) : Story → List (SplitEvent × ReadError)
  | lowRefused _ low e => [(task.watermark .low low, e)]
  | broken _ _ _ _ ending _ => ending.refusals
  | exported _ _ _ _ _ _ window => window.refusals task
  | _ => []

def positions : Story → List (Except ReadError Lsn)
  | invalid _ | schemaUnread _ => []
  | lowUnread _ e => [.error e]
  | lowRefused _ low _ | unopened _ low _ _ | broken _ low _ _ _ _ => [.ok low]
  | exported _ low _ _ _ _ window => [.ok low, window.position]

def marks (marks : Watermarks) : Story → Watermarks
  | invalid _ | schemaUnread _ | lowUnread _ _ => marks
  | lowRefused _ low _ | unopened _ low _ _ | broken _ low _ _ _ _ => ⟨some low, marks.high⟩
  | exported _ low _ _ _ _ window => window.marks ⟨some low, marks.high⟩

def rows : Story → List Row
  | broken _ _ _ ds ending _ => ds.map Delivery.row ++ ending.lostRows
  | exported _ _ _ ds _ _ _ => ds.map Delivery.row
  | _ => []

theorem acceptedEvents_calls (task : ReadTask) (story : Story) :
    acceptedEvents (story.calls task) = story.accepted task := by
  cases story with
  | broken schema low time ds ending closing =>
      cases closing <;> simp [calls, accepted, Entry.accepted?]
  | exported schema low time ds finish closing window =>
      cases window <;> simp [calls, accepted, Entry.accepted?,
        WindowEnd.calls, WindowEnd.accepted]
  | _ => rfl

theorem sendings_calls (task : ReadTask) (story : Story) :
    sendings (story.calls task) =
      (story.accepted task).map (·, .ok ()) ++
        (story.refusals task).map fun r => (r.1, .error r.2) := by
  cases story with
  | broken schema low time ds ending closing =>
      cases closing <;> simp [calls, accepted, refusals, Entry.sending?]
  | exported schema low time ds finish closing window =>
      cases window <;> simp [calls, accepted, refusals, Entry.sending?,
        WindowEnd.calls, WindowEnd.accepted, WindowEnd.refusals, RowsEnd.refusals]
  | _ => rfl

theorem positionAnswers_calls (task : ReadTask) (story : Story) :
    positionAnswers (story.calls task) = story.positions := by
  cases story with
  | broken schema low time ds ending closing =>
      cases closing <;> simp [calls, positions, Entry.position?]
  | exported schema low time ds finish closing window =>
      cases window <;> simp [calls, positions, Entry.position?,
        WindowEnd.calls, WindowEnd.position]
  | _ => rfl

theorem rowsRead_calls (task : ReadTask) (story : Story) :
    rowsRead (story.calls task) = story.rows := by
  cases story with
  | broken schema low time ds ending closing =>
      cases closing <;> simp [calls, rows, Entry.row?]
  | exported schema low time ds finish closing window =>
      cases window <;> simp [calls, rows, Entry.row?,
        WindowEnd.calls, RowsEnd.lostRows]
  | _ => rfl

theorem length_refusals_le (task : ReadTask) (story : Story) :
    (story.refusals task).length ≤ 1 := by
  cases story with
  | broken schema low time ds ending closing => cases ending <;> simp [refusals, RowsEnd.refusals]
  | exported schema low time ds finish closing window =>
      cases window <;> simp [refusals, WindowEnd.refusals]
  | _ => simp [refusals]

def Fitted (schema : TableSchema) (ds : List Delivery) : Prop :=
  ∀ d ∈ ds, d.change.row = d.row.fitTo schema.width

def schema? : Story → Option TableSchema
  | invalid _ | schemaUnread _ => none
  | lowUnread schema _ | lowRefused schema _ _ | unopened schema _ _ _ | broken schema _ _ _ _ _
  | exported schema _ _ _ _ _ _ => some schema

theorem schema_of_mem {task : ReadTask} {story : Story} {schema : TableSchema}
    (h : .schemaRead (.ok schema) ∈ story.calls task) :
    story.schema? = some schema := by
  cases story with
  | exported schema low time ds finish closing window =>
      cases window <;> simp_all [calls, schema?, Delivery.calls, RowsEnd.calls, WindowEnd.calls]
  | broken schema low time ds ending closing =>
      cases ending <;> simp_all [calls, schema?, Delivery.calls, RowsEnd.calls]
  | _ => simp_all [calls, schema?]

def Consistent (task : ReadTask) : Story → Prop
  | invalid e =>
      (∃ fault, task.config.validate = .error fault ∧ e = .config fault) ∨
        task.config.validate = .ok () ∧
          ∃ fault, task.split.validate = .error fault ∧ e = .queryConstruction fault
  | broken schema _ _ ds ending closing =>
      task.config.validate = .ok () ∧ task.split.validate = .ok () ∧ Fitted schema ds ∧
        (ending.stop? task).isSome ∧ (closing = none ↔ ending.isCut = true)
  | exported schema low _ ds _ _ window =>
      task.config.validate = .ok () ∧ task.split.validate = .ok () ∧ Fitted schema ds ∧
        window.Ordered low
  | _ => task.config.validate = .ok () ∧ task.split.validate = .ok ()

end Story

theorem ScanCourse.story {sv : Services σ} {task : ReadTask} {schema : TableSchema}
    {marks : Watermarks} {scan : ScanContext} {w : σ} {r : StageResult σ ScanContext}
    (h : ScanCourse sv task schema marks scan w r) :
    (∃ e time, calls r.journal = [.scanOpened (.error e) time] ∧
      Stop.of? r.value = some (.failed (task.openFailure e))) ∨
    ∃ time ds ending closing, calls r.journal = .scanOpened (.ok ()) time ::
        (ds.flatMap Delivery.calls ++ (RowsEnd.calls ending ++ (closing.map .scanClosed).toList)) ∧
      Stop.of? r.value = ending.stop? task ∧ Story.Fitted schema ds ∧
      (closing = none ↔ ending.isCut = true) := by
  cases h with
  | @unopened e _ w₁ opened =>
      exact .inl ⟨e, sv.clock w₁, by simp [Entry.isCall], rfl⟩
  | @unfinished _ w₁ stop _ _ opened rows =>
      obtain ⟨ds, ending, hc, hs, hd⟩ := rows.deliveries
      refine .inr ⟨sv.clock w₁, ds, ending, none, ?_, hs, hd, ?_⟩
      · simpa [Entry.isCall] using hc
      · rw [@RowsEnd.isCut_iff task, ← hs]
        exact iff_of_true rfl ⟨stop, rfl, rows.isCut rfl⟩
  | @broken _ w₁ _ e _ _ closing _ _ opened rows closed =>
      obtain ⟨ds, ending, hc, hs, hd⟩ := rows.deliveries
      refine .inr ⟨sv.clock w₁, ds, ending, some closing, ?_, hs, hd, ?_⟩
      · simp [Entry.isCall, hc]
      · rw [@RowsEnd.isCut_iff task, ← hs]
        simp [rowsStop?, Stop.isCut]
  | @exported _ w₁ _ _ _ closing _ _ opened rows closed =>
      obtain ⟨ds, ending, hc, hs, hd⟩ := rows.deliveries
      refine .inr ⟨sv.clock w₁, ds, ending, some closing, ?_, hs, hd, ?_⟩
      · simp [Entry.isCall, hc]
      · rw [@RowsEnd.isCut_iff task, ← hs]
        simp [rowsStop?, Stop.isCut]

theorem ReadCourse.story {sv : Services σ} {task : ReadTask} {marks : Watermarks} {w : σ}
    {r : StageResult σ OffsetContext} (h : ReadCourse sv task marks w r) :
    ∃ story : Story, calls r.journal = story.calls task ∧ Stop.of? r.value = story.stop? task ∧
      story.Consistent task ∧ r.state.marks = story.marks marks := by
  cases h with
  | @configInvalid fault config =>
      exact ⟨.invalid (.config fault), rfl, rfl, .inl ⟨fault, config, rfl⟩, rfl⟩
  | @splitInvalid fault config split =>
      exact ⟨.invalid (.queryConstruction fault), rfl, rfl, .inr ⟨config, fault, split, rfl⟩, rfl⟩
  | @schemaUnread e _ _ config split asked =>
      exact ⟨.schemaUnread e, by simp [Story.calls, Entry.isCall], rfl, ⟨config, split⟩, rfl⟩
  | @lowUnread schema _ _ e _ _ config split asked read =>
      exact ⟨.lowUnread schema e, by simp [Story.calls, Entry.isCall], rfl, ⟨config, split⟩, rfl⟩
  | @lowRefused schema _ _ low _ _ e _ _ config split asked read sent =>
      exact ⟨.lowRefused schema low e, by simp [Story.calls, Entry.isCall], rfl, ⟨config, split⟩,
        rfl⟩
  | @stopped schema _ _ low _ _ _ _ stop _ _ config split asked read sent scanning =>
      have hm := scanning.marks_eq
      rcases scanning.story with ⟨e, time, hc, hs⟩ | ⟨time, ds, ending, closing, hc, hs, hd, hn⟩
      · exact ⟨.unopened schema low e time, by simp [Story.calls, Entry.isCall, hc], hs,
          ⟨config, split⟩, hm⟩
      · refine ⟨.broken schema low time ds ending closing, ?_, hs, ⟨config, split, hd, ?_, hn⟩, hm⟩
        · simp [Story.calls, Entry.isCall, hc]
        · rw [← hs]
          rfl
  | @scanned schema _ _ low _ _ _ _ scan _ w₄ r config split asked read sent scanning closing =>
      rcases scanning.story with ⟨e, time, hc, hs⟩ | ⟨time, ds, ending, closed, hc, hs, hd, hn⟩
      · cases hs
      · obtain ⟨finish, rfl⟩ := RowsEnd.stop?_eq_none hs.symm
        obtain ⟨window, hw, hws, order, hm⟩ := closing.ending
        cases closed with
        | none => cases hn.1 rfl
        | some closed =>
            refine ⟨.exported schema low time ds finish closed window, ?_, hws,
              ⟨config, split, hd, order⟩, hm⟩
            simp [Story.calls, Entry.isCall, StageResult.after, hc, hw]

theorem ReadTask.execute_story (sv : Services σ) (task : ReadTask) (limit : Nat)
    (marks : Watermarks) (w : σ) :
    ∃ story : Story, calls (task.execute sv limit marks w).journal = story.calls task ∧
      Stop.of? (task.stages sv limit ⟨w, marks⟩).value = story.stop? task ∧
      story.Consistent task := by
  rw [calls_execute]
  obtain ⟨story, hcalls, hstop, hc, -⟩ := (readCourse_stages sv task marks limit w).story
  exact ⟨story, hcalls, hstop, hc⟩

theorem ReadTask.execute_story_marks (sv : Services σ) (task : ReadTask) (limit : Nat)
    (marks : Watermarks) (w : σ) :
    ∃ story : Story, calls (task.execute sv limit marks w).journal = story.calls task ∧
      (task.execute sv limit marks w).marks = story.marks marks := by
  rw [calls_execute]
  obtain ⟨story, hcalls, -, -, hm⟩ := (readCourse_stages sv task marks limit w).story
  exact ⟨story, hcalls, hm⟩

end SplitSnapshot
