import SplitSnapshot.Proofs.Results
import SplitSnapshot.Read.Run

namespace SplitSnapshot

variable {σ α : Type}

def Entry.call (notes : List LogEntry) (entry : Entry) : List Entry :=
  notes.map .noted ++ [entry]

def ProgressTimer.after (t : ProgressTimer) (now : Nat) : ProgressTimer :=
  if t.expired now then t.reset now else t

theorem ProgressTimer.interval_after (t : ProgressTimer) (now : Nat) :
    (t.after now).interval = t.interval := by
  unfold after
  split
  · rfl
  · rfl

def ProgressTimer.overruns (t : ProgressTimer) (now : Nat) : Bool :=
  t.expired now && !(t.reset now).inRange

def ScanContext.withRow (c : ScanContext) (table : TableId) (millis : Int) : ScanContext :=
  { c with rows := c.rows + 1, offset := c.offset.event table millis }

namespace ReadTask

def cancellationNote (task : ReadTask) (rows : Nat) : LogEntry :=
  ⟨.debug, "Cancellation observed", [task.splitField, ("rows", toString rows)]⟩

def progressNote (task : ReadTask) (rows : Nat) (elapsed : Duration) : LogEntry :=
  ⟨.info,
    "Exported " ++ toString rows ++ " records for split '" ++ task.split.splitId ++ "' after " ++
      String.ofList elapsed.report,
    [task.splitField, task.tableField]⟩

def progressEntries (task : ReadTask) (scan : ScanContext) (timer : ProgressTimer) (now : Nat) :
    List Entry :=
  if timer.expired now then
    [.noted (task.progressNote scan.rows (scan.elapsed now)),
      .progressed task.split.table scan.rows]
  else []

theorem arm_apply {timer : ProgressTimer} (h : timer.inRange = true) (s : ReadState σ) :
    arm timer s = ⟨.ok timer, [], s⟩ := by
  rw [arm, if_pos h, Stage.pure_apply]

theorem arm_overflow {timer : ProgressTimer} (h : timer.inRange = false) (s : ReadState σ) :
    arm timer s = ⟨.error .overflow, [], s⟩ := by
  rw [arm, h, if_neg Bool.false_ne_true, Stage.overflow]

theorem reportProgress_apply (sv : Services σ) (task : ReadTask) (scan : ScanContext)
    {timer : ProgressTimer} {s : ReadState σ} (h : timer.overruns (sv.clock s.world) = false) :
    reportProgress sv task scan timer s = ⟨.ok (timer.after (sv.clock s.world)),
      task.progressEntries scan timer (sv.clock s.world), s⟩ := by
  unfold ProgressTimer.overruns at h
  unfold reportProgress progressEntries ProgressTimer.after
  rw [Stage.look_bind]
  split
  · rename_i expired
    rw [expired, Bool.true_and, Bool.not_eq_false'] at h
    rw [Stage.note, Stage.write_bind, Stage.write_bind, arm_apply h]
    rfl
  · rfl

theorem reportProgress_overflow (sv : Services σ) (task : ReadTask) (scan : ScanContext)
    {timer : ProgressTimer} {s : ReadState σ} (h : timer.overruns (sv.clock s.world) = true) :
    reportProgress sv task scan timer s = ⟨.error .overflow,
      task.progressEntries scan timer (sv.clock s.world), s⟩ := by
  rw [ProgressTimer.overruns, Bool.and_eq_true, Bool.not_eq_true'] at h
  unfold reportProgress progressEntries
  rw [Stage.look_bind, if_pos h.1, if_pos h.1, Stage.note, Stage.write_bind, Stage.write_bind,
    arm_overflow h.2]
  rfl

theorem sendEvent_bind_ok {sv : Services σ} {task : ReadTask} {event : SplitEvent}
    {s : ReadState σ} {notes : List LogEntry} {w : σ}
    (h : sv.send event s.world = ⟨.ok (), notes, w⟩) (f : Unit → Stage σ α) :
    (sendEvent sv task event >>= f) s =
      (f () ⟨w, s.marks⟩).after (Entry.call notes (.sent event (.ok ()))) := by
  rw [Stage.bind_apply, sendEvent, Stage.ask_bind h]
  simp [Stage.orFail, Stage.pure, StageResult.after, Entry.call]

theorem sendEvent_bind_error {sv : Services σ} {task : ReadTask} {event : SplitEvent}
    {s : ReadState σ} {e : ReadError} {notes : List LogEntry} {w : σ}
    (h : sv.send event s.world = ⟨.error e, notes, w⟩) (f : Unit → Stage σ α) :
    (sendEvent sv task event >>= f) s = ⟨.error (.failed (task.ofTable e)),
      Entry.call notes (.sent event (.error e)), ⟨w, s.marks⟩⟩ := by
  rw [Stage.bind_apply, sendEvent, Stage.ask_bind h]
  simp [Stage.orFail, Stage.fail, StageResult.after, Entry.call]

theorem readPosition_bind_ok {sv : Services σ} {s : ReadState σ} {p : Lsn}
    {notes : List LogEntry} {w : σ} (h : sv.position s.world = ⟨.ok p, notes, w⟩)
    (kind : WatermarkKind) (f : Lsn → Stage σ α) :
    (readPosition sv kind >>= f) s =
      (f p ⟨w, s.marks⟩).after (Entry.call notes (.positionRead (.ok p))) := by
  rw [Stage.bind_apply, readPosition, Stage.ask_bind h]
  simp [Stage.orFail, Stage.pure, StageResult.after, Entry.call]

theorem readPosition_bind_error {sv : Services σ} {s : ReadState σ} {e : ReadError}
    {notes : List LogEntry} {w : σ} (h : sv.position s.world = ⟨.error e, notes, w⟩)
    (kind : WatermarkKind) (f : Lsn → Stage σ α) :
    (readPosition sv kind >>= f) s = ⟨.error (.failed (.watermarkFailed kind e)),
      Entry.call notes (.positionRead (.error e)), ⟨w, s.marks⟩⟩ := by
  rw [Stage.bind_apply, readPosition, Stage.ask_bind h]
  simp [Stage.orFail, Stage.fail, StageResult.after, Entry.call]

def rowEntries (task : ReadTask) (scan : ScanContext) (timer : ProgressTimer)
    (notes : List LogEntry) (row : Row) (now : Nat) : List Entry :=
  .cancellationChecked false :: (Entry.call notes (.rowRead (.ok (some row)) now) ++
    task.progressEntries { scan with rows := scan.rows + 1 } timer now)

end ReadTask

inductive RowCourse (sv : Services σ) (task : ReadTask) (width : Nat) (marks : Watermarks) :
    ScanContext → ProgressTimer → σ → StageResult σ (ScanContext × Except ReadError Unit) → Prop
  | limit {scan timer w} :
      RowCourse sv task width marks scan timer w ⟨.error .rowLimit, [], ⟨w, marks⟩⟩
  | untimed {scan timer w} (late : timer.inRange = false) :
      RowCourse sv task width marks scan timer w ⟨.error .overflow, [], ⟨w, marks⟩⟩
  | cancelled {scan timer w} (stop : sv.cancelled w = true) :
      RowCourse sv task width marks scan timer w
        ⟨.ok (scan, .error .interrupted),
          [.cancellationChecked true, .noted (task.cancellationNote scan.rows)], ⟨w, marks⟩⟩
  | failed {scan timer w e notes w₁} (go : sv.cancelled w = false)
      (read : sv.nextRow w = ⟨.error e, notes, w₁⟩) :
      RowCourse sv task width marks scan timer w
        ⟨.ok (scan, .error (task.ofTable e)),
          .cancellationChecked false :: Entry.call notes (.rowRead (.error e) (sv.clock w₁)),
          ⟨w₁, marks⟩⟩
  | ended {scan timer w notes w₁} (go : sv.cancelled w = false)
      (read : sv.nextRow w = ⟨.ok none, notes, w₁⟩) :
      RowCourse sv task width marks scan timer w
        ⟨.ok (scan, .ok ()),
          .cancellationChecked false :: Entry.call notes (.rowRead (.ok none) (sv.clock w₁)),
          ⟨w₁, marks⟩⟩
  | overrun {scan timer w row notes w₁} (go : sv.cancelled w = false)
      (read : sv.nextRow w = ⟨.ok (some row), notes, w₁⟩)
      (late : timer.overruns (sv.clock w₁) = true) :
      RowCourse sv task width marks scan timer w
        ⟨.error .overflow, task.rowEntries scan timer notes row (sv.clock w₁), ⟨w₁, marks⟩⟩
  | refused {scan timer w row notes w₁ e more w₂} (go : sv.cancelled w = false)
      (read : sv.nextRow w = ⟨.ok (some row), notes, w₁⟩)
      (sent : sv.send (task.rowEvent scan.offset width (sv.wallMillis w₁) row) w₁ =
        ⟨.error e, more, w₂⟩) :
      RowCourse sv task width marks scan timer w
        ⟨.ok (scan.withRow task.split.table (sv.wallMillis w₁), .error (task.ofTable e)),
          task.rowEntries scan timer notes row (sv.clock w₁) ++ Entry.call more
            (.sent (task.rowEvent scan.offset width (sv.wallMillis w₁) row) (.error e)),
          ⟨w₂, marks⟩⟩
  | sent {scan timer w row notes w₁ more w₂ r} (go : sv.cancelled w = false)
      (read : sv.nextRow w = ⟨.ok (some row), notes, w₁⟩)
      (sent : sv.send (task.rowEvent scan.offset width (sv.wallMillis w₁) row) w₁ =
        ⟨.ok (), more, w₂⟩)
      (rest : RowCourse sv task width marks (scan.withRow task.split.table (sv.wallMillis w₁))
        (timer.after (sv.clock w₁)) w₂ r) :
      RowCourse sv task width marks scan timer w
        (r.after (task.rowEntries scan timer notes row (sv.clock w₁) ++ Entry.call more
          (.sent (task.rowEvent scan.offset width (sv.wallMillis w₁) row) (.ok ()))))

theorem rowCourse_exportRows (sv : Services σ) (task : ReadTask) (width : Nat) (marks : Watermarks)
    (limit : Nat) (scan : ScanContext) (timer : ProgressTimer) (w : σ) :
    RowCourse sv task width marks scan timer w
      (task.exportRows sv width limit scan timer ⟨w, marks⟩) := by
  induction limit generalizing scan timer w with
  | zero => exact .limit
  | succ limit ih =>
      rw [ReadTask.exportRows, Stage.look_bind, Stage.write_bind]
      cases go : sv.cancelled w with
      | true => exact .cancelled go
      | false =>
          rcases read : sv.nextRow w with ⟨answer, notes, w₁⟩
          simp only [Bool.false_eq_true, if_false]
          rw [Stage.ask_bind read]
          cases answer with
          | error e =>
              have course : RowCourse sv task width marks scan timer w _ := .failed go read
              simpa [Stage.pure_apply, StageResult.after_mk, Entry.call] using course
          | ok answer =>
          cases answer with
          | none =>
              have course : RowCourse sv task width marks scan timer w _ := .ended go read
              simpa [Stage.pure_apply, StageResult.after_mk, Entry.call] using course
          | some row =>
              dsimp only
              rw [Stage.bind_apply]
              cases late : timer.overruns (sv.clock w₁) with
              | true =>
                  have course : RowCourse sv task width marks scan timer w _ := .overrun go read late
                  rw [ReadTask.reportProgress_overflow sv task _ late]
                  simpa [StageResult.after_mk, ReadTask.rowEntries, Entry.call] using course
              | false =>
              rw [ReadTask.reportProgress_apply sv task _ late]
              dsimp only
              rw [Stage.look_bind]
              rcases sent : sv.send (task.rowEvent scan.offset width (sv.wallMillis w₁) row) w₁
                with ⟨answer, more, w₂⟩
              rw [Stage.ask_bind sent]
              cases answer with
              | error e =>
                  have course : RowCourse sv task width marks scan timer w _ :=
                    .refused go read sent
                  simpa [Stage.pure_apply, StageResult.after_mk, ReadTask.rowEntries, Entry.call,
                    ScanContext.withRow] using course
              | ok u =>
                  have course := RowCourse.sent go read sent
                    (ih (scan.withRow task.split.table (sv.wallMillis w₁))
                      (timer.after (sv.clock w₁)) w₂)
                  simpa [StageResult.after_after, ReadTask.rowEntries, Entry.call,
                    ScanContext.withRow] using course

theorem rowCourse_timedRows (sv : Services σ) (task : ReadTask) (width : Nat) (marks : Watermarks)
    (limit : Nat) (scan : ScanContext) (w : σ) :
    RowCourse sv task width marks scan (.start task.config.progressInterval (sv.clock w)) w
      (task.timedRows sv width limit scan ⟨w, marks⟩) := by
  rw [ReadTask.timedRows, Stage.look_bind, Stage.bind_apply]
  dsimp only
  cases late : (ProgressTimer.start task.config.progressInterval (sv.clock w)).inRange with
  | false =>
      rw [ReadTask.arm_overflow late]
      exact .untimed late
  | true =>
      rw [ReadTask.arm_apply late]
      exact rowCourse_exportRows sv task width marks limit scan _ w

theorem RowCourse.marks_eq {sv : Services σ} {task : ReadTask} {width : Nat} {marks : Watermarks}
    {scan : ScanContext} {timer : ProgressTimer} {w : σ}
    {r : StageResult σ (ScanContext × Except ReadError Unit)}
    (h : RowCourse sv task width marks scan timer w r) : r.state.marks = marks := by
  induction h with
  | sent _ _ _ _ ih => exact ih
  | _ => rfl

theorem RowCourse.isCut {sv : Services σ} {task : ReadTask} {width : Nat} {marks : Watermarks}
    {scan : ScanContext} {timer : ProgressTimer} {w : σ}
    {r : StageResult σ (ScanContext × Except ReadError Unit)}
    (h : RowCourse sv task width marks scan timer w r) {stop : Stop} (hv : r.value = .error stop) :
    stop.isCut = true := by
  induction h with
  | limit | untimed | overrun =>
      cases hv
      rfl
  | sent _ _ _ _ ih => exact ih hv
  | _ => cases hv

theorem RowCourse.beyond {sv : Services σ} {task : ReadTask} {width : Nat} {marks : Watermarks}
    {scan : ScanContext} {timer : ProgressTimer} {w : σ}
    {r : StageResult σ (ScanContext × Except ReadError Unit)}
    (h : RowCourse sv task width marks scan timer w r) (hv : r.value = .error .overflow) :
    clockEnd ≤ timer.deadline ∨ ∃ row now, .rowRead (.ok (some row)) now ∈ r.journal ∧
      clockEnd ≤ now + timer.interval.nanos := by
  induction h with
  | untimed late => exact .inl (Nat.not_lt.1 (of_decide_eq_false late))
  | @overrun scan timer w row notes w₁ go read late =>
      rw [ProgressTimer.overruns, Bool.and_eq_true, Bool.not_eq_true'] at late
      refine .inr ⟨row, sv.clock w₁, ?_, Nat.not_lt.1 (of_decide_eq_false late.2)⟩
      simp [ReadTask.rowEntries, Entry.call]
  | @sent scan timer w row notes w₁ more w₂ r go read sent rest ih =>
      have first : .rowRead (.ok (some row)) (sv.clock w₁) ∈
          task.rowEntries scan timer notes row (sv.clock w₁) := by
        simp [ReadTask.rowEntries, Entry.call]
      rcases ih hv with begins | ⟨row', now, hm, beyond⟩
      · unfold ProgressTimer.after at begins
        split at begins
        · exact .inr ⟨row, _, List.mem_append_left _ (List.mem_append_left _ first), begins⟩
        · exact .inl begins
      · refine .inr ⟨row', now, List.mem_append_right _ hm, ?_⟩
        rwa [ProgressTimer.interval_after] at beyond
  | _ => cases hv

namespace ReadTask

def closingNotes (task : ReadTask) : Except ReadError Unit → List LogEntry
  | .ok () => []
  | .error e =>
      [⟨.warn, "Failed to close split scan: " ++ e.message, [task.splitField, task.tableField]⟩]

def closingEntries (task : ReadTask) (notes : List LogEntry) (closing : Except ReadError Unit)
    (rows : Nat) : List Entry :=
  Entry.call notes (.scanClosed closing) ++ (task.closingNotes closing).map .noted ++
    [.counted (.rows (UInt64.ofNat rows))]

def finishNote (task : ReadTask) (scan : ScanContext) (now : Nat) : LogEntry :=
  ⟨.info,
    "Finished exporting " ++ toString scan.rows ++ " records for split '" ++ task.split.splitId ++
      "', total duration '" ++ String.ofList (scan.elapsed now).report ++ "'",
    [task.splitField, task.tableField, ("rows", toString scan.rows)]⟩

end ReadTask

inductive ScanCourse (sv : Services σ) (task : ReadTask) (schema : TableSchema)
    (marks : Watermarks) (scan : ScanContext) : σ → StageResult σ ScanContext → Prop
  | unopened {w e notes w₁}
      (opened : sv.openScan task.split schema task.config.fetchSize w = ⟨.error e, notes, w₁⟩) :
      ScanCourse sv task schema marks scan w
        ⟨.error (.failed (task.openFailure e)),
          Entry.call notes (.scanOpened (.error e) (sv.clock w₁)), ⟨w₁, marks⟩⟩
  | unfinished {w notes w₁ stop journal state}
      (opened : sv.openScan task.split schema task.config.fetchSize w = ⟨.ok (), notes, w₁⟩)
      (rows : RowCourse sv task schema.width marks scan
        (.start task.config.progressInterval (sv.clock w₁)) w₁ ⟨.error stop, journal, state⟩) :
      ScanCourse sv task schema marks scan w
        ⟨.error stop, Entry.call notes (.scanOpened (.ok ()) (sv.clock w₁)) ++ journal, state⟩
  | broken {w notes w₁ scan' e journal w₂ closing more w₃}
      (opened : sv.openScan task.split schema task.config.fetchSize w = ⟨.ok (), notes, w₁⟩)
      (rows : RowCourse sv task schema.width marks scan
        (.start task.config.progressInterval (sv.clock w₁)) w₁
        ⟨.ok (scan', .error e), journal, ⟨w₂, marks⟩⟩)
      (closed : sv.closeScan w₂ = ⟨closing, more, w₃⟩) :
      ScanCourse sv task schema marks scan w
        ⟨.error (.failed e),
          Entry.call notes (.scanOpened (.ok ()) (sv.clock w₁)) ++ journal ++
            task.closingEntries more closing scan'.rows, ⟨w₃, marks⟩⟩
  | exported {w notes w₁ scan' journal w₂ closing more w₃}
      (opened : sv.openScan task.split schema task.config.fetchSize w = ⟨.ok (), notes, w₁⟩)
      (rows : RowCourse sv task schema.width marks scan
        (.start task.config.progressInterval (sv.clock w₁)) w₁
        ⟨.ok (scan', .ok ()), journal, ⟨w₂, marks⟩⟩)
      (closed : sv.closeScan w₂ = ⟨closing, more, w₃⟩) :
      ScanCourse sv task schema marks scan w
        ⟨.ok scan',
          Entry.call notes (.scanOpened (.ok ()) (sv.clock w₁)) ++ journal ++
            (task.closingEntries more closing scan'.rows ++
              [.noted (task.finishNote scan' (sv.clock w₃))]), ⟨w₃, marks⟩⟩

theorem scanCourse_scan (sv : Services σ) (task : ReadTask) (schema : TableSchema)
    (marks : Watermarks) (limit : Nat) (scan : ScanContext) (w : σ) :
    ScanCourse sv task schema marks scan w (task.scan sv limit schema scan ⟨w, marks⟩) := by
  rcases opened : sv.openScan task.split schema task.config.fetchSize w with ⟨answer, notes, w₁⟩
  rw [ReadTask.scan, Stage.ask_bind opened]
  cases answer with
  | error e =>
      have course : ScanCourse sv task schema marks scan w _ := .unopened opened
      simpa [Stage.orFail_error_bind, StageResult.after_mk, Entry.call] using course
  | ok u =>
      have rows := rowCourse_timedRows sv task schema.width marks limit scan w₁
      rw [Stage.orFail_ok_bind, Stage.bind_apply]
      rcases run : task.timedRows sv schema.width limit scan ⟨w₁, marks⟩ with ⟨value, journal, state⟩
      rw [run] at rows
      cases value with
      | error stop =>
          simpa [StageResult.after_mk, Entry.call] using ScanCourse.unfinished opened rows
      | ok left =>
          obtain ⟨scan', exported⟩ := left
          obtain ⟨w₂, marks'⟩ := state
          obtain rfl : marks' = marks := rows.marks_eq
          rcases closed : sv.closeScan w₂ with ⟨closing, more, w₃⟩
          dsimp only
          rw [Stage.ask_bind closed]
          cases exported with
          | ok u =>
              cases closing <;>
                simpa [Stage.write_bind, Stage.orFail_ok_bind, Stage.look_bind, Stage.note,
                  Stage.pure_apply, StageResult.after_mk, StageResult.after_after, Entry.call,
                  ReadTask.closingEntries, ReadTask.closingNotes, ReadTask.finishNote] using
                  ScanCourse.exported opened rows closed
          | error e =>
              cases closing <;>
                simpa [Stage.write_bind, Stage.orFail_error_bind, Stage.note,
                  StageResult.after_mk, StageResult.after_after, Entry.call,
                  ReadTask.closingEntries, ReadTask.closingNotes] using
                  ScanCourse.broken opened rows closed

namespace ReadTask

def positionEntries (task : ReadTask) (notes : List LogEntry) (start : String) (p : Lsn) :
    List Entry :=
  Entry.call notes (.positionRead (.ok p)) ++
    [.noted ⟨.info, start ++ p.text ++ " for split " ++ task.split.splitId, [task.splitField]⟩]

def lowEntries (task : ReadTask) (notes : List LogEntry) (low : Lsn) : List Entry :=
  task.positionEntries notes "Snapshot step 1 - Determining low watermark " low

def highEntries (task : ReadTask) (notes : List LogEntry) (high : Lsn) : List Entry :=
  task.positionEntries notes "Snapshot step 3 - Determining high watermark " high

def scanNote (task : ReadTask) : LogEntry :=
  ⟨.info, "Snapshot step 2 - Snapshotting data", [task.splitField, task.tableField]⟩

end ReadTask

inductive WindowCourse (sv : Services σ) (task : ReadTask) (low : Lsn) (scan : ScanContext)
    (marks : Watermarks) : σ → StageResult σ OffsetContext → Prop
  | unread {w e notes w₁} (read : sv.position w = ⟨.error e, notes, w₁⟩) :
      WindowCourse sv task low scan marks w
        ⟨.error (.failed (.watermarkFailed .high e)), Entry.call notes (.positionRead (.error e)),
          ⟨w₁, marks⟩⟩
  | reversed {w high notes w₁} (read : sv.position w = ⟨.ok high, notes, w₁⟩)
      (order : high.precedes low = true) :
      WindowCourse sv task low scan marks w
        ⟨.error (.failed (.watermarkFailed .high
            (.sourceUnavailable (.positionsReversed high low) none))),
          Entry.call notes (.positionRead (.ok high)), ⟨w₁, marks⟩⟩
  | refused {w high notes w₁ e more w₂} (read : sv.position w = ⟨.ok high, notes, w₁⟩)
      (order : high.precedes low = false)
      (sent : sv.send (task.watermark .high high) w₁ = ⟨.error e, more, w₂⟩) :
      WindowCourse sv task low scan marks w
        ⟨.error (.failed (task.ofTable e)),
          task.highEntries notes high ++
            Entry.call more (.sent (task.watermark .high high) (.error e)),
          ⟨w₂, ⟨marks.low, some high⟩⟩⟩
  | uncompleted {w high notes w₁ more w₂ e last w₃}
      (read : sv.position w = ⟨.ok high, notes, w₁⟩) (order : high.precedes low = false)
      (sent : sv.send (task.watermark .high high) w₁ = ⟨.ok (), more, w₂⟩)
      (completion : sv.send (.completed task.split.splitId) w₂ = ⟨.error e, last, w₃⟩) :
      WindowCourse sv task low scan marks w
        ⟨.error (.failed (task.ofTable e)),
          task.highEntries notes high ++
            (Entry.call more (.sent (task.watermark .high high) (.ok ())) ++
              Entry.call last (.sent (.completed task.split.splitId) (.error e))),
          ⟨w₃, ⟨marks.low, some high⟩⟩⟩
  | completed {w high notes w₁ more w₂ last w₃} (read : sv.position w = ⟨.ok high, notes, w₁⟩)
      (order : high.precedes low = false)
      (sent : sv.send (task.watermark .high high) w₁ = ⟨.ok (), more, w₂⟩)
      (completion : sv.send (.completed task.split.splitId) w₂ = ⟨.ok (), last, w₃⟩) :
      WindowCourse sv task low scan marks w
        ⟨.ok (scan.offset.advanceTo high),
          task.highEntries notes high ++
            (Entry.call more (.sent (task.watermark .high high) (.ok ())) ++
              Entry.call last (.sent (.completed task.split.splitId) (.ok ()))),
          ⟨w₃, ⟨marks.low, some high⟩⟩⟩

theorem windowCourse_closeWindow (sv : Services σ) (task : ReadTask) (low : Lsn)
    (scan : ScanContext) (marks : Watermarks) (w : σ) :
    WindowCourse sv task low scan marks w (task.closeWindow sv low scan ⟨w, marks⟩) := by
  rcases read : sv.position w with ⟨answer, notes, w₁⟩
  cases answer with
  | error e =>
      rw [ReadTask.closeWindow, ReadTask.readPosition_bind_error read]
      exact .unread read
  | ok high =>
      rw [ReadTask.closeWindow, ReadTask.readPosition_bind_ok read]
      cases order : high.precedes low with
      | true =>
          simpa [Stage.fail, StageResult.after_mk] using WindowCourse.reversed read order
      | false =>
          simp only [Bool.false_eq_true, if_false]
          rcases sent : sv.send (task.watermark .high high) w₁ with ⟨answer, more, w₂⟩
          rw [ReadTask.positionNote, Stage.note, Stage.write_bind, Stage.recordHigh_bind]
          cases answer with
          | error e =>
              rw [ReadTask.sendEvent_bind_error sent]
              simpa [StageResult.after_mk, StageResult.after_after, ReadTask.highEntries,
                ReadTask.positionEntries] using WindowCourse.refused read order sent
          | ok u =>
              rw [ReadTask.sendEvent_bind_ok sent]
              rcases completion : sv.send (.completed task.split.splitId) w₂
                with ⟨answer, last, w₃⟩
              cases answer with
              | error e =>
                  rw [ReadTask.sendEvent_bind_error completion]
                  simpa [StageResult.after_mk, StageResult.after_after, ReadTask.highEntries,
                    ReadTask.positionEntries] using
                    WindowCourse.uncompleted read order sent completion
              | ok u =>
                  rw [ReadTask.sendEvent_bind_ok completion]
                  simpa [Stage.pure_apply, StageResult.after_mk, StageResult.after_after,
                    ReadTask.highEntries, ReadTask.positionEntries] using
                    WindowCourse.completed read order sent completion

inductive ReadCourse (sv : Services σ) (task : ReadTask) (marks : Watermarks) :
    σ → StageResult σ OffsetContext → Prop
  | configInvalid {w fault} (config : task.config.validate = .error fault) :
      ReadCourse sv task marks w ⟨.error (.failed (.config fault)), [], ⟨w, marks⟩⟩
  | splitInvalid {w fault} (config : task.config.validate = .ok ())
      (split : task.split.validate = .error fault) :
      ReadCourse sv task marks w ⟨.error (.failed (.queryConstruction fault)), [], ⟨w, marks⟩⟩
  | schemaUnread {w e notes w₁} (config : task.config.validate = .ok ())
      (split : task.split.validate = .ok ())
      (asked : sv.schema task.split.table.withoutCatalog w = ⟨.error e, notes, w₁⟩) :
      ReadCourse sv task marks w
        ⟨.error (.failed (task.ofTable e)), Entry.call notes (.schemaRead (.error e)), ⟨w₁, marks⟩⟩
  | lowUnread {w schema notes w₁ e more w₂} (config : task.config.validate = .ok ())
      (split : task.split.validate = .ok ())
      (asked : sv.schema task.split.table.withoutCatalog w = ⟨.ok schema, notes, w₁⟩)
      (read : sv.position w₁ = ⟨.error e, more, w₂⟩) :
      ReadCourse sv task marks w
        ⟨.error (.failed (.watermarkFailed .low e)),
          Entry.call notes (.schemaRead (.ok schema)) ++ Entry.call more (.positionRead (.error e)),
          ⟨w₂, marks⟩⟩
  | lowRefused {w schema notes w₁ low more w₂ e last w₃} (config : task.config.validate = .ok ())
      (split : task.split.validate = .ok ())
      (asked : sv.schema task.split.table.withoutCatalog w = ⟨.ok schema, notes, w₁⟩)
      (read : sv.position w₁ = ⟨.ok low, more, w₂⟩)
      (sent : sv.send (task.watermark .low low) w₂ = ⟨.error e, last, w₃⟩) :
      ReadCourse sv task marks w
        ⟨.error (.failed (task.ofTable e)),
          Entry.call notes (.schemaRead (.ok schema)) ++ (task.lowEntries more low ++
            Entry.call last (.sent (task.watermark .low low) (.error e))),
          ⟨w₃, ⟨some low, marks.high⟩⟩⟩
  | stopped {w schema notes w₁ low more w₂ last w₃ stop journal state}
      (config : task.config.validate = .ok ()) (split : task.split.validate = .ok ())
      (asked : sv.schema task.split.table.withoutCatalog w = ⟨.ok schema, notes, w₁⟩)
      (read : sv.position w₁ = ⟨.ok low, more, w₂⟩)
      (sent : sv.send (task.watermark .low low) w₂ = ⟨.ok (), last, w₃⟩)
      (scanning : ScanCourse sv task schema ⟨some low, marks.high⟩
        (.start task.part low (sv.clock w₃)) w₃ ⟨.error stop, journal, state⟩) :
      ReadCourse sv task marks w
        ⟨.error stop,
          Entry.call notes (.schemaRead (.ok schema)) ++ (task.lowEntries more low ++
            (Entry.call last (.sent (task.watermark .low low) (.ok ())) ++
              .noted task.scanNote :: journal)), state⟩
  | scanned {w schema notes w₁ low more w₂ last w₃ scan journal w₄ r}
      (config : task.config.validate = .ok ()) (split : task.split.validate = .ok ())
      (asked : sv.schema task.split.table.withoutCatalog w = ⟨.ok schema, notes, w₁⟩)
      (read : sv.position w₁ = ⟨.ok low, more, w₂⟩)
      (sent : sv.send (task.watermark .low low) w₂ = ⟨.ok (), last, w₃⟩)
      (scanning : ScanCourse sv task schema ⟨some low, marks.high⟩
        (.start task.part low (sv.clock w₃)) w₃
        ⟨.ok scan, journal, ⟨w₄, ⟨some low, marks.high⟩⟩⟩)
      (closing : WindowCourse sv task low scan ⟨some low, marks.high⟩ w₄ r) :
      ReadCourse sv task marks w
        (r.after (Entry.call notes (.schemaRead (.ok schema)) ++ (task.lowEntries more low ++
          (Entry.call last (.sent (task.watermark .low low) (.ok ())) ++
            .noted task.scanNote :: journal))))

theorem ScanCourse.marks_eq {sv : Services σ} {task : ReadTask} {schema : TableSchema}
    {marks : Watermarks} {scan : ScanContext} {w : σ} {r : StageResult σ ScanContext}
    (h : ScanCourse sv task schema marks scan w r) : r.state.marks = marks := by
  cases h with
  | unfinished _ rows => exact rows.marks_eq
  | _ => rfl

theorem readCourse_stages (sv : Services σ) (task : ReadTask) (marks : Watermarks) (limit : Nat)
    (w : σ) : ReadCourse sv task marks w (task.stages sv limit ⟨w, marks⟩) := by
  cases config : task.config.validate with
  | error fault =>
      rw [ReadTask.stages, config]
      exact .configInvalid config
  | ok u =>
  cases split : task.split.validate with
  | error fault =>
      rw [ReadTask.stages, config, split]
      exact .splitInvalid config split
  | ok u =>
  rw [ReadTask.stages, config, split]
  simp only [mapError_ok, Stage.orFail_ok_bind]
  rcases asked : sv.schema task.split.table.withoutCatalog w with ⟨answer, notes, w₁⟩
  rw [Stage.ask_bind asked]
  cases answer with
  | error e =>
      simpa [Stage.orFail_error_bind, StageResult.after_mk, Entry.call] using
        ReadCourse.schemaUnread config split asked
  | ok schema =>
  rw [Stage.orFail_ok_bind]
  rcases read : sv.position w₁ with ⟨answer, more, w₂⟩
  cases answer with
  | error e =>
      rw [ReadTask.readPosition_bind_error read]
      exact .lowUnread config split asked read
  | ok low =>
  rw [ReadTask.readPosition_bind_ok read, ReadTask.positionNote, Stage.note, Stage.write_bind,
    Stage.recordLow_bind]
  rcases sent : sv.send (task.watermark .low low) w₂ with ⟨answer, last, w₃⟩
  cases answer with
  | error e =>
      rw [ReadTask.sendEvent_bind_error sent]
      simpa [StageResult.after_mk, Entry.call, ReadTask.lowEntries, ReadTask.positionEntries] using
        ReadCourse.lowRefused config split asked read sent
  | ok u =>
  rw [ReadTask.sendEvent_bind_ok sent, Stage.look_bind, Stage.note, Stage.write_bind,
    Stage.bind_apply]
  have scanning := scanCourse_scan sv task schema ⟨some low, marks.high⟩ limit
    (.start task.part low (sv.clock w₃)) w₃
  dsimp only
  rcases run : task.scan sv limit schema (.start task.part low (sv.clock w₃))
    ⟨w₃, ⟨some low, marks.high⟩⟩ with ⟨value, journal, state⟩
  rw [run] at scanning
  cases value with
  | error stop =>
      simpa [StageResult.after_mk, Entry.call, ReadTask.lowEntries, ReadTask.positionEntries,
        ReadTask.scanNote] using ReadCourse.stopped config split asked read sent scanning
  | ok scan =>
      obtain ⟨w₄, marks'⟩ := state
      obtain rfl : marks' = ⟨some low, marks.high⟩ := scanning.marks_eq
      simpa [StageResult.after_after, Entry.call, ReadTask.lowEntries, ReadTask.positionEntries,
        ReadTask.scanNote] using ReadCourse.scanned config split asked read sent scanning
          (windowCourse_closeWindow sv task low scan ⟨some low, marks.high⟩ w₄)

namespace ReadTask

def outcomeOf (value : Except Stop OffsetContext) : Option Outcome :=
  (endingOf value).outcome?

theorem outcome_execute (sv : Services σ) (task : ReadTask) (limit : Nat) (marks : Watermarks) (w : σ) :
    (task.execute sv limit marks w).outcome = outcomeOf (task.stages sv limit ⟨w, marks⟩).value := rfl

end ReadTask

section

variable {value : Except Stop OffsetContext}

theorem outcomeOf_eq_none_iff :
    ReadTask.outcomeOf value = none ↔ ∃ stop, value = .error stop ∧ stop.isCut = true := by
  rcases value with (_ | _ | _) | _ <;>
    simp [ReadTask.outcomeOf, ReadTask.endingOf, Ending.outcome?, Stop.isCut]

theorem isSome_outcomeOf_iff :
    (ReadTask.outcomeOf value).isSome = true ↔ ∀ stop, value = .error stop → stop.isCut = false := by
  rcases value with (_ | _ | _) | _ <;>
    simp [ReadTask.outcomeOf, ReadTask.endingOf, Ending.outcome?, Stop.isCut]

theorem endingOf_eq_unfinished_iff :
    ReadTask.endingOf value = .unfinished ↔ value = .error .rowLimit := by
  rcases value with (_ | _ | _) | _ <;> simp [ReadTask.endingOf]

theorem endingOf_eq_overflowed_iff :
    ReadTask.endingOf value = .overflowed ↔ value = .error .overflow := by
  rcases value with (_ | _ | _) | _ <;> simp [ReadTask.endingOf]

theorem Outcome.ofError_ne_completed (e : ReadError) (offset : OffsetContext) :
    Outcome.ofError e ≠ .completed offset := by
  cases e <;> exact nofun

theorem Outcome.ofError_eq_interrupted_iff {e : ReadError} :
    Outcome.ofError e = .interrupted ↔ e = .interrupted := by
  cases e <;> simp [ofError]

theorem Outcome.ofError_eq_failed_iff {e e' : ReadError} :
    Outcome.ofError e = .failed e' ↔ e = e' ∧ e' ≠ .interrupted := by
  cases e <;> cases e' <;> simp [ofError]

theorem outcomeOf_eq_completed_iff {offset : OffsetContext} :
    ReadTask.outcomeOf value = some (.completed offset) ↔ value = .ok offset := by
  rcases value with (_ | _ | _) | _ <;>
    simp [ReadTask.outcomeOf, ReadTask.endingOf, Ending.outcome?, Outcome.ofError_ne_completed]

theorem outcomeOf_eq_interrupted_iff :
    ReadTask.outcomeOf value = some .interrupted ↔ value = .error (.failed .interrupted) := by
  rcases value with (_ | _ | _) | _ <;>
    simp [ReadTask.outcomeOf, ReadTask.endingOf, Ending.outcome?, Outcome.ofError_eq_interrupted_iff]

theorem outcomeOf_eq_failed_iff {e : ReadError} :
    ReadTask.outcomeOf value = some (.failed e) ↔ value = .error (.failed e) ∧ e ≠ .interrupted := by
  rcases value with (_ | _ | _) | _ <;>
    simp [ReadTask.outcomeOf, ReadTask.endingOf, Ending.outcome?, Outcome.ofError_eq_failed_iff]

end

end SplitSnapshot
