import SplitSnapshot.Proofs.Read.Calls

namespace SplitSnapshot

variable {σ : Type}

namespace ReadTask

@[simp] theorem metricUpdates_progressEntries (task : ReadTask) (scan : ScanContext)
    (timer : ProgressTimer) (now : Nat) : metricUpdates (task.progressEntries scan timer now) = [] := by
  unfold progressEntries
  split <;> rfl

@[simp] theorem metricUpdates_rowEntries (task : ReadTask) (scan : ScanContext)
    (timer : ProgressTimer) (notes : List LogEntry) (row : Row) (now : Nat) :
    metricUpdates (task.rowEntries scan timer notes row now) = [] := by
  simp [rowEntries, Entry.update?]

@[simp] theorem metricUpdates_closingEntries (task : ReadTask) (notes : List LogEntry)
    (closing : Except ReadError Unit) (rows : Nat) :
    metricUpdates (task.closingEntries notes closing rows) = [.rows (UInt64.ofNat rows)] := by
  simp [closingEntries, Entry.update?]

@[simp] theorem metricUpdates_lowEntries (task : ReadTask) (notes : List LogEntry) (low : Lsn) :
    metricUpdates (task.lowEntries notes low) = [] := by
  simp [lowEntries, positionEntries, Entry.update?]

@[simp] theorem metricUpdates_highEntries (task : ReadTask) (notes : List LogEntry) (high : Lsn) :
    metricUpdates (task.highEntries notes high) = [] := by
  simp [highEntries, positionEntries, Entry.update?]

end ReadTask

section

variable {sv : Services σ} {task : ReadTask} {marks : Watermarks} {scan : ScanContext} {w : σ}

theorem RowCourse.updates {width : Nat} {timer : ProgressTimer}
    {r : StageResult σ (ScanContext × Except ReadError Unit)}
    (h : RowCourse sv task width marks scan timer w r) :
    metricUpdates r.journal = [] ∧ ∀ scan' exported, r.value = .ok (scan', exported) →
      scan'.rows = scan.rows + (rowsRead (calls r.journal)).length := by
  induction h with
  | limit | untimed => exact ⟨rfl, nofun⟩
  | cancelled stop =>
      refine ⟨rfl, ?_⟩
      rintro _ _ ⟨⟩
      rfl
  | failed go read | ended go read =>
      refine ⟨by simp [Entry.update?], ?_⟩
      rintro _ _ ⟨⟩
      simp [Entry.isCall, Entry.row?]
  | overrun go read late =>
      refine ⟨by simp, ?_⟩
      rintro _ _ ⟨⟩
  | refused go read sent =>
      refine ⟨by simp [Entry.update?], ?_⟩
      rintro _ _ ⟨⟩
      simp [Entry.isCall, Entry.row?, ScanContext.withRow]
  | sent go read sent rest ih =>
      refine ⟨by simp [StageResult.after, Entry.update?, ih.1], fun scan' exported hv => ?_⟩
      rw [ih.2 scan' exported hv]
      simp [StageResult.after, Entry.isCall, Entry.row?, ScanContext.withRow]
      omega

theorem ScanCourse.updates {schema : TableSchema} {r : StageResult σ ScanContext}
    (h : ScanCourse sv task schema marks scan w r) :
    metricUpdates r.journal = [] ∧ ((∀ stop, r.value = .error stop → stop.isCut = false) →
        rowsRead (calls r.journal) = []) ∨
      metricUpdates r.journal =
        [.rows (UInt64.ofNat (scan.rows + (rowsRead (calls r.journal)).length))] := by
  cases h with
  | unopened opened => exact .inl ⟨by simp [Entry.update?], fun _ => by simp [Entry.isCall, Entry.row?]⟩
  | unfinished opened rows =>
      refine .inl ⟨by simp [Entry.update?, rows.updates.1], fun h => ?_⟩
      cases (rows.isCut rfl).symm.trans (h _ rfl)
  | broken opened rows closed | exported opened rows closed =>
      obtain ⟨uncounted, counted⟩ := rows.updates
      refine .inr ?_
      simp [uncounted, counted _ _ rfl, Entry.update?, Entry.isCall, Entry.row?]

theorem WindowCourse.updates {low : Lsn} {r : StageResult σ OffsetContext}
    (h : WindowCourse sv task low scan marks w r) :
    metricUpdates r.journal = [] ∧ rowsRead (calls r.journal) = [] := by
  cases h <;> refine ⟨?_, ?_⟩ <;> simp [Entry.update?, Entry.isCall, Entry.row?]

theorem ReadCourse.updates {r : StageResult σ OffsetContext} (h : ReadCourse sv task marks w r) :
    metricUpdates r.journal = [] ∧ ((∀ stop, r.value = .error stop → stop.isCut = false) →
        rowsRead (calls r.journal) = []) ∨
      metricUpdates r.journal = [.rows (UInt64.ofNat (rowsRead (calls r.journal)).length)] := by
  cases h with
  | stopped config split asked read sent scanning =>
      rcases scanning.updates with ⟨uncounted, unread⟩ | counted
      · refine .inl ⟨by simp [Entry.update?, uncounted], fun h => ?_⟩
        simp [Entry.isCall, Entry.row?, unread (by simpa using h)]
      · refine .inr ?_
        simp [Entry.update?, Entry.isCall, Entry.row?, counted, ScanContext.start]
  | scanned config split asked read sent scanning closing =>
      obtain ⟨quiet, rowless⟩ := closing.updates
      rcases scanning.updates with ⟨uncounted, unread⟩ | counted
      · refine .inl ⟨?_, fun _ => ?_⟩
        · simp [StageResult.after, Entry.update?, uncounted, quiet]
        · have unread := unread (by simp)
          simp [StageResult.after, Entry.isCall, Entry.row?, rowless, unread]
      · refine .inr ?_
        simp [StageResult.after, Entry.update?, Entry.isCall, Entry.row?, counted, quiet,
          rowless, ScanContext.start]
  | _ =>
      refine .inl ⟨?_, fun _ => ?_⟩
      · simp [Entry.update?]
      · simp [Entry.isCall, Entry.row?]

end

def Outcome.update (elapsed : Duration) : Outcome → MetricUpdate
  | completed _ => .completed elapsed
  | interrupted => .interrupted
  | failed e => .failed e.code

namespace ReadTask

theorem metricUpdates_ending (task : ReadTask) (elapsed : Duration) (outcome : Option Outcome) :
    metricUpdates ((outcome.map (task.closing elapsed)).getD []) =
      (outcome.map (Outcome.update elapsed)).toList := by
  rcases outcome with _ | (_ | _ | _) <;> rfl

theorem rowsRead_execute (sv : Services σ) (task : ReadTask) (limit : Nat) (marks : Watermarks)
    (w : σ) : rowsRead (task.execute sv limit marks w).journal =
      rowsRead (calls (task.stages sv limit ⟨w, marks⟩).journal) := by
  rw [← rowsRead_calls, calls_execute]

theorem metricUpdates_execute (sv : Services σ) (task : ReadTask) (limit : Nat) (marks : Watermarks)
    (w : σ) : ∃ elapsed rows,
    metricUpdates (task.execute sv limit marks w).journal = .started :: (rows ++
      ((task.execute sv limit marks w).outcome.map (Outcome.update elapsed)).toList) ∧
    (rows = [] ∧ ((task.execute sv limit marks w).outcome ≠ none →
        rowsRead (task.execute sv limit marks w).journal = []) ∨
      rows = [.rows (UInt64.ofNat (rowsRead (task.execute sv limit marks w).journal).length)]) := by
  refine ⟨⟨sv.clock (task.stages sv limit ⟨w, marks⟩).state.world - sv.clock w⟩,
    metricUpdates (task.stages sv limit ⟨w, marks⟩).journal, ?_, ?_⟩
  · simp [execute, Run.outcome, metricUpdates_ending, Entry.update?]
  · rw [rowsRead_execute]
    refine (readCourse_stages sv task marks limit w).updates.imp_left ?_
    rintro ⟨uncounted, unread⟩
    refine ⟨uncounted, fun returned => unread fun stop hv => ?_⟩
    cases cut : stop.isCut with
    | false => rfl
    | true => exact absurd (outcomeOf_eq_none_iff.2 ⟨stop, hv, cut⟩) returned

end ReadTask

end SplitSnapshot
