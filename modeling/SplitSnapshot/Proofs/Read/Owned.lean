import SplitSnapshot.Proofs.Read.Calls

namespace SplitSnapshot

namespace ReadTask

def owns (task : ReadTask) : SplitEvent → Bool
  | .watermark w => w.split = task.split.splitId
  | .completed splitId => splitId = task.split.splitId
  | .dataChange c => c.table = task.split.table

def OwnsSendings (task : ReadTask) (journal : List Entry) : Prop :=
  ∀ s ∈ sendings journal, task.owns s.1 = true

theorem ownsSendings_calls {task : ReadTask} {journal : List Entry} :
    task.OwnsSendings (calls journal) ↔ task.OwnsSendings journal := by
  rw [OwnsSendings, sendings_calls, OwnsSendings]

@[simp] theorem ownsSendings_nil (task : ReadTask) : task.OwnsSendings [] :=
  List.forall_mem_nil _

@[simp] theorem ownsSendings_cons {task : ReadTask} {entry : Entry} {journal : List Entry} :
    task.OwnsSendings (entry :: journal) ↔
      (∀ s ∈ entry.sending?, task.owns s.1 = true) ∧ task.OwnsSendings journal := by
  cases h : entry.sending? <;> simp [OwnsSendings, sendings, h]

@[simp] theorem ownsSendings_append {task : ReadTask} {first second : List Entry} :
    task.OwnsSendings (first ++ second) ↔ task.OwnsSendings first ∧ task.OwnsSendings second := by
  simp [OwnsSendings, sendings, or_imp, forall_and]

end ReadTask

section

variable {σ : Type} {sv : Services σ} {task : ReadTask} {marks : Watermarks} {scan : ScanContext}
  {w : σ}

theorem RowCourse.ownsSendings {width : Nat} {timer : ProgressTimer}
    {r : StageResult σ (ScanContext × Except ReadError Unit)}
    (h : RowCourse sv task width marks scan timer w r) : task.OwnsSendings r.journal := by
  induction h with
  | limit | untimed => simp
  | cancelled stop => simp [Entry.sending?]
  -- the notes between the calls send nothing
  | failed go read | ended go read | overrun go read late =>
      rw [← ReadTask.ownsSendings_calls]
      simp [Entry.isCall, Entry.sending?]
  | refused go read sent =>
      rw [← ReadTask.ownsSendings_calls]
      simp [Entry.isCall, Entry.sending?, ReadTask.rowEvent, ReadTask.owns]
  | sent go read sent rest ih =>
      rw [← ReadTask.ownsSendings_calls] at ih ⊢
      simpa [Entry.isCall, Entry.sending?, ReadTask.rowEvent, ReadTask.owns, StageResult.after]
        using ih

theorem ScanCourse.ownsSendings {schema : TableSchema} {r : StageResult σ ScanContext}
    (h : ScanCourse sv task schema marks scan w r) : task.OwnsSendings r.journal := by
  rw [← ReadTask.ownsSendings_calls]
  cases h with
  | unopened opened => simp [Entry.isCall, Entry.sending?]
  | unfinished opened rows | broken opened rows closed | exported opened rows closed =>
      have owned := ReadTask.ownsSendings_calls.2 rows.ownsSendings
      simpa [Entry.isCall, Entry.sending?] using owned

theorem WindowCourse.ownsSendings {low : Lsn} {r : StageResult σ OffsetContext}
    (h : WindowCourse sv task low scan marks w r) : task.OwnsSendings r.journal := by
  rw [← ReadTask.ownsSendings_calls]
  cases h <;> simp [Entry.isCall, Entry.sending?, ReadTask.owns, ReadTask.watermark]

theorem ReadCourse.ownsSendings {r : StageResult σ OffsetContext} (h : ReadCourse sv task marks w r) :
    task.OwnsSendings r.journal := by
  rw [← ReadTask.ownsSendings_calls]
  cases h with
  | stopped config split asked read sent scanning =>
      have owned := ReadTask.ownsSendings_calls.2 scanning.ownsSendings
      simpa [Entry.isCall, Entry.sending?, ReadTask.owns, ReadTask.watermark] using owned
  | scanned config split asked read sent scanning closing =>
      have scanned := ReadTask.ownsSendings_calls.2 scanning.ownsSendings
      have closed := ReadTask.ownsSendings_calls.2 closing.ownsSendings
      simpa [Entry.isCall, Entry.sending?, ReadTask.owns, ReadTask.watermark, StageResult.after]
        using ⟨scanned, closed⟩
  | _ => simp [Entry.isCall, Entry.sending?, ReadTask.owns, ReadTask.watermark]

theorem ReadTask.owns_eq_false {task other : ReadTask} {event : SplitEvent}
    (ids : task.split.splitId ≠ other.split.splitId) (tables : task.split.table ≠ other.split.table)
    (h : other.owns event = true) : task.owns event = false := by
  cases event <;> simp only [owns, decide_eq_true_eq, decide_eq_false_iff_not] at h ⊢ <;> rw [h]
  · exact Ne.symm ids
  · exact Ne.symm tables
  · exact Ne.symm ids

theorem ReadTask.execute_ownsSendings (sv : Services σ) (task : ReadTask) (limit : Nat)
    (marks : Watermarks) (w : σ) : task.OwnsSendings (task.execute sv limit marks w).journal := by
  rw [← ownsSendings_calls, calls_execute, ownsSendings_calls]
  exact (readCourse_stages sv task marks limit w).ownsSendings

end

end SplitSnapshot
