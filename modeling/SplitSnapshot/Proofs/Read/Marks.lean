import SplitSnapshot.Proofs.Read.Replay

namespace SplitSnapshot

variable {σ : Type}

def Watermarks.of (marks : Watermarks) : WatermarkKind → Option Lsn
  | .low => marks.low
  | .high => marks.high

def ReadTask.RecordsDelivered (task : ReadTask) (run : Run σ) : Prop :=
  ∀ kind p, run.marks.of kind = some p ↔ task.watermark kind p ∈ acceptedEvents run.journal

namespace Story

variable {task : ReadTask} {story : Story} {kind : WatermarkKind} {p : Lsn} {e : ReadError}

theorem refused_iff : .sent (task.watermark kind p) (.error e) ∈ story.calls task ↔
    (task.watermark kind p, e) ∈ story.refusals task := by
  rw [← mem_sendings, sendings_calls]
  simp

theorem sent_iff : (∃ answer, .sent (task.watermark kind p) answer ∈ story.calls task) ↔
    task.watermark kind p ∈ story.accepted task ∨
      ∃ e, (task.watermark kind p, e) ∈ story.refusals task := by
  constructor
  · rintro ⟨e | u, h⟩
    · exact .inr ⟨e, refused_iff.1 h⟩
    · rw [← acceptedEvents_calls]
      exact .inl (mem_acceptedEvents.2 h)
  · rintro (h | ⟨e, h⟩)
    · rw [← acceptedEvents_calls] at h
      exact ⟨.ok (), mem_acceptedEvents.1 h⟩
    · exact ⟨.error e, refused_iff.2 h⟩

theorem recorded_iff : (story.marks .none).of kind = some p ↔
    task.watermark kind p ∈ story.accepted task ∨
      ∃ e, (task.watermark kind p, e) ∈ story.refusals task := by
  cases story with
  | broken schema low time ds ending closing =>
      cases ending <;> cases kind <;>
        simp [marks, Watermarks.of, Watermarks.none, accepted, refusals, RowsEnd.refusals,
          ReadTask.watermark, eq_comm]
  | exported schema low time ds finish closing window =>
      cases window <;> cases kind <;>
        simp [marks, WindowEnd.marks, Watermarks.of, Watermarks.none, accepted, WindowEnd.accepted,
          refusals, WindowEnd.refusals, ReadTask.watermark, eq_comm]
  | _ =>
      cases kind <;>
        simp [marks, Watermarks.of, Watermarks.none, accepted, refusals, ReadTask.watermark, eq_comm]

theorem not_accepted_of_refused (h : (task.watermark kind p, e) ∈ story.refusals task) :
    task.watermark kind p ∉ story.accepted task := by
  cases story with
  | broken schema low time ds ending closing =>
      cases ending <;> simp [refusals, RowsEnd.refusals, ReadTask.watermark] at h
  | exported schema low time ds finish closing window =>
      cases window <;>
        simp_all [accepted, WindowEnd.accepted, refusals, WindowEnd.refusals, ReadTask.watermark]
  | lowRefused schema low e => simp [accepted]
  | _ => cases h

end Story

namespace ReadTask

/-- A read that began with no watermark on record puts each one there as it hands it to the sink. The
record therefore shows what was delivered just where the sink refused no watermark. -/
theorem execute_recordsSent (sv : Services σ) (task : ReadTask) (limit : Nat) (w : σ) :
    (task.execute sv limit .none w).Replays sv task w ∧
    (∀ kind p, (task.execute sv limit .none w).marks.of kind = some p ↔
      ∃ answer, .sent (task.watermark kind p) answer ∈ (task.execute sv limit .none w).journal) ∧
    (task.RecordsDelivered (task.execute sv limit .none w) ↔
      ∀ kind p e, .sent (task.watermark kind p) (.error e) ∉
        (task.execute sv limit .none w).journal) := by
  obtain ⟨story, hcalls, hm⟩ := task.execute_story_marks sv limit .none w
  have mem (event answer) : .sent event answer ∈ (task.execute sv limit .none w).journal ↔
      .sent event answer ∈ story.calls task := by
    rw [← hcalls]
    exact (mem_calls rfl).symm
  have accepted : acceptedEvents (task.execute sv limit .none w).journal = story.accepted task := by
    rw [← SplitSnapshot.acceptedEvents_calls, hcalls, Story.acceptedEvents_calls]
  simp only [RecordsDelivered, mem, accepted, hm, Story.refused_iff, Story.sent_iff]
  refine ⟨task.execute_replays sv limit .none w, fun kind p => Story.recorded_iff, ?_⟩
  constructor
  · intro delivered kind p e refused
    have recorded := Story.recorded_iff.2 (.inr ⟨e, refused⟩)
    exact Story.not_accepted_of_refused refused ((delivered kind p).1 recorded)
  · intro unrefused kind p
    rw [Story.recorded_iff, or_iff_left]
    rintro ⟨e, refused⟩
    exact unrefused kind p e refused

def emptyTable (events : Nat) : Services Nat where
  schema table w := ⟨.ok ⟨table, []⟩, [], w⟩
  position w := ⟨.ok ⟨0x10⟩, [], w⟩
  openScan _ _ _ w := ⟨.ok (), [], w⟩
  nextRow w := ⟨.ok none, [], w⟩
  closeScan w := ⟨.ok (), [], w⟩
  send _ w := ⟨if w < events then .ok () else .error (.sinkClosed .receiverDropped), [], w + 1⟩
  cancelled _ := false
  clock _ := 0
  wallMillis _ := 0

def ordersTask : ReadTask :=
  ⟨.whole "S1" (.ofNames "public" "orders") "id" .int64, .standard, .standard⟩

theorem recordsDelivered_highRefused :
    ¬ ordersTask.RecordsDelivered (ordersTask.execute (emptyTable 1) 1 .none 0) := by
  intro delivered
  have recorded := (delivered .high ⟨0x10⟩).1 rfl
  have one : acceptedEvents (ordersTask.execute (emptyTable 1) 1 .none 0).journal =
      [ordersTask.watermark .low ⟨0x10⟩] := rfl
  rw [one, List.mem_singleton] at recorded
  cases recorded

end ReadTask

end SplitSnapshot
