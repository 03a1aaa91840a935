import SplitSnapshot.Proofs.Read.Replay

namespace SplitSnapshot

variable {σ : Type}

namespace ReadTask

def bracket (task : ReadTask) (low high : Lsn) (changes : List DataChange) : List SplitEvent :=
  .watermark ⟨task.split.splitId, task.part, .low, low⟩ :: (changes.map .dataChange ++
    [.watermark ⟨task.split.splitId, task.part, .high, high⟩, .completed task.split.splitId])

structure Bracketed (task : ReadTask) (journal : List Entry) : Prop where
  grammar : ∃ low high changes, acceptedEvents journal <+: task.bracket low high changes
  low_first : ∀ low, task.watermark .low low ∈ acceptedEvents journal →
    (positionAnswers journal)[0]? = some (.ok low)
  high_second : ∀ high, task.watermark .high high ∈ acceptedEvents journal →
    (positionAnswers journal)[1]? = some (.ok high) ∧
      ∃ low, (positionAnswers journal)[0]? = some (.ok low) ∧ low.value ≤ high.value
  refusal_last : ∀ before event e after,
    sendings journal = before ++ (event, .error e) :: after → after = []

theorem Bracketed.of_calls {task : ReadTask} {journal : List Entry}
    (h : task.Bracketed (calls journal)) : task.Bracketed journal := by
  obtain ⟨grammar, low_first, high_second, refusal_last⟩ := h
  simp only [acceptedEvents_calls, positionAnswers_calls, sendings_calls] at *
  exact ⟨grammar, low_first, high_second, refusal_last⟩

end ReadTask

theorem Lsn.le_of_precedes {low high : Lsn} (h : high.precedes low = false) :
    low.value ≤ high.value := by
  simpa [precedes, UInt64.le_iff_toNat_le] using h

theorem WindowEnd.accepted_prefix (task : ReadTask) (window : WindowEnd) :
    ∃ high, window.accepted task <+:
      [task.watermark .high high, .completed task.split.splitId] := by
  cases window with
  | uncompleted high e => exact ⟨high, [.completed task.split.splitId], rfl⟩
  | completed high => exact ⟨high, [], rfl⟩
  | _ => exact ⟨⟨0⟩, List.nil_prefix⟩

namespace Story

variable {task : ReadTask} {story : Story}

theorem accepted_prefix_bracket (task : ReadTask) (story : Story) :
    ∃ low high changes, story.accepted task <+: task.bracket low high changes := by
  cases story with
  | unopened schema low e time =>
      refine ⟨low, low, [], List.prefix_cons_inj _ |>.2 List.nil_prefix⟩
  | broken schema low time ds ending closing =>
      refine ⟨low, low, ds.map Delivery.change, (List.prefix_cons_inj _).2 ?_⟩
      rw [List.map_map]
      exact List.prefix_append _ _
  | exported schema low time ds finish closing window =>
      obtain ⟨high, h⟩ := window.accepted_prefix task
      refine ⟨low, high, ds.map Delivery.change, (List.prefix_cons_inj _).2 ?_⟩
      rw [List.map_map]
      exact (List.prefix_append_right_inj _).2 h
  | _ => exact ⟨⟨0⟩, ⟨0⟩, [], List.nil_prefix⟩

theorem position_of_low_accepted {low : Lsn} (h : task.watermark .low low ∈ story.accepted task) :
    story.positions[0]? = some (.ok low) := by
  cases story with
  | exported schema low' time ds finish closing window =>
      cases window <;> simp_all [accepted, positions, ReadTask.watermark, WindowEnd.accepted]
  | _ => simp_all [accepted, positions, ReadTask.watermark]

theorem position_of_high_accepted {high : Lsn} (hc : story.Consistent task)
    (h : task.watermark .high high ∈ story.accepted task) :
    story.positions[1]? = some (.ok high) ∧
      ∃ low, story.positions[0]? = some (.ok low) ∧ low.value ≤ high.value := by
  cases story with
  | exported schema low time ds finish closing window =>
      obtain ⟨-, -, -, order⟩ := hc
      have hw : task.watermark .high high ∈ window.accepted task := by
        simpa [accepted, ReadTask.watermark] using h
      have hp : window.position = .ok high ∧ high.precedes low = false := by
        cases window <;> simp_all [WindowEnd.accepted, WindowEnd.position, WindowEnd.Ordered,
          ReadTask.watermark]
      exact ⟨by simp [positions, hp.1], low, rfl, Lsn.le_of_precedes hp.2⟩
  | _ => simp [accepted, ReadTask.watermark] at h

theorem stop?_eq_none_iff (hc : story.Consistent task) :
    story.stop? task = none ↔ .completed task.split.splitId ∈ story.accepted task := by
  cases story with
  | exported schema low time ds finish closing window =>
      cases window <;> simp [stop?, accepted, WindowEnd.stop?, WindowEnd.accepted,
        ReadTask.watermark]
  | broken schema low time ds ending closing =>
      obtain ⟨-, -, -, hs, -⟩ := hc
      simp [stop?, accepted, ReadTask.watermark, Option.isSome_iff_ne_none.1 hs]
  | _ => simp [stop?, accepted, ReadTask.watermark]

theorem eq_nil_of_refusal {before after : List (SplitEvent × Except ReadError Unit)}
    {event : SplitEvent} {e : ReadError}
    (h : sendings (story.calls task) = before ++ (event, .error e) :: after) : after = [] := by
  have hl := story.length_refusals_le task
  have accepted_ok (rest : List (SplitEvent × Except ReadError Unit)) :
      (story.accepted task).map (·, .ok ()) ≠ before ++ (event, .error e) :: rest := by
    intro eq
    have hm : (event, Except.error e) ∈ (story.accepted task).map (·, Except.ok ()) := by
      rw [eq]
      simp
    simp at hm
  rw [sendings_calls] at h
  rcases List.eq_nil_or_concat after with rfl | ⟨init, last, rfl⟩
  · rfl
  · match hr : story.refusals task with
    | [] =>
        rw [hr, List.map_nil, List.append_nil] at h
        exact absurd h (accepted_ok _)
    | [refusal] =>
        rw [hr, List.concat_eq_append, ← List.cons_append, ← List.append_assoc] at h
        exact absurd (List.append_inj_left' h rfl) (accepted_ok _)
    | _ :: _ :: _ => simp [hr] at hl

theorem bracketed (hc : story.Consistent task) : task.Bracketed (story.calls task) where
  grammar := by
    rw [acceptedEvents_calls]
    exact story.accepted_prefix_bracket task
  low_first low h := by
    rw [acceptedEvents_calls] at h
    rw [positionAnswers_calls]
    exact position_of_low_accepted h
  high_second high h := by
    rw [acceptedEvents_calls] at h
    rw [positionAnswers_calls]
    exact position_of_high_accepted hc h
  refusal_last before event e after h := eq_nil_of_refusal h

end Story

namespace ReadTask

theorem completed_iff (sv : Services σ) (task : ReadTask) (limit : Nat) (marks : Watermarks)
    (w : σ) : (∃ offset, (task.execute sv limit marks w).outcome = some (.completed offset)) ↔
      Stop.of? (task.stages sv limit ⟨w, marks⟩).value = none := by
  simp only [outcome_execute, outcomeOf_eq_completed_iff]
  cases (task.stages sv limit ⟨w, marks⟩).value with
  | error stop => simp [Stop.of?]
  | ok offset => simp [Stop.of?]

theorem execute_bracketed (sv : Services σ) (task : ReadTask) (limit : Nat) (marks : Watermarks)
    (w : σ) :
    (task.execute sv limit marks w).Replays sv task w ∧
    task.Bracketed (task.execute sv limit marks w).journal ∧
      ((∃ offset, (task.execute sv limit marks w).outcome = some (.completed offset)) ↔
        .completed task.split.splitId ∈
          acceptedEvents (task.execute sv limit marks w).journal) := by
  obtain ⟨story, hcalls, hstop, hc⟩ := task.execute_story sv limit marks w
  refine ⟨task.execute_replays sv limit marks w, ?_, ?_⟩
  · exact .of_calls (hcalls ▸ Story.bracketed hc)
  · rw [completed_iff, hstop, Story.stop?_eq_none_iff hc, ← Story.acceptedEvents_calls, ← hcalls,
      acceptedEvents_calls]

end ReadTask

end SplitSnapshot
