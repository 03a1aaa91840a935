import SplitSnapshot.Proofs.Read.Replay

namespace SplitSnapshot

variable {σ : Type}

def SplitEvent.row? : SplitEvent → Option Row
  | dataChange c => some c.row
  | _ => none

def acceptedRows (journal : List Entry) : List Row :=
  (acceptedEvents journal).filterMap SplitEvent.row?

namespace ReadTask

structure DeliversRows (task : ReadTask) (schema : TableSchema) (journal : List Entry) : Prop where
  in_order : ∃ n ≤ (rowsRead journal).length,
    acceptedRows journal = ((rowsRead journal).take n).map fun row => row.fitTo schema.width
  full_width : ∀ row ∈ acceptedRows journal, row.values.length = schema.width
  before_high : ∀ high answer, .sent (task.watermark .high high) answer ∈ journal →
    (∃ time, .rowRead (.ok none) time ∈ journal) ∧ (∀ e time, .rowRead (.error e) time ∉ journal) ∧
      .cancellationChecked true ∉ journal ∧
        acceptedRows journal = (rowsRead journal).map fun row => row.fitTo schema.width

end ReadTask

theorem Row.length_fitTo (row : Row) (width : Nat) : (row.fitTo width).values.length = width := by
  simp only [fitTo, List.length_append, List.length_take, List.length_replicate]
  omega

theorem acceptedRows_calls (journal : List Entry) :
    acceptedRows (calls journal) = acceptedRows journal := by
  rw [acceptedRows, acceptedEvents_calls, acceptedRows]

theorem Delivery.filterMap_changedRow? (ds : List Delivery) :
    ds.filterMap (SplitEvent.row? ∘ fun d => SplitEvent.dataChange d.change) =
      ds.map fun d => d.change.row := by
  induction ds with
  | nil => rfl
  | cons d ds ih => exact congrArg (List.cons _) ih

namespace Story

variable {task : ReadTask} {story : Story}

def deliveries : Story → List Delivery
  | broken _ _ _ ds _ _ | exported _ _ _ ds _ _ _ => ds
  | _ => []

theorem acceptedRows_calls (task : ReadTask) (story : Story) :
    acceptedRows (story.calls task) = story.deliveries.map fun d => d.change.row := by
  rw [acceptedRows, acceptedEvents_calls]
  cases story with
  | exported schema low time ds finish closing window =>
      cases window <;> simp [accepted, deliveries, List.filterMap_cons, SplitEvent.row?,
        ReadTask.watermark, WindowEnd.accepted, Delivery.filterMap_changedRow?]
  | broken schema low time ds ending closing =>
      simp [accepted, deliveries, List.filterMap_cons, SplitEvent.row?, ReadTask.watermark,
        Delivery.filterMap_changedRow?]
  | _ => rfl

theorem rows_eq (story : Story) :
    ∃ lost, story.rows = story.deliveries.map Delivery.row ++ lost := by
  cases story with
  | broken schema low time ds ending closing => exact ⟨ending.lostRows, rfl⟩
  | _ => exact ⟨[], (List.append_nil _).symm⟩

theorem fitted (hc : story.Consistent task) {schema : TableSchema}
    (hs : story.schema? = some schema) : Fitted schema story.deliveries := by
  cases story with
  | broken => cases hs; exact hc.2.2.1
  | exported => cases hs; exact hc.2.2.1
  | _ => exact List.forall_mem_nil _

theorem exported_of_high {high : Lsn} {answer : Except ReadError Unit}
    (h : .sent (task.watermark .high high) answer ∈ story.calls task) :
    ∃ schema low time ds finish closing window,
      story = exported schema low time ds finish closing window := by
  cases story with
  | exported schema low time ds finish closing window => exact ⟨_, _, _, _, _, _, _, rfl⟩
  | broken schema low time ds ending closing =>
      cases ending <;> simp [calls, Delivery.calls, RowsEnd.calls, ReadTask.watermark] at h
  | _ => simp [calls, ReadTask.watermark] at h

theorem mem_schemaRead {schema : TableSchema} (h : story.schema? = some schema) :
    .schemaRead (.ok schema) ∈ story.calls task := by
  cases story with
  | invalid | schemaUnread => cases h
  | _ =>
      cases h
      simp [calls]

theorem rows_eq_nil (h : story.schema? = none) : story.rows = [] ∧ story.deliveries = [] := by
  cases story with
  | invalid | schemaUnread => exact ⟨rfl, rfl⟩
  | _ => cases h

theorem acceptedRows_eq {schema : TableSchema} (hf : Fitted schema story.deliveries) :
    acceptedRows (story.calls task) =
      (story.deliveries.map Delivery.row).map fun row => row.fitTo schema.width := by
  rw [acceptedRows_calls, List.map_map]
  exact List.map_congr_left hf

theorem deliversRows (hc : story.Consistent task) {schema : TableSchema}
    (hs : story.schema? = some schema) : task.DeliversRows schema (story.calls task) where
  in_order := by
    obtain ⟨lost, hr⟩ := story.rows_eq
    refine ⟨story.deliveries.length, ?_, ?_⟩
    · rw [rowsRead_calls, hr, List.length_append, List.length_map]
      exact Nat.le_add_right _ _
    · rw [rowsRead_calls, hr, acceptedRows_eq (fitted hc hs), List.take_left' (List.length_map _)]
  full_width row h := by
    rw [acceptedRows_eq (fitted hc hs)] at h
    obtain ⟨read, -, rfl⟩ := List.mem_map.1 h
    exact read.length_fitTo schema.width
  before_high high answer h := by
    obtain ⟨schema', low, time, ds, finish, closing, window, rfl⟩ := exported_of_high h
    refine ⟨⟨finish, ?_⟩, fun e time h => ?_, fun h => ?_, ?_⟩
    · simp [calls, RowsEnd.calls]
    · cases window <;> simp [calls, Delivery.calls, RowsEnd.calls, WindowEnd.calls] at h
    · cases window <;> simp [calls, Delivery.calls, RowsEnd.calls, WindowEnd.calls] at h
    · rw [rowsRead_calls, acceptedRows_eq (fitted hc hs)]
      rfl

end Story

namespace ReadTask

theorem DeliversRows.of_calls {task : ReadTask} {schema : TableSchema} {journal : List Entry}
    (h : task.DeliversRows schema (SplitSnapshot.calls journal)) :
    task.DeliversRows schema journal := by
  obtain ⟨in_order, full_width, before_high⟩ := h
  rw [rowsRead_calls] at in_order before_high
  rw [SplitSnapshot.acceptedRows_calls] at in_order full_width before_high
  refine ⟨in_order, full_width, fun high answer h => ?_⟩
  obtain ⟨⟨time, ended⟩, unfailed, uncancelled, all⟩ :=
    before_high high answer ((mem_calls rfl).2 h)
  exact ⟨⟨time, (mem_calls rfl).1 ended⟩, fun e time h => unfailed e time ((mem_calls rfl).2 h),
    fun h => uncancelled ((mem_calls rfl).2 h), all⟩

/-- No row is lost, sent twice or sent out of its turn: where the schema of the table was read, the
accepted rows are the first of the rows of the scan, and all of them once the high watermark is tried;
where it was not, there are no rows. -/
theorem execute_deliversRows (sv : Services σ) (task : ReadTask) (limit : Nat) (marks : Watermarks)
    (w : σ) :
    (task.execute sv limit marks w).Replays sv task w ∧
    (∀ schema, .schemaRead (.ok schema) ∈ (task.execute sv limit marks w).journal →
      task.DeliversRows schema (task.execute sv limit marks w).journal) ∧
    ((∀ schema, .schemaRead (.ok schema) ∉ (task.execute sv limit marks w).journal) →
      rowsRead (task.execute sv limit marks w).journal = [] ∧
        acceptedRows (task.execute sv limit marks w).journal = [] ∧
        ∀ high answer, .sent (task.watermark .high high) answer ∉
          (task.execute sv limit marks w).journal) := by
  obtain ⟨story, hcalls, -, hc⟩ := task.execute_story sv limit marks w
  refine ⟨task.execute_replays sv limit marks w, ?_, ?_⟩
  · intro schema h
    have hs : story.schema? = some schema := by
      apply Story.schema_of_mem
      rw [← hcalls]
      exact (mem_calls rfl).2 h
    apply DeliversRows.of_calls
    rw [hcalls]
    exact Story.deliversRows hc hs
  · intro h
    have hs : story.schema? = none := by
      cases hs : story.schema? with
      | none => rfl
      | some schema =>
          have hm : .schemaRead (.ok schema) ∈ story.calls task := Story.mem_schemaRead hs
          rw [← hcalls] at hm
          exact absurd ((mem_calls rfl).1 hm) (h schema)
    obtain ⟨hr, hd⟩ := Story.rows_eq_nil hs
    refine ⟨?_, ?_, fun high answer h => ?_⟩
    · rw [← rowsRead_calls, hcalls, Story.rowsRead_calls, hr]
    · rw [← acceptedRows_calls, hcalls, Story.acceptedRows_calls, hd]
      rfl
    · have hm : .sent (task.watermark .high high) answer ∈
          calls (task.execute sv limit marks w).journal := (mem_calls rfl).2 h
      rw [hcalls] at hm
      obtain ⟨_, _, _, _, _, _, _, rfl⟩ := Story.exported_of_high hm
      cases hs

end ReadTask

end SplitSnapshot
