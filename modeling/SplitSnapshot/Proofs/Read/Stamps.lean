import SplitSnapshot.Proofs.Offset.Counting
import SplitSnapshot.Proofs.Read.Bracket

namespace SplitSnapshot

variable {σ : Type}

def SplitEvent.change? : SplitEvent → Option DataChange
  | dataChange c => some c
  | _ => none

@[simp] def Entry.acceptedChange? (entry : Entry) : Option DataChange :=
  entry.accepted?.bind SplitEvent.change?

@[simp] abbrev acceptedChanges (journal : List Entry) : List DataChange :=
  shown Entry.acceptedChange? journal

theorem acceptedChanges_eq_filterMap (journal : List Entry) :
    acceptedChanges journal = (acceptedEvents journal).filterMap SplitEvent.change? :=
  List.filterMap_filterMap.symm

theorem SplitEvent.change?_comp_dataChange :
    SplitEvent.change? ∘ SplitEvent.dataChange = some := rfl

theorem acceptedChanges_eq {journal : List Entry} {changes : List DataChange}
    (h : acceptedEvents journal = changes.map .dataChange) : acceptedChanges journal = changes := by
  rw [acceptedChanges_eq_filterMap, h, List.filterMap_map, SplitEvent.change?_comp_dataChange,
    List.filterMap_some]

namespace OffsetContext

inductive Stamped (table : TableId) : OffsetContext → List DataChange → OffsetContext → Prop
  | nil {c} : Stamped table c [] c
  | cons {c row millis changes left} (rest : Stamped table (c.event table millis) changes left) :
      Stamped table c (⟨table, c.stamp table millis, row⟩ :: changes) left

theorem eventsFor_event (c : OffsetContext) (table : TableId) (millis : Int) :
    (c.event table millis).eventsFor table = c.eventsFor table + 1 := by
  rw [eventsFor_event_eq, if_pos rfl]

namespace Stamped

variable {table : TableId} {c left : OffsetContext} {changes : List DataChange}

theorem unmoved (h : Stamped table c changes left) :
    left.part = c.part ∧ left.position = c.position ∧ left.snapshot = c.snapshot := by
  induction h with
  | nil => exact ⟨rfl, rfl, rfl⟩
  | cons rest ih => exact ih

theorem eventsFor_eq (h : Stamped table c changes left) :
    left.eventsFor table = c.eventsFor table + changes.length := by
  induction h with
  | nil => rfl
  | cons rest ih =>
      rw [ih, eventsFor_event, List.length_cons]
      omega

theorem getElem?_eq_some (h : Stamped table c changes left) {i : Nat} {change : DataChange}
    (hi : changes[i]? = some change) :
    change.table = table ∧ change.offset.position = c.position ∧
      change.offset.snapshot = c.snapshot ∧ change.offset.sequence = c.eventsFor table + (i + 1) := by
  induction h generalizing i with
  | nil => cases hi
  | cons rest ih =>
      cases i with
      | zero =>
          cases hi
          exact ⟨rfl, rfl, rfl, rfl⟩
      | succ i =>
          obtain ⟨named, position, snapshot, sequence⟩ := ih hi
          refine ⟨named, position, snapshot, ?_⟩
          rw [sequence, eventsFor_event]
          omega

theorem lastTable_eq (h : Stamped table c changes left) :
    left.lastTable = if 0 < changes.length then some table else c.lastTable := by
  induction h with
  | nil => rfl
  | cons rest ih =>
      rw [ih, List.length_cons, if_pos (Nat.succ_pos _)]
      split
      · rfl
      · rfl

theorem millis_eq (h : Stamped table c changes left) :
    left.millis = (changes.getLast?.map fun change => change.offset.millis).getD c.millis := by
  induction h with
  | nil => rfl
  | @cons c row millis changes left rest ih =>
      rw [ih]
      cases changes with
      | nil => rfl
      | cons change changes => rw [List.getLast?_cons_cons]; rfl

theorem totalEvents_eq (h : Stamped table c changes left)
    (only : c.counts = [] ∨ c.counts = [(table.text, c.eventsFor table)]) :
    left.totalEvents = c.eventsFor table + changes.length := by
  induction h with
  | @nil c =>
      rcases only with none | one
      · simp [totalEvents, eventsFor, none, Fields.get?]
      · rw [totalEvents, one]
        simp
  | @cons c row millis changes left rest ih =>
      have counted : (c.event table millis).counts =
          [(table.text, (c.event table millis).eventsFor table)] := by
        rw [eventsFor_event]
        rcases only with none | one
        · simp [event, none, Fields.put]
        · simp [event, one, Fields.put]
      rw [ih (.inr counted), eventsFor_event, List.length_cons]
      omega

end Stamped

end OffsetContext

theorem RowCourse.stamped {sv : Services σ} {task : ReadTask} {width : Nat} {marks : Watermarks}
    {scan : ScanContext} {timer : ProgressTimer} {w : σ}
    {r : StageResult σ (ScanContext × Except ReadError Unit)}
    (h : RowCourse sv task width marks scan timer w r) :
    ∃ changes left, acceptedEvents (calls r.journal) = changes.map .dataChange ∧
      scan.offset.Stamped task.split.table changes left ∧
        ∀ scan', r.value = .ok (scan', .ok ()) →
          scan'.offset = left ∧ (rowsRead (calls r.journal)).length = changes.length := by
  induction h with
  | limit | untimed => exact ⟨[], _, rfl, .nil, by rintro _ ⟨⟩⟩
  | cancelled stop => exact ⟨[], _, rfl, .nil, by rintro _ ⟨⟩⟩
  | failed go read | overrun go read late =>
      exact ⟨[], _, by simp [Entry.isCall, Entry.accepted?], .nil, by rintro _ ⟨⟩⟩
  | ended go read =>
      refine ⟨[], _, by simp [Entry.isCall, Entry.accepted?], .nil, ?_⟩
      rintro _ ⟨⟩
      exact ⟨rfl, by simp [Entry.isCall, Entry.row?]⟩
  | refused go read sent =>
      exact ⟨[], _, by simp [Entry.isCall, Entry.accepted?], .nil, by rintro _ ⟨⟩⟩
  | @sent scan _ _ row _ w₁ _ _ r go read sent rest ih =>
      obtain ⟨changes, left, accepted, stamped, finished⟩ := ih
      refine ⟨⟨task.split.table, scan.offset.stamp task.split.table (sv.wallMillis w₁),
        row.fitTo width⟩ :: changes, left, ?_, .cons stamped, fun scan' hv => ?_⟩
      · simpa [StageResult.after, Entry.isCall, Entry.accepted?, ReadTask.rowEvent] using accepted
      · obtain ⟨offset, read⟩ := finished scan' hv
        refine ⟨offset, ?_⟩
        simpa [StageResult.after, Entry.isCall, Entry.row?] using read

theorem ScanCourse.stamped {sv : Services σ} {task : ReadTask} {schema : TableSchema}
    {marks : Watermarks} {scan : ScanContext} {w : σ} {r : StageResult σ ScanContext}
    (h : ScanCourse sv task schema marks scan w r) :
    ∃ changes left, acceptedEvents (calls r.journal) = changes.map .dataChange ∧
      scan.offset.Stamped task.split.table changes left ∧
        ∀ scan', r.value = .ok scan' →
          scan'.offset = left ∧ (rowsRead (calls r.journal)).length = changes.length := by
  cases h with
  | unopened opened =>
      exact ⟨[], _, by simp [Entry.isCall, Entry.accepted?], .nil, by rintro _ ⟨⟩⟩
  | unfinished opened rows =>
      obtain ⟨changes, left, accepted, stamped, -⟩ := rows.stamped
      refine ⟨changes, left, ?_, stamped, by rintro _ ⟨⟩⟩
      simpa [Entry.isCall, Entry.accepted?] using accepted
  | broken opened rows closed =>
      obtain ⟨changes, left, accepted, stamped, -⟩ := rows.stamped
      refine ⟨changes, left, ?_, stamped, by rintro _ ⟨⟩⟩
      simpa [Entry.isCall, Entry.accepted?] using accepted
  | exported opened rows closed =>
      obtain ⟨changes, left, accepted, stamped, finished⟩ := rows.stamped
      obtain ⟨offset, read⟩ := finished _ rfl
      refine ⟨changes, left, ?_, stamped, ?_⟩
      · simpa [Entry.isCall, Entry.accepted?] using accepted
      · rintro _ ⟨⟩
        refine ⟨offset, ?_⟩
        simpa [Entry.isCall, Entry.row?] using read

theorem WindowCourse.settled {sv : Services σ} {task : ReadTask} {low : Lsn} {scan : ScanContext}
    {marks : Watermarks} {w : σ} {r : StageResult σ OffsetContext}
    (h : WindowCourse sv task low scan marks w r) :
    acceptedChanges (calls r.journal) = [] ∧ rowsRead (calls r.journal) = [] ∧
      ∀ offset, r.value = .ok offset → ∃ high,
        task.watermark .high high ∈ acceptedEvents (calls r.journal) ∧
          offset = scan.offset.advanceTo high := by
  cases h with
  | @completed high _ _ _ _ _ _ read order sent completion =>
      refine ⟨?_, ?_, ?_⟩
      · simp [Entry.isCall, Entry.accepted?, SplitEvent.change?, ReadTask.watermark]
      · simp [Entry.isCall, Entry.row?]
      · rintro _ ⟨⟩
        refine ⟨high, ?_, rfl⟩
        simp [Entry.isCall, Entry.accepted?]
  | _ =>
      refine ⟨?_, ?_, by rintro _ ⟨⟩⟩
      · simp [Entry.isCall, Entry.accepted?, SplitEvent.change?, ReadTask.watermark]
      · simp [Entry.isCall, Entry.row?]

theorem ReadCourse.stamped {sv : Services σ} {task : ReadTask} {marks : Watermarks} {w : σ}
    {r : StageResult σ OffsetContext} (h : ReadCourse sv task marks w r) :
    (acceptedChanges (calls r.journal) = [] ∧ ∀ offset, r.value ≠ .ok offset) ∨
    ∃ low changes left, task.watermark .low low ∈ acceptedEvents (calls r.journal) ∧
      acceptedChanges (calls r.journal) = changes ∧
      (OffsetContext.start task.part low).Stamped task.split.table changes left ∧
      ∀ offset, r.value = .ok offset →
        (rowsRead (calls r.journal)).length = changes.length ∧
          ∃ high, task.watermark .high high ∈ acceptedEvents (calls r.journal) ∧
            offset = left.advanceTo high := by
  cases h with
  | @stopped _ _ _ low _ _ _ _ _ journal _ config split asked read sent scanning =>
      obtain ⟨changes, left, accepted, stamped, -⟩ := scanning.stamped
      dsimp only at accepted
      refine .inr ⟨low, changes, left, ?_, ?_, stamped, by rintro _ ⟨⟩⟩
      · simp [Entry.isCall, Entry.accepted?]
      · simp [Entry.isCall, Entry.accepted?, acceptedChanges_eq accepted, SplitEvent.change?,
          ReadTask.watermark]
  | @scanned _ _ _ low _ _ _ _ _ journal _ r config split asked read sent scanning closing =>
      obtain ⟨changes, left, accepted, stamped, finished⟩ := scanning.stamped
      obtain ⟨offset, read⟩ := finished _ rfl
      obtain ⟨unchanged, unread, settled⟩ := closing.settled
      dsimp only at accepted read
      refine .inr ⟨low, changes, left, ?_, ?_, stamped, fun offset' hv => ?_⟩
      · simp [StageResult.after, Entry.isCall, Entry.accepted?]
      · simp [StageResult.after, Entry.isCall, Entry.accepted?, acceptedChanges_eq accepted, unchanged,
          SplitEvent.change?, ReadTask.watermark]
      · obtain ⟨high, sent, rfl⟩ := settled offset' hv
        refine ⟨?_, high, ?_, by rw [offset]⟩
        · simp [StageResult.after, Entry.isCall, Entry.row?, unread, read]
        · simp only [StageResult.after, calls_append, shown_append]
          exact List.mem_append_right _ sent
  | _ =>
      refine .inl ⟨?_, by rintro _ ⟨⟩⟩
      simp [Entry.isCall, Entry.accepted?]

namespace ReadTask

structure Stamps (task : ReadTask) (journal : List Entry) (number : Nat) (change : DataChange) :
    Prop where
  table_eq : change.table = task.split.table
  snapshot : change.offset.snapshot = true
  sequence : change.offset.sequence = number
  low_accepted : task.watermark .low change.offset.position ∈ acceptedEvents journal
  low_first : (positionAnswers journal)[0]? = some (.ok change.offset.position)

structure Settles (task : ReadTask) (journal : List Entry) (offset : OffsetContext) : Prop where
  part_eq : offset.part = task.part
  snapshot : offset.snapshot = true
  high_accepted : task.watermark .high offset.position ∈ acceptedEvents journal
  high_second : (positionAnswers journal)[1]? = some (.ok offset.position)
  every_row : (rowsRead journal).length = (acceptedChanges journal).length
  events_eq : offset.eventsFor task.split.table = (acceptedChanges journal).length
  total_eq : offset.totalEvents = (acceptedChanges journal).length
  last_table : offset.lastTable =
    if 0 < (acceptedChanges journal).length then some task.split.table else none
  millis_eq : offset.millis =
    ((acceptedChanges journal).getLast?.map fun change => change.offset.millis).getD 0

theorem acceptedChanges_calls (journal : List Entry) :
    acceptedChanges (calls journal) = acceptedChanges journal := by
  rw [acceptedChanges_eq_filterMap, acceptedEvents_calls, acceptedChanges_eq_filterMap]

theorem Stamps.of_calls {task : ReadTask} {journal : List Entry} {number : Nat}
    {change : DataChange} (h : task.Stamps (calls journal) number change) :
    task.Stamps journal number change := by
  obtain ⟨table_eq, snapshot, sequence, low_accepted, low_first⟩ := h
  rw [acceptedEvents_calls] at low_accepted
  rw [positionAnswers_calls] at low_first
  exact ⟨table_eq, snapshot, sequence, low_accepted, low_first⟩

theorem Settles.of_calls {task : ReadTask} {journal : List Entry} {offset : OffsetContext}
    (h : task.Settles (calls journal) offset) : task.Settles journal offset := by
  obtain ⟨part_eq, snapshot, high_accepted, high_second, every_row, events_eq, total_eq, last_table,
    millis_eq⟩ := h
  simp only [acceptedChanges_calls, acceptedEvents_calls, positionAnswers_calls, rowsRead_calls] at *
  exact ⟨part_eq, snapshot, high_accepted, high_second, every_row, events_eq, total_eq, last_table,
    millis_eq⟩

theorem execute_stamped (sv : Services σ) (task : ReadTask) (limit : Nat) (marks : Watermarks)
    (w : σ) :
    (task.execute sv limit marks w).Replays sv task w ∧
    (∀ i change, (acceptedChanges (task.execute sv limit marks w).journal)[i]? = some change →
      task.Stamps (task.execute sv limit marks w).journal (i + 1) change) ∧
    ∀ offset, (task.execute sv limit marks w).outcome = some (.completed offset) →
      task.Settles (task.execute sv limit marks w).journal offset := by
  obtain ⟨story, hcalls, -, hc⟩ := task.execute_story sv limit marks w
  have bracketed := hcalls ▸ Story.bracketed hc
  have course := (readCourse_stages sv task marks limit w).stamped
  rw [← calls_execute] at course
  refine ⟨task.execute_replays sv limit marks w, ?_⟩
  rcases course with ⟨none, unfinished⟩ | ⟨low, changes, left, accepted, rfl, stamped, settled⟩
  · refine ⟨fun i change hi => ?_, fun offset completed => ?_⟩
    · rw [← acceptedChanges_calls, none] at hi
      cases hi
    · exact absurd (outcomeOf_eq_completed_iff.1 completed) (unfinished offset)
  · refine ⟨fun i change hi => .of_calls ?_, fun offset completed => .of_calls ?_⟩
    · rw [← acceptedChanges_calls] at hi
      obtain ⟨named, position, snapshot, sequence⟩ := stamped.getElem?_eq_some hi
      refine ⟨named, snapshot, ?_, ?_, ?_⟩
      · rw [sequence]
        exact Nat.zero_add _
      · rw [position]
        exact accepted
      · rw [position]
        exact bracketed.low_first low accepted
    · have finished := outcomeOf_eq_completed_iff.1 completed
      obtain ⟨every_row, high, sent, rfl⟩ := settled offset finished
      obtain ⟨part, -, snapshot⟩ := stamped.unmoved
      have total := stamped.totalEvents_eq (.inl rfl)
      have events := stamped.eventsFor_eq
      exact {
        part_eq := part
        snapshot := snapshot
        high_accepted := sent
        high_second := (bracketed.high_second high sent).1
        every_row := every_row
        events_eq := events.trans (Nat.zero_add _)
        total_eq := total.trans (Nat.zero_add _)
        last_table := stamped.lastTable_eq
        millis_eq := stamped.millis_eq }

end ReadTask

end SplitSnapshot
