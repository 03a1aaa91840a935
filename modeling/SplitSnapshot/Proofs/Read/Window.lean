import SplitSnapshot.Proofs.Read.Replay
import SplitSnapshot.Proofs.Throughout

namespace SplitSnapshot

variable {σ α β : Type}

structure Underway (before : List Entry) : Prop where
  opened : ∃ time, .scanOpened (.ok ()) time ∈ before
  one_position : (positionAnswers before).length = 1
  unclosed : ∀ closing, .scanClosed closing ∉ before

structure Unended (before : List Entry) : Prop extends Underway before where
  unexhausted : ∀ time, .rowRead (.ok none) time ∉ before
  unfailed : ∀ e time, .rowRead (.error e) time ∉ before

def InTurn (task : ReadTask) (before : List Entry) : Entry → Prop
  | .schemaRead _ => (∀ answer, .schemaRead answer ∉ before) ∧ positionAnswers before = []
  | .positionRead _ => (∃ schema, .schemaRead (.ok schema) ∈ before) ∧
      (positionAnswers before = [] ∨
        (positionAnswers before).length = 1 ∧ ∃ answer, .scanClosed answer ∈ before)
  | .scanOpened _ _ => (∃ schema, .schemaRead (.ok schema) ∈ before) ∧
      (∃ low, .sent (task.watermark .low low) (.ok ()) ∈ before) ∧
        ∀ answer time, .scanOpened answer time ∉ before
  | .rowRead _ _ => Unended before
  | .scanClosed _ => Underway before
  | _ => True

section

variable {task : ReadTask} {before more journal : List Entry}

theorem underway_calls : Underway (calls before) ↔ Underway before := by
  constructor
  · rintro ⟨opened, one, unclosed⟩
    simp only [mem_calls_iff, Entry.isCall, positionAnswers_calls, and_true] at opened one unclosed
    exact ⟨opened, one, unclosed⟩
  · rintro ⟨opened, one, unclosed⟩
    refine ⟨?_, ?_, ?_⟩
    · simpa only [mem_calls_iff, Entry.isCall, and_true] using opened
    · simpa only [positionAnswers_calls] using one
    · simpa only [mem_calls_iff, Entry.isCall, and_true] using unclosed

theorem unended_calls : Unended (calls before) ↔ Unended before := by
  constructor
  · rintro ⟨underway, unexhausted, unfailed⟩
    simp only [mem_calls_iff, Entry.isCall, and_true] at unexhausted unfailed
    exact ⟨underway_calls.1 underway, unexhausted, unfailed⟩
  · rintro ⟨underway, unexhausted, unfailed⟩
    refine ⟨underway_calls.2 underway, ?_, ?_⟩
    · simpa only [mem_calls_iff, Entry.isCall, and_true] using unexhausted
    · simpa only [mem_calls_iff, Entry.isCall, and_true] using unfailed

theorem inTurn_calls {entry : Entry} :
    InTurn task (calls before) entry ↔ InTurn task before entry := by
  cases entry with
  | rowRead answer time => exact unended_calls
  | scanClosed answer => exact underway_calls
  | _ => simp only [InTurn, mem_calls_iff, Entry.isCall, positionAnswers_calls, and_true]

theorem inTurn_of_not_isCall {entry : Entry} (h : entry.isCall = false) :
    InTurn task before entry := by
  cases entry with
  | counted update => trivial
  | progressed table rows => trivial
  | noted note => trivial
  | _ => cases h

theorem throughout_inTurn_of_calls (h : Throughout (InTurn task) (calls journal)) :
    Throughout (InTurn task) journal := by
  rintro before entry after rfl
  -- a turn is made by the calls before it alone, and only calls have one
  cases hc : entry.isCall with
  | true =>
      exact inTurn_calls.1 (h (calls before) entry (calls after) (calls_append_cons hc))
  | false => exact inTurn_of_not_isCall hc

theorem Underway.append (h : Underway before) (positions : positionAnswers more = [])
    (unclosed : ∀ answer, .scanClosed answer ∉ more) : Underway (before ++ more) where
  opened := by
    obtain ⟨time, opened⟩ := h.opened
    exact ⟨time, List.mem_append_left more opened⟩
  one_position := by
    simpa [positions] using h.one_position
  unclosed answer hm := (List.mem_append.1 hm).elim (h.unclosed answer) (unclosed answer)

theorem Unended.append (h : Unended before) (positions : positionAnswers more = [])
    (unclosed : ∀ answer, .scanClosed answer ∉ more)
    (unexhausted : ∀ time, .rowRead (.ok none) time ∉ more)
    (unfailed : ∀ e time, .rowRead (.error e) time ∉ more) : Unended (before ++ more) where
  toUnderway := h.toUnderway.append positions unclosed
  unexhausted time hm := (List.mem_append.1 hm).elim (h.unexhausted time) (unexhausted time)
  unfailed e time hm := (List.mem_append.1 hm).elim (h.unfailed e time) (unfailed e time)

theorem Unended.checked (h : Unended before) (cancelled : Bool) :
    Unended (before ++ [.cancellationChecked cancelled]) :=
  h.append rfl (by simp) (by simp) (by simp)

theorem Unended.delivery (h : Unended before) (d : Delivery) : Unended (before ++ d.calls) :=
  h.append rfl (by simp [Delivery.calls]) (by simp [Delivery.calls]) (by simp [Delivery.calls])

theorem throughout_delivery (task : ReadTask) (h : Unended before) (d : Delivery) :
    Throughout (fun more => InTurn task (before ++ more)) d.calls := by
  simp only [Delivery.calls, throughout_cons, throughout_nil, and_true]
  exact ⟨trivial, h.checked false, trivial⟩

theorem throughout_deliveries (task : ReadTask) (h : Unended before) (ds : List Delivery) :
    Throughout (fun more => InTurn task (before ++ more)) (ds.flatMap Delivery.calls) ∧
      Unended (before ++ ds.flatMap Delivery.calls) := by
  induction ds generalizing before with
  | nil =>
      rw [List.flatMap_nil, List.append_nil]
      exact ⟨throughout_nil, h⟩
  | cons d ds ih =>
      obtain ⟨turns, still⟩ := ih (h.delivery d)
      rw [List.flatMap_cons, throughout_append]
      simp only [← List.append_assoc]
      exact ⟨⟨throughout_delivery task h d, turns⟩, still⟩

theorem throughout_rowsEnd (task : ReadTask) (h : Unended before) (ending : RowsEnd) :
    Throughout (fun more => InTurn task (before ++ more)) ending.calls ∧
      Underway (before ++ ending.calls) := by
  constructor
  · cases ending with
    | unfinished | untimed => exact throughout_nil
    | overrun row time =>
        simp only [RowsEnd.calls, throughout_cons, throughout_nil, and_true]
        exact ⟨trivial, h.checked false⟩
    | cancelled =>
        simp only [RowsEnd.calls, throughout_cons, throughout_nil, and_true]
        trivial
    | failed e time =>
        simp only [RowsEnd.calls, throughout_cons, throughout_nil, and_true]
        exact ⟨trivial, h.checked false⟩
    | exhausted time =>
        simp only [RowsEnd.calls, throughout_cons, throughout_nil, and_true]
        exact ⟨trivial, h.checked false⟩
    | refused d e =>
        simp only [RowsEnd.calls, throughout_cons, throughout_nil, and_true]
        exact ⟨trivial, h.checked false, trivial⟩
  · refine h.toUnderway.append ?_ ?_
    · exact ending.shown_position?
    · cases ending <;> simp [RowsEnd.calls]

theorem throughout_windowEnd (one : (positionAnswers before).length = 1)
    (read : ∃ schema, .schemaRead (.ok schema) ∈ before)
    (closed : ∃ answer, .scanClosed answer ∈ before) (window : WindowEnd) :
    Throughout (fun more => InTurn task (before ++ more)) (window.calls task) := by
  have position (answer : Except ReadError Lsn) : InTurn task before (.positionRead answer) :=
    ⟨read, .inr ⟨one, closed⟩⟩
  cases window with
  | unread e =>
      simp only [WindowEnd.calls, throughout_cons, throughout_nil, and_true, List.append_nil]
      exact position _
  | reversed high =>
      simp only [WindowEnd.calls, throughout_cons, throughout_nil, and_true, List.append_nil]
      exact position _
  | refused high e =>
      simp only [WindowEnd.calls, throughout_cons, throughout_nil, and_true, List.append_nil]
      exact ⟨position _, trivial⟩
  | uncompleted high e | completed high =>
      simp only [WindowEnd.calls, throughout_cons, throughout_nil, and_true, List.append_nil]
      exact ⟨position _, trivial, trivial⟩

end

namespace Story

variable {task : ReadTask} {story : Story} {schema : TableSchema} {low : Lsn} {time : Nat}

def opening (task : ReadTask) (schema : TableSchema) (low : Lsn) (time : Nat) : List Entry :=
  [.schemaRead (.ok schema), .positionRead (.ok low), .sent (task.watermark .low low) (.ok ()),
    .scanOpened (.ok ()) time]

theorem throughout_opening : Throughout (InTurn task) (opening task schema low time) := by
  simp [opening, InTurn, positionAnswers, Entry.position?]

theorem unended_opening : Unended (opening task schema low time) := by
  refine ⟨⟨⟨time, ?_⟩, rfl, ?_⟩, ?_, ?_⟩ <;> simp [opening]

theorem throughout_scan (task : ReadTask) (schema : TableSchema) (low : Lsn) (time : Nat)
    (ds : List Delivery) (ending : RowsEnd) : Throughout (InTurn task)
    (opening task schema low time ++ ds.flatMap Delivery.calls ++ ending.calls) ∧
      Underway (opening task schema low time ++ ds.flatMap Delivery.calls ++ ending.calls) := by
  obtain ⟨rows, open_⟩ := throughout_deliveries task unended_opening ds
  obtain ⟨last, underway⟩ := throughout_rowsEnd task open_ ending
  exact ⟨throughout_append.2 ⟨throughout_append.2 ⟨throughout_opening, rows⟩, last⟩, underway⟩

theorem inTurn (task : ReadTask) (story : Story) : Throughout (InTurn task) (story.calls task) := by
  cases story with
  | invalid e => exact throughout_nil
  | schemaUnread | lowUnread | lowRefused | unopened =>
      simp [calls, InTurn, positionAnswers, Entry.position?]
  | broken schema low time ds ending closing =>
      obtain ⟨scan, underway⟩ := throughout_scan task schema low time ds ending
      refine throughout_append.2 ⟨scan, ?_⟩
      cases closing with
      | none => exact throughout_nil
      | some answer =>
          simp only [Option.map_some, Option.toList_some, throughout_cons, throughout_nil, and_true,
            List.append_nil]
          exact underway
  | exported schema low time ds finish closing window =>
      obtain ⟨scan, underway⟩ := throughout_scan task schema low time ds (.exhausted finish)
      refine throughout_append.2 ⟨throughout_append.2 ⟨scan, ?_⟩, throughout_windowEnd ?_ ?_ ?_ window⟩
      · simp only [throughout_cons, throughout_nil, and_true, List.append_nil]
        exact underway
      · have unasked (before : List Entry) :
            positionAnswers (before ++ [.scanClosed closing]) = positionAnswers before := by
          simp [Entry.position?]
        rw [unasked]
        exact underway.one_position
      · exact ⟨schema, by simp⟩
      · exact ⟨closing, by simp⟩

theorem closed_iff (hc : story.Consistent task)
    (opened : ∃ time, .scanOpened (.ok ()) time ∈ story.calls task) :
    (∃ answer, .scanClosed answer ∈ story.calls task) ↔
      ∀ stop, story.stop? task = some stop → stop.isCut = false := by
  cases story with
  | broken schema low time ds ending closing =>
      obtain ⟨-, -, -, -, unclosed⟩ := hc
      have uncut : ending.isCut = false ↔ ∀ stop, ending.stop? task = some stop → stop.isCut = false := by
        rw [← Bool.not_eq_true, @RowsEnd.isCut_iff task]
        simp
      rw [stop?, ← uncut, ← Bool.not_eq_true, ← unclosed]
      cases closing with
      | none => cases ending <;> simp [calls, RowsEnd.calls, Delivery.calls]
      | some answer => simpa using ⟨answer, by simp [calls]⟩
  | exported schema low time ds finish closing window =>
      refine iff_of_true ⟨closing, by simp [calls]⟩ fun stop stopped => ?_
      cases window <;> cases stopped <;> rfl
  | _ => simp [calls] at opened

theorem eq_of_overflow (hs : story.stop? task = some .overflow) :
    ∃ schema low time ds ending closing, story = .broken schema low time ds ending closing := by
  cases story with
  | broken schema low time ds ending closing => exact ⟨_, _, _, _, _, _, rfl⟩
  | exported schema low time ds finish closing window => cases window <;> cases hs
  | _ => cases hs

end Story

def Services.closingWith (sv : Services σ) (answer : σ → Except ReadError Unit) : Services σ :=
  { sv with closeScan := fun w => { sv.closeScan w with result := answer w } }

structure StageResult.Agree (r r' : StageResult σ α) : Prop where
  value : r.value = r'.value
  state : r.state = r'.state
  accepted : acceptedEvents r.journal = acceptedEvents r'.journal

namespace StageResult

theorem Agree.refl (r : StageResult σ α) : r.Agree r :=
  ⟨rfl, rfl, rfl⟩

theorem Agree.symm {r r' : StageResult σ α} (h : r.Agree r') : r'.Agree r :=
  ⟨h.value.symm, h.state.symm, h.accepted.symm⟩

theorem Agree.trans {r₁ r₂ r₃ : StageResult σ α} (h : r₁.Agree r₂) (h' : r₂.Agree r₃) :
    r₁.Agree r₃ :=
  ⟨h.value.trans h'.value, h.state.trans h'.state, h.accepted.trans h'.accepted⟩

theorem after_agree {entries : List Entry} (h : acceptedEvents entries = [])
    (r : StageResult σ α) : (r.after entries).Agree r where
  value := rfl
  state := rfl
  accepted := by
    change acceptedEvents (entries ++ r.journal) = acceptedEvents r.journal
    simp [h]

theorem Agree.after {r r' : StageResult σ α} {entries entries' : List Entry} (h : r.Agree r')
    (accepted : acceptedEvents entries = acceptedEvents entries') :
    (r.after entries).Agree (r'.after entries') where
  value := h.value
  state := h.state
  accepted := by
    change acceptedEvents (entries ++ r.journal) = acceptedEvents (entries' ++ r'.journal)
    simp [accepted, h.accepted]

theorem Agree.bind {m m' : Stage σ α} {f f' : α → Stage σ β} {s : ReadState σ}
    (hm : (m s).Agree (m' s)) (hf : ∀ a s, (f a s).Agree (f' a s)) :
    ((m >>= f) s).Agree ((m' >>= f') s) := by
  rw [Stage.bind_apply, Stage.bind_apply, ← hm.value, ← hm.state]
  cases (m s).value with
  | error stop => exact ⟨rfl, rfl, hm.accepted⟩
  | ok a => exact (hf a (m s).state).after hm.accepted

end StageResult

theorem ScanCourse.beyond {sv : Services σ} {task : ReadTask} {schema : TableSchema}
    {marks : Watermarks} {scan : ScanContext} {w : σ} {r : StageResult σ ScanContext}
    (h : ScanCourse sv task schema marks scan w r) (hv : r.value = .error .overflow) :
    ∃ time, .scanOpened (.ok ()) time ∈ r.journal ∧
      (clockEnd ≤ time + task.config.progressInterval.nanos ∨
        ∃ row now, .rowRead (.ok (some row)) now ∈ r.journal ∧
          clockEnd ≤ now + task.config.progressInterval.nanos) := by
  cases h with
  | @unfinished _ w₁ stop journal state opened rows =>
      cases hv
      refine ⟨sv.clock w₁, by simp [Entry.call], (rows.beyond rfl).imp_right ?_⟩
      rintro ⟨row, now, read, beyond⟩
      exact ⟨row, now, List.mem_append_right _ read, beyond⟩
  | _ => cases hv

theorem ReadCourse.beyond {sv : Services σ} {task : ReadTask} {marks : Watermarks} {w : σ}
    {r : StageResult σ OffsetContext} (h : ReadCourse sv task marks w r)
    (hv : r.value = .error .overflow) :
    ∃ time, .scanOpened (.ok ()) time ∈ r.journal ∧
      (clockEnd ≤ time + task.config.progressInterval.nanos ∨
        ∃ row now, .rowRead (.ok (some row)) now ∈ r.journal ∧
          clockEnd ≤ now + task.config.progressInterval.nanos) := by
  cases h with
  | stopped config split asked read sent scanning =>
      cases hv
      obtain ⟨time, opened, beyond⟩ := scanning.beyond rfl
      refine ⟨time, by simp [opened], beyond.imp_right ?_⟩
      rintro ⟨row, now, read, beyond⟩
      exact ⟨row, now, by simp [read], beyond⟩
  | scanned config split asked read sent scanning closing => cases closing <;> cases hv
  | _ => cases hv

namespace ReadTask

theorem exportRows_closingWith (sv : Services σ) (answer : σ → Except ReadError Unit)
    (task : ReadTask) (width limit : Nat) (scan : ScanContext) (timer : ProgressTimer) :
    exportRows (sv.closingWith answer) task width limit scan timer =
      exportRows sv task width limit scan timer := by
  induction limit generalizing scan timer with
  | zero => rfl
  | succ limit ih =>
      simp only [exportRows, ih]
      rfl

theorem timedRows_closingWith (sv : Services σ) (answer : σ → Except ReadError Unit)
    (task : ReadTask) (width limit : Nat) (scan : ScanContext) :
    timedRows (sv.closingWith answer) task width limit scan = timedRows sv task width limit scan := by
  unfold timedRows
  simp only [exportRows_closingWith]
  rfl

theorem closing_agree (sv : Services σ) (answer : σ → Except ReadError Unit)
    {f : Except ReadError Unit → Stage σ α} (hf : ∀ x y s, (f x s).Agree (f y s))
    (s : ReadState σ) :
    ((Stage.ask (sv.closingWith answer).closeScan (fun a => .scanClosed a.result) >>= f) s).Agree
      ((Stage.ask sv.closeScan (fun a => .scanClosed a.result) >>= f) s) := by
  rcases closed : sv.closeScan s.world with ⟨result, notes, w⟩
  have otherwise : (sv.closingWith answer).closeScan s.world = ⟨answer s.world, notes, w⟩ := by
    simp [Services.closingWith, closed]
  rw [Stage.ask_bind closed, Stage.ask_bind otherwise]
  refine (hf _ _ _).after ?_
  simp only [acceptedEvents, shown_append]
  rfl

theorem scan_closingWith (sv : Services σ) (answer : σ → Except ReadError Unit) (task : ReadTask)
    (limit : Nat) (schema : TableSchema) (context : ScanContext) (s : ReadState σ) :
    (scan (sv.closingWith answer) task limit schema context s).Agree
      (scan sv task limit schema context s) := by
  unfold scan
  refine .bind (.refl _) fun opened s => .bind (.refl _) fun _ s => ?_
  rw [timedRows_closingWith]
  refine .bind (.refl _) fun left s => closing_agree sv answer (fun x y s => ?_) s
  -- a refused closing only adds a note before what follows
  cases x with
  | ok _ =>
      cases y with
      | ok _ => exact .refl _
      | error e => exact (StageResult.after_agree rfl _).symm
  | error e =>
      cases y with
      | ok _ => exact StageResult.after_agree rfl _
      | error e' => exact (StageResult.after_agree rfl _).trans (StageResult.after_agree rfl _).symm

theorem stages_closingWith (sv : Services σ) (answer : σ → Except ReadError Unit) (task : ReadTask)
    (limit : Nat) (s : ReadState σ) :
    (stages (sv.closingWith answer) task limit s).Agree (stages sv task limit s) := by
  unfold stages
  refine .bind (.refl _) fun _ s => .bind (.refl _) fun _ s => .bind (.refl _) fun _ s =>
    .bind (.refl _) fun schema s => .bind (.refl _) fun low s => .bind (.refl _) fun _ s =>
    .bind (.refl _) fun _ s => .bind (.refl _) fun _ s => .bind (.refl _) fun now s =>
    .bind (.refl _) fun _ s => .bind (scan_closingWith sv answer task limit schema _ s) fun _ s => ?_
  exact .refl _

structure Overran (task : ReadTask) (journal : List Entry) : Prop where
  begun : ∃ low, positionAnswers journal = [.ok low] ∧ ∃ changes : List DataChange,
    acceptedEvents journal = task.watermark .low low :: changes.map .dataChange
  beyond : ∃ time, .scanOpened (.ok ()) time ∈ journal ∧
    (clockEnd ≤ time + task.config.progressInterval.nanos ∨
      ∃ row now, .rowRead (.ok (some row)) now ∈ journal ∧
        clockEnd ≤ now + task.config.progressInterval.nanos)

theorem begun_of_overflow {story : Story} (hs : story.stop? task = some .overflow) :
    ∃ low, positionAnswers (story.calls task) = [.ok low] ∧ ∃ changes : List DataChange,
      acceptedEvents (story.calls task) = task.watermark .low low :: changes.map .dataChange := by
  obtain ⟨schema, low, time, ds, ending, closing, rfl⟩ := Story.eq_of_overflow hs
  refine ⟨low, Story.positionAnswers_calls _ _, ds.map Delivery.change, ?_⟩
  rw [Story.acceptedEvents_calls, List.map_map]
  rfl

theorem overran_execute (sv : Services σ) (task : ReadTask) (limit : Nat) (marks : Watermarks)
    (w : σ) (h : (task.execute sv limit marks w).ending = .overflowed) :
    task.Overran (task.execute sv limit marks w).journal := by
  have overflow := endingOf_eq_overflowed_iff.1 h
  obtain ⟨story, hcalls, hstop, -⟩ := task.execute_story sv limit marks w
  rw [overflow] at hstop
  refine ⟨?_, ?_⟩
  · rw [← positionAnswers_calls, ← acceptedEvents_calls, hcalls]
    exact begun_of_overflow hstop.symm
  · obtain ⟨time, opened, beyond⟩ := (readCourse_stages sv task marks limit w).beyond overflow
    have mem {entry : Entry} (hm : entry ∈ (task.stages sv limit ⟨w, marks⟩).journal) :
        entry ∈ (task.execute sv limit marks w).journal :=
      List.mem_cons_of_mem _ (List.mem_append_left _ hm)
    refine ⟨time, mem opened, beyond.imp_right ?_⟩
    rintro ⟨row, now, read, late⟩
    exact ⟨row, now, mem read, late⟩

theorem closed_execute_iff (sv : Services σ) (task : ReadTask) (limit : Nat) (marks : Watermarks)
    (w : σ) (opened : ∃ time, .scanOpened (.ok ()) time ∈ (task.execute sv limit marks w).journal) :
    (∃ answer, .scanClosed answer ∈ (task.execute sv limit marks w).journal) ↔
      (task.execute sv limit marks w).outcome.isSome = true := by
  obtain ⟨story, hcalls, hstop, hc⟩ := task.execute_story sv limit marks w
  have mem (entry : Entry) (called : entry.isCall = true) :
      entry ∈ (task.execute sv limit marks w).journal ↔ entry ∈ story.calls task := by
    rw [← hcalls, mem_calls called]
  simp only [mem (.scanOpened _ _) rfl, mem (.scanClosed _) rfl] at opened ⊢
  rw [Story.closed_iff hc opened, outcome_execute, isSome_outcomeOf_iff]
  simp only [← Stop.of?_eq_some, hstop]

/-- The calls of a read are those of its journal, and each of them is made in its turn. A scan that was
opened is closed, once and for all, just where the read comes to an outcome: it does not where its clock
overflows, and where it is followed no further than its row limit. Another answer to the closing changes
neither the events that are accepted nor the ending nor the watermarks on record. -/
theorem execute_keepsWindow (sv : Services σ) (task : ReadTask) (limit : Nat) (marks : Watermarks)
    (w : σ) :
    (task.execute sv limit marks w).Replays sv task w ∧
    Throughout (InTurn task) (task.execute sv limit marks w).journal ∧
    ((∃ time, .scanOpened (.ok ()) time ∈ (task.execute sv limit marks w).journal) →
      ((∃ answer, .scanClosed answer ∈ (task.execute sv limit marks w).journal) ↔
        (task.execute sv limit marks w).outcome.isSome = true)) ∧
    ((task.execute sv limit marks w).ending = .overflowed →
      task.Overran (task.execute sv limit marks w).journal) ∧
    ∀ answer,
      (task.execute (sv.closingWith answer) limit marks w).ending =
        (task.execute sv limit marks w).ending ∧
      (task.execute (sv.closingWith answer) limit marks w).marks =
        (task.execute sv limit marks w).marks ∧
      acceptedEvents (task.execute (sv.closingWith answer) limit marks w).journal =
        acceptedEvents (task.execute sv limit marks w).journal := by
  obtain ⟨story, hcalls, -, -⟩ := task.execute_story sv limit marks w
  refine ⟨task.execute_replays sv limit marks w,
    throughout_inTurn_of_calls (hcalls ▸ story.inTurn task), task.closed_execute_iff sv limit marks w,
    task.overran_execute sv limit marks w, fun answer => ?_⟩
  have agree := stages_closingWith sv answer task limit ⟨w, marks⟩
  refine ⟨congrArg endingOf agree.value, congrArg ReadState.marks agree.state, ?_⟩
  change acceptedEvents ([_] ++ _ ++ _) = acceptedEvents ([_] ++ _ ++ _)
  simp only [acceptedEvents, shown_append, agree.accepted, agree.value, agree.state]
  rfl

end ReadTask

end SplitSnapshot
