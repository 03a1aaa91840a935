import SplitSnapshot.Proofs.Read.Retries
import SplitSnapshot.Proofs.Read.RowLimit
import SplitSnapshot.Proofs.Read.Stamps
import SplitSnapshot.Proofs.Read.Tokens
import SplitSnapshot.Proofs.Read.Window

namespace SplitSnapshot

variable {σ : Type}

def LookedBefore (before : List Entry) : Entry → Prop
  | .rowRead _ _ => ∃ earlier, before = earlier ++ [.cancellationChecked false]
  | _ => True

theorem LookedBefore.append {before : List Entry} {entry : Entry} (h : LookedBefore before entry)
    (first : List Entry) : LookedBefore (first ++ before) entry := by
  cases entry with
  | rowRead answer time =>
      obtain ⟨earlier, rfl⟩ := h
      exact ⟨first ++ earlier, (List.append_assoc _ _ _).symm⟩
  | _ => trivial

theorem throughout_lookedBefore_append {first second : List Entry}
    (hf : Throughout LookedBefore first) (hs : Throughout LookedBefore second) :
    Throughout LookedBefore (first ++ second) := by
  refine throughout_append.2 ⟨hf, fun before entry after h => ?_⟩
  exact (hs before entry after h).append first

theorem acceptedChanges_eq_nil_of_callsMade {journal : List Entry} (h : callsMade journal = 0) :
    acceptedChanges journal = [] := by
  have unsent : acceptedEvents journal = [] := by
    refine shown_eq_nil_iff.2 fun entry hm => ?_
    have aside := List.countP_eq_zero.1 h entry hm
    cases entry with
    | sent event answer => exact absurd rfl aside
    | _ => rfl
  rw [acceptedChanges_eq_filterMap, unsent, List.filterMap_nil]

theorem length_acceptedChanges_le {early late first second : List Entry}
    (h : early ++ late = first ++ second) (later : callsMade early ≤ callsMade first) :
    (acceptedChanges second).length ≤ (acceptedChanges late).length := by
  rcases List.append_eq_append_iff.1 h with ⟨more, rfl, rfl⟩ | ⟨more, rfl, rfl⟩
  · simp
  · have none : callsMade more = 0 := by
      rw [callsMade_append] at later
      omega
    simp [acceptedChanges_eq_nil_of_callsMade none]

namespace Delivery

theorem lookedBefore (ds : List Delivery) : Throughout LookedBefore (ds.flatMap calls) := by
  induction ds with
  | nil => exact throughout_nil
  | cons d ds ih =>
      rw [List.flatMap_cons]
      refine throughout_lookedBefore_append ?_ ih
      simp [calls, LookedBefore]

end Delivery

theorem RowsEnd.lookedBefore (ending : RowsEnd) : Throughout LookedBefore ending.calls := by
  cases ending <;> simp [calls, LookedBefore]

namespace Story

variable {task : ReadTask} {story : Story} {schema : TableSchema} {low : Lsn} {time : Nat}
  {ds : List Delivery} {closing : Except ReadError Unit}

theorem lookedBefore (task : ReadTask) (story : Story) :
    Throughout LookedBefore (story.calls task) := by
  have opened (schema : TableSchema) (low : Lsn) (time : Nat) :
      Throughout LookedBefore (opening task schema low time) := by
    simp [opening, LookedBefore]
  cases story with
  | broken schema low time ds ending closing =>
      refine throughout_lookedBefore_append (throughout_lookedBefore_append
        (throughout_lookedBefore_append (opened schema low time) (Delivery.lookedBefore ds))
        ending.lookedBefore) ?_
      cases closing <;> simp [LookedBefore]
  | exported schema low time ds finish closing window =>
      refine throughout_lookedBefore_append (throughout_lookedBefore_append
        (throughout_lookedBefore_append (throughout_lookedBefore_append (opened schema low time)
          (Delivery.lookedBefore ds)) (RowsEnd.exhausted finish).lookedBefore) ?_) ?_
      · simp [LookedBefore]
      · cases window <;> simp [WindowEnd.calls, LookedBefore]
  | _ => simp [calls, LookedBefore]

theorem calls_cancelled (task : ReadTask) (schema : TableSchema) (low : Lsn) (time : Nat)
    (ds : List Delivery) (closing : Except ReadError Unit) :
    (broken schema low time ds .cancelled (some closing)).calls task =
      (opening task schema low time ++ ds.flatMap Delivery.calls) ++
        .cancellationChecked true :: [.scanClosed closing] := by
  simp [calls, opening, RowsEnd.calls]

theorem eq_of_cancelled (hc : story.Consistent task)
    (seen : .cancellationChecked true ∈ story.calls task) :
    ∃ schema low time ds closing, story = .broken schema low time ds .cancelled (some closing) := by
  cases story with
  | broken schema low time ds ending closing =>
      obtain ⟨-, -, -, -, unfinished⟩ := hc
      cases ending with
      | cancelled =>
          cases closing with
          | none => cases unfinished.1 rfl
          | some closing => exact ⟨schema, low, time, ds, closing, rfl⟩
      | _ => simp [calls, RowsEnd.calls, Delivery.calls] at seen
  | exported schema low time ds finish closing window =>
      cases window <;> simp [calls, RowsEnd.calls, Delivery.calls, WindowEnd.calls] at seen
  | _ => simp [calls] at seen

theorem stop?_eq_interrupted_iff (hc : story.Consistent task)
    (unanswered : .interrupted ∉ story.callErrors) :
    story.stop? task = some (.failed .interrupted) ↔
      .cancellationChecked true ∈ story.calls task := by
  constructor
  · intro stopped
    have unfailed : story.callErrors = [] := by
      refine List.eq_nil_iff_forall_not_mem.2 fun e he => ?_
      obtain ⟨x, failed, uninterrupted, -⟩ :=
        story.stop?_of_mem_callErrors task he fun h => unanswered (h ▸ he)
      rw [stopped] at failed
      cases failed
      exact uninterrupted rfl
    cases story with
    | invalid e =>
        cases stopped
        rcases hc with ⟨fault, -, h⟩ | ⟨-, fault, -, h⟩
        · cases h
        · cases h
    | broken schema low time ds ending closing =>
        cases ending with
        | cancelled => simp [calls, RowsEnd.calls]
        | unfinished | untimed | overrun | exhausted => cases stopped
        | _ => cases unfailed
    | exported schema low time ds finish closing window =>
        cases window with
        | reversed high => cases stopped
        | completed high => cases stopped
        | _ => cases unfailed
    | _ => cases unfailed
  · intro seen
    obtain ⟨schema, low, time, ds, closing, rfl⟩ := eq_of_cancelled hc seen
    rfl

theorem after_cancelled {before after : List Entry} (hc : story.Consistent task)
    (h : story.calls task = before ++ .cancellationChecked true :: after) :
    ∃ schema low time ds closing,
      story = .broken schema low time ds .cancelled (some closing) ∧ after = [.scanClosed closing] := by
  obtain ⟨schema, low, time, ds, closing, rfl⟩ :=
    eq_of_cancelled hc (h ▸ List.mem_append_right before List.mem_cons_self)
  rw [calls_cancelled] at h
  obtain ⟨-, -, rfl⟩ := (List.append_cons_inj_of_notMem (by simp [opening, Delivery.calls])
    (by simp)).1 h
  exact ⟨schema, low, time, ds, closing, rfl, rfl⟩

theorem length_acceptedChanges_le_one {moment : Nat} {first second : List Entry}
    (shown : Throughout (ShowsToken (some moment) 0)
      ((broken schema low time ds .cancelled (some closing)).calls task))
    (h : (broken schema low time ds .cancelled (some closing)).calls task = first ++ second)
    (cancelled : moment ≤ callsMade first + 1) : (acceptedChanges second).length ≤ 1 := by
  rw [calls_cancelled] at shown h
  rcases List.eq_nil_or_concat ds with rfl | ⟨ds, d, rfl⟩
  · refine Nat.le_trans (length_acceptedChanges_le ((List.nil_append _).trans h) (Nat.zero_le _)) ?_
    simp [opening, ReadTask.watermark, SplitEvent.change?, Entry.accepted?]
  · -- the look before the last delivery did not find the token cancelled
    have split : (opening task schema low time ++ (ds.concat d).flatMap Delivery.calls) ++
          .cancellationChecked true :: [.scanClosed closing] =
        (opening task schema low time ++ ds.flatMap Delivery.calls) ++
          (d.calls ++ [.cancellationChecked true, .scanClosed closing]) := by
      simp
    have uncancelled : false = cancelledBy (some moment)
        (0 + callsMade (opening task schema low time ++ ds.flatMap Delivery.calls)) :=
      shown _ _ _ split
    have later : callsMade (opening task schema low time ++ ds.flatMap Delivery.calls) ≤
        callsMade first := by
      have before := cancelledBy_some_eq_false_iff.1 uncancelled.symm
      omega
    have one := length_acceptedChanges_le (split.symm.trans h) later
    simpa [Delivery.calls, SplitEvent.change?, Entry.accepted?] using one

theorem after_end {before after : List Entry} {time : Nat} (hc : story.Consistent task)
    (h : story.calls task = before ++ .rowRead (.ok none) time :: after) :
    .cancellationChecked true ∉ story.calls task ∧ ∀ seen, .cancellationChecked seen ∉ after := by
  have ended : .rowRead (.ok none) time ∈ story.calls task :=
    h ▸ List.mem_append_right before List.mem_cons_self
  cases story with
  | broken schema low time' ds ending closing =>
      obtain ⟨-, -, -, stopped, -⟩ := hc
      cases ending with
      | exhausted => cases stopped
      | _ => simp [calls, RowsEnd.calls, Delivery.calls] at ended
  | exported schema low time' ds finish closing window =>
      have unlooked (cancelled : Bool) : .cancellationChecked cancelled ∉ window.calls task := by
        cases window <;> simp [WindowEnd.calls]
      have unread : .rowRead (.ok none) time ∉ window.calls task := by
        cases window <;> simp [WindowEnd.calls]
      have split : (exported schema low time' ds finish closing window).calls task =
          (opening task schema low time' ++ ds.flatMap Delivery.calls ++
            [.cancellationChecked false]) ++
          .rowRead (.ok none) finish :: (.scanClosed closing :: window.calls task) := by
        simp [calls, opening, RowsEnd.calls]
      rw [split] at h
      obtain ⟨rfl, -, rfl⟩ := (List.append_cons_inj_of_notMem (by simp [opening, Delivery.calls])
        (by simpa using unread)).1 h
      rw [split]
      refine ⟨?_, fun seen => ?_⟩
      · simp [opening, Delivery.calls, unlooked]
      · simp [unlooked]
  | _ => simp [calls] at ended

theorem eq_of_neverUncancelled (hc : story.Consistent task) (config : task.config.validate = .ok ())
    (split : task.split.validate = .ok ()) (unfailed : story.callErrors = [])
    (followed : story.stop? task = some .rowLimit → story.rows ≠ [])
    (unlooked : .cancellationChecked false ∉ story.calls task) :
    ∃ schema low time ending closing, story = .broken schema low time [] ending closing ∧
      (ending = .cancelled ∨ ending = .untimed) := by
  cases story with
  | invalid e =>
      rcases hc with ⟨fault, invalid, -⟩ | ⟨-, fault, invalid, -⟩
      · cases config.symm.trans invalid
      · cases split.symm.trans invalid
  | broken schema low time ds ending closing =>
      obtain rfl : ds = [] := by
        cases ds with
        | nil => rfl
        | cons d ds => simp [calls, Delivery.calls] at unlooked
      cases ending with
      | cancelled => exact ⟨schema, low, time, .cancelled, closing, rfl, .inl rfl⟩
      | untimed => exact ⟨schema, low, time, .untimed, closing, rfl, .inr rfl⟩
      | unfinished => exact absurd rfl (followed rfl)
      | _ => simp [calls, RowsEnd.calls] at unlooked
  | exported schema low time ds finish closing window => simp [calls, RowsEnd.calls] at unlooked
  | _ => cases unfailed

end Story

namespace ReadTask

structure BreaksOff (task : ReadTask) (moment : Nat) (run : Run σ) (seen : Bool)
    (after : List Entry) : Prop where
  seen_eq : seen = true
  unread : ∀ answer time, .rowRead answer time ∉ after
  closed : ∃ answer, .scanClosed answer ∈ after
  one_change : ∀ first second, run.journal = first ++ second → moment ≤ callsMade first + 1 →
    (acceptedChanges second).length ≤ 1
  unfinished : ∀ high answer, .sent (task.watermark .high high) answer ∉ run.journal
  uncompleted : ∀ answer, .sent (.completed task.split.splitId) answer ∉ run.journal
  interrupted : run.outcome = some .interrupted

theorem breaksOff_cancelledAt (sv : Services σ) (task : ReadTask) (limit : Nat) (marks : Watermarks)
    (w : σ) {moment : Nat} {before after : List Entry} {seen : Bool}
    (h : (task.execute (sv.cancelledAt (some moment)) limit marks (w, 0)).journal =
      before ++ .cancellationChecked seen :: after)
    (cancelled : moment ≤ callsMade before) :
    task.BreaksOff moment (task.execute (sv.cancelledAt (some moment)) limit marks (w, 0)) seen
      after := by
  obtain ⟨story, hcalls, hstop, hc⟩ :=
    task.execute_story (sv.cancelledAt (some moment)) limit marks (w, 0)
  have shown := shown_execute sv task (some moment) limit marks w
  obtain rfl : seen = true := by
    have looked : seen = cancelledBy (some moment) (0 + callsMade before) := shown before _ after h
    rw [looked, cancelledBy_some_eq_true_iff, Nat.zero_add]
    exact cancelled
  have hsplit := hcalls.symm
  rw [h, calls_append_cons rfl] at hsplit
  obtain ⟨schema, low, time, ds, closing, rfl, hafter⟩ := Story.after_cancelled hc hsplit
  have mem (entry : Entry) (called : entry.isCall = true) :
      entry ∈ after ↔ entry = .scanClosed closing := by
    rw [← mem_calls called, hafter, List.mem_singleton]
  have sent (event : SplitEvent) (answer : Except ReadError Unit) :
      .sent event answer ∈ (task.execute (sv.cancelledAt (some moment)) limit marks (w, 0)).journal ↔
        .sent event answer ∈ (Story.broken schema low time ds .cancelled (some closing)).calls task := by
    rw [← hcalls, mem_calls rfl]
  have shownCalls := hcalls ▸ throughout_calls (fun _ _ => showsToken_calls) shown
  refine ⟨rfl, fun answer time => ?_, ⟨closing, (mem _ rfl).2 rfl⟩, fun first second parts late => ?_,
    fun high answer => ?_, fun answer => ?_, ?_⟩
  · rw [mem _ rfl]
    exact nofun
  · rw [← acceptedChanges_calls]
    have split : (Story.broken schema low time ds .cancelled (some closing)).calls task =
        calls first ++ calls second := by
      rw [← hcalls, parts, calls_append]
    refine Story.length_acceptedChanges_le_one shownCalls split ?_
    rwa [callsMade_calls]
  · simp [sent, Story.calls, RowsEnd.calls, Delivery.calls, watermark]
  · simp [sent, Story.calls, RowsEnd.calls, Delivery.calls, watermark]
  · exact outcomeOf_eq_interrupted_iff.2 (Stop.of?_eq_some.1 hstop)

theorem execute_eq_of_cancelledLater (sv : Services σ) (task : ReadTask) (limit : Nat)
    (marks : Watermarks) (w : σ) {moment other : Option Nat} {before after : List Entry} {time : Nat}
    (h : (task.execute (sv.cancelledAt moment) limit marks (w, 0)).journal =
      before ++ .rowRead (.ok none) time :: after)
    (later : cancelledBy other (callsMade before) = false) :
    task.execute (sv.cancelledAt other) limit marks (w, 0) =
      task.execute (sv.cancelledAt moment) limit marks (w, 0) := by
  obtain ⟨story, hcalls, -, hc⟩ := task.execute_story (sv.cancelledAt moment) limit marks (w, 0)
  have hsplit := hcalls.symm
  rw [h, calls_append_cons rfl] at hsplit
  obtain ⟨uncancelled, unlooked⟩ := Story.after_end hc hsplit
  rw [← hcalls, mem_calls rfl] at uncancelled
  refine execute_eq_of_shown sv task moment other limit marks w fun b entry a parts => ?_
  cases entry with
  | cancellationChecked seen =>
      obtain rfl : seen = false := by
        cases seen with
        | false => rfl
        | true => exact absurd (parts ▸ List.mem_append_right b List.mem_cons_self) uncancelled
      have early : callsMade b ≤ callsMade before := by
        rcases List.append_eq_append_iff.1 (h.symm.trans parts) with
          ⟨more, rfl, rest⟩ | ⟨more, rfl, -⟩
        · cases more with
          | nil => cases rest
          | cons x more =>
              obtain ⟨-, rfl⟩ := List.cons.inj rest
              have looked : .cancellationChecked false ∈ more ++ .cancellationChecked false :: a :=
                List.mem_append_right more List.mem_cons_self
              exact absurd ((mem_calls rfl).2 looked) (unlooked false)
        · rw [callsMade_append]
          exact Nat.le_add_right _ _
      rw [ShowsToken, Nat.zero_add]
      exact (cancelledBy_mono early later).symm
  | _ => trivial

theorem interrupted_of_cancelledBefore (sv : Services σ) (task : ReadTask) {limit : Nat}
    (marks : Watermarks) (w : σ) (followed : 0 < limit) (config : task.config.validate = .ok ())
    (split : task.split.validate = .ok ())
    (unfailed : callErrors (task.execute (sv.cancelledAt (some 0)) limit marks (w, 0)).journal = []) :
    ((task.execute (sv.cancelledAt (some 0)) limit marks (w, 0)).outcome = some .interrupted ∨
        (task.execute (sv.cancelledAt (some 0)) limit marks (w, 0)).ending = .overflowed ∧
          ∃ time, .scanOpened (.ok ()) time ∈
              (task.execute (sv.cancelledAt (some 0)) limit marks (w, 0)).journal ∧
            clockEnd ≤ time + task.config.progressInterval.nanos) ∧
      ∃ low, acceptedEvents (task.execute (sv.cancelledAt (some 0)) limit marks (w, 0)).journal =
        [task.watermark .low low] := by
  obtain ⟨story, hcalls, hstop, hc⟩ := task.execute_story (sv.cancelledAt (some 0)) limit marks (w, 0)
  rw [← callErrors_calls, hcalls, Story.callErrors_calls] at unfailed
  have unlooked : .cancellationChecked false ∉ story.calls task := by
    rw [← hcalls, mem_calls rfl]
    intro hm
    obtain ⟨before, after, parts⟩ := List.append_of_mem hm
    have seen : false = cancelledBy (some 0) (0 + callsMade before) :=
      shown_execute sv task (some 0) limit marks w before _ after parts
    exact absurd (cancelledBy_some_eq_false_iff.1 seen.symm) (Nat.not_lt_zero _)
  have rows (cut : story.stop? task = some .rowLimit) : story.rows ≠ [] := by
    rw [← hstop, Stop.of?_eq_some, ← endingOf_eq_unfinished_iff] at cut
    have read := limit_le_rowsRead (sv.cancelledAt (some 0)) task limit marks (w, 0) cut
    rw [← rowsRead_calls, hcalls, Story.rowsRead_calls] at read
    exact List.length_pos_iff.1 (Nat.lt_of_lt_of_le followed read)
  obtain ⟨schema, low, time, ending, closing, rfl, brokenOff⟩ :=
    Story.eq_of_neverUncancelled hc config split unfailed rows unlooked
  refine ⟨?_, low, ?_⟩
  · rcases brokenOff with rfl | rfl
    · exact .inl (outcomeOf_eq_interrupted_iff.2 (Stop.of?_eq_some.1 hstop))
    · have overflowed : (task.execute (sv.cancelledAt (some 0)) limit marks (w, 0)).ending = .overflowed :=
        endingOf_eq_overflowed_iff.2 (Stop.of?_eq_some.1 hstop)
      obtain ⟨opened, at_opening, beyond | ⟨row, now, read, -⟩⟩ :=
        (task.overran_execute _ limit marks _ overflowed).beyond
      · exact .inr ⟨overflowed, opened, at_opening, beyond⟩
      · rw [← mem_calls rfl, hcalls] at read
        simp [Story.calls, RowsEnd.calls] at read
  rw [← acceptedEvents_calls, hcalls, Story.acceptedEvents_calls]
  rfl

/-- Each row is asked for right after a look at the token. A read is interrupted just where a look finds the
token cancelled, unless a service answers with an interruption. It breaks off at the first look after the
token's moment, at once where that was before the read, unless its clock overflows as the scan is opened;
and a token that is cancelled only after the scan was asked for a row and had none changes nothing. -/
theorem execute_honoursCancellation (sv : Services σ) (task : ReadTask) (limit : Nat)
    (marks : Watermarks) (w : σ) :
    (task.execute sv limit marks w).Replays sv task w ∧
    Throughout LookedBefore (calls (task.execute sv limit marks w).journal) ∧
    (.interrupted ∉ callErrors (task.execute sv limit marks w).journal →
      ((task.execute sv limit marks w).outcome = some .interrupted ↔
        .cancellationChecked true ∈ (task.execute sv limit marks w).journal)) ∧
    (∀ moment before seen after,
      (task.execute (sv.cancelledAt (some moment)) limit marks (w, 0)).journal =
          before ++ .cancellationChecked seen :: after →
        moment ≤ callsMade before →
          task.BreaksOff moment (task.execute (sv.cancelledAt (some moment)) limit marks (w, 0)) seen
            after) ∧
    (0 < limit → task.config.validate = .ok () → task.split.validate = .ok () →
      callErrors (task.execute (sv.cancelledAt (some 0)) limit marks (w, 0)).journal = [] →
        ((task.execute (sv.cancelledAt (some 0)) limit marks (w, 0)).outcome = some .interrupted ∨
            (task.execute (sv.cancelledAt (some 0)) limit marks (w, 0)).ending = .overflowed ∧
              ∃ time, .scanOpened (.ok ()) time ∈
                  (task.execute (sv.cancelledAt (some 0)) limit marks (w, 0)).journal ∧
                clockEnd ≤ time + task.config.progressInterval.nanos) ∧
          ∃ low, acceptedEvents (task.execute (sv.cancelledAt (some 0)) limit marks (w, 0)).journal =
            [task.watermark .low low]) ∧
    ∀ moment other before time after,
      (task.execute (sv.cancelledAt moment) limit marks (w, 0)).journal =
          before ++ .rowRead (.ok none) time :: after →
        cancelledBy other (callsMade before) = false →
          task.execute (sv.cancelledAt other) limit marks (w, 0) =
            task.execute (sv.cancelledAt moment) limit marks (w, 0) := by
  obtain ⟨story, hcalls, hstop, hc⟩ := task.execute_story sv limit marks w
  refine ⟨task.execute_replays sv limit marks w, hcalls ▸ story.lookedBefore task,
    fun unanswered => ?_,
    fun moment before seen after h => breaksOff_cancelledAt sv task limit marks w h,
    interrupted_of_cancelledBefore sv task marks w,
    fun moment other before time after h => execute_eq_of_cancelledLater sv task limit marks w h⟩
  rw [← callErrors_calls, hcalls, Story.callErrors_calls] at unanswered
  have looked := Story.stop?_eq_interrupted_iff hc unanswered
  rw [← hstop, Stop.of?_eq_some, ← hcalls, mem_calls rfl] at looked
  exact outcomeOf_eq_interrupted_iff.trans looked

def numberedRows (rows : Nat) : Services Nat :=
  { emptyTable 9 with
    nextRow := fun w => ⟨.ok (if w ≤ rows then some ⟨[.int w]⟩ else none), [], w⟩ }

def threeRows (moment : Option Nat) : Run (Nat × Nat) :=
  ordersTask.execute ((numberedRows 3).cancelledAt moment) 5 .none (0, 0)

theorem execute_honoursCancellation_threeRows :
    (threeRows (some 7)).outcome = some .interrupted ∧
    (acceptedChanges (threeRows (some 7)).journal).length = 2 ∧
    (∃ low, acceptedEvents (threeRows (some 0)).journal = [ordersTask.watermark .low low]) ∧
    (acceptedChanges (threeRows (some 11)).journal).length = 3 ∧
    threeRows (some 11) = threeRows none := by
  obtain ⟨-, -, -, breaksOff, before, later⟩ :=
    ordersTask.execute_honoursCancellation (numberedRows 3) 5 .none 0
  have secondRow : (threeRows (some 7)).journal = (threeRows (some 7)).journal.take 13 ++
      .cancellationChecked true :: (threeRows (some 7)).journal.drop 14 := rfl
  have atEnd : (threeRows none).journal = (threeRows none).journal.take 17 ++
      .rowRead (.ok none) 0 :: (threeRows none).journal.drop 18 := rfl
  exact ⟨(breaksOff _ _ _ _ secondRow (by decide)).interrupted, rfl,
    (before (by decide) rfl rfl rfl).2, rfl, later _ _ _ _ _ atEnd rfl⟩

end ReadTask

end SplitSnapshot
