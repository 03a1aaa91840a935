import SplitSnapshot.Proofs.Read.Calls
import SplitSnapshot.Proofs.Read.Parts
import SplitSnapshot.Proofs.Throughout

namespace SplitSnapshot

variable {σ α β : Type}

def Entry.isService : Entry → Bool
  | schemaRead _ | positionRead _ | scanOpened _ _ | rowRead _ _ | scanClosed _ | sent _ _ => true
  | _ => false

def callsMade (journal : List Entry) : Nat :=
  journal.countP Entry.isService

@[simp] theorem callsMade_nil : callsMade [] = 0 := rfl

@[simp] theorem callsMade_cons (entry : Entry) (journal : List Entry) :
    callsMade (entry :: journal) = callsMade journal + if entry.isService then 1 else 0 :=
  List.countP_cons

@[simp] theorem callsMade_append (first second : List Entry) :
    callsMade (first ++ second) = callsMade first + callsMade second :=
  List.countP_append

@[simp] theorem callsMade_map_noted (notes : List LogEntry) : callsMade (notes.map .noted) = 0 := by
  simp [callsMade, List.countP_eq_zero, Entry.isService]

theorem callsMade_calls (journal : List Entry) : callsMade (calls journal) = callsMade journal := by
  induction journal with
  | nil => rfl
  | cons entry journal ih => cases entry <;> simp [Entry.isCall, Entry.isService, ih]

/-- A token that is cancelled in the course of this call, counted from one, is found cancelled after so
many calls. At zero it is cancelled before the first call, and without a moment never. -/
def cancelledBy (moment : Option Nat) (calls : Nat) : Bool :=
  moment.any (· ≤ calls)

theorem cancelledBy_some_eq_true_iff {moment calls : Nat} :
    cancelledBy (some moment) calls = true ↔ moment ≤ calls :=
  decide_eq_true_iff

theorem cancelledBy_some_eq_false_iff {moment calls : Nat} :
    cancelledBy (some moment) calls = false ↔ calls < moment :=
  decide_eq_false_iff_not.trans Nat.not_le

theorem cancelledBy_mono {moment : Option Nat} {calls later : Nat} (h : calls ≤ later)
    (uncancelled : cancelledBy moment later = false) : cancelledBy moment calls = false := by
  cases moment with
  | none => rfl
  | some moment =>
      rw [cancelledBy_some_eq_false_iff] at uncancelled ⊢
      omega

def Answer.counted (a : Answer σ α) (calls : Nat) : Answer (σ × Nat) α :=
  ⟨a.result, a.notes, (a.world, calls + 1)⟩

def Services.cancelledAt (sv : Services σ) (moment : Option Nat) : Services (σ × Nat) where
  schema table w := (sv.schema table w.1).counted w.2
  position w := (sv.position w.1).counted w.2
  openScan split schema fetchSize w := (sv.openScan split schema fetchSize w.1).counted w.2
  nextRow w := (sv.nextRow w.1).counted w.2
  closeScan w := (sv.closeScan w.1).counted w.2
  send event w := (sv.send event w.1).counted w.2
  cancelled w := cancelledBy moment w.2
  clock w := sv.clock w.1
  wallMillis w := sv.wallMillis w.1

def ShowsToken (moment : Option Nat) (made : Nat) (before : List Entry) : Entry → Prop
  | .cancellationChecked seen => seen = cancelledBy moment (made + callsMade before)
  | _ => True

theorem showsToken_append {moment : Option Nat} {made : Nat} {before more : List Entry}
    {entry : Entry} : ShowsToken moment made (before ++ more) entry ↔
      ShowsToken moment (made + callsMade before) more entry := by
  cases entry <;> simp [ShowsToken, Nat.add_assoc]

theorem throughout_calls {P : List Entry → Entry → Prop} {journal : List Entry}
    (seen : ∀ before entry, P before entry → P (calls before) entry) (h : Throughout P journal) :
    Throughout P (calls journal) := by
  intro before entry after hc
  obtain ⟨first, rest, rfl, rfl, hrest⟩ := List.filter_eq_append_iff.1 hc
  obtain ⟨aside, later, rfl, uncalled, -, -⟩ := List.filter_eq_cons_iff.1 hrest
  have law := seen _ _ (h (first ++ aside) entry later (List.append_assoc _ _ _).symm)
  have quiet : calls aside = [] := List.filter_eq_nil_iff.2 uncalled
  rwa [calls_append, quiet, List.append_nil] at law

theorem showsToken_calls {moment : Option Nat} {made : Nat} {before : List Entry} {entry : Entry}
    (h : ShowsToken moment made before entry) : ShowsToken moment made (calls before) entry := by
  cases entry with
  | cancellationChecked seen =>
      rw [ShowsToken, callsMade_calls]
      exact h
  | _ => trivial

theorem throughout_showsToken_append {moment : Option Nat} {made : Nat} {first second : List Entry} :
    Throughout (ShowsToken moment made) (first ++ second) ↔
      Throughout (ShowsToken moment made) first ∧
        Throughout (ShowsToken moment (made + callsMade first)) second := by
  rw [throughout_append]
  simp only [Throughout, showsToken_append]

namespace Stage

structure TimedAt (moment other : Option Nat) (m m' : Stage (σ × Nat) α) (s : ReadState (σ × Nat)) :
    Prop where
  counted : (m s).state.world.2 = s.world.2 + callsMade (m s).journal
  shown : Throughout (ShowsToken moment s.world.2) (m s).journal
  same : Throughout (ShowsToken other s.world.2) (m s).journal → m' s = m s

def Timed (moment other : Option Nat) (m m' : Stage (σ × Nat) α) : Prop :=
  ∀ s, TimedAt moment other m m' s

namespace Timed

variable {moment other : Option Nat}

theorem bind {m m' : Stage (σ × Nat) α} {f f' : α → Stage (σ × Nat) β}
    (hm : Timed moment other m m') (hf : ∀ a, Timed moment other (f a) (f' a)) :
    Timed moment other (m >>= f) (m' >>= f') := by
  intro s
  obtain ⟨counted, shown, same⟩ := hm s
  cases hv : (m s).value with
  | error stop =>
      refine ⟨?_, ?_, fun h => ?_⟩
      · simpa only [bind_apply, hv] using counted
      · simpa only [bind_apply, hv] using shown
      · simp only [bind_apply, hv] at h ⊢
        rw [same h, hv]
  | ok a =>
      -- the second stage counts on from the calls of the first
      obtain ⟨counted', shown', same'⟩ := hf a (m s).state
      rw [counted] at counted' shown' same'
      refine ⟨?_, ?_, fun h => ?_⟩
      · simp only [bind_apply, hv, StageResult.after, callsMade_append]
        omega
      · simp only [bind_apply, hv, StageResult.after]
        exact throughout_showsToken_append.2 ⟨shown, shown'⟩
      · simp only [bind_apply, hv, StageResult.after] at h ⊢
        obtain ⟨first, second⟩ := throughout_showsToken_append.1 h
        rw [same first, hv]
        simp only [same' second]

theorem of_quiet {m : Stage (σ × Nat) α} (unmoved : ∀ s, (m s).state.world = s.world)
    (quiet : ∀ s, (m s).journal = []) : Timed moment other m m := fun s => by
  refine ⟨?_, ?_, fun _ => rfl⟩
  · rw [unmoved, quiet]
    rfl
  · rw [quiet]
    exact throughout_nil

theorem pure (a : α) : Timed moment other (pure a : Stage (σ × Nat) α) (pure a) :=
  of_quiet (fun _ => rfl) fun _ => rfl

theorem fail (e : ReadError) : Timed moment other (fail e : Stage (σ × Nat) α) (fail e) :=
  of_quiet (fun _ => rfl) fun _ => rfl

theorem arm (timer : ProgressTimer) :
    Timed moment other (ReadTask.arm timer : Stage (σ × Nat) ProgressTimer) (ReadTask.arm timer) := by
  unfold ReadTask.arm
  split
  · exact .pure timer
  · exact of_quiet (fun _ => rfl) fun _ => rfl

theorem stopAtLimit : Timed moment other (stopAtLimit : Stage (σ × Nat) α) stopAtLimit :=
  of_quiet (fun _ => rfl) fun _ => rfl

theorem look (view : σ × Nat → α) : Timed moment other (look view) (look view) :=
  of_quiet (fun _ => rfl) fun _ => rfl

theorem recordLow (p : Lsn) :
    Timed moment other (recordLow p : Stage (σ × Nat) Unit) (recordLow p) :=
  of_quiet (fun _ => rfl) fun _ => rfl

theorem recordHigh (p : Lsn) :
    Timed moment other (recordHigh p : Stage (σ × Nat) Unit) (recordHigh p) :=
  of_quiet (fun _ => rfl) fun _ => rfl

theorem write {entry : Entry} (aside : entry.isCall = false) :
    Timed moment other (write entry : Stage (σ × Nat) Unit) (write entry) := by
  intro s
  refine ⟨?_, ?_, fun _ => rfl⟩
  · cases entry <;> first | rfl | cases aside
  · refine throughout_cons.2 ⟨?_, throughout_nil⟩
    cases entry with
    | cancellationChecked seen => cases aside
    | _ => trivial

theorem ask {call : σ × Nat → Answer (σ × Nat) α} {entry : Answer (σ × Nat) α → Entry}
    (counts : ∀ w, (call w).world.2 = w.2 + 1) (service : ∀ a, (entry a).isService = true) :
    Timed moment other (ask call entry) (ask call entry) := by
  intro s
  refine ⟨?_, ?_, fun _ => rfl⟩
  · simp [Stage.ask, counts, service]
  · refine .of_forall fun e he before => ?_
    rcases List.mem_append.1 he with note | one
    · obtain ⟨note, -, rfl⟩ := List.mem_map.1 note
      trivial
    · obtain rfl := List.mem_singleton.1 one
      have called := service (call s.world)
      cases hentry : entry (call s.world) with
      | cancellationChecked seen =>
          rw [hentry] at called
          cases called
      | _ => trivial

theorem check (sv : Services σ) {f f' : Bool → Stage (σ × Nat) α}
    (hf : ∀ cancelled, Timed moment other (f cancelled) (f' cancelled)) :
    Timed moment other
      (Stage.look (sv.cancelledAt moment).cancelled >>= fun cancelled =>
        Stage.write (.cancellationChecked cancelled) >>= fun _ => f cancelled)
      (Stage.look (sv.cancelledAt other).cancelled >>= fun cancelled =>
        Stage.write (.cancellationChecked cancelled) >>= fun _ => f' cancelled) := by
  intro s
  obtain ⟨counted, shown, same⟩ := hf (cancelledBy moment s.world.2) s
  refine ⟨?_, ?_, fun h => ?_⟩
  · exact counted
  · refine throughout_cons.2 ⟨rfl, ?_⟩
    exact shown
  · change StageResult.after [.cancellationChecked (cancelledBy other s.world.2)]
        (f' (cancelledBy other s.world.2) s) =
      StageResult.after [.cancellationChecked (cancelledBy moment s.world.2)]
        (f (cancelledBy moment s.world.2) s)
    have looked : Throughout (ShowsToken other s.world.2)
        ([.cancellationChecked (cancelledBy moment s.world.2)] ++
          (f (cancelledBy moment s.world.2) s).journal) := h
    obtain ⟨seen, rest⟩ := throughout_showsToken_append.1 looked
    have agree : cancelledBy moment s.world.2 = cancelledBy other s.world.2 :=
      (throughout_cons.1 seen).1
    rw [← agree, same rest]

end Timed

end Stage

namespace ReadTask

open Stage

variable (sv : Services σ) (task : ReadTask) (moment other : Option Nat)

theorem timed_reportProgress (scan : ScanContext) (timer : ProgressTimer) :
    Timed moment other (reportProgress (sv.cancelledAt moment) task scan timer)
      (reportProgress (sv.cancelledAt other) task scan timer) := by
  refine .bind (.look _) fun now => ?_
  split
  · exact .bind (.write rfl) fun _ => .bind (.write rfl) fun _ => .arm _
  · exact .pure _

theorem timed_exportRows (width limit : Nat) (scan : ScanContext) (timer : ProgressTimer) :
    Timed moment other (exportRows (sv.cancelledAt moment) task width limit scan timer)
      (exportRows (sv.cancelledAt other) task width limit scan timer) := by
  induction limit generalizing scan timer with
  | zero => exact .stopAtLimit
  | succ limit ih =>
      refine .check sv fun cancelled => ?_
      split
      · exact .bind (.write rfl) fun _ => .pure _
      · refine .bind (.ask (fun _ => rfl) fun _ => rfl) fun read => ?_
        rcases read with e | _ | row
        · exact .pure _
        · exact .pure _
        · refine .bind (timed_reportProgress _ _ _ _ _ _) fun timer =>
            .bind (.look _) fun millis =>
            .bind (.ask (fun _ => rfl) fun _ => rfl) fun sent => ?_
          cases sent with
          | error e => exact .pure _
          | ok u => exact ih _ _

theorem partsRelated_timed (limit : Nat) : PartsRelated (Timed moment other) (sv.cancelledAt moment)
    (sv.cancelledAt other) task limit where
  bind hm hf := .bind hm hf
  pure a := .pure a
  fail e := .fail e
  arm timer := .arm timer
  note _ _ _ := .write rfl
  count _ := .write rfl
  recordLow p := .recordLow p
  recordHigh p := .recordHigh p
  clock := .look _
  schema _ := .ask (fun _ => rfl) fun _ => rfl
  position := .ask (fun _ => rfl) fun _ => rfl
  openScan _ := .ask (fun _ => rfl) fun _ => rfl
  rows width scan timer := timed_exportRows sv task moment other width limit scan timer
  closeScan := .ask (fun _ => rfl) fun _ => rfl
  send _ := .ask (fun _ => rfl) fun _ => rfl

theorem timed_stages (limit : Nat) :
    Timed moment other (stages (sv.cancelledAt moment) task limit)
      (stages (sv.cancelledAt other) task limit) :=
  (partsRelated_timed sv task moment other limit).stages

theorem throughout_showsToken_execute {moment : Option Nat} {sv : Services σ} {task : ReadTask}
    {limit : Nat} {marks : Watermarks} {w : σ} :
    Throughout (ShowsToken moment 0) (task.execute sv limit marks w).journal ↔
      Throughout (ShowsToken moment 0) (task.stages sv limit ⟨w, marks⟩).journal := by
  have start : Throughout (ShowsToken moment 0) [.counted .started] := by
    simp [ShowsToken]
  have ending (made : Nat) (elapsed : Duration) (outcome : Option Outcome) :
      Throughout (ShowsToken moment made) ((outcome.map (task.closing elapsed)).getD []) := by
    rcases outcome with _ | (_ | _ | _) <;> simp [closing, ShowsToken]
  change Throughout _ ([_] ++ _ ++ _) ↔ _
  rw [throughout_showsToken_append, throughout_showsToken_append, and_iff_left (ending _ _ _),
    and_iff_right start]
  rfl

theorem shown_execute (limit : Nat) (marks : Watermarks) (w : σ) :
    Throughout (ShowsToken moment 0)
      (task.execute (sv.cancelledAt moment) limit marks (w, 0)).journal :=
  throughout_showsToken_execute.2
    (timed_stages sv task moment moment limit ⟨(w, 0), marks⟩).shown

theorem execute_eq_of_shown (limit : Nat) (marks : Watermarks) (w : σ)
    (same : Throughout (ShowsToken other 0)
      (task.execute (sv.cancelledAt moment) limit marks (w, 0)).journal) :
    task.execute (sv.cancelledAt other) limit marks (w, 0) =
      task.execute (sv.cancelledAt moment) limit marks (w, 0) := by
  have stages := (timed_stages sv task moment other limit ⟨(w, 0), marks⟩).same
    (throughout_showsToken_execute.1 same)
  simp only [execute, stages]
  rfl

end ReadTask

end SplitSnapshot
