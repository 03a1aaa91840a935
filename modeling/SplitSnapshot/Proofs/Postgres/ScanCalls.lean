import SplitSnapshot.Proofs.Postgres.Batches
import SplitSnapshot.Proofs.Throughout

namespace SplitSnapshot

namespace CursorScan

theorem holdsTransaction_eq_true_iff {s : CursorScan} :
    s.holdsTransaction = true ↔ s.state = .open ∨ ∃ message, s.state = .failed message := by
  rw [holdsTransaction]
  cases s.state <;> simp

theorem holdsTransaction_eq_false_iff {s : CursorScan} :
    s.holdsTransaction = false ↔ s.state = .exhausted ∨ s.state = .closed := by
  rw [holdsTransaction]
  cases s.state <;> simp

end CursorScan

namespace Client

/-- A call to a scan, with the scan that it found and the statements that it sent. A close that succeeds
answers like the end of the rows. -/
structure CallRecord where
  call : ScanCall
  found : Option CursorScan
  answer : Except ReadError (Option Row)
  sent : List Trip

namespace CallRecord

def Refills (r : CallRecord) : Prop :=
  r.call = .next ∧ ∃ s, r.found = some s ∧ s.state = .open ∧ s.buffer = []

def Abandons (r : CallRecord) : Prop :=
  r.call = .close ∧
    ∃ s, r.found = some s ∧ (s.state = .open ∨ ∃ message, s.state = .failed message)

def Ends (r : CallRecord) : Prop :=
  r.call = .close ∨ r.answer = .ok none

def Commits (r : CallRecord) : Prop :=
  ∃ cursor, ⟨.finish cursor, .ok ()⟩ ∈ r.sent

def RollsBack (r : CallRecord) : Prop :=
  ∃ trip ∈ r.sent, trip.statement = .rollback

def failure? (r : CallRecord) : Option ReadError :=
  match r.call, r.answer with
  | .next, .error e => some e
  | _, _ => none

def firstFailure? (calls : List CallRecord) : Option ReadError :=
  calls.findSome? failure?

def Sends (cursor : String) (rows : Nat) (before : List CallRecord) (r : CallRecord) : Prop :=
  (r.Refills ∧ ∃ state, Refilled cursor rows state r.sent) ∨
  (r.Abandons ∧ (∀ x ∈ before, x.call ≠ .close) ∧ ∃ answer, r.sent = [⟨.rollback, answer⟩]) ∨
  (¬ r.Refills ∧ ¬ r.Abandons ∧ r.sent = [])

structure Lawful (cursor : String) (rows : Nat) (before : List CallRecord) (r : CallRecord) : Prop where
  sends : r.Sends cursor rows before
  poisoned : ∀ e, firstFailure? before = some e →
    (∀ trip ∈ r.sent, ∀ cursor rows, trip.statement ≠ .fetch cursor rows) ∧
    (∀ row, r.answer ≠ .ok (some row)) ∧
    (r.call = .next → (∀ x ∈ before, x.call ≠ .close) →
      ∃ fault, r.answer = .error (.scanFailed fault none) ∧
        fault.message = "Split scan already failed: " ++ e.message)
  ended : (∃ x ∈ before, x.Ends) → r.sent = [] ∧ (r.call = .next → r.answer = .ok none)

end CallRecord

inductive ScanStep (s : CursorScan) :
    ScanCall → Except ReadError (Option Row) → List Trip → ScanState → Prop
  | row {row} (state : s.state = .open) (waiting : s.buffer ≠ []) :
      ScanStep s .next (.ok (some row)) [] .open
  | fetched {row sent} (state : s.state = .open) (empty : s.buffer = [])
      (refilled : Refilled s.cursor (max s.batch 1) .open sent) :
      ScanStep s .next (.ok (some row)) sent .open
  | exhausted {sent} (state : s.state = .open) (empty : s.buffer = [])
      (refilled : Refilled s.cursor (max s.batch 1) .exhausted sent) :
      ScanStep s .next (.ok none) sent .exhausted
  | failed {e sent} (state : s.state = .open) (empty : s.buffer = [])
      (refilled : Refilled s.cursor (max s.batch 1) (.failed e.message) sent) :
      ScanStep s .next (.error e) sent (.failed e.message)
  | again {message} (state : s.state = .failed message) :
      ScanStep s .next (.error (.scanFailed (.alreadyFailed message) none)) [] (.failed message)
  | idle (ended : s.state = .exhausted ∨ s.state = .closed) : ScanStep s .next (.ok none) [] s.state
  | abandoned {answer : Except ClientError Unit}
      (held : s.state = .open ∨ ∃ message, s.state = .failed message) :
      ScanStep s .close ((answer.mapError (scanFailure .rollbackFailed)).map fun _ => none)
        [⟨.rollback, answer⟩] .closed
  | released (ended : s.state = .exhausted ∨ s.state = .closed) :
      ScanStep s .close (.ok none) [] .closed

variable {ρ τ : Type} {sv : Server ρ} {env : Surroundings τ} {c : Client ρ τ} {s : CursorScan}
  {tag : CursorTag}

def call (sv : Server ρ) (env : Surroundings τ) : ScanCall → Exchange (Client ρ τ) (Option Row)
  | .next => nextRow sv env
  | .close => do
      closeScan sv env
      pure none

def record (sv : Server ρ) (env : Surroundings τ) (k : ScanCall) (c : Client ρ τ) : CallRecord :=
  let r := call sv env k c
  ⟨k, c.scan, r.result, r.world.trips.drop c.trips.length⟩

def records (sv : Server ρ) (env : Surroundings τ) : List ScanCall → Client ρ τ → List CallRecord
  | [], _ => []
  | k :: calls, c => record sv env k c :: records sv env calls (call sv env k c).world

def afterCalls (sv : Server ρ) (env : Surroundings τ) : List ScanCall → Client ρ τ → Client ρ τ
  | [], c => c
  | k :: calls, c => afterCalls sv env calls (call sv env k c).world

def Steps (s : CursorScan) (k : ScanCall) (c : Client ρ τ) (r : Except ReadError (Option Row))
    (c' : Client ρ τ) : Prop :=
  ∃ s' sent, c'.scan = some s' ∧ s'.cursor = s.cursor ∧ s'.batch = s.batch ∧
    c'.trips = c.trips ++ sent ∧ ScanStep s k r sent s'.state

theorem steps_next (scan : c.scan = some s) (hs : s.cursor = tag.name) :
    (nextRow sv env).Ends c (Steps s .next c) := by
  rw [ends_nextRow scan]
  cases state : s.state with
  | «open» =>
      by_cases empty : s.buffer = []
      · rw [ends_nextOf_refill state empty]
        refine (refill_refilled hs scan empty state).imp ?_
        rintro (e | s') c' ⟨sent, trips, refilled⟩
        · obtain ⟨⟨s', scan', cursor, batch⟩, refilled⟩ := refilled
          exact ⟨{ s' with state := .failed e.message }, sent, by rw [scan', Option.map_some], cursor,
            batch, trips, .failed state empty refilled⟩
        · obtain ⟨cursor, batch, refilled, after⟩ := refilled
          refine ⟨_, sent, rfl, cursor, batch, trips, ?_⟩
          change ScanStep s .next (.ok s'.buffer.head?) sent s'.state
          cases buffer : s'.buffer with
          | nil =>
              rw [after, if_pos buffer] at refilled ⊢
              exact .exhausted state empty refilled
          | cons row rows =>
              rw [after, if_neg (by simp [buffer])] at refilled ⊢
              exact .fetched state empty refilled
      · obtain ⟨row, rows, buffer⟩ := List.exists_cons_of_ne_nil empty
        simp only [nextOf, state, buffer, List.isEmpty_cons, Bool.false_eq_true, if_false]
        refine ⟨_, [], rfl, rfl, rfl, (List.append_nil _).symm, ?_⟩
        change ScanStep s .next (.ok s.buffer.head?) [] s.state
        rw [buffer, state]
        exact .row state empty
  | failed message =>
      rw [nextOf, state]
      refine ⟨s, [], scan, rfl, rfl, (List.append_nil _).symm, ?_⟩
      rw [state]
      exact .again state
  | exhausted =>
      rw [nextOf, state]
      exact ⟨s, [], scan, rfl, rfl, (List.append_nil _).symm, .idle (.inl state)⟩
  | closed =>
      rw [nextOf, state]
      exact ⟨s, [], scan, rfl, rfl, (List.append_nil _).symm, .idle (.inr state)⟩

theorem steps_close (scan : c.scan = some s) : (call sv env .close).Ends c (Steps s .close c) := by
  simp only [call, closeScan, Exchange.ends_bind, Exchange.ends_look, scan, ends_setScan]
  cases holds : s.holdsTransaction with
  | true =>
      have held := CursorScan.holdsTransaction_eq_true_iff.1 holds
      simp only [if_true, Exchange.ends_bind, ends_issue Statement.isEncodable_rollback]
      rcases sv.respond .rollback c.server with ⟨e | reply, server⟩
      · exact ⟨_, _, rfl, rfl, rfl, rfl, @ScanStep.abandoned s (.error e) held⟩
      · exact ⟨_, _, rfl, rfl, rfl, rfl, @ScanStep.abandoned s (.ok ()) held⟩
  | false =>
      have ended := CursorScan.holdsTransaction_eq_false_iff.1 holds
      simp only [Bool.false_eq_true, if_false, Exchange.ends_pure]
      exact ⟨_, [], rfl, rfl, rfl, (List.append_nil _).symm, .released ended⟩

theorem steps_call (scan : c.scan = some s) (hs : s.cursor = tag.name) (k : ScanCall) :
    (call sv env k).Ends c (Steps s k c) := by
  cases k with
  | next => exact steps_next scan hs
  | close => exact steps_close scan

namespace Refilled

variable {cursor : String} {rows : Nat} {state : ScanState} {sent : List Trip}

theorem not_rollback (h : Refilled cursor rows state sent) :
    ¬ ∃ trip ∈ sent, trip.statement = .rollback := by
  cases h <;> simp

theorem exhausted_of_commit (h : Refilled cursor rows state sent) {name : String}
    (commit : ⟨.finish name, .ok ()⟩ ∈ sent) : state = .exhausted := by
  cases h with
  | finished none => rfl
  | fetched some | unfetched | undecoded some => cases List.mem_singleton.1 commit
  | unfinished none =>
      simp only [List.mem_cons, List.not_mem_nil, or_false] at commit
      rcases commit with commit | commit <;> cases commit

end Refilled

namespace CallRecord

variable {before : List CallRecord} {r : CallRecord} {cursor : String} {rows : Nat}

theorem firstFailure?_append :
    firstFailure? (before ++ [r]) = (firstFailure? before).or r.failure? := by
  simp [firstFailure?, List.findSome?_append]

theorem firstFailure?_of_none (unfailed : firstFailure? before = none) :
    firstFailure? (before ++ [r]) = r.failure? := by
  rw [firstFailure?_append, unfailed, Option.none_or]

theorem firstFailure?_of_some {e : ReadError} (failed : firstFailure? before = some e) :
    firstFailure? (before ++ [r]) = some e := by
  rw [firstFailure?_append, failed, Option.some_or]

theorem forall_append {P : CallRecord → Prop} (h : ∀ x ∈ before, P x) (last : P r) :
    ∀ x ∈ before ++ [r], P x :=
  List.forall_mem_append.2 ⟨h, List.forall_mem_singleton.2 last⟩

theorem not_commits_of_silent (silent : r.sent = []) : ¬ r.Commits := by
  rintro ⟨name, commit⟩
  rw [silent] at commit
  cases commit

theorem not_rollsBack_of_silent (silent : r.sent = []) : ¬ r.RollsBack := by
  rintro ⟨trip, hm, -⟩
  rw [silent] at hm
  cases hm

def Settles (r : CallRecord) : Prop :=
  r.Ends ∨ r.Commits ∨ r.RollsBack

theorem not_settles_of_silent (next : r.call = .next) (answer : r.answer ≠ .ok none)
    (silent : r.sent = []) : ¬ r.Settles := by
  rintro ((close | ends) | commits | rollsBack)
  · rw [next] at close
    cases close
  · exact answer ends
  · exact not_commits_of_silent silent commits
  · exact not_rollsBack_of_silent silent rollsBack

theorem not_settles_of_refilled {state : ScanState} (next : r.call = .next)
    (answer : r.answer ≠ .ok none) (refilled : Refilled cursor rows state r.sent)
    (left : state ≠ .exhausted) : ¬ r.Settles := by
  rintro ((close | ends) | ⟨name, commit⟩ | rollsBack)
  · rw [next] at close
    cases close
  · exact answer ends
  · exact left (refilled.exhausted_of_commit commit)
  · exact refilled.not_rollback rollsBack

theorem not_ends_of_unsettled (unsettled : ∀ x ∈ before, ¬ x.Settles) : ¬ ∃ x ∈ before, x.Ends := by
  rintro ⟨x, hx, ends⟩
  exact unsettled x hx (.inl ends)

def SettleOneWay (calls : List CallRecord) : Prop :=
  (∀ x ∈ calls, ¬ x.Commits) ∨ ∀ x ∈ calls, ¬ x.RollsBack

theorem SettleOneWay.of_unsettled (unsettled : ∀ x ∈ before, ¬ x.Settles) : SettleOneWay before := by
  left
  intro x hx commits
  exact unsettled x hx (.inr (.inl commits))

theorem SettleOneWay.append (h : SettleOneWay before) (silent : r.sent = []) :
    SettleOneWay (before ++ [r]) := by
  rcases h with uncommitted | kept
  · exact .inl (forall_append uncommitted (not_commits_of_silent silent))
  · exact .inr (forall_append kept (not_rollsBack_of_silent silent))

end CallRecord

def Accords (before : List CallRecord) : ScanState → Prop
  | .open => CallRecord.firstFailure? before = none ∧ ∀ x ∈ before, ¬ x.Settles
  | .failed message =>
      (∃ e, CallRecord.firstFailure? before = some e ∧ e.message = message) ∧
        ∀ x ∈ before, ¬ x.Settles
  | .exhausted =>
      CallRecord.firstFailure? before = none ∧ ∀ x ∈ before, x.call ≠ .close ∧ ¬ x.RollsBack
  | .closed => (∃ x ∈ before, x.call = .close) ∧ CallRecord.SettleOneWay before

section Accords

variable {before : List CallRecord} {k : ScanCall} {answer : Except ReadError (Option Row)}
  {sent : List Trip} {state : ScanState}

theorem Accords.ended (accords : Accords before state) (ended : state = .exhausted ∨ state = .closed) :
    CallRecord.firstFailure? before = none ∨ ∃ x ∈ before, x.call = .close := by
  rcases ended with rfl | rfl
  · exact .inl accords.1
  · exact .inr accords.1

theorem Accords.unsettled (accords : Accords before state)
    (held : state = .open ∨ ∃ message, state = .failed message) : ∀ x ∈ before, ¬ x.Settles := by
  rcases held with rfl | ⟨message, rfl⟩
  · exact accords.2
  · exact accords.2

theorem Accords.settleOneWay (accords : Accords before state) : CallRecord.SettleOneWay before := by
  cases state with
  | «open» | failed message => exact .of_unsettled accords.2
  | exhausted => exact .inr fun x hx => (accords.2 x hx).2
  | closed => exact accords.2

namespace CallRecord

variable {r : CallRecord} {cursor : String} {rows : Nat}

theorem Lawful.of_open (accords : Accords before .open) (sends : r.Sends cursor rows before) :
    Lawful cursor rows before r where
  sends := sends
  poisoned e failed := by
    rw [accords.1] at failed
    cases failed
  ended ends := absurd ends (not_ends_of_unsettled accords.2)

theorem Lawful.of_over (ended : firstFailure? before = none ∨ ∃ x ∈ before, x.call = .close)
    (refills : ¬ r.Refills) (abandons : ¬ r.Abandons) (silent : r.sent = [])
    (answer : r.answer = .ok none) : Lawful cursor rows before r where
  sends := .inr (.inr ⟨refills, abandons, silent⟩)
  poisoned e failed := by
    rw [silent, answer]
    refine ⟨List.forall_mem_nil _, nofun, fun _ unclosed => ?_⟩
    rcases ended with unfailed | ⟨x, hx, closed⟩
    · rw [unfailed] at failed
      cases failed
    · exact absurd closed (unclosed x hx)
  ended _ := ⟨silent, fun _ => answer⟩

end CallRecord

theorem ScanStep.lawful (step : ScanStep s k answer sent state) (accords : Accords before s.state) :
    CallRecord.Lawful s.cursor (max s.batch 1) before ⟨k, some s, answer, sent⟩ := by
  cases step with
  | row state waiting =>
      rw [state] at accords
      refine .of_open accords (.inr (.inr ⟨?_, nofun, rfl⟩))
      rintro ⟨-, _, ⟨⟩, -, empty⟩
      exact waiting empty
  | fetched state empty refilled | exhausted state empty refilled | failed state empty refilled =>
      rw [state] at accords
      exact .of_open accords (.inl ⟨⟨rfl, s, rfl, state, empty⟩, _, refilled⟩)
  | again state =>
      rw [state] at accords
      obtain ⟨⟨e, failure, rfl⟩, unsettled⟩ := accords
      refine ⟨.inr (.inr ⟨?_, nofun, rfl⟩), fun e' failed => ?_, fun ends => ?_⟩
      · rintro ⟨-, _, ⟨⟩, «open», -⟩
        rw [state] at «open»
        cases «open»
      · rw [failure] at failed
        cases failed
        exact ⟨List.forall_mem_nil _, nofun, fun _ _ => ⟨_, rfl, rfl⟩⟩
      · exact absurd ends (CallRecord.not_ends_of_unsettled unsettled)
  | idle ended =>
      refine .of_over (accords.ended ended) ?_ nofun rfl rfl
      rintro ⟨-, _, ⟨⟩, «open», -⟩
      rw [«open»] at ended
      simp at ended
  | @abandoned answer held =>
      -- this is the first close: an earlier one would have left the scan closed
      have unsettled := accords.unsettled held
      refine ⟨.inr (.inl ⟨⟨rfl, s, rfl, held⟩, fun x hx close => ?_, answer, rfl⟩),
        fun e failed => ⟨?_, ?_, nofun⟩, fun ends => ?_⟩
      · exact unsettled x hx (.inl (.inl close))
      · rintro trip hm cursor rows fetch
        cases List.mem_singleton.1 hm
        cases fetch
      · cases answer <;> nofun
      · exact absurd ends (CallRecord.not_ends_of_unsettled unsettled)
  | released ended =>
      refine .of_over (accords.ended ended) nofun ?_ rfl rfl
      rintro ⟨-, _, ⟨⟩, held⟩
      rcases ended with state | state <;> rw [state] at held <;> simp at held

theorem ScanStep.accords (step : ScanStep s k answer sent state) (accords : Accords before s.state) :
    Accords (before ++ [⟨k, some s, answer, sent⟩]) state := by
  cases step with
  | row state waiting =>
      rw [state] at accords
      obtain ⟨unfailed, unsettled⟩ := accords
      refine ⟨CallRecord.firstFailure?_of_none unfailed, CallRecord.forall_append unsettled ?_⟩
      exact CallRecord.not_settles_of_silent rfl nofun rfl
  | fetched state empty refilled =>
      rw [state] at accords
      obtain ⟨unfailed, unsettled⟩ := accords
      refine ⟨CallRecord.firstFailure?_of_none unfailed, CallRecord.forall_append unsettled ?_⟩
      exact CallRecord.not_settles_of_refilled rfl nofun refilled nofun
  | exhausted state empty refilled =>
      rw [state] at accords
      obtain ⟨unfailed, unsettled⟩ := accords
      refine ⟨CallRecord.firstFailure?_of_none unfailed,
        CallRecord.forall_append (fun x hx => ⟨fun close => ?_, fun rollsBack => ?_⟩)
          ⟨nofun, refilled.not_rollback⟩⟩
      · exact unsettled x hx (.inl (.inl close))
      · exact unsettled x hx (.inr (.inr rollsBack))
  | failed state empty refilled =>
      rw [state] at accords
      obtain ⟨unfailed, unsettled⟩ := accords
      refine ⟨⟨_, CallRecord.firstFailure?_of_none unfailed, rfl⟩,
        CallRecord.forall_append unsettled ?_⟩
      exact CallRecord.not_settles_of_refilled rfl nofun refilled nofun
  | again state =>
      rw [state] at accords
      obtain ⟨⟨e, failed, message⟩, unsettled⟩ := accords
      refine ⟨⟨e, CallRecord.firstFailure?_of_some failed, message⟩,
        CallRecord.forall_append unsettled ?_⟩
      exact CallRecord.not_settles_of_silent rfl nofun rfl
  | idle ended =>
      rcases ended with state | state <;> rw [state] at accords ⊢
      · exact ⟨CallRecord.firstFailure?_of_none accords.1,
          CallRecord.forall_append accords.2 ⟨nofun, CallRecord.not_rollsBack_of_silent rfl⟩⟩
      · obtain ⟨⟨x, hx, close⟩, oneWay⟩ := accords
        exact ⟨⟨x, List.mem_append_left _ hx, close⟩, oneWay.append rfl⟩
  | abandoned held =>
      refine ⟨⟨_, List.mem_concat_self, rfl⟩,
        .inl (CallRecord.forall_append (fun x hx commits => ?_) ?_)⟩
      · exact accords.unsettled held x hx (.inr (.inl commits))
      · rintro ⟨name, commit⟩
        cases List.mem_singleton.1 commit
  | released ended => exact ⟨⟨_, List.mem_concat_self, rfl⟩, accords.settleOneWay.append rfl⟩

end Accords

def Follows (cursor : String) (rows : Nat) (before : List CallRecord) (c : Client ρ τ) : Prop :=
  ∃ s, c.scan = some s ∧ s.cursor = cursor ∧ max s.batch 1 = rows ∧ Accords before s.state

section Follows

variable {rows : Nat} {before : List CallRecord}

theorem Follows.call (h : Follows tag.name rows before c) (sv : Server ρ) (env : Surroundings τ)
    (k : ScanCall) :
    let r := record sv env k c
    let c' := (Client.call sv env k c).world
    r.Lawful tag.name rows before ∧ Follows tag.name rows (before ++ [r]) c' ∧
      c'.trips = c.trips ++ r.sent := by
  obtain ⟨s, scan, cursor, rfl, accords⟩ := h
  have steps : (Client.call sv env k).Ends c (Steps s k c) := steps_call scan cursor k
  obtain ⟨s', sent, scan', cursor', batch, trips, step⟩ := steps
  have recorded : record sv env k c = ⟨k, some s, (Client.call sv env k c).result, sent⟩ := by
    simp only [record, scan, trips, List.drop_left]
  intro r c'
  have hr : r = _ := recorded
  rw [hr, ← cursor]
  exact ⟨step.lawful accords, ⟨s', scan', cursor', by rw [batch], step.accords accords⟩, trips⟩

theorem onRecord_call (k : ScanCall) : OnRecord sv (call sv env k) := by
  cases k with
  | next => exact onRecord_nextRow
  | close => exact onRecord_bind onRecord_closeScan fun _ => onRecord_pure none

theorem sent_afterCalls (calls : List ScanCall) (c : Client ρ τ) :
    Sent sv c (afterCalls sv env calls c) := by
  induction calls generalizing c with
  | nil => exact .refl c
  | cons k calls ih => exact (onRecord_call k c).trans (ih _)

theorem Follows.records (h : Follows tag.name rows before c) (sv : Server ρ) (env : Surroundings τ)
    (calls : List ScanCall) :
    let rs := records sv env calls c
    let c' := afterCalls sv env calls c
    Throughout (fun earlier r => r.Lawful tag.name rows (before ++ earlier)) rs ∧
      Follows tag.name rows (before ++ rs) c' ∧ c'.trips = c.trips ++ rs.flatMap CallRecord.sent := by
  induction calls generalizing c before with
  | nil =>
      simp only [Client.records, afterCalls, throughout_nil, List.append_nil, List.flatMap_nil]
      exact ⟨trivial, h, trivial⟩
  | cons k calls ih =>
      -- the call joins those before it, and the others follow all of these
      obtain ⟨lawful, follows, trips⟩ := h.call sv env k
      obtain ⟨later, follows', trips'⟩ := ih follows
      simp only [List.append_assoc, List.singleton_append] at later follows'
      simp only [Client.records, afterCalls, throughout_cons, List.append_nil, List.flatMap_cons]
      refine ⟨⟨lawful, later⟩, follows', ?_⟩
      rw [trips', trips, List.append_assoc]

end Follows

/-- Whatever the server answers and whatever is called, each call to an opened scan sends what is its due,
and the server answers it. A scan that failed stays failed, one that is exhausted or closed is over, and
none commits and rolls back as well. -/
theorem calls_lawful {split : Split} {schema : TableSchema} {fetchSize : Nat} {before : Client ρ τ}
    {notes : List LogEntry}
    (opened : openScan sv env split schema fetchSize before = ⟨.ok (), notes, c⟩) :
    ∃ tag : CursorTag, c.scan = some (.start tag.name fetchSize schema) ∧
      ∀ calls, let rs := records sv env calls c
        (afterCalls sv env calls c).trips = c.trips ++ rs.flatMap CallRecord.sent ∧
        sv.Replays c.server (rs.flatMap CallRecord.sent) (afterCalls sv env calls c).server ∧
        Throughout (CallRecord.Lawful tag.name (max fetchSize 1)) rs ∧
        ¬ ((∃ r ∈ rs, r.Commits) ∧ ∃ r ∈ rs, r.RollsBack) := by
  obtain ⟨tag, query, -, scan⟩ := (openScan_ends split schema fetchSize).of_eq opened
  refine ⟨tag, scan, fun calls => ?_⟩
  have start : Follows tag.name (max fetchSize 1) [] c :=
    ⟨_, scan, rfl, rfl, rfl, List.forall_mem_nil _⟩
  obtain ⟨lawful, ⟨s, -, -, -, accords⟩, trips⟩ := start.records sv env calls
  refine ⟨trips, (sent_afterCalls calls c).replays trips, lawful, ?_⟩
  rintro ⟨⟨r, hr, commits⟩, r', hr', rollsBack⟩
  rcases accords.settleOneWay with uncommitted | kept
  · exact uncommitted r hr commits
  · exact kept r' hr' rollsBack

def severedServer (columns : List ResultColumn) : Server (List RowBatch) where
  respond
    | .fetch _ _, batch :: batches => (.ok ⟨columns, batch⟩, batches)
    | .fetch _ _, [] => (.error .closed, [])
    | s, batches => (batchServer columns).respond s batches

def severedOpening : Answer (Client (List RowBatch) Unit) Unit :=
  openScan (severedServer [numberColumn]) ReadTask.stillSurroundings ReadTask.ordersTask.split
    numberSchema 2 (.start numberBatches ())

def severedCalls : List CallRecord :=
  records (severedServer [numberColumn]) ReadTask.stillSurroundings
    [.next, .next, .next, .next, .next, .close, .next] severedOpening.world

theorem calls_lawful_severed :
    severedOpening = ⟨.ok (), severedOpening.notes, severedOpening.world⟩ ∧
      (∃ tag : CursorTag, Throughout (CallRecord.Lawful tag.name 2) severedCalls) ∧
      severedCalls.map (fun r => (r.answer.isOk, r.sent.length)) =
        [(true, 1), (true, 0), (true, 1), (false, 1), (false, 0), (true, 1), (true, 0)] := by
  have opened : severedOpening = ⟨.ok (), severedOpening.notes, severedOpening.world⟩ :=
    answer_eq_of_isOk (by decide +kernel)
  obtain ⟨tag, -, lawful⟩ := calls_lawful opened
  exact ⟨opened, ⟨tag, (lawful _).2.2.1⟩, by decide +kernel⟩

end Client

end SplitSnapshot
