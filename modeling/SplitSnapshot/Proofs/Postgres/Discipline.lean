import SplitSnapshot.Proofs.Postgres.Replay
import SplitSnapshot.Proofs.Postgres.Transaction
import SplitSnapshot.Proofs.Throughout

namespace SplitSnapshot

def openingStatements (table : TableId) (cursor : String) (query : ScanQuery) : List Statement :=
  [.columns table, .position, .begin, .declare cursor query]

inductive StatementOrder (table : TableId) : List Statement → Prop
  | nothing : StatementOrder table []
  | columns : StatementOrder table [.columns table]
  | low : StatementOrder table [.columns table, .position]
  | unbegun : StatementOrder table [.columns table, .position, .begin]
  | rolledBack (cursor : String) (query : ScanQuery) (rows k : Nat) : StatementOrder table
      (openingStatements table cursor query ++ List.replicate k (.fetch cursor rows) ++ [.rollback])
  | uncommitted (cursor : String) (query : ScanQuery) (rows k : Nat) : StatementOrder table
      (openingStatements table cursor query ++ List.replicate (k + 1) (.fetch cursor rows) ++
        [.finish cursor, .rollback])
  | committed (cursor : String) (query : ScanQuery) (rows k : Nat) : StatementOrder table
      (openingStatements table cursor query ++ List.replicate (k + 1) (.fetch cursor rows) ++
        [.finish cursor, .position])

/-- A rollback ends a transaction whether it is answered or not, a commit where it succeeds. -/
def Trip.EndsTransaction (trip : Trip) : Prop :=
  trip.statement = .rollback ∨ ∃ cursor, trip = ⟨.finish cursor, .ok ()⟩

def InTransaction (trips : List Trip) : Prop :=
  ⟨.begin, .ok ()⟩ ∈ trips ∧ ∀ trip ∈ trips, ¬ trip.EndsTransaction

/-- What has to be on record before a statement is sent. -/
structure Warranted (before : List Trip) (trip : Trip) : Prop where
  finish : ∀ cursor, trip.statement = .finish cursor → ∃ init rows result,
    before = init ++ [⟨.fetch cursor rows, .ok result⟩] ∧ result.rows = []
  position_outside : trip.statement = .position → ¬ InTransaction before
  position_again : trip.statement = .position → .position ∈ before.map Trip.statement →
    ∃ init cursor, before = init ++ [⟨.finish cursor, .ok ()⟩]
  rollback : trip.statement = .rollback → InTransaction before

structure Disciplined (table : TableId) (trips : List Trip) : Prop where
  order : StatementOrder table (trips.map Trip.statement)
  settled : ¬ InTransaction trips
  rollback_once : ⟨.begin, .ok ()⟩ ∈ trips → (∀ cursor, ⟨.finish cursor, .ok ()⟩ ∉ trips) →
    (trips.map Trip.statement).count .rollback = 1

def Statement.IsFree : Statement → Prop
  | .finish _ | .position | .rollback => False
  | _ => True

theorem Trip.not_endsTransaction {trip : Trip} (h : trip.statement.IsFree) :
    ¬ trip.EndsTransaction := by
  rintro (he | ⟨cursor, rfl⟩)
  · rw [he] at h
    cases h
  · cases h

theorem not_inTransaction_of_mem {trips : List Trip} {trip : Trip} (h : trip ∈ trips)
    (ends : trip.EndsTransaction) : ¬ InTransaction trips :=
  fun ⟨_, unended⟩ => unended trip h ends

theorem not_inTransaction_of_rollback {trips : List Trip}
    (h : .rollback ∈ trips.map Trip.statement) : ¬ InTransaction trips := by
  obtain ⟨trip, hm, he⟩ := List.mem_map.1 h
  exact not_inTransaction_of_mem hm (.inl he)

theorem InTransaction.append {trips more : List Trip} (h : InTransaction trips)
    (unended : ∀ trip ∈ more, ¬ trip.EndsTransaction) : InTransaction (trips ++ more) := by
  obtain ⟨begun, before⟩ := h
  refine ⟨List.mem_append_left _ begun, fun trip hm => ?_⟩
  rcases List.mem_append.1 hm with hm | hm
  · exact before trip hm
  · exact unended trip hm

namespace Warranted

variable {before : List Trip}

theorem of_isFree {trip : Trip} (h : trip.statement.IsFree) : Warranted before trip where
  finish _ he := by
    rw [he] at h
    cases h
  position_outside he := by
    rw [he] at h
    cases h
  position_again he := by
    rw [he] at h
    cases h
  rollback he := by
    rw [he] at h
    cases h

theorem of_finish {init : List Trip} {cursor : String} {rows : Nat} {result : ResultSet}
    {answer : Except ClientError Unit} (none : result.rows = [])
    (h : before = init ++ [⟨.fetch cursor rows, .ok result⟩]) :
    Warranted before ⟨.finish cursor, answer⟩ where
  finish _ he := by
    cases he
    exact ⟨init, rows, result, h, none⟩
  position_outside he := nomatch he
  position_again he := nomatch he
  rollback he := nomatch he

theorem of_rollback {answer : Except ClientError Unit} (h : InTransaction before) :
    Warranted before ⟨.rollback, answer⟩ where
  finish _ he := nomatch he
  position_outside he := nomatch he
  position_again he := nomatch he
  rollback _ := h

theorem of_position {answer : Except ClientError (List (Option String))}
    (outside : ¬ InTransaction before) (again : .position ∈ before.map Trip.statement →
      ∃ init cursor, before = init ++ [⟨.finish cursor, .ok ()⟩]) :
    Warranted before ⟨.position, answer⟩ where
  finish _ he := nomatch he
  position_outside _ := outside
  position_again _ := again
  rollback he := nomatch he

end Warranted

section

variable {table : TableId} {columns : Except ClientError (List ColumnRow)}
  {low : Except ClientError (List (Option String))} {cursor : String} {query : ScanQuery}
  {declared : Except ClientError Unit} {rows : Nat} {batches : List Trip}

theorem OnlyFetches.isFree (only : OnlyFetches cursor rows batches) :
    ∀ trip ∈ batches, trip.statement.IsFree := by
  intro trip hm
  obtain ⟨result, rfl⟩ := only trip hm
  trivial

theorem OnlyFetches.statements (only : OnlyFetches cursor rows batches) :
    batches.map Trip.statement = List.replicate batches.length (.fetch cursor rows) := by
  rw [List.eq_replicate_iff, List.length_map]
  refine ⟨rfl, fun s hs => ?_⟩
  obtain ⟨trip, hm, rfl⟩ := List.mem_map.1 hs
  obtain ⟨result, rfl⟩ := only trip hm
  rfl

theorem Warranted.of_low : Warranted [⟨.columns table, columns⟩] ⟨.position, low⟩ :=
  .of_position (fun h => nomatch List.mem_singleton.1 h.1) (by simp)

theorem inTransaction_opening :
    InTransaction (opening table columns low cursor query declared) := by
  refine ⟨by simp [opening], fun trip hm => ?_⟩
  simp only [opening, List.mem_cons, List.not_mem_nil, or_false] at hm
  rcases hm with rfl | rfl | rfl | rfl <;> rintro (he | ⟨cursor, he⟩) <;> cases he

theorem throughout_opening :
    Throughout Warranted (opening table columns low cursor query declared) := by
  simp only [opening, throughout_cons, throughout_nil, and_true]
  exact ⟨.of_isFree trivial, .of_low, .of_isFree trivial, .of_isFree trivial⟩

theorem inTransaction_batches (only : OnlyFetches cursor rows batches) :
    InTransaction (opening table columns low cursor query declared ++ batches) :=
  inTransaction_opening.append fun trip hm => trip.not_endsTransaction (only.isFree trip hm)

theorem throughout_batches (only : OnlyFetches cursor rows batches) :
    Throughout Warranted (opening table columns low cursor query declared ++ batches) :=
  throughout_append.2 ⟨throughout_opening,
    .of_forall fun trip hm _ => .of_isFree (only.isFree trip hm)⟩

end

namespace ReadRecord

variable {table : TableId} {value : Except Stop OffsetContext} {trips : List Trip}

theorem warranted (h : ReadRecord table value trips) : Throughout Warranted trips := by
  cases h with
  | nothing => exact throughout_nil
  | columns =>
      rw [throughout_cons]
      exact ⟨.of_isFree trivial, throughout_nil⟩
  | low =>
      simp only [throughout_cons, throughout_nil, and_true]
      exact ⟨.of_isFree trivial, .of_low⟩
  | unbegun =>
      simp only [throughout_cons, throughout_nil, and_true]
      exact ⟨.of_isFree trivial, .of_low, .of_isFree trivial⟩
  | unfinished cut only => exact throughout_batches only
  | rolledBack only =>
      rw [← List.append_assoc, throughout_append, throughout_cons, List.append_nil]
      exact ⟨throughout_batches only, .of_rollback (inTransaction_batches only), throughout_nil⟩
  | uncommitted only none =>
      rw [← List.append_assoc, throughout_append]
      simp only [throughout_cons, throughout_nil, and_true, List.append_nil]
      refine ⟨throughout_batches only, .of_isFree trivial,
        .of_finish none rfl, .of_rollback ?_⟩
      refine (inTransaction_batches only).append ?_
      simp [Trip.EndsTransaction]
  | @committed value columns low cursor query rows batches result high only none returned =>
      rw [← List.append_assoc, throughout_append]
      simp only [throughout_cons, throughout_nil, and_true, List.append_nil]
      refine ⟨throughout_batches only, .of_isFree trivial,
        .of_finish none rfl, .of_position ?_ fun _ => ?_⟩
      · exact not_inTransaction_of_mem (by simp) (.inr ⟨cursor, rfl⟩)
      · exact ⟨_, _, by rw [← List.append_cons]⟩

theorem order (h : ReadRecord table value trips) (returned : ReadTask.outcomeOf value ≠ none) :
    StatementOrder table (trips.map Trip.statement) := by
  cases h with
  | nothing => exact .nothing
  | columns => exact .columns
  | low => exact .low
  | unbegun => exact .unbegun
  | unfinished cut only => exact absurd (outcomeOf_eq_none_iff.2 ⟨_, rfl, cut⟩) returned
  | @rolledBack e columns low cursor query declared rows batches answer only =>
      have h := @StatementOrder.rolledBack table cursor query rows batches.length
      simpa [opening, openingStatements, only.statements] using h
  | @uncommitted e columns low cursor query rows batches result refusal answer only none =>
      have h := @StatementOrder.uncommitted table cursor query rows batches.length
      simpa [opening, openingStatements, only.statements, List.replicate_succ'] using h
  | @committed value columns low cursor query rows batches result high only none returned =>
      have h := @StatementOrder.committed table cursor query rows batches.length
      simpa [opening, openingStatements, only.statements, List.replicate_succ'] using h

theorem order_of_unfinished (h : ReadRecord table value trips)
    (unfinished : ReadTask.outcomeOf value = none) :
    ∃ cursor query rows k, trips.map Trip.statement =
      openingStatements table cursor query ++ List.replicate k (.fetch cursor rows) := by
  obtain ⟨stop, hv, cut⟩ := outcomeOf_eq_none_iff.1 unfinished
  cases h with
  | @unfinished _ columns low cursor query rows batches _ only =>
      exact ⟨cursor, query, rows, batches.length, by simp [opening, openingStatements, only.statements]⟩
  | committed only none returned => exact absurd unfinished returned
  | _ =>
      cases hv
      cases cut

theorem settled (h : ReadRecord table value trips) (returned : ReadTask.outcomeOf value ≠ none) :
    ¬ InTransaction trips := by
  cases h with
  | unfinished cut only => exact absurd (outcomeOf_eq_none_iff.2 ⟨_, rfl, cut⟩) returned
  | rolledBack only => exact not_inTransaction_of_rollback (by simp)
  | uncommitted only none => exact not_inTransaction_of_rollback (by simp)
  | @committed value columns low cursor query rows batches result high only none returned =>
      exact not_inTransaction_of_mem (by simp) (.inr ⟨cursor, rfl⟩)
  | _ => exact fun h => by simpa using h.1

theorem rollback_once (h : ReadRecord table value trips) (returned : ReadTask.outcomeOf value ≠ none)
    (begun : ⟨.begin, .ok ()⟩ ∈ trips) (uncommitted : ∀ cursor, ⟨.finish cursor, .ok ()⟩ ∉ trips) :
    (trips.map Trip.statement).count .rollback = 1 := by
  cases h with
  | unfinished cut only => exact absurd (outcomeOf_eq_none_iff.2 ⟨_, rfl, cut⟩) returned
  | rolledBack only => simp [opening, only.statements, List.count_replicate]
  | uncommitted only none => simp [opening, only.statements, List.count_replicate]
  | @committed value columns low cursor query rows batches result high only none returned =>
      exact absurd (by simp) (uncommitted cursor)
  | _ => simp at begun

theorem disciplined (h : ReadRecord table value trips) (returned : ReadTask.outcomeOf value ≠ none) :
    Disciplined table trips :=
  ⟨h.order returned, h.settled returned, h.rollback_once returned⟩

theorem disciplined_of_unfinished (h : ReadRecord table value trips)
    (unfinished : ReadTask.outcomeOf value = none) (answer : Except ClientError Unit) :
    Disciplined table (trips ++ [⟨.rollback, answer⟩]) := by
  obtain ⟨stop, hv, cut⟩ := outcomeOf_eq_none_iff.1 unfinished
  cases h with
  | @unfinished _ columns low cursor query rows batches _ only =>
      have returned : ReadTask.outcomeOf (.error (.failed (.schema (.unknownTable table)))) ≠ none := by
        rw [Ne, outcomeOf_eq_none_iff]
        rintro ⟨_, ⟨⟩, ⟨⟩⟩
      rw [List.append_assoc]
      exact (ReadRecord.rolledBack only).disciplined returned
  | committed only none returned => exact absurd unfinished returned
  | _ =>
      cases hv
      cases cut

end ReadRecord

/-- Each statement of a read is sent where it may be sent, and answered by the server that the ones before
it left. A read that returns keeps to the discipline of its transaction. One cut short is still fetching,
and keeps to the discipline once its scan is dropped. -/
theorem ReadTask.execute_disciplined {ρ τ : Type} (sv : Server ρ) (env : Surroundings τ)
    (task : ReadTask) (limit : Nat) (marks : Watermarks) (c : Client ρ τ) :
    let run := task.execute (Client.services sv env) limit marks c
    let table := task.split.table.withoutCatalog
    ∃ trips, run.world.trips = c.trips ++ trips ∧ sv.Replays c.server trips run.world.server ∧
      Throughout Warranted trips ∧
        match run.outcome with
        | some _ => Disciplined table trips
        | none =>
            (∃ cursor query rows k, trips.map Trip.statement =
              openingStatements table cursor query ++ List.replicate k (.fetch cursor rows)) ∧
            ∃ answer, let dropped := (Client.dropScan sv env true run.world).world
              dropped.trips = c.trips ++ (trips ++ [⟨.rollback, answer⟩]) ∧
                sv.Replays c.server (trips ++ [⟨.rollback, answer⟩]) dropped.server ∧
                Disciplined table (trips ++ [⟨.rollback, answer⟩]) := by
  intro run table
  have course := readCourse_stages (Client.services sv env) task marks limit c
  have sent := task.execute_sent sv env limit marks c
  obtain ⟨trips, htrips, record⟩ := course.record
  have hvalue : run.outcome = ReadTask.outcomeOf _ := task.outcome_execute _ _ _ _
  refine ⟨trips, htrips, sent.replays htrips, record.warranted, ?_⟩
  cases houtcome : run.outcome with
  | some outcome =>
      rw [houtcome] at hvalue
      exact record.disciplined (by rw [← hvalue]; exact Option.some_ne_none outcome)
  | none =>
      have unfinished := hvalue.symm.trans houtcome
      have drop : (Client.dropScan sv env true).Ends run.world _ :=
        Client.dropScan_ends (course.holdsScan unfinished)
      obtain ⟨answer, hdropped⟩ := drop
      have dropped : (Client.dropScan sv env true run.world).world.trips =
          c.trips ++ (trips ++ [⟨.rollback, answer⟩]) := by
        rw [← List.append_assoc, ← htrips]
        exact hdropped
      exact ⟨record.order_of_unfinished unfinished, answer, dropped,
        (sent.trans (Client.onRecord_dropScan true run.world)).replays dropped,
        record.disciplined_of_unfinished unfinished answer⟩

end SplitSnapshot
