import Mathlib.Algebra.Order.BigOperators.Group.Finset
import SplitSnapshot.Proofs.Read.Failures
import SplitSnapshot.Proofs.Read.Updates
import SplitSnapshot.Proofs.Shared.Calls

namespace SplitSnapshot

namespace MetricUpdate

def isOutcome : MetricUpdate → Bool
  | completed _ | failed _ | interrupted => true
  | started | rows _ => false

def starts : MetricUpdate → Nat
  | started => 1
  | _ => 0

def completions : MetricUpdate → Nat
  | completed _ => 1
  | _ => 0

def failures : MetricUpdate → Nat
  | failed _ => 1
  | _ => 0

def interruptions : MetricUpdate → Nat
  | interrupted => 1
  | _ => 0

def rowCount : MetricUpdate → Nat
  | rows n => n.toNat
  | _ => 0

def total (weight : MetricUpdate → Nat) (updates : List MetricUpdate) : Nat :=
  (updates.map weight).sum

@[simp] theorem total_nil (weight : MetricUpdate → Nat) : total weight [] = 0 := rfl

@[simp] theorem total_cons (weight : MetricUpdate → Nat) (u : MetricUpdate)
    (updates : List MetricUpdate) : total weight (u :: updates) = weight u + total weight updates := by
  rw [total, List.map_cons, List.sum_cons, total]

end MetricUpdate

namespace Counters

open MetricUpdate

def after (updates : List MetricUpdate) : Counters :=
  updates.foldl record zero

theorem field_after {field : Counters → UInt64} {weight : MetricUpdate → Nat}
    (zero : field zero = 0)
    (step : ∀ c u, field (c.record u) = field c + UInt64.ofNat (weight u))
    (updates : List MetricUpdate) : field (after updates) = UInt64.ofNat (total weight updates) := by
  have run (c : Counters) :
      field (updates.foldl record c) = field c + UInt64.ofNat (total weight updates) := by
    induction updates generalizing c with
    | nil => simp
    | cons u updates ih =>
        rw [List.foldl_cons, ih, step, UInt64.add_assoc, ← UInt64.ofNat_add, total_cons]
  rw [after, run, zero, UInt64.zero_add]

theorem started_after (updates : List MetricUpdate) :
    (after updates).started = UInt64.ofNat (total starts updates) :=
  field_after rfl (fun c u => by cases u <;> simp [record, starts]) updates

theorem completed_after (updates : List MetricUpdate) :
    (after updates).completed = UInt64.ofNat (total completions updates) :=
  field_after rfl (fun c u => by cases u <;> simp [record, completions]) updates

theorem failed_after (updates : List MetricUpdate) :
    (after updates).failed = UInt64.ofNat (total failures updates) :=
  field_after rfl (fun c u => by cases u <;> simp [record, failures]) updates

theorem interrupted_after (updates : List MetricUpdate) :
    (after updates).interrupted = UInt64.ofNat (total interruptions updates) :=
  field_after rfl (fun c u => by cases u <;> simp [record, interruptions]) updates

theorem rows_after (updates : List MetricUpdate) :
    (after updates).rows = UInt64.ofNat (total rowCount updates) :=
  field_after rfl (fun c u => by cases u <;> simp [record, rowCount]) updates

end Counters

inductive Counts : List MetricUpdate → Prop
  | nothing : Counts []
  | begun {more : List MetricUpdate} (once : .started ∉ more)
      (one : more.countP MetricUpdate.isOutcome ≤ 1) : Counts (.started :: more)

def InProgress (updates : List MetricUpdate) : Prop :=
  .started ∈ updates ∧ ∀ u ∈ updates, u.isOutcome = false

instance (updates : List MetricUpdate) : Decidable (InProgress updates) :=
  inferInstanceAs (Decidable (_ ∧ _))

open MetricUpdate

theorem total_outcomes (updates : List MetricUpdate) :
    total completions updates + total failures updates + total interruptions updates =
      updates.countP isOutcome := by
  induction updates with
  | nil => rfl
  | cons u updates ih =>
      rw [List.countP_cons, ← ih]
      cases u <;> simp [completions, failures, interruptions, isOutcome] <;> omega

theorem total_starts_of_not_mem {updates : List MetricUpdate} (h : .started ∉ updates) :
    total starts updates = 0 := by
  rw [total, List.sum_eq_zero_iff_forall_eq_nat]
  intro n hn
  obtain ⟨u, hu, rfl⟩ := List.mem_map.1 hn
  cases u with
  | started => exact absurd hu h
  | _ => rfl

namespace Counts

variable {updates : List MetricUpdate}

theorem of_prefix (h : Counts updates) {before : List MetricUpdate} (hp : before <+: updates) :
    Counts before := by
  cases h with
  | nothing =>
      rw [List.prefix_nil.1 hp]
      exact .nothing
  | begun once one =>
      rcases List.prefix_cons_iff.1 hp with rfl | ⟨done, rfl, hd⟩
      · exact .nothing
      · exact .begun (fun hm => once (hd.subset hm)) (hd.sublist.countP_le.trans one)

theorem total_starts_le (h : Counts updates) : total starts updates ≤ 1 := by
  cases h with
  | nothing => exact Nat.zero_le 1
  | begun once one =>
      rw [total_cons, total_starts_of_not_mem once]
      exact Nat.le_refl 1

theorem balance (h : Counts updates) :
    total starts updates = total completions updates + total failures updates +
      total interruptions updates + if InProgress updates then 1 else 0 := by
  rw [total_outcomes]
  cases h with
  | nothing => rfl
  | @begun more once one =>
      have starts_eq : total starts (.started :: more) = 1 := by
        rw [total_cons, total_starts_of_not_mem once]
        rfl
      have progress : InProgress (.started :: more) ↔ more.countP isOutcome = 0 := by
        simp [InProgress, isOutcome, List.countP_eq_zero]
      have same : (MetricUpdate.started :: more).countP isOutcome = more.countP isOutcome := by
        simp [isOutcome]
      rw [starts_eq, same]
      split <;> rename_i hin <;> rw [progress] at hin <;> omega

end Counts

namespace Outcome

def isCompleted : Outcome → Bool
  | completed _ => true
  | _ => false

def isFailed : Outcome → Bool
  | failed _ => true
  | _ => false

def isInterrupted : Outcome → Bool
  | interrupted => true
  | _ => false

end Outcome

namespace ReadCall

variable {c : ReadCall}

theorem counts (c : ReadCall) : Counts (metricUpdates c.journal) := by
  obtain ⟨elapsed, rows, hu, hr⟩ :=
    ReadTask.metricUpdates_execute c.services c.task c.limit c.marks c.world
  rw [journal, run, hu]
  rcases hr with ⟨rfl, -⟩ | rfl <;>
    rcases (c.task.execute c.services c.limit c.marks c.world).outcome with _ | (_ | _ | _) <;>
      exact .begun (by simp [Outcome.update]) (by simp [Outcome.update, isOutcome])

theorem updates_eq {outcome : Outcome} (h : c.outcome = some outcome) : ∃ elapsed rows,
    metricUpdates c.journal = .started :: (rows ++ [outcome.update elapsed]) ∧
      (rows = [] ∧ rowsRead c.journal = [] ∨
        rows = [.rows (UInt64.ofNat (rowsRead c.journal).length)]) := by
  obtain ⟨elapsed, rows, hu, hr⟩ :=
    ReadTask.metricUpdates_execute c.services c.task c.limit c.marks c.world
  have h : (c.task.execute c.services c.limit c.marks c.world).outcome = some outcome := h
  rw [h] at hu hr
  exact ⟨elapsed, rows, hu, hr.imp_left fun h => ⟨h.1, h.2 nofun⟩⟩

theorem not_inProgress {outcome : Outcome} (h : c.outcome = some outcome) :
    ¬ InProgress (metricUpdates c.journal) := by
  rintro ⟨-, without⟩
  obtain ⟨elapsed, rows, hu, -⟩ := updates_eq h
  have last := without (outcome.update elapsed) (by simp [hu])
  cases outcome <;> cases last

structure Totals (c : ReadCall) (outcome : Outcome) : Prop where
  starts : total starts (metricUpdates c.journal) = 1
  completions : total completions (metricUpdates c.journal) = if outcome.isCompleted then 1 else 0
  failures : total failures (metricUpdates c.journal) = if outcome.isFailed then 1 else 0
  interruptions :
    total interruptions (metricUpdates c.journal) = if outcome.isInterrupted then 1 else 0
  rows : total rowCount (metricUpdates c.journal) = (rowsRead c.journal).length % 2 ^ 64

theorem totals {outcome : Outcome} (h : c.outcome = some outcome) : c.Totals outcome := by
  obtain ⟨elapsed, rows, hu, hr⟩ := updates_eq h
  rcases hr with ⟨rfl, unread⟩ | rfl
  · constructor <;> rw [hu] <;> cases outcome <;> simp [unread, Outcome.update, Outcome.isCompleted,
      Outcome.isFailed, Outcome.isInterrupted, starts, completions, failures, interruptions, rowCount]
  · constructor <;> rw [hu] <;> cases outcome <;> simp [Outcome.update, Outcome.isCompleted,
      Outcome.isFailed, Outcome.isInterrupted, starts, completions, failures, interruptions, rowCount]

end ReadCall

section

variable {ι : Type}

def Counters.afterAll (updates : List (ι × MetricUpdate)) : Counters :=
  .after (updates.map (·.2))

variable [DecidableEq ι] {calls : ι → ReadCall} {updates : List (ι × MetricUpdate)}

theorem totals_of_returned
    (returned : ∀ i, stepsOf i updates = metricUpdates (calls i).journal ∧ (calls i).outcome ≠ none)
    (i : ι) : ∃ outcome, stepsOf i updates = metricUpdates (calls i).journal ∧
      (calls i).outcome = some outcome ∧ (calls i).Totals outcome := by
  obtain ⟨all, ended⟩ := returned i
  obtain ⟨outcome, h⟩ := Option.ne_none_iff_exists'.1 ended
  exact ⟨outcome, all, h, ReadCall.totals h⟩

variable [Fintype ι]

theorem toNat_total {weight : MetricUpdate → Nat}
    (h : ∑ i, total weight (stepsOf i updates) < 2 ^ 64) :
    (UInt64.ofNat (total weight (updates.map (·.2)))).toNat =
      ∑ i, total weight (stepsOf i updates) := by
  have sum : total weight (updates.map (·.2)) = ∑ i, total weight (stepsOf i updates) := by
    rw [total, List.map_map]
    exact sum_stepsOf weight updates
  rw [sum, UInt64.toNat_ofNat', Nat.mod_eq_of_lt h]

theorem inFlight_afterAll (few : Fintype.card ι < 2 ^ 64)
    (reached : ∀ i, stepsOf i updates <+: metricUpdates (calls i).journal) :
    (Counters.afterAll updates).inFlight =
      (Finset.univ.filter fun i => InProgress (stepsOf i updates)).card := by
  have counts (i : ι) : Counts (stepsOf i updates) := (calls i).counts.of_prefix (reached i)
  -- no more starts than reads and no more outcomes than starts, so no counter wraps
  have started : ∑ i, total starts (stepsOf i updates) ≤ Fintype.card ι := by
    have h := Finset.sum_le_card_nsmul Finset.univ _ 1 fun i _ => (counts i).total_starts_le
    simpa using h
  have balance : ∑ i, total starts (stepsOf i updates) =
      ∑ i, total completions (stepsOf i updates) + ∑ i, total failures (stepsOf i updates) +
        ∑ i, total interruptions (stepsOf i updates) +
          (Finset.univ.filter fun i => InProgress (stepsOf i updates)).card := by
    rw [Finset.card_filter, ← Finset.sum_add_distrib, ← Finset.sum_add_distrib,
      ← Finset.sum_add_distrib]
    exact Finset.sum_congr rfl fun i _ => (counts i).balance
  simp only [Counters.inFlight, Counters.afterAll, Counters.started_after, Counters.completed_after,
    Counters.failed_after, Counters.interrupted_after]
  rw [toNat_total (by omega), toNat_total (by omega), toNat_total (by omega), toNat_total (by omega)]
  omega

theorem toNat_total_of_indicator {weight : MetricUpdate → Nat} {p : ι → Bool}
    (few : Fintype.card ι < 2 ^ 64)
    (h : ∀ i, total weight (stepsOf i updates) = if p i then 1 else 0) :
    (UInt64.ofNat (total weight (updates.map (·.2)))).toNat =
      (Finset.univ.filter fun i => p i = true).card := by
  have sum : ∑ i, total weight (stepsOf i updates) =
      (Finset.univ.filter fun i => p i = true).card := by
    rw [Finset.card_filter]
    exact Finset.sum_congr rfl fun i _ => h i
  rw [toNat_total, sum]
  rw [sum]
  exact (Finset.card_filter_le _ _).trans_lt few

theorem toNat_total_of_outcome {weight : MetricUpdate → Nat} {p : Outcome → Bool}
    (few : Fintype.card ι < 2 ^ 64)
    (returned : ∀ i, stepsOf i updates = metricUpdates (calls i).journal ∧ (calls i).outcome ≠ none)
    (h : ∀ (c : ReadCall) outcome, c.Totals outcome →
      total weight (metricUpdates c.journal) = if p outcome then 1 else 0) :
    (UInt64.ofNat (total weight (updates.map (·.2)))).toNat =
      (Finset.univ.filter fun i => (calls i).outcome.any p = true).card := by
  refine toNat_total_of_indicator few fun i => ?_
  obtain ⟨outcome, all, ended, totals⟩ := totals_of_returned returned i
  rw [all, h _ _ totals, ended]
  rfl

/-- The counters of several reads agree with the reads: at every moment on those in progress, and once
all of them have returned on their outcomes and on the rows that their scans returned. -/
theorem counters_balance (calls : ι → ReadCall) (updates : List (ι × MetricUpdate))
    (few : Fintype.card ι < 2 ^ 64)
    (reached : ∀ i, stepsOf i updates <+: metricUpdates (calls i).journal) :
    (Counters.afterAll updates).inFlight =
      (Finset.univ.filter fun i => InProgress (stepsOf i updates)).card ∧
    ((∀ i, stepsOf i updates = metricUpdates (calls i).journal ∧ (calls i).outcome ≠ none) →
      (Counters.afterAll updates).inFlight = 0 ∧
      (Counters.afterAll updates).started.toNat = Fintype.card ι ∧
      (Counters.afterAll updates).completed.toNat =
        (Finset.univ.filter fun i => (calls i).outcome.any Outcome.isCompleted).card ∧
      (Counters.afterAll updates).failed.toNat =
        (Finset.univ.filter fun i => (calls i).outcome.any Outcome.isFailed).card ∧
      (Counters.afterAll updates).interrupted.toNat =
        (Finset.univ.filter fun i => (calls i).outcome.any Outcome.isInterrupted).card ∧
      (∑ i, (rowsRead (calls i).journal).length < 2 ^ 64 →
        (Counters.afterAll updates).rows.toNat = ∑ i, (rowsRead (calls i).journal).length)) := by
  have inFlight := inFlight_afterAll few reached
  refine ⟨inFlight, fun returned => ?_⟩
  have totals := totals_of_returned returned
  refine ⟨?_, ?_, ?_, ?_, ?_, fun bounded => ?_⟩
  · rw [inFlight, Finset.card_eq_zero, Finset.filter_eq_empty_iff]
    intro i _ progress
    obtain ⟨outcome, all, ended, -⟩ := totals i
    rw [all] at progress
    exact ReadCall.not_inProgress ended progress
  · rw [Counters.afterAll, Counters.started_after, toNat_total_of_indicator (p := fun _ => true) few]
    · simp
    · intro i
      obtain ⟨outcome, all, -, t⟩ := totals i
      rw [all, t.starts]
      rfl
  · rw [Counters.afterAll, Counters.completed_after]
    exact toNat_total_of_outcome few returned fun _ _ t => t.completions
  · rw [Counters.afterAll, Counters.failed_after]
    exact toNat_total_of_outcome few returned fun _ _ t => t.failures
  · rw [Counters.afterAll, Counters.interrupted_after]
    exact toNat_total_of_outcome few returned fun _ _ t => t.interruptions
  · have rows (i : ι) :
        total rowCount (stepsOf i updates) = (rowsRead (calls i).journal).length := by
      obtain ⟨outcome, all, -, t⟩ := totals i
      have le := Finset.single_le_sum (f := fun i => (rowsRead (calls i).journal).length)
        (fun _ _ => Nat.zero_le _) (Finset.mem_univ i)
      rw [all, t.rows, Nat.mod_eq_of_lt (le.trans_lt bounded)]
    have sum := Finset.sum_congr (rfl : (Finset.univ : Finset ι) = _) fun i _ => rows i
    rw [Counters.afterAll, Counters.rows_after, toNat_total (by rwa [sum]), sum]

end

def threeReads (i : Fin 3) : ReadCall where
  World := Nat
  services := match i with
    | 0 => ReadTask.oneRow
    | 1 => ReadTask.breaking
    | 2 => { ReadTask.emptyTable 9 with cancelled := fun _ => true }
  task := ReadTask.ordersTask
  limit := 5
  marks := .none
  world := 0

def threeUpdates : List (Fin 3 × MetricUpdate) :=
  [(0, .started), (1, .started), (1, .rows 1), (2, .started), (1, .failed "snapshotting_failed"),
    (0, .rows 1), (2, .rows 0), (0, .completed ⟨0⟩), (2, .interrupted)]

theorem stepsOf_threeUpdates (i : Fin 3) :
    stepsOf i threeUpdates = metricUpdates (threeReads i).journal := by
  match i with
  | 0 => rfl
  | 1 => rfl
  | 2 => rfl

theorem stepsOf_take_threeUpdates (i : Fin 3) :
    stepsOf i (threeUpdates.take 6) <+: metricUpdates (threeReads i).journal := by
  rw [← stepsOf_threeUpdates]
  match i with
  | 0 => decide
  | 1 => decide
  | 2 => decide

theorem counters_balance_three :
    (Fintype.card (Fin 3) < 2 ^ 64 ∧
      (∀ i, stepsOf i threeUpdates <+: metricUpdates (threeReads i).journal) ∧
      (∀ i, stepsOf i (threeUpdates.take 6) <+: metricUpdates (threeReads i).journal) ∧
      ∀ i, stepsOf i threeUpdates = metricUpdates (threeReads i).journal ∧
        (threeReads i).outcome ≠ none) ∧
    (Counters.afterAll (threeUpdates.take 6)).inFlight = 2 ∧
      (Counters.afterAll threeUpdates).inFlight = 0 ∧
      (Counters.afterAll threeUpdates).started.toNat = 3 ∧
      (Counters.afterAll threeUpdates).completed.toNat = 1 ∧
      (Counters.afterAll threeUpdates).failed.toNat = 1 ∧
      (Counters.afterAll threeUpdates).interrupted.toNat = 1 ∧
      (Counters.afterAll threeUpdates).rows.toNat = 2 := by
  have few : Fintype.card (Fin 3) < 2 ^ 64 := by simp
  have reached (i : Fin 3) : stepsOf i threeUpdates <+: metricUpdates (threeReads i).journal := by
    rw [stepsOf_threeUpdates]
  have returned (i : Fin 3) : stepsOf i threeUpdates = metricUpdates (threeReads i).journal ∧
      (threeReads i).outcome ≠ none := by
    refine ⟨stepsOf_threeUpdates i, ?_⟩
    match i with
    | 0 => exact nofun
    | 1 => exact nofun
    | 2 => exact nofun
  have bounded : ∑ i, (rowsRead (threeReads i).journal).length < 2 ^ 64 := by
    have rows : ∑ i, (rowsRead (threeReads i).journal).length = 2 := rfl
    omega
  obtain ⟨early, -⟩ := counters_balance threeReads (threeUpdates.take 6) few stepsOf_take_threeUpdates
  obtain ⟨-, late⟩ := counters_balance threeReads threeUpdates few reached
  obtain ⟨idle, started, completed, failed, interrupted, rows⟩ := late returned
  exact ⟨⟨few, reached, stepsOf_take_threeUpdates, returned⟩, early, idle, started, completed,
    failed, interrupted, rows bounded⟩

end SplitSnapshot
