import Mathlib.Algebra.BigOperators.Ring.Finset
import SplitSnapshot.Proofs.Read.Marks

namespace SplitSnapshot

/-- A call of a read, with services and a world of its own. What other calls do meanwhile shows in the
answers of its services. -/
structure ReadCall where
  World : Type
  services : Services World
  task : ReadTask
  limit : Nat
  marks : Watermarks
  world : World

namespace ReadCall

def run (c : ReadCall) : Run c.World :=
  c.task.execute c.services c.limit c.marks c.world

def journal (c : ReadCall) : List Entry :=
  c.run.journal

def outcome (c : ReadCall) : Option Outcome :=
  c.run.outcome

end ReadCall

def ReadTask.oneRow : Services Nat :=
  { emptyTable 9 with
    nextRow := fun w => ⟨.ok (if w = 1 then some ⟨[.int 7]⟩ else none), [], w⟩ }

section

variable {ι α : Type} [DecidableEq ι]

def stepsOf (i : ι) (steps : List (ι × α)) : List α :=
  (steps.filter fun s => s.1 = i).map (·.2)

@[simp] theorem stepsOf_nil (i : ι) : stepsOf i ([] : List (ι × α)) = [] := rfl

@[simp] theorem stepsOf_cons (i : ι) (step : ι × α) (steps : List (ι × α)) :
    stepsOf i (step :: steps) = if step.1 = i then step.2 :: stepsOf i steps else stepsOf i steps := by
  by_cases h : step.1 = i <;> simp [stepsOf, h]

theorem mem_stepsOf {i : ι} {a : α} {steps : List (ι × α)} (h : (i, a) ∈ steps) :
    a ∈ stepsOf i steps :=
  List.mem_map.2 ⟨(i, a), List.mem_filter.2 ⟨h, decide_eq_true rfl⟩, rfl⟩

theorem filter_map_steps {β : Type} {view : α → β} {owns : ι → β → Bool} {steps : List (ι × α)}
    (own : ∀ s ∈ steps, owns s.1 (view s.2) = true)
    (apart : ∀ i j b, i ≠ j → owns j b = true → owns i b = false) (i : ι) :
    (steps.map fun s => view s.2).filter (owns i) = (stepsOf i steps).map view := by
  induction steps with
  | nil => rfl
  | cons step steps ih =>
      obtain ⟨first, rest⟩ := List.forall_mem_cons.1 own
      rw [List.map_cons, List.filter_cons, ih rest, stepsOf_cons]
      by_cases h : step.1 = i
      · rw [h] at first
        rw [if_pos first, if_pos h, List.map_cons]
      · rw [apart i step.1 _ (Ne.symm h) first, if_neg h, if_neg Bool.false_ne_true]

theorem sum_stepsOf [Fintype ι] (weight : α → Nat) (steps : List (ι × α)) :
    (steps.map fun s => weight s.2).sum = ∑ i, ((stepsOf i steps).map weight).sum := by
  induction steps with
  | nil => simp
  | cons step steps ih =>
      have first (i : ι) : ((stepsOf i (step :: steps)).map weight).sum =
          (if step.1 = i then weight step.2 else 0) + ((stepsOf i steps).map weight).sum := by
        rw [stepsOf_cons]
        split <;> simp
      rw [Finset.sum_congr rfl fun i _ => first i, Finset.sum_add_distrib, ← ih]
      simp

end

end SplitSnapshot
