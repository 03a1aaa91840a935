namespace SplitSnapshot

/-- It holds of each member of a list and of those before it. -/
def Throughout {α : Type} (P : List α → α → Prop) (xs : List α) : Prop :=
  ∀ before x after, xs = before ++ x :: after → P before x

section Throughout

variable {α : Type} {P : List α → α → Prop} {xs ys : List α} {x : α}

@[simp] theorem throughout_nil : Throughout P [] := by
  intro before x after h
  cases List.append_ne_nil_of_right_ne_nil before (List.cons_ne_nil x after) h.symm

@[simp] theorem throughout_append : Throughout P (xs ++ ys) ↔
    Throughout P xs ∧ Throughout (fun before => P (xs ++ before)) ys := by
  constructor
  · intro h
    constructor
    · intro before x after hx
      exact h before x (after ++ ys) (by simp [hx])
    · intro before x after hy
      exact h (xs ++ before) x after (by simp [hy])
  · rintro ⟨hx, hy⟩ before x after h
    rcases List.append_eq_append_iff.1 h with ⟨more, rfl, hmore⟩ | ⟨rest, hrest, htail⟩
    · exact hy more x after hmore
    · cases rest with
      | nil =>
          rw [List.append_nil] at hrest
          subst hrest
          have hp : P (xs ++ []) x := hy [] x after htail.symm
          rwa [List.append_nil] at hp
      | cons z rest =>
          cases htail
          exact hx before x rest hrest

@[simp] theorem throughout_cons : Throughout P (x :: xs) ↔
    P [] x ∧ Throughout (fun before => P (x :: before)) xs := by
  constructor
  · intro h
    refine ⟨h [] x xs rfl, fun before y after hy => ?_⟩
    exact h (x :: before) y after (by rw [hy, List.cons_append])
  · rintro ⟨hx, hxs⟩ before y after h
    cases before with
    | nil =>
        cases h
        exact hx
    | cons z before =>
        cases h
        exact hxs before y after rfl

theorem Throughout.of_forall (h : ∀ x ∈ xs, ∀ before, P before x) : Throughout P xs := by
  rintro before x after rfl
  exact h x (by simp) before

end Throughout

end SplitSnapshot
