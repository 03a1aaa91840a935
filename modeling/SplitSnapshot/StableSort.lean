namespace SplitSnapshot

variable {α β : Type}

def place (le : α → α → Bool) (x : α) : List α → List α
  | [] => [x]
  | y :: ys => if le x y then x :: y :: ys else y :: place le x ys

def sortBy (le : α → α → Bool) : List α → List α
  | [] => []
  | x :: xs => place le x (sortBy le xs)

theorem place_perm (le : α → α → Bool) (x : α) (xs : List α) : (place le x xs).Perm (x :: xs) := by
  induction xs with
  | nil => exact List.Perm.refl _
  | cons y ys ih =>
      simp only [place]
      split
      · exact List.Perm.refl _
      · exact (List.Perm.cons y ih).trans (List.Perm.swap x y ys)

theorem sortBy_perm (le : α → α → Bool) (xs : List α) : (sortBy le xs).Perm xs := by
  induction xs with
  | nil => exact List.Perm.refl _
  | cons x xs ih => exact (place_perm le x _).trans (List.Perm.cons x ih)

theorem pairwise_place {le : α → α → Bool} (total : ∀ x y, le x y = true ∨ le y x = true)
    (trans : ∀ x y z, le x y = true → le y z = true → le x z = true) (x : α) {xs : List α}
    (h : xs.Pairwise fun a b => le a b = true) :
    (place le x xs).Pairwise fun a b => le a b = true := by
  induction xs with
  | nil => simp [place]
  | cons y ys ih =>
      simp only [place]
      have hy := List.pairwise_cons.1 h
      split
      · rename_i hxy
        refine List.pairwise_cons.2 ⟨?_, h⟩
        intro z hz
        rcases List.mem_cons.1 hz with rfl | hz
        · exact hxy
        · exact trans x y z hxy (hy.1 z hz)
      · rename_i hxy
        refine List.pairwise_cons.2 ⟨?_, ih hy.2⟩
        intro z hz
        rcases List.mem_cons.1 ((place_perm le x ys).mem_iff.1 hz) with rfl | hz
        · exact (total z y).resolve_left hxy
        · exact hy.1 z hz

theorem pairwise_sortBy {le : α → α → Bool} (total : ∀ x y, le x y = true ∨ le y x = true)
    (trans : ∀ x y z, le x y = true → le y z = true → le x z = true) (xs : List α) :
    (sortBy le xs).Pairwise fun a b => le a b = true := by
  induction xs with
  | nil => exact List.Pairwise.nil
  | cons x xs ih => exact pairwise_place total trans x ih

theorem place_append_left {le : α → α → Bool} {x : α} {ys : List α} (h : ∀ y ∈ ys, le x y = true)
    (xs : List α) : place le x (xs ++ ys) = place le x xs ++ ys := by
  induction xs with
  | nil =>
      cases ys with
      | nil => rfl
      | cons y ys => simp [place, h y List.mem_cons_self]
  | cons z xs ih =>
      simp only [List.cons_append, place]
      split
      · rfl
      · rw [ih, List.cons_append]

theorem place_append_right {le : α → α → Bool} {x : α} {xs : List α}
    (h : ∀ y ∈ xs, le x y = false) (ys : List α) :
    place le x (xs ++ ys) = xs ++ place le x ys := by
  induction xs with
  | nil => rfl
  | cons z xs ih =>
      rw [List.cons_append, place, h z List.mem_cons_self]
      exact congrArg (List.cons z) (ih fun y hy => h y (List.mem_cons_of_mem z hy))

theorem sortBy_eq_append {le : α → α → Bool} (p : α → Bool) {xs : List α}
    (h : ∀ x ∈ xs, ∀ y ∈ xs, p x = true → p y = false → le x y = true ∧ le y x = false) :
    sortBy le xs = sortBy le (xs.filter p) ++ sortBy le (xs.filter fun x => !p x) := by
  induction xs with
  | nil => rfl
  | cons x xs ih =>
      have hxs := ih fun y hy z hz => h y (List.mem_cons_of_mem x hy) z (List.mem_cons_of_mem x hz)
      cases hp : p x with
      | true =>
          have before : ∀ y ∈ sortBy le (xs.filter fun x => !p x), le x y = true := by
            intro y hy
            obtain ⟨hm, hpy⟩ := List.mem_filter.1 ((sortBy_perm le _).mem_iff.1 hy)
            exact (h x List.mem_cons_self y (List.mem_cons_of_mem x hm) hp (by simpa using hpy)).1
          rw [sortBy, hxs, place_append_left before, List.filter_cons_of_pos hp,
            List.filter_cons_of_neg (by simp [hp]), sortBy]
      | false =>
          have after : ∀ y ∈ sortBy le (xs.filter p), le x y = false := by
            intro y hy
            obtain ⟨hm, hpy⟩ := List.mem_filter.1 ((sortBy_perm le _).mem_iff.1 hy)
            exact (h y (List.mem_cons_of_mem x hm) x List.mem_cons_self hpy hp).2
          rw [sortBy, hxs, place_append_right after, List.filter_cons_of_neg (by simp [hp]),
            List.filter_cons_of_pos (by simp [hp]), sortBy]

theorem place_map (le : β → β → Bool) (f : α → β) (x : α) (xs : List α) :
    place le (f x) (xs.map f) = (place (fun a b => le (f a) (f b)) x xs).map f := by
  induction xs with
  | nil => rfl
  | cons y ys ih =>
      simp only [List.map_cons, place]
      split
      · rfl
      · rw [ih, List.map_cons]

theorem sortBy_map (le : β → β → Bool) (f : α → β) (xs : List α) :
    sortBy le (xs.map f) = (sortBy (fun a b => le (f a) (f b)) xs).map f := by
  induction xs with
  | nil => rfl
  | cons x xs ih => rw [List.map_cons, sortBy, ih, place_map, sortBy]

theorem filter_place_of_pos {le : α → α → Bool} {p : α → Bool} {x : α} {xs : List α}
    (hx : p x = true) (h : ∀ y ∈ xs, p y = true → le x y = true) :
    (place le x xs).filter p = x :: xs.filter p := by
  induction xs with
  | nil => simp [place, hx]
  | cons y ys ih =>
      have hys := ih fun z hz => h z (List.mem_cons_of_mem y hz)
      rw [place]
      split
      · exact List.filter_cons_of_pos hx
      · rename_i hxy
        have hy : ¬ p y = true := fun hy => hxy (h y List.mem_cons_self hy)
        rw [List.filter_cons_of_neg hy, List.filter_cons_of_neg hy, hys]

theorem filter_place_of_neg {le : α → α → Bool} {p : α → Bool} {x : α} (hx : ¬ p x = true)
    (xs : List α) : (place le x xs).filter p = xs.filter p := by
  induction xs with
  | nil => simp [place, hx]
  | cons y ys ih =>
      rw [place]
      split
      · exact List.filter_cons_of_neg hx
      · rw [List.filter_cons, List.filter_cons, ih]

theorem filter_sortBy {le : α → α → Bool} {p : α → Bool} {xs : List α}
    (h : ∀ x ∈ xs, ∀ y ∈ xs, p x = true → p y = true → le x y = true) :
    (sortBy le xs).filter p = xs.filter p := by
  induction xs with
  | nil => rfl
  | cons x xs ih =>
      have hxs := ih fun y hy z hz => h y (List.mem_cons_of_mem x hy) z (List.mem_cons_of_mem x hz)
      rw [sortBy]
      by_cases hx : p x = true
      · rw [List.filter_cons_of_pos hx, ← hxs]
        refine filter_place_of_pos hx fun y hy hpy => ?_
        have hm := (sortBy_perm le xs).mem_iff.1 hy
        exact h x List.mem_cons_self y (List.mem_cons_of_mem x hm) hx hpy
      · rw [List.filter_cons_of_neg hx, filter_place_of_neg hx, hxs]

theorem sortBy_eq_self {le : α → α → Bool} {xs : List α}
    (h : ∀ x ∈ xs, ∀ y ∈ xs, le x y = true) : sortBy le xs = xs := by
  induction xs with
  | nil => rfl
  | cons x xs ih =>
      have hxs := ih fun y hy z hz => h y (List.mem_cons_of_mem x hy) z (List.mem_cons_of_mem x hz)
      rw [sortBy, hxs]
      cases xs with
      | nil => rfl
      | cons y ys =>
          rw [place, if_pos (h x List.mem_cons_self y (List.mem_cons_of_mem x List.mem_cons_self))]

end SplitSnapshot
