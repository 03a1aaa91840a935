namespace SplitSnapshot

variable {ε ε' α β γ : Type}

@[simp] theorem mapError_ok (f : ε → ε') (a : α) :
    (Except.ok a : Except ε α).mapError f = .ok a :=
  rfl

@[simp] theorem mapError_error (f : ε → ε') (e : ε) :
    (Except.error e : Except ε α).mapError f = .error (f e) :=
  rfl

theorem exists_ok_of_bind {x : Except ε α} {f : α → Except ε β} {b : β}
    (h : (x >>= f) = .ok b) : ∃ a, x = .ok a ∧ f a = .ok b := by
  cases x with
  | error e => cases h
  | ok a => exact ⟨a, rfl, h⟩

theorem mapM_eq_ok {f : α → Except ε β} {g : α → β} {xs : List α}
    (h : ∀ x ∈ xs, f x = .ok (g x)) : xs.mapM f = .ok (xs.map g) := by
  induction xs with
  | nil => rfl
  | cons x xs ih =>
      rw [List.mapM_cons, h x List.mem_cons_self, ih fun y hy => h y (List.mem_cons_of_mem x hy)]
      rfl

theorem exists_mapM_eq_error {p : ε → Prop} {f : α → Except ε β} {xs : List α} {x : α}
    (h : ∀ x ∈ xs, ∀ e, f x = .error e → p e) (hx : x ∈ xs) (hf : ∃ e, f x = .error e) :
    ∃ e, p e ∧ xs.mapM f = .error e := by
  induction xs with
  | nil => cases hx
  | cons y xs ih =>
      rw [List.mapM_cons]
      cases hy : f y with
      | error e => exact ⟨e, h y List.mem_cons_self e hy, rfl⟩
      | ok b =>
          have later : x ∈ xs := by
            refine (List.mem_cons.1 hx).resolve_left ?_
            rintro rfl
            obtain ⟨e, he⟩ := hf
            cases hy.symm.trans he
          obtain ⟨e, he, hm⟩ := ih (fun z hz => h z (List.mem_cons_of_mem y hz)) later
          exact ⟨e, he, by rw [hm]; rfl⟩

theorem length_of_mapM_eq_ok {f : α → Except ε β} {xs : List α} {ys : List β}
    (h : xs.mapM f = .ok ys) : ys.length = xs.length := by
  induction xs generalizing ys with
  | nil =>
      cases h
      rfl
  | cons x xs ih =>
      rw [List.mapM_cons] at h
      obtain ⟨y, -, h⟩ := exists_ok_of_bind h
      obtain ⟨zs, hz, h⟩ := exists_ok_of_bind h
      cases h
      simp [ih hz]

theorem ne_nil_of_mapM_eq_ok {f : α → Except ε β} {xs : List α} {ys : List β}
    (h : xs.mapM f = .ok ys) (nonempty : xs ≠ []) : ys ≠ [] := by
  rintro rfl
  exact nonempty (List.length_eq_zero_iff.1 (length_of_mapM_eq_ok h).symm)

theorem mapM_except_map (f : α → Except ε β) (g : β → γ) (xs : List α) :
    (xs.mapM fun x => (f x).map g) = (xs.mapM f).map (List.map g) := by
  induction xs with
  | nil => rfl
  | cons x xs ih =>
      rw [List.mapM_cons, List.mapM_cons, ih]
      cases f x with
      | error e => rfl
      | ok y => cases xs.mapM f <;> rfl

theorem mapM_append_eq_ok {f : α → Except ε β} {xs ys : List α} {zs : List β}
    (h : (xs ++ ys).mapM f = .ok zs) :
    ∃ us vs, xs.mapM f = .ok us ∧ ys.mapM f = .ok vs ∧ zs = us ++ vs := by
  rw [List.mapM_append] at h
  obtain ⟨us, hu, h⟩ := exists_ok_of_bind h
  obtain ⟨vs, hv, h⟩ := exists_ok_of_bind h
  cases h
  exact ⟨us, vs, hu, hv, rfl⟩

end SplitSnapshot
