import SplitSnapshot.Proofs.Memory.Scan
import Mathlib.Data.List.Forall2

namespace SplitSnapshot

open Std

variable {α β : Type}

theorem forall₂_insert {r : α → α → Prop} (symm : ∀ {a b}, r a b → r b a)
    (trans : ∀ {a b c}, r a b → r b c → r a c) {a b : α} {xs us vs : List α}
    (h : List.Forall₂ r xs (us ++ vs)) (hb : r b a) (hu : ∀ x ∈ us, r b x) :
    List.Forall₂ r (b :: xs) (us ++ a :: vs) := by
  induction us generalizing b xs with
  | nil => exact .cons hb h
  | cons u us ih =>
      cases h with
      | @cons x _ xs _ hx h =>
          have hbu := hu u List.mem_cons_self
          have hxb := trans hx (symm hbu)
          refine .cons hbu (ih h (trans hxb hb) fun y hy => trans hxb (hu y ?_))
          exact List.mem_cons_of_mem u hy

theorem forall₂_of_perm {cmp : β → β → Ordering} [TransCmp cmp] {f : α → β} {xs ys : List α}
    (h : xs.Perm ys) (hx : xs.Pairwise fun a b => (cmp (f a) (f b)).isLE = true)
    (hy : ys.Pairwise fun a b => (cmp (f a) (f b)).isLE = true) :
    List.Forall₂ (fun a b => cmp (f a) (f b) = .eq) xs ys := by
  induction xs generalizing ys with
  | nil =>
      rw [List.nil_perm.1 h]
      exact .nil
  | cons x xs ih =>
      -- the first element of one arrangement stands in the other behind some that tie with it
      obtain ⟨us, vs, rfl⟩ := List.append_of_mem (h.mem_iff.1 List.mem_cons_self)
      obtain ⟨first, hx⟩ := List.pairwise_cons.1 hx
      have rest : xs.Perm (us ++ vs) := (h.trans List.perm_middle).cons_inv
      have without : (us ++ vs).Sublist (us ++ x :: vs) :=
        (List.Sublist.refl us).append (List.sublist_cons_self x vs)
      have others := ih rest hx (hy.sublist without)
      refine forall₂_insert (r := fun a b => cmp (f a) (f b) = .eq) OrientedCmp.eq_symm
        TransCmp.eq_trans others ReflCmp.compare_self fun y hm => ?_
      have up : (cmp (f x) (f y)).isLE = true := first y (rest.mem_iff.2 (List.mem_append_left vs hm))
      have down : (cmp (f y) (f x)).isLE = true :=
        (List.pairwise_append.1 hy).2.2 y hm x List.mem_cons_self
      exact OrientedCmp.isLE_antisymm up down

theorem eq_of_perm_of_ties {cmp : β → β → Ordering} [TransCmp cmp] {f : α → β} {xs ys : List α}
    (h : xs.Perm ys) (hx : xs.Pairwise fun a b => (cmp (f a) (f b)).isLE = true)
    (hy : ys.Pairwise fun a b => (cmp (f a) (f b)).isLE = true)
    (ties : ∀ a, xs.filter (fun b => cmp (f a) (f b) = .eq) = ys.filter fun b => cmp (f a) (f b) = .eq) :
    xs = ys := by
  induction xs generalizing ys with
  | nil => exact (List.nil_perm.1 h).symm
  | cons x xs ih =>
      cases forall₂_of_perm h hx hy with
      | @cons _ y _ ys tie _ =>
          have self : cmp (f x) (f x) = .eq := ReflCmp.compare_self
          have first := ties x
          rw [List.filter_cons_of_pos (by simpa using self),
            List.filter_cons_of_pos (by simpa using tie)] at first
          obtain ⟨rfl, -⟩ := List.cons.inj first
          rw [ih h.cons_inv (List.pairwise_cons.1 hx).2 (List.pairwise_cons.1 hy).2]
          intro a
          have rest := ties a
          by_cases ha : cmp (f a) (f x) = .eq
          · simpa [List.filter_cons, ha] using rest
          · simpa [List.filter_cons, ha] using rest

def nullsLast (cmp : β → β → Ordering) : Option β → Option β → Ordering
  | some a, some b => cmp a b
  | some _, none => .lt
  | none, some _ => .gt
  | none, none => .eq

instance {cmp : β → β → Ordering} [TransCmp cmp] : TransCmp (nullsLast cmp) where
  eq_swap {a b} := by
    cases a with
    | none => cases b <;> rfl
    | some a =>
        cases b with
        | none => rfl
        | some b =>
            have swapped : cmp a b = (cmp b a).swap := OrientedCmp.eq_swap
            exact swapped
  isLE_trans {a b c} hab hbc := by
    cases c with
    | none => cases a <;> rfl
    | some c =>
        cases b with
        | none => cases hbc
        | some b =>
            cases a with
            | none => cases hab
            | some a =>
                have up : (cmp a c).isLE = true := TransCmp.isLE_trans hab hbc
                exact up

def Key.Ascends : Option Key → Option Key → Prop
  | some a, some b => a.compare? b = some .lt ∨ a.compare? b = some .eq
  | _, none => True
  | none, some _ => False

def Key.Ties : Option Key → Option Key → Prop
  | some a, some b => a.compare? b = some .eq
  | none, none => True
  | _, _ => False

instance : (a b : Option Key) → Decidable (Key.Ties a b)
  | some a, some b => inferInstanceAs (Decidable (a.compare? b = some .eq))
  | some _, none => .isFalse id
  | none, some _ => .isFalse id
  | none, none => .isTrue trivial

namespace KeyType.Measure

variable {t : KeyType} (m : t.Measure) (x y : Option m.Value)

theorem ascends_iff : Key.Ascends (x.map m.key) (y.map m.key) ↔ (nullsLast m.cmp x y).isLE = true := by
  cases x with
  | none => cases y <;> simp [Key.Ascends, nullsLast]
  | some x =>
      cases y with
      | none => simp [Key.Ascends, nullsLast]
      | some y => cases h : m.cmp x y <;> simp [Key.Ascends, nullsLast, m.compare?_key, h]

theorem ties_iff : Key.Ties (x.map m.key) (y.map m.key) ↔ nullsLast m.cmp x y = .eq := by
  cases x <;> cases y <;> simp [Key.Ties, nullsLast, m.compare?_key]

theorem keyOrder_eq : Split.keyOrder (x.map m.key) (y.map m.key) = (nullsLast m.cmp x y).isLE := by
  cases x with
  | none => cases y <;> rfl
  | some x =>
      cases y with
      | none => rfl
      | some y => cases h : m.cmp x y <;> simp [Split.keyOrder, nullsLast, m.compare?_key, h]

theorem exists_keyOf (column : String) :
    ∃ f : Json → Option m.Value, ∀ row, Split.keyOf column t row = (f row).map m.key := by
  have value (row : Json) : ∃ x : Option m.Value, Split.keyOf column t row = x.map m.key := by
    cases h : Split.keyOf column t row with
    | none => exact ⟨none, rfl⟩
    | some key =>
        obtain ⟨x, rfl⟩ := m.onto (Split.admits_of_keyOf h)
        exact ⟨some x, rfl⟩
  exact ⟨fun row => (value row).choose, fun row => (value row).choose_spec⟩

end KeyType.Measure

def RowsAscend (column : String) (t : KeyType) (a b : Json) : Prop :=
  Key.Ascends (Split.keyOf column t a) (Split.keyOf column t b)

def RowsTie (column : String) (t : KeyType) (a b : Json) : Prop :=
  Key.Ties (Split.keyOf column t a) (Split.keyOf column t b)

instance (column : String) (t : KeyType) (a b : Json) : Decidable (RowsTie column t a b) :=
  inferInstanceAs (Decidable (Key.Ties _ _))

section

variable {t : KeyType} (column : String)

section

variable {m : t.Measure} {f : Json → Option m.Value} {a b : Json}

theorem rowsAscend_iff (hf : ∀ row, Split.keyOf column t row = (f row).map m.key) :
    RowsAscend column t a b ↔ (nullsLast m.cmp (f a) (f b)).isLE = true := by
  rw [RowsAscend, hf, hf, m.ascends_iff]

theorem rowsTie_iff (hf : ∀ row, Split.keyOf column t row = (f row).map m.key) :
    RowsTie column t a b ↔ nullsLast m.cmp (f a) (f b) = .eq := by
  rw [RowsTie, hf, hf, m.ties_iff]

end

theorem pairwise_rowsAscend (ht : t ≠ .float64) (rows : List Json) :
    (sortBy (fun a b => Split.keyOrder (Split.keyOf column t a) (Split.keyOf column t b)) rows).Pairwise
      (RowsAscend column t) := by
  obtain ⟨m⟩ := KeyType.exists_measure ht
  obtain ⟨f, hf⟩ := m.exists_keyOf column
  have total (a b : Json) : (nullsLast m.cmp (f a) (f b)).isLE = true ∨
      (nullsLast m.cmp (f b) (f a)).isLE = true := by
    have swapped : nullsLast m.cmp (f b) (f a) = (nullsLast m.cmp (f a) (f b)).swap :=
      OrientedCmp.eq_swap
    rw [swapped]
    cases nullsLast m.cmp (f a) (f b) <;> simp
  have trans (a b c : Json) : (nullsLast m.cmp (f a) (f b)).isLE = true →
      (nullsLast m.cmp (f b) (f c)).isLE = true → (nullsLast m.cmp (f a) (f c)).isLE = true :=
    TransCmp.isLE_trans
  have sorted := pairwise_sortBy total trans rows
  simp only [hf, m.keyOrder_eq]
  exact sorted.imp (rowsAscend_iff column hf).2

theorem forall₂_rowsTie (ht : t ≠ .float64) {rows rows' : List Json} (h : rows.Perm rows')
    (hr : rows.Pairwise (RowsAscend column t)) (hr' : rows'.Pairwise (RowsAscend column t)) :
    List.Forall₂ (RowsTie column t) rows rows' := by
  obtain ⟨m⟩ := KeyType.exists_measure ht
  obtain ⟨f, hf⟩ := m.exists_keyOf column
  have ascends {a b : Json} := (rowsAscend_iff (a := a) (b := b) column hf).1
  exact (forall₂_of_perm h (hr.imp ascends) (hr'.imp ascends)).imp fun _ _ =>
    (rowsTie_iff column hf).2

theorem eq_of_perm_of_rowsTie (ht : t ≠ .float64) {rows rows' : List Json} (h : rows.Perm rows')
    (hr : rows.Pairwise (RowsAscend column t)) (hr' : rows'.Pairwise (RowsAscend column t))
    (ties : ∀ row, rows.filter (RowsTie column t row) = rows'.filter (RowsTie column t row)) :
    rows = rows' := by
  obtain ⟨m⟩ := KeyType.exists_measure ht
  obtain ⟨f, hf⟩ := m.exists_keyOf column
  have ascends {a b : Json} := (rowsAscend_iff (a := a) (b := b) column hf).1
  refine eq_of_perm_of_ties h (hr.imp ascends) (hr'.imp ascends) ?_
  intro row
  simpa only [rowsTie_iff column hf] using ties row

end

end SplitSnapshot
