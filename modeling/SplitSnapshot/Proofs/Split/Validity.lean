import SplitSnapshot.Proofs.Key.First
import SplitSnapshot.Proofs.Split.Bounds

namespace SplitSnapshot

open Std

namespace Split

structure HasBounds (s : Split) (lo hi : Option Key) : Prop where
  id_ne : s.splitId.isEmpty = false
  column_ne : s.keyColumn.isEmpty = false
  comparable : s.keyType.isComparable = true
  type_ne : s.keyType ≠ .float64
  lower_eq : s.lowerKey = .ok lo
  upper_eq : s.upperKey = .ok hi

def HoldsKey (s : Split) : Prop :=
  ∃ key, s.keyType.HasKey key ∧ s.contains key = .ok true

def EndsBeforeFirst (s : Split) : Prop :=
  s.lowerKey = .ok none ∧ s.endInclusive = false ∧ ∃ first upper, s.keyType.first? = some first ∧
    s.upperKey = .ok (some upper) ∧ first.compare? upper = some .eq

variable {t : KeyType} {key a b : Key} {s : Split} {lo hi : Option Key} {inclusive : Bool}

theorem hasKey_of_readBound {v : Option Json} (h : readBound t v = .ok (some key)) :
    t.HasKey key := by
  cases v with
  | none => cases h
  | some v =>
      obtain ⟨key', hv, same⟩ := readKey_of_readBound h
      cases same
      exact ⟨v, hv⟩

theorem atLeast_self (ht : t ≠ .float64) (h : t.admits key = true) :
    atLeast key (some key) = true := by
  rw [atLeast, KeyType.compare?_self ht h]

theorem atMost_self (ht : t ≠ .float64) (h : t.admits key = true) :
    atMost inclusive key (some key) = inclusive := by
  rw [atMost, KeyType.compare?_self ht h]

theorem atMost_of_atLeast (ht : t ≠ .float64) (hkey : t.admits key = true) (ha : t.admits a = true)
    (hb : t.admits b = true) (above : atLeast key (some a) = true)
    (below : atMost inclusive key (some b) = true) : atMost inclusive a (some b) = true := by
  obtain ⟨m⟩ := KeyType.exists_measure ht
  obtain ⟨k, rfl⟩ := m.onto hkey
  obtain ⟨i, rfl⟩ := m.onto ha
  obtain ⟨j, rfl⟩ := m.onto hb
  rw [atLeast_key] at above
  have first : (m.cmp i k).isLE = true := OrientedCmp.isLE_of_isGE above
  simp only [atMost, m.compare?_key] at below ⊢
  cases hkj : m.cmp k j with
  | lt => rw [TransCmp.lt_of_isLE_of_lt first hkj]
  | gt =>
      rw [hkj] at below
      cases below
  | eq =>
      rw [hkj] at below
      have last : (m.cmp i j).isLE = true := TransCmp.isLE_trans first (by rw [hkj]; rfl)
      cases hij : m.cmp i j with
      | lt => rfl
      | eq => exact below
      | gt =>
          rw [hij] at last
          cases last

theorem atLeast_of_atMost (ht : t ≠ .float64) (ha : t.admits a = true) (hb : t.admits b = true)
    (h : atMost inclusive a (some b) = true) : atLeast b (some a) = true := by
  obtain ⟨m⟩ := KeyType.exists_measure ht
  obtain ⟨i, rfl⟩ := m.onto ha
  obtain ⟨j, rfl⟩ := m.onto hb
  simp only [atMost, m.compare?_key] at h
  rw [atLeast_key]
  cases hij : m.cmp i j with
  | lt =>
      rw [OrientedCmp.gt_of_lt hij]
      rfl
  | eq =>
      rw [OrientedCmp.eq_symm hij]
      rfl
  | gt =>
      rw [hij] at h
      cases h

namespace HasBounds

theorem lower_hasKey (h : s.HasBounds (some a) hi) : s.keyType.HasKey a :=
  hasKey_of_readBound h.lower_eq

theorem upper_hasKey (h : s.HasBounds lo (some b)) : s.keyType.HasKey b :=
  hasKey_of_readBound h.upper_eq

theorem contains_iff (h : s.HasBounds lo hi) : s.contains key = .ok true ↔
    atLeast key lo = true ∧ atMost s.endInclusive key hi = true := by
  rw [contains_eq_ok h.lower_eq h.upper_eq, Except.ok.injEq, Bool.and_eq_true]

theorem validate_iff (h : s.HasBounds lo hi) :
    s.validate = .ok () ↔ ∀ a ∈ lo, atMost s.endInclusive a hi = true := by
  rw [validate, h.id_ne, h.column_ne, h.comparable, h.lower_eq, h.upper_eq]
  cases lo with
  | none =>
      constructor
      · intro _ a ha
        cases ha
      · intro _
        rfl
  | some a =>
      cases hi with
      | none =>
          constructor
          · intro _ _ _
            rfl
          · intro _
            rfl
      | some b =>
          have ordered : boundsOrdered s.endInclusive a b = atMost s.endInclusive a (some b) := rfl
          cases below : atMost s.endInclusive a (some b) <;>
            simp [bind, Except.bind, pure, Except.pure, ordered, below]

theorem validate_of_holdsKey (h : s.HasBounds lo hi) (holds : s.HoldsKey) : s.validate = .ok () := by
  obtain ⟨key, hkey, within⟩ := holds
  obtain ⟨above, below⟩ := h.contains_iff.1 within
  rw [h.validate_iff]
  rintro a rfl
  cases hi with
  | none => rfl
  | some b =>
      exact atMost_of_atLeast h.type_ne hkey.admits h.lower_hasKey.admits h.upper_hasKey.admits
        above below

theorem contains_lower (h : s.HasBounds lo hi) (valid : s.validate = .ok ()) :
    ∀ a ∈ lo, s.contains a = .ok true := by
  rintro a rfl
  exact h.contains_iff.2 ⟨atLeast_self h.type_ne h.lower_hasKey.admits, h.validate_iff.1 valid a rfl⟩

theorem contains_upper (h : s.HasBounds lo hi) (valid : s.validate = .ok ()) :
    ∀ b ∈ hi, s.contains b = .ok s.endInclusive := by
  rintro b rfl
  have above : atLeast b lo = true := by
    cases lo with
    | none => rfl
    | some a =>
        exact atLeast_of_atMost h.type_ne h.lower_hasKey.admits h.upper_hasKey.admits
          (h.validate_iff.1 valid a rfl)
  rw [contains_eq_ok h.lower_eq h.upper_eq, above, atMost_self h.type_ne h.upper_hasKey.admits,
    Bool.true_and]

theorem holdsKey_or_endsBeforeFirst (h : s.HasBounds lo hi) (valid : s.validate = .ok ()) :
    s.HoldsKey ∨ s.EndsBeforeFirst := by
  cases lo with
  | some a => exact .inl ⟨a, h.lower_hasKey, h.contains_lower valid a rfl⟩
  | none =>
      cases hi with
      | none =>
          obtain ⟨key, hkey⟩ := KeyType.exists_hasKey h.comparable h.type_ne
          exact .inl ⟨key, hkey, h.contains_iff.2 ⟨rfl, rfl⟩⟩
      | some b =>
          cases inclusive : s.endInclusive with
          | true =>
              refine .inl ⟨b, h.upper_hasKey, ?_⟩
              rw [h.contains_upper valid b rfl, inclusive]
          | false =>
              by_cases first : ∃ first, s.keyType.first? = some first ∧ first.compare? b = some .eq
              · obtain ⟨first, hfirst, same⟩ := first
                exact .inr ⟨h.lower_eq, inclusive, first, b, hfirst, h.upper_eq, same⟩
              · have earlier := KeyType.exists_before_iff h.comparable h.type_ne h.upper_hasKey
                obtain ⟨key, hkey, before⟩ := earlier.2 first
                refine .inl ⟨key, hkey, h.contains_iff.2 ⟨rfl, ?_⟩⟩
                rw [atMost, before]

theorem validate_of_endsBeforeFirst (h : s.HasBounds lo hi) (ends : s.EndsBeforeFirst) :
    s.validate = .ok () := by
  rw [h.validate_iff]
  intro a ha
  have none := ends.1.symm.trans h.lower_eq
  cases none
  cases ha

theorem not_holdsKey (h : s.HasBounds lo hi) (ends : s.EndsBeforeFirst) : ¬ s.HoldsKey := by
  rintro ⟨key, hkey, within⟩
  obtain ⟨-, exclusive, first, upper, hfirst, hu, same⟩ := ends
  have upper_eq := h.upper_eq.symm.trans hu
  cases upper_eq
  have below := (h.contains_iff.1 within).2
  rw [exclusive, atMost] at below
  refine (KeyType.exists_before_iff h.comparable h.type_ne h.upper_hasKey).1 ⟨key, hkey, ?_⟩
    ⟨first, hfirst, same⟩
  split at below
  · assumption
  · cases below
  · cases below

end HasBounds

/-- A split is valid where some key lies in it, and where it is open below and ends before the first key of
its type; then none does. In a valid split lies its lower bound, and its upper one if that is inclusive, and
of every key it can be said whether it does. -/
theorem validate_iff_holdsKey (h : s.HasBounds lo hi) :
    (s.validate = .ok () ↔ s.HoldsKey ∨ s.EndsBeforeFirst) ∧ (s.EndsBeforeFirst → ¬ s.HoldsKey) ∧
    (s.validate = .ok () → (∀ a ∈ lo, s.contains a = .ok true) ∧
      (∀ b ∈ hi, s.contains b = .ok s.endInclusive) ∧
      ∀ key, ∃ within, s.contains key = .ok within) := by
  refine ⟨⟨h.holdsKey_or_endsBeforeFirst, ?_⟩, h.not_holdsKey, fun valid => ?_⟩
  · rintro (holds | ends)
    · exact h.validate_of_holdsKey holds
    · exact h.validate_of_endsBeforeFirst ends
  · exact ⟨h.contains_lower valid, h.contains_upper valid,
      fun key => ⟨_, contains_eq_ok h.lower_eq h.upper_eq key⟩⟩

def oneToOne : Split :=
  (whole "S1" (.ofNames "public" "t") "k" .numeric).withRange (some (.text "1.0"))
    (some (.text "+01"))

theorem validate_iff_holdsKey_oneToOne :
    oneToOne.HasBounds (some (.numeric "1.0")) (some (.numeric "+01")) ∧
      (oneToOne.validate = .ok () ↔ oneToOne.HoldsKey ∨ oneToOne.EndsBeforeFirst) ∧
      oneToOne.validate = .ok () ∧ oneToOne.contains (.numeric "1.0") = .ok true ∧
        oneToOne.contains (.numeric "+01") = .ok true := by
  have bounds : oneToOne.HasBounds (some (.numeric "1.0")) (some (.numeric "+01")) :=
    ⟨by decide, by decide, rfl, by decide, by rfl, by rfl⟩
  have valid : oneToOne.validate = .ok () := by rfl
  obtain ⟨iff_holds, -, within⟩ := validate_iff_holdsKey bounds
  obtain ⟨lower, upper, -⟩ := within valid
  exact ⟨bounds, iff_holds, valid, lower _ rfl, upper _ rfl⟩

def belowLeast : Split :=
  ((whole "S1" (.ofNames "public" "t") "k" .int16).withUpper (.int (-32768))).withExclusiveEnd

theorem not_validate_iff_holdsKey_belowLeast :
    belowLeast.HasBounds none (some (.int (-32768))) ∧
      ¬ (belowLeast.validate = .ok () ↔ belowLeast.HoldsKey) := by
  have bounds : belowLeast.HasBounds none (some (.int (-32768))) :=
    ⟨by decide, by decide, rfl, by decide, by rfl, by rfl⟩
  have ends : belowLeast.EndsBeforeFirst :=
    ⟨rfl, rfl, .int (-32768), .int (-32768), by rfl, by rfl, by decide⟩
  refine ⟨bounds, fun holds => ?_⟩
  exact bounds.not_holdsKey ends (holds.1 (bounds.validate_of_endsBeforeFirst ends))

end Split

end SplitSnapshot
