import SplitSnapshot.Proofs.Key.Order
import SplitSnapshot.Proofs.Results
import SplitSnapshot.Split

namespace SplitSnapshot

open Std

namespace Split

variable {t : KeyType} {key a b x y : Key} {s : Split} {lo hi : Option Key} {v : Json}

theorem atLeast_key (m : t.Measure) (k l : m.Value) :
    atLeast (m.key k) (some (m.key l)) = (m.cmp k l).isGE := by
  simp only [atLeast, m.compare?_key]
  cases m.cmp k l <;> rfl

theorem atMost_key (m : t.Measure) (k h : m.Value) :
    atMost false (m.key k) (some (m.key h)) = (m.cmp k h).isLT := by
  simp only [atMost, m.compare?_key]
  cases m.cmp k h <;> rfl

theorem atMost_false_eq (ht : t ≠ .float64) (hk : t.admits key = true) (hb : t.admits b = true) :
    atMost false key (some b) = !atLeast key (some b) := by
  obtain ⟨m⟩ := KeyType.exists_measure ht
  obtain ⟨k, rfl⟩ := m.onto hk
  obtain ⟨l, rfl⟩ := m.onto hb
  rw [atMost_key, atLeast_key]
  cases m.cmp k l <;> rfl

theorem atLeast_of_lt (ht : t ≠ .float64) (hk : t.admits key = true) (ha : t.admits a = true)
    (hb : t.admits b = true) (hab : a.compare? b = some .lt) (h : atLeast key (some b) = true) :
    atLeast key (some a) = true := by
  obtain ⟨m⟩ := KeyType.exists_measure ht
  obtain ⟨k, rfl⟩ := m.onto hk
  obtain ⟨i, rfl⟩ := m.onto ha
  obtain ⟨j, rfl⟩ := m.onto hb
  rw [m.compare?_key, Option.some.injEq] at hab
  rw [atLeast_key] at h ⊢
  have hlt : m.cmp i k = .lt := TransCmp.lt_of_lt_of_isLE hab (OrientedCmp.isLE_of_isGE h)
  rw [OrientedCmp.gt_of_lt hlt]
  rfl

theorem compare?_of_separated (ht : t ≠ .float64) (hx : t.admits x = true)
    (hy : t.admits y = true) (hb : t.admits b = true) (below : atLeast x (some b) = false)
    (above : atLeast y (some b) = true) :
    x.compare? y = some .lt ∧ y.compare? x = some .gt := by
  obtain ⟨m⟩ := KeyType.exists_measure ht
  obtain ⟨i, rfl⟩ := m.onto hx
  obtain ⟨j, rfl⟩ := m.onto hy
  obtain ⟨k, rfl⟩ := m.onto hb
  rw [atLeast_key] at below above
  have hik : m.cmp i k = .lt := by
    cases h : m.cmp i k <;> simp_all
  have hij : m.cmp i j = .lt := TransCmp.lt_of_lt_of_isLE hik (OrientedCmp.isLE_of_isGE above)
  rw [m.compare?_key, m.compare?_key, hij, OrientedCmp.gt_of_lt hij]
  exact ⟨rfl, rfl⟩

theorem bound_of_readKey (h : t.readKey v = .ok key) : bound (some v) = some v := by
  simp [bound, KeyType.isNull_of_readKey h]

theorem readBound_of_readKey (h : t.readKey v = .ok key) :
    readBound t (some v) = .ok (some key) := by
  rw [readBound, h]
  rfl

theorem readKey_of_readBound (h : readBound t (some v) = .ok lo) :
    ∃ key, t.readKey v = .ok key ∧ lo = some key := by
  cases hv : t.readKey v with
  | error e => simp [readBound, hv, Except.map] at h
  | ok key =>
      rw [readBound_of_readKey hv] at h
      exact ⟨key, rfl, (Except.ok.inj h).symm⟩

theorem isNone_of_readBound {v : Option Json} (h : readBound t v = .ok lo) :
    v.isNone = lo.isNone := by
  cases v with
  | none => cases h; rfl
  | some v =>
      obtain ⟨key, -, rfl⟩ := readKey_of_readBound h
      rfl

theorem contains_eq_ok (hl : s.lowerKey = .ok lo) (hu : s.upperKey = .ok hi) (key : Key) :
    s.contains key = .ok (atLeast key lo && atMost s.endInclusive key hi) := by
  rw [contains, hl, hu]
  cases h : atLeast key lo <;> simp [bind, Except.bind, pure, Except.pure, h]

theorem keys_of_validate (h : s.validate = .ok ()) :
    s.keyType.isComparable = true ∧ ∃ lo hi, s.lowerKey = .ok lo ∧ s.upperKey = .ok hi := by
  cases hid : s.splitId.isEmpty with
  | true =>
      rw [validate, hid] at h
      cases h
  | false =>
      cases hcolumn : s.keyColumn.isEmpty with
      | true =>
          rw [validate, hid, hcolumn] at h
          cases h
      | false =>
          cases htype : s.keyType.isComparable with
          | false =>
              rw [validate, hid, hcolumn, htype] at h
              cases h
          | true =>
              rw [validate, hid, hcolumn, htype] at h
              obtain ⟨lo, hl, h⟩ := exists_ok_of_bind h
              obtain ⟨hi, hu, -⟩ := exists_ok_of_bind h
              exact ⟨rfl, lo, hi, hl, hu⟩

theorem validate_eq_ok (hid : s.splitId.isEmpty = false) (hcolumn : s.keyColumn.isEmpty = false)
    (htype : s.keyType.isComparable = true) (hl : s.lowerKey = .ok lo) (hu : s.upperKey = .ok hi)
    (hb : ∀ a ∈ lo, ∀ b ∈ hi, a.compare? b = some .lt) : s.validate = .ok () := by
  rw [validate, hid, hcolumn, htype, hl, hu]
  cases lo with
  | none => rfl
  | some a =>
      cases hi with
      | none => rfl
      | some b =>
          have hlt : a.compare? b = some .lt := hb a rfl b rfl
          simp [bind, Except.bind, pure, Except.pure, boundsOrdered, hlt]

end Split

end SplitSnapshot
