import SplitSnapshot.Key.Reading

namespace SplitSnapshot

open Std

theorem transCmp_on {α β : Type} (f : α → β) (cmp : β → β → Ordering) [TransCmp cmp] :
    TransCmp fun a b => cmp (f a) (f b) where
  eq_swap := OrientedCmp.eq_swap
  isLE_trans hab hbc := TransCmp.isLE_trans hab hbc

instance : TransCmp Uuid.compare :=
  inferInstanceAs (TransCmp (compareOn fun u : Uuid => u.bits.toNat))

instance : TransCmp Date.compare :=
  inferInstanceAs (TransCmp (compareLex (compareOn Date.year)
    (compareLex (compareOn Date.month) (compareOn Date.day))))

instance : TransCmp Clock.compare :=
  inferInstanceAs (TransCmp (compareLex (compareOn Clock.hour) (compareLex (compareOn Clock.minute)
    (compareLex (compareOn Clock.second) (compareOn Clock.nano)))))

instance : TransCmp Timestamp.compare := by
  have hd := transCmp_on Timestamp.date Date.compare
  have hc := transCmp_on Timestamp.clock Clock.compare
  exact inferInstanceAs (TransCmp (compareLex (fun a b : Timestamp => a.date.compare b.date)
    fun a b : Timestamp => a.clock.compare b.clock))

instance : TransCmp ZonedTimestamp.compare :=
  inferInstanceAs (TransCmp (compareLex (compareOn ZonedTimestamp.minutes)
    (compareLex (compareOn fun t : ZonedTimestamp => t.wall.clock.second)
      (compareOn fun t : ZonedTimestamp => t.wall.clock.nano))))

instance : TransCmp DecimalLiteral.compareMagnitude :=
  inferInstanceAs (TransCmp (compareLex (compareOn fun a : DecimalParts => a.whole.length)
    (compareLex (compareOn DecimalParts.whole) (compareOn DecimalParts.places))))

instance : TransCmp DecimalLiteral.compareParts where
  eq_swap {a b} := by
    have hs : DecimalLiteral.compareMagnitude a b = (DecimalLiteral.compareMagnitude b a).swap :=
      OrientedCmp.eq_swap
    unfold DecimalLiteral.compareParts
    cases a.negative <;> cases b.negative <;> simp [hs]
  isLE_trans {a b c} hab hbc := by
    have up : (DecimalLiteral.compareMagnitude a b).isLE → (DecimalLiteral.compareMagnitude b c).isLE →
        (DecimalLiteral.compareMagnitude a c).isLE := TransCmp.isLE_trans
    -- below zero the larger magnitude comes first
    have down : (DecimalLiteral.compareMagnitude a b).isGE → (DecimalLiteral.compareMagnitude b c).isGE →
        (DecimalLiteral.compareMagnitude a c).isGE := TransCmp.isGE_trans
    unfold DecimalLiteral.compareParts at hab hbc ⊢
    cases ha : a.negative <;> cases hb : b.negative <;> cases hc : c.negative <;>
      simp_all only [Ordering.isLE_swap, Ordering.isLE_gt, Ordering.isLE_lt, Bool.false_eq_true]

instance : TransCmp DecimalLiteral.compareTexts :=
  transCmp_on DecimalLiteral.parts DecimalLiteral.compareParts

namespace KeyType

def admits : KeyType → Key → Bool
  | int16, .int _ | int32, .int _ | int64, .int _ => true
  | numeric, .numeric _ => true
  | float64, .float _ => true
  | text, .text _ => true
  | uuid, .uuid _ => true
  | date, .date _ => true
  | timestamp, .timestamp _ => true
  | timestampTz, .timestampTz _ => true
  | _, _ => false

structure Measure (t : KeyType) where
  Value : Type
  cmp : Value → Value → Ordering
  trans : TransCmp cmp
  key : Value → Key
  onto : ∀ {k}, t.admits k = true → ∃ x, k = key x
  compare?_key : ∀ x y, (key x).compare? (key y) = some (cmp x y)

attribute [instance] Measure.trans

theorem exists_measure {t : KeyType} (ht : t ≠ float64) : Nonempty t.Measure := by
  have decimals := transCmp_on String.toList DecimalLiteral.compareTexts
  cases t with
  | float64 => exact absurd rfl ht
  | int16 | int32 | int64 =>
      refine ⟨⟨Int, compare, inferInstance, .int, fun {k} h => ?_, fun _ _ => rfl⟩⟩
      cases k <;> cases h
      exact ⟨_, rfl⟩
  | numeric =>
      refine ⟨⟨String, _, decimals, .numeric, fun {k} h => ?_, fun _ _ => rfl⟩⟩
      cases k <;> cases h
      exact ⟨_, rfl⟩
  | text =>
      refine ⟨⟨String, compare, inferInstance, .text, fun {k} h => ?_, fun _ _ => rfl⟩⟩
      cases k <;> cases h
      exact ⟨_, rfl⟩
  | uuid =>
      refine ⟨⟨Uuid, Uuid.compare, inferInstance, .uuid, fun {k} h => ?_, fun _ _ => rfl⟩⟩
      cases k <;> cases h
      exact ⟨_, rfl⟩
  | date =>
      refine ⟨⟨Date, Date.compare, inferInstance, .date, fun {k} h => ?_, fun _ _ => rfl⟩⟩
      cases k <;> cases h
      exact ⟨_, rfl⟩
  | timestamp =>
      refine ⟨⟨Timestamp, Timestamp.compare, inferInstance, .timestamp, fun {k} h => ?_,
        fun _ _ => rfl⟩⟩
      cases k <;> cases h
      exact ⟨_, rfl⟩
  | timestampTz =>
      refine ⟨⟨ZonedTimestamp, ZonedTimestamp.compare, inferInstance, .timestampTz,
        fun {k} h => ?_, fun _ _ => rfl⟩⟩
      cases k <;> cases h
      exact ⟨_, rfl⟩
  | bool | json | bytes =>
      refine ⟨⟨Int, compare, inferInstance, .int, fun {k} h => ?_, fun _ _ => rfl⟩⟩
      cases k <;> cases h

theorem admits_of_intKey? {t : KeyType} (ht : ∀ n, t.admits (.int n) = true) {n : Int} {key : Key}
    (h : t.intKey? n = some key) : t.admits key = true := by
  unfold intKey? at h
  split at h
  · cases h
    exact ht n
  · cases h

theorem admits_of_readInt? {t : KeyType} (ht : ∀ n, t.admits (.int n) = true) {v : Json}
    {key : Key} (h : t.readInt? v = some key) : t.admits key = true := by
  cases v with
  | int n => exact admits_of_intKey? ht h
  | text s =>
      obtain ⟨n, -, hn⟩ := Option.bind_eq_some_iff.1 h
      exact admits_of_intKey? ht hn
  | _ => cases h

theorem admits_of_numericKey? {digits : List Char} {key : Key}
    (h : numericKey? digits = some key) : numeric.admits key = true := by
  unfold numericKey? at h
  split at h
  · cases h
    rfl
  · cases h

theorem admits_of_floatKey? {x : Binary64} {key : Key} (h : floatKey? x = some key) :
    float64.admits key = true := by
  unfold floatKey? at h
  split at h
  · cases h
  · cases h
    rfl

theorem admits_of_readKey {t : KeyType} {v : Json} {key : Key} (h : t.readKey v = .ok key) :
    t.admits key = true := by
  rw [readKey_eq_ok_iff] at h
  cases t with
  | int16 | int32 | int64 => exact admits_of_readInt? (fun _ => rfl) h
  | numeric =>
      cases v with
      | int _ | float _ | text _ => exact admits_of_numericKey? h
      | _ => cases h
  | float64 =>
      cases v with
      | int _ | float _ => exact admits_of_floatKey? h
      | text _ =>
          obtain ⟨_, -, hx⟩ := Option.bind_eq_some_iff.1 h
          exact admits_of_floatKey? hx
      | _ => cases h
  | text | uuid | date | timestamp | timestampTz =>
      obtain ⟨_, -, rfl⟩ := Option.map_eq_some_iff.1 h
      rfl
  | bool | json | bytes => cases h

theorem isNull_of_readKey {t : KeyType} {v : Json} {key : Key} (h : t.readKey v = .ok key) :
    v.isNull = false := by
  rw [readKey_eq_ok_iff] at h
  cases v with
  | null => cases t <;> cases h
  | _ => rfl

end KeyType

end SplitSnapshot
