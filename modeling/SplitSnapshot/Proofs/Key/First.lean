import SplitSnapshot.Proofs.Key.Display

namespace SplitSnapshot

open Std

theorem isLE_then {a b : Ordering} (ha : a.isLE = true) (hb : b.isLE = true) :
    (a.then b).isLE = true := by
  cases a with
  | lt => rfl
  | eq => exact hb
  | gt => cases ha

theorem isLE_compare_empty (s : String) : (compare "" s).isLE = true := by
  change (compareOfLessAndEq "" s).isLE = true
  unfold compareOfLessAndEq
  by_cases hs : s = ""
  · subst hs
    simp
  · have less : "" < s := by
      change "".toList < s.toList
      cases hc : s.toList with
      | nil => exact absurd (String.toList_eq_nil_iff.1 hc) hs
      | cons c cs => exact List.nil_lt_cons c cs
    rw [if_pos less]
    rfl

namespace Date

def first : Date :=
  ⟨firstYear, 1, 1⟩

variable {d : Date}

theorem first_le (h : d.isValid = true) : (first.compare d).isLE = true := by
  simp only [isValid, Bool.and_eq_true, decide_eq_true_eq] at h
  obtain ⟨⟨⟨year, -⟩, month, -⟩, day, -⟩ := h
  exact isLE_then (isLE_compare.2 year) (isLE_then (isLE_compare.2 month) (isLE_compare.2 day))

theorem dayNumber_yearZero_le (h : d.isValid = true) (year : 0 ≤ d.year) :
    dayNumber ⟨0, 1, 1⟩ ≤ d.dayNumber := by
  simp only [isValid, Bool.and_eq_true, decide_eq_true_eq] at h
  obtain ⟨⟨-, month, -⟩, day, -⟩ := h
  have start : dayNumber ⟨0, 1, 1⟩ = -60 := by decide
  rw [start, dayNumber]
  split <;> omega

end Date

namespace Clock

def midnight : Clock :=
  ⟨0, 0, 0, 0⟩

theorem midnight_le (t : Clock) : (midnight.compare t).isLE = true :=
  isLE_then (isLE_compare.2 (Nat.zero_le _)) (isLE_then (isLE_compare.2 (Nat.zero_le _))
    (isLE_then (isLE_compare.2 (Nat.zero_le _)) (isLE_compare.2 (Nat.zero_le _))))

end Clock

namespace ZonedTimestamp

def first : ZonedTimestamp :=
  ⟨⟨⟨0, 1, 1⟩, .midnight⟩, 1439⟩

variable {t : ZonedTimestamp}

theorem writable_first : first.Writable :=
  ⟨by decide, by decide, by decide, by decide⟩

theorem first_le (h : t.Writable) : (first.compare t).isLE = true := by
  have day := Date.dayNumber_yearZero_le h.date h.year.1
  have offset := h.offset
  have minutes : first.minutes ≤ t.minutes := by
    simp only [ZonedTimestamp.minutes, first, Clock.midnight]
    omega
  exact isLE_then (isLE_compare.2 minutes)
    (isLE_then (isLE_compare.2 (Nat.zero_le _)) (isLE_compare.2 (Nat.zero_le _)))

end ZonedTimestamp

namespace DecimalLiteral

def below (s : List Char) : List Char :=
  '-' :: '1' :: List.replicate (parts s).whole.length '0'

variable {s : List Char}

theorem isDigit_of_mem_below {c : Char} (h : c ∈ '1' :: List.replicate (parts s).whole.length '0') :
    c.isDigit = true := by
  rcases List.mem_cons.1 h with rfl | h
  · rfl
  · rw [List.eq_of_mem_replicate h]
    rfl

theorem cutAt?_below : Text.cutAt? '.' (unsigned (below s)) = none :=
  Text.cutAt?_of_not_mem fun point => nomatch isDigit_of_mem_below point

theorem isLiteral_below : isLiteral (below s) = true := by
  rw [isLiteral, cutAt?_below]
  exact List.all_eq_true.2 fun _ => isDigit_of_mem_below

theorem parts_below : parts (below s) =
    ⟨true, '1' :: List.replicate (parts s).whole.length '0', []⟩ := by
  rw [parts, cutAt?_below]
  rfl

theorem compareTexts_below : compareTexts (below s) s = .lt := by
  have longer : (parts s).whole.length < (parts (below s)).whole.length := by
    rw [parts_below]
    simp
  have magnitude : compareMagnitude (parts (below s)) (parts s) = .gt := by
    rw [compareMagnitude, Nat.compare_eq_gt.2 longer]
    rfl
  have negative : (parts (below s)).negative = true := by rw [parts_below]
  rw [compareTexts, compareParts, negative, magnitude]
  cases (parts s).negative <;> rfl

end DecimalLiteral

namespace KeyType

def HasKey (t : KeyType) (key : Key) : Prop :=
  ∃ v, t.readKey v = .ok key

def first? : KeyType → Option Key
  | int16 => some (.int int16.intRange.1)
  | int32 => some (.int int32.intRange.1)
  | int64 => some (.int int64.intRange.1)
  | text => some (.text "")
  | uuid => some (.uuid ⟨0⟩)
  | date => some (.date .first)
  | timestamp => some (.timestamp ⟨.first, .midnight⟩)
  | timestampTz => some (.timestampTz .first)
  | numeric | float64 | bool | json | bytes => none

variable {t : KeyType} {key first : Key}

theorem HasKey.admits (h : t.HasKey key) : t.admits key = true := by
  obtain ⟨v, hv⟩ := h
  exact admits_of_readKey hv

theorem hasKey_iff : t.HasKey key ↔ ∃ v, t.readKey? v = some key := by
  simp only [HasKey, readKey_eq_ok_iff]

theorem intKey?_first (t : KeyType) : t.intKey? t.intRange.1 = some (.int t.intRange.1) := by
  have nonempty : t.intRange.1 < t.intRange.2 := by
    cases t <;> decide
  rw [intKey?, if_pos ⟨Int.le_refl _, nonempty⟩]

theorem hasKey_first (h : t.first? = some first) : t.HasKey first := by
  rw [hasKey_iff]
  cases t with
  | int16 | int32 | int64 =>
      cases h
      exact ⟨.int _, intKey?_first _⟩
  | text =>
      cases h
      exact ⟨.text "", rfl⟩
  | uuid =>
      cases h
      refine ⟨.text (String.ofList (Uuid.text ⟨0⟩)), ?_⟩
      simp [readKey?, Json.text?, Uuid.read?_text]
  | date =>
      cases h
      have valid : Date.first.isValid = true := by decide
      refine ⟨.text (String.ofList Date.first.text), ?_⟩
      simp [readKey?, Json.text?, Date.read?_text valid]
  | timestamp =>
      cases h
      have date : (Timestamp.mk .first .midnight).date.isValid = true := by decide
      have clock : (Timestamp.mk .first .midnight).clock.isValid = true := by decide
      refine ⟨.text (String.ofList (Timestamp.mk .first .midnight).text), ?_⟩
      simp [readKey?, Json.text?, Timestamp.read?_text date clock]
  | timestampTz =>
      cases h
      refine ⟨.text (String.ofList ZonedTimestamp.first.text), ?_⟩
      simp [readKey?, Json.text?, ZonedTimestamp.read?_text ZonedTimestamp.writable_first]
  | numeric | float64 | bool | json | bytes => cases h

theorem le_of_readInt? {v : Json} (h : t.readInt? v = some key) :
    ∃ n, key = .int n ∧ t.intRange.1 ≤ n := by
  have range {n : Int} (h : t.intKey? n = some key) : ∃ n, key = .int n ∧ t.intRange.1 ≤ n := by
    rw [intKey?] at h
    split at h
    · rename_i within
      exact ⟨n, (Option.some.inj h).symm, within.1⟩
    · cases h
  cases v with
  | int n => exact range h
  | text s =>
      obtain ⟨n, -, h⟩ := Option.bind_eq_some_iff.1 h
      exact range h
  | _ => cases h

theorem first_le (h : t.first? = some first) (hkey : t.HasKey key) :
    ∃ order, first.compare? key = some order ∧ order.isLE = true := by
  obtain ⟨v, hv⟩ := hasKey_iff.1 hkey
  cases t with
  | int16 | int32 | int64 =>
      cases h
      obtain ⟨n, rfl, le⟩ := le_of_readInt? hv
      exact ⟨_, rfl, isLE_compare.2 le⟩
  | text =>
      cases h
      obtain ⟨s, -, rfl⟩ := Option.map_eq_some_iff.1 hv
      exact ⟨_, rfl, isLE_compare_empty s⟩
  | uuid =>
      cases h
      obtain ⟨u, -, rfl⟩ := Option.map_eq_some_iff.1 hv
      exact ⟨_, rfl, isLE_compare.2 (Nat.zero_le _)⟩
  | date =>
      cases h
      obtain ⟨d, hd, rfl⟩ := Option.map_eq_some_iff.1 hv
      obtain ⟨s, -, hd⟩ := Option.bind_eq_some_iff.1 hd
      exact ⟨_, rfl, Date.first_le (Date.isValid_of_read? hd)⟩
  | timestamp =>
      cases h
      obtain ⟨d, hd, rfl⟩ := Option.map_eq_some_iff.1 hv
      obtain ⟨s, -, hd⟩ := Option.bind_eq_some_iff.1 hd
      have date := Date.first_le (Timestamp.isValid_of_read? hd).1
      exact ⟨_, rfl, isLE_then date (Clock.midnight_le _)⟩
  | timestampTz =>
      cases h
      obtain ⟨d, hd, rfl⟩ := Option.map_eq_some_iff.1 hv
      obtain ⟨s, -, hd⟩ := Option.bind_eq_some_iff.1 hd
      exact ⟨_, rfl, ZonedTimestamp.first_le (ZonedTimestamp.writable_of_read? hd)⟩
  | numeric | float64 | bool | json | bytes => cases h

theorem exists_below (hkey : numeric.HasKey key) :
    ∃ below, numeric.HasKey below ∧ below.compare? key = some .lt := by
  obtain ⟨v, hv⟩ := hasKey_iff.1 hkey
  obtain ⟨s, -, rfl⟩ := isLiteral_of_readNumeric? hv
  have literal : DecimalLiteral.isLiteral (DecimalLiteral.below s) = true :=
    DecimalLiteral.isLiteral_below
  refine ⟨.numeric (String.ofList (DecimalLiteral.below s)), hasKey_iff.2 ?_, ?_⟩
  · refine ⟨.text (String.ofList (DecimalLiteral.below s)), ?_⟩
    rw [readKey?, readNumeric?, String.toList_ofList, DecimalLiteral.trim_of_isLiteral literal,
      numericKey?, if_pos literal]
  · rw [Key.compare?, String.toList_ofList, String.toList_ofList, DecimalLiteral.compareTexts_below]

theorem exists_hasKey (ht : t.isComparable = true) (hf : t ≠ float64) : ∃ key, t.HasKey key := by
  cases t with
  | float64 => exact absurd rfl hf
  | numeric => exact ⟨.numeric "0", hasKey_iff.2 ⟨.text "0", by decide⟩⟩
  | int16 | int32 | int64 | text | uuid | date | timestamp | timestampTz => exact ⟨_, hasKey_first rfl⟩
  | bool | json | bytes => cases ht

theorem exists_before_iff (ht : t.isComparable = true) (hf : t ≠ float64) (hkey : t.HasKey key) :
    (∃ earlier, t.HasKey earlier ∧ earlier.compare? key = some .lt) ↔
      ¬ ∃ first, t.first? = some first ∧ first.compare? key = some .eq := by
  constructor
  · rintro ⟨earlier, hearlier, before⟩ ⟨first, hfirst, same⟩
    obtain ⟨order, hle, le⟩ := first_le hfirst hearlier
    obtain ⟨m⟩ := exists_measure hf
    obtain ⟨i, rfl⟩ := m.onto (hasKey_first hfirst).admits
    obtain ⟨j, rfl⟩ := m.onto hearlier.admits
    obtain ⟨k, rfl⟩ := m.onto hkey.admits
    rw [m.compare?_key, Option.some.injEq] at before same hle
    subst hle
    have less : m.cmp i k = .lt := TransCmp.lt_of_isLE_of_lt le before
    rw [same] at less
    cases less
  · intro notFirst
    cases hfirst : t.first? with
    | some first =>
        obtain ⟨order, hle, le⟩ := first_le hfirst hkey
        refine ⟨first, hasKey_first hfirst, ?_⟩
        cases order with
        | lt => exact hle
        | eq => exact absurd ⟨first, hfirst, hle⟩ notFirst
        | gt => cases le
    | none =>
        cases t with
        | numeric => exact exists_below hkey
        | float64 => exact absurd rfl hf
        | bool | json | bytes => cases ht
        | _ => cases hfirst

end KeyType

end SplitSnapshot
