import SplitSnapshot.Proofs.Documents.Position
import SplitSnapshot.Proofs.Text.Hexadecimal

namespace SplitSnapshot

namespace Lsn

inductive IsHalf : List Char → Nat → Prop
  | bare {s n} (digits : Text.HexRun s n) (nonempty : s ≠ []) (small : n < 2 ^ 32) : IsHalf s n
  | signed {s n} (digits : Text.HexRun s n) (nonempty : s ≠ []) (small : n < 2 ^ 32) :
      IsHalf ('+' :: s) n

def Writes (s : String) (high low : Nat) : Prop :=
  ∃ before first second after, s.toList = before ++ (first ++ '/' :: second) ++ after ∧
    (∀ c ∈ before, Text.isBlank c = true) ∧ (∀ c ∈ after, Text.isBlank c = true) ∧
      IsHalf first high ∧ IsHalf second low

variable {s t : String} {half : List Char} {n high low high' low' : Nat} {p q : Lsn}

theorem IsHalf.lt (h : IsHalf half n) : n < 2 ^ 32 := by
  cases h with
  | bare _ _ small => exact small
  | signed _ _ small => exact small

theorem IsHalf.of_mem (h : IsHalf half n) {c : Char} (hc : c ∈ half) :
    c ≠ '/' ∧ Text.isBlank c = false := by
  have digit : ∀ p ∈ Text.hexAlphabet, p.1 ≠ '/' ∧ Text.isBlank p.1 = false := by decide
  have run {s : List Char} (digits : Text.HexRun s n) (hc : c ∈ s) :
      c ≠ '/' ∧ Text.isBlank c = false := by
    obtain ⟨d, hd⟩ := digits.of_mem hc
    exact digit (c, d) hd
  cases h with
  | bare digits => exact run digits hc
  | signed digits =>
      rcases List.mem_cons.1 hc with rfl | hc
      · decide
      · exact run digits hc

theorem readHex?_filter_eq_some_iff : (Text.readHex? half).filter (· < pow2 32) = some n ↔
    half ≠ [] ∧ Text.HexRun half n ∧ n < 2 ^ 32 := by
  rw [Option.filter_eq_some_iff, Text.readHex?_eq_some_iff, decide_eq_true_iff, and_assoc]
  exact Iff.rfl

theorem readHalf?_eq_some_iff : readHalf? half = some n ↔ IsHalf half n := by
  -- a sign is no digit, so what follows it decides
  have unsigned {s : List Char} (h : Text.HexRun ('+' :: s) n) : False := by
    obtain ⟨d, hd⟩ := h.of_mem List.mem_cons_self
    have digits : ∀ p ∈ Text.hexAlphabet, p.1 ≠ '+' := by decide
    exact digits _ hd rfl
  unfold readHalf?
  split
  · rw [readHex?_filter_eq_some_iff]
    constructor
    · rintro ⟨nonempty, digits, small⟩
      exact .signed digits nonempty small
    · intro h
      cases h with
      | bare digits => exact (unsigned digits).elim
      | signed digits nonempty small => exact ⟨nonempty, digits, small⟩
  · rename_i bare
    rw [readHex?_filter_eq_some_iff]
    constructor
    · rintro ⟨nonempty, digits, small⟩
      exact .bare digits nonempty small
    · intro h
      cases h with
      | bare digits nonempty small => exact ⟨nonempty, digits, small⟩
      | signed digits nonempty small => exact absurd rfl (bare _)

theorem toNat_ofHalves (hh : high < 2 ^ 32) (hl : low < 2 ^ 32) :
    (ofHalves high low).value.toNat = high * 2 ^ 32 + low := by
  have word : high * 2 ^ 32 + low < 2 ^ 64 := by omega
  exact UInt64.toNat_ofNat_of_lt' word

theorem read?_of_writes (h : Writes s high low) : read? s = some (ofHalves high low) := by
  obtain ⟨before, first, second, after, hs, hb, ha, hfirst, hsecond⟩ := h
  have unblank : ∀ c ∈ first ++ '/' :: second, Text.isBlank c = false := by
    intro c hc
    rcases List.mem_append.1 hc with hc | hc
    · exact (hfirst.of_mem hc).2
    rcases List.mem_cons.1 hc with rfl | hc
    · rfl
    · exact (hsecond.of_mem hc).2
  have cut : Text.cutAt? '/' (first ++ '/' :: second) = some (first, second) :=
    Text.cutAt?_append fun slash => (hfirst.of_mem slash).1 rfl
  rw [read?, hs, Text.trim_append hb ha unblank, cut]
  simp [readHalf?_eq_some_iff.2 hfirst, readHalf?_eq_some_iff.2 hsecond]

theorem writes_of_read? (h : read? s = some p) :
    ∃ high low, Writes s high low ∧ p = ofHalves high low := by
  obtain ⟨⟨first, second⟩, cut, h⟩ := Option.bind_eq_some_iff.1 h
  obtain ⟨high, hfirst, h⟩ := Option.bind_eq_some_iff.1 h
  obtain ⟨low, hsecond, h⟩ := Option.bind_eq_some_iff.1 h
  cases h
  obtain ⟨before, after, hs, hb, ha⟩ := Text.exists_eq_append_trim s.toList
  rw [(Text.cutAt?_eq_some_iff.1 cut).1] at hs
  exact ⟨high, low, ⟨before, first, second, after, hs, hb, ha, readHalf?_eq_some_iff.1 hfirst,
    readHalf?_eq_some_iff.1 hsecond⟩, rfl⟩

theorem Writes.lt (h : Writes s high low) : high < 2 ^ 32 ∧ low < 2 ^ 32 := by
  obtain ⟨_, _, _, _, _, _, _, hfirst, hsecond⟩ := h
  exact ⟨hfirst.lt, hsecond.lt⟩

theorem Writes.toNat_ofHalves (h : Writes s high low) :
    (ofHalves high low).value.toNat = high * 2 ^ 32 + low :=
  Lsn.toNat_ofHalves h.lt.1 h.lt.2

theorem read?_eq_some_iff : read? s = some p ↔
    ∃ high low, Writes s high low ∧ p.value.toNat = high * 2 ^ 32 + low := by
  constructor
  · intro h
    obtain ⟨high, low, writes, rfl⟩ := writes_of_read? h
    exact ⟨high, low, writes, writes.toNat_ofHalves⟩
  · rintro ⟨high, low, writes, value⟩
    have same : ofHalves high low = p := by
      cases p
      exact congrArg Lsn.mk (UInt64.toNat_inj.1 (writes.toNat_ofHalves.trans value.symm))
    rw [read?_of_writes writes, same]

theorem compare_halves (hl : low < 2 ^ 32) (hl' : low' < 2 ^ 32) :
    compare (high * 2 ^ 32 + low) (high' * 2 ^ 32 + low') =
      (compare high high').then (compare low low') := by
  rcases Nat.lt_trichotomy high high' with lt | rfl | gt
  · rw [Nat.compare_eq_lt.2 lt, Nat.compare_eq_lt.2 (by omega)]
    rfl
  · rw [Nat.compare_eq_eq.2 rfl]
    change _ = compare low low'
    rcases Nat.lt_trichotomy low low' with lt | rfl | gt
    · rw [Nat.compare_eq_lt.2 lt, Nat.compare_eq_lt.2 (by omega)]
    · rw [Nat.compare_eq_eq.2 rfl, Nat.compare_eq_eq.2 rfl]
    · rw [Nat.compare_eq_gt.2 gt, Nat.compare_eq_gt.2 (by omega)]
  · rw [Nat.compare_eq_gt.2 gt, Nat.compare_eq_gt.2 (by omega)]
    rfl

theorem precedes_iff : p.precedes q = true ↔ p.compare q = .lt := by
  rw [precedes, decide_eq_true_iff, Lsn.compare, Nat.compare_eq_lt]

theorem Writes.compare_ofHalves (h : Writes s high low) (h' : Writes t high' low') :
    (ofHalves high low).compare (ofHalves high' low') =
      (compare high high').then (compare low low') := by
  rw [Lsn.compare, h.toNat_ofHalves, h'.toNat_ofHalves, compare_halves h.lt.2 h'.lt.2]

/-- A position is read from its own text, what is read are the texts of two halves, and positions are in
the order of the halves of their texts. -/
theorem text_exact :
    (∀ p : Lsn, read? p.text = some p) ∧
    (∀ s p, read? s = some p ↔
      ∃ high low, Writes s high low ∧ p.value.toNat = high * 2 ^ 32 + low) ∧
    ∀ s t high low high' low', Writes s high low → Writes t high' low' →
      ∃ p q, read? s = some p ∧ read? t = some q ∧
        p.compare q = (compare high high').then (compare low low') ∧
        (p.precedes q = true ↔ (compare high high').then (compare low low') = .lt) := by
  refine ⟨read?_text, fun _ _ => read?_eq_some_iff, ?_⟩
  intro s t high low high' low' h h'
  have order := h.compare_ofHalves h'
  refine ⟨_, _, read?_of_writes h, read?_of_writes h', order, ?_⟩
  rw [precedes_iff, order]

theorem text_exact_spellings :
    Writes " 0/+00fF\u3000" 0 255 ∧ Writes "+00000000001/0" 1 0 ∧
      ∃ p q, read? " 0/+00fF\u3000" = some p ∧ read? "+00000000001/0" = some q ∧
        p.compare q = (compare 0 1).then (compare 255 0) ∧
        (p.precedes q = true ↔ (compare 0 1).then (compare 255 0) = .lt) := by
  have run (s : List Char) {n : Nat} (h : (s.mapM Text.hexDigit?).map (Text.valueIn 16) = some n) :
      Text.HexRun s n := Text.hexRun_iff.2 h
  have blank {c : Char} (h : Text.isBlank c = true) : ∀ x ∈ [c], Text.isBlank x = true :=
    List.forall_mem_singleton.2 h
  have first : Writes " 0/+00fF\u3000" 0 255 :=
    ⟨[' '], ['0'], "+00fF".toList, ['\u3000'], rfl, blank rfl, blank rfl,
      .bare (run _ rfl) (by decide) (by decide), .signed (run "00fF".toList rfl) (by decide) (by decide)⟩
  have second : Writes "+00000000001/0" 1 0 :=
    ⟨[], "+00000000001".toList, ['0'], [], rfl, List.forall_mem_nil _, List.forall_mem_nil _,
      .signed (run "00000000001".toList rfl) (by decide) (by decide),
      .bare (run _ rfl) (by decide) (by decide)⟩
  exact ⟨first, second, text_exact.2.2 _ _ _ _ _ _ first second⟩

end Lsn

end SplitSnapshot
