import SplitSnapshot.Proofs.Decimal.Value
import SplitSnapshot.Proofs.Key.Display

namespace SplitSnapshot

open Std

namespace DecimalLiteral

variable {c d : Char} {p q : List Char} {x y : ℚ}

theorem compare_digit (hc : c.isDigit = true) (hd : d.isDigit = true) :
    compare c d = compare (digit c) (digit d) := by
  have lower := Char.isDigit_iff_toNat.1 hc
  have lower' := Char.isDigit_iff_toNat.1 hd
  have zero : '0'.toNat = 48 := rfl
  have lt_iff : c < d ↔ digit c < digit d := by
    rw [Char.lt_def, UInt32.lt_iff_toNat_lt, digit, digit]
    show c.toNat < d.toNat ↔ _
    omega
  have eq_iff : c = d ↔ digit c = digit d := by
    rw [← Char.toNat_inj, digit, digit]
    omega
  simp only [compare, compareOfLessAndEq, lt_iff, eq_iff]

theorem compare_add_of_lt_one (m n : Nat) (hx : 0 ≤ x) (hx' : x < 1) (hy : 0 ≤ y) (hy' : y < 1) :
    compare (m + x) (n + y) = (compare m n).then (compare x y) := by
  -- different whole numbers are at least one apart, and the rests are less than that
  rcases Nat.lt_trichotomy m n with h | rfl | h
  · have apart : (m : ℚ) + 1 ≤ n := by exact_mod_cast h
    have below : (m : ℚ) + x < n + y := by linarith
    rw [Nat.compare_eq_lt.2 h, compare_lt_iff_lt.2 below]
    rfl
  · rw [Nat.compare_eq_eq.2 rfl, Ordering.then, ← cmp_eq_compare, ← cmp_eq_compare, cmp_add_left]
  · have apart : (n : ℚ) + 1 ≤ m := by exact_mod_cast h
    have above : (n : ℚ) + y < m + x := by linarith
    rw [Nat.compare_eq_gt.2 h, compare_gt_iff_gt.2 above]
    rfl

theorem compare_div {k : ℚ} (hk : 0 < k) (x y : ℚ) : compare (x / k) (y / k) = compare x y := by
  rw [← cmp_eq_compare, ← cmp_eq_compare, div_eq_mul_inv, div_eq_mul_inv,
    cmp_mul_pos_right (inv_pos.2 hk)]

theorem pow_le_number (digits : IsDigits (c :: p)) (hc : c ≠ '0') :
    10 ^ p.length ≤ number (c :: p) := by
  have first : 0 < digit c := digit_pos (IsDigits.cons_iff.1 digits).1 hc
  calc 10 ^ p.length ≤ digit c * 10 ^ p.length := Nat.le_mul_of_pos_left _ first
    _ ≤ number (c :: p) := by
        rw [number_cons]
        exact Nat.le_add_right _ _

theorem number_pos (digits : IsDigits p) (nonempty : p ≠ []) (first : p.head? ≠ some '0') :
    0 < number p := by
  cases p with
  | nil => exact absurd rfl nonempty
  | cons c p =>
      have large := pow_le_number digits fun heq => first (congrArg some heq)
      exact Nat.lt_of_lt_of_le (Nat.pow_pos (by decide)) large

theorem fraction_pos (digits : IsDigits p) (nonempty : p ≠ []) (last : p.getLast? ≠ some '0') :
    0 < fraction p := by
  obtain ⟨front, c, rfl⟩ := (List.eq_nil_or_concat' p).resolve_left nonempty
  have hc : 0 < digit c := by
    refine digit_pos (digits c (by simp)) fun heq => last ?_
    simp [heq]
  have positive : 0 < number (front ++ [c]) := by
    rw [number_append, number_cons]
    simp only [List.length_nil, Nat.pow_zero, Nat.mul_one]
    omega
  rw [fraction]
  positivity

theorem compare_places (hp : IsDigits p) (hq : IsDigits q)
    (h : p.length = q.length ∨ p.getLast? ≠ some '0' ∧ q.getLast? ≠ some '0') :
    compare p q = compare (fraction p) (fraction q) := by
  induction p generalizing q with
  | nil =>
      cases q with
      | nil => rw [ReflOrd.compare_self, ReflOrd.compare_self]
      | cons d q =>
          have last := (h.resolve_left (Nat.succ_ne_zero _).symm).2
          have positive := fraction_pos hq (List.cons_ne_nil d q) last
          rw [fraction_nil, compare_lt_iff_lt.2 positive]
          rfl
  | cons c p ih =>
      cases q with
      | nil =>
          have last := (h.resolve_left (Nat.succ_ne_zero _)).1
          have positive := fraction_pos hp (List.cons_ne_nil c p) last
          rw [fraction_nil, compare_gt_iff_gt.2 positive]
          rfl
      | cons d q =>
          obtain ⟨hc, hp⟩ := IsDigits.cons_iff.1 hp
          obtain ⟨hd, hq⟩ := IsDigits.cons_iff.1 hq
          have rest : compare p q = compare (fraction p) (fraction q) := by
            refine ih hp hq (h.imp Nat.succ.inj fun last => ?_)
            exact ⟨fun zero => last.1 (by simp [List.getLast?_cons, zero]),
              fun zero => last.2 (by simp [List.getLast?_cons, zero])⟩
          have step : compare (c :: p) (d :: q) = (compare c d).then (compare p q) :=
            List.compareLex_cons_cons
          rw [step, compare_digit hc hd, rest, fraction_cons, fraction_cons, compare_div (by norm_num),
            compare_add_of_lt_one _ _ (fraction_nonneg p) (fraction_lt_one hp) (fraction_nonneg q)
              (fraction_lt_one hq)]

theorem number_lt_of_length_lt (hp : IsDigits p) (hq : IsDigits q) (first : q.head? ≠ some '0')
    (h : p.length < q.length) : number p < number q := by
  cases q with
  | nil => cases h
  | cons d q =>
      calc number p < 10 ^ p.length := number_lt hp
        _ ≤ 10 ^ q.length := Nat.pow_le_pow_right (by decide) (Nat.le_of_lt_succ h)
        _ ≤ number (d :: q) := pow_le_number hq fun heq => first (congrArg some heq)

theorem compare_wholes (hp : IsDigits p) (hq : IsDigits q) (first : p.head? ≠ some '0')
    (first' : q.head? ≠ some '0') :
    (compare p.length q.length).then (compare p q) = compare (number p) (number q) := by
  rcases Nat.lt_trichotomy p.length q.length with h | h | h
  · rw [Nat.compare_eq_lt.2 h, Nat.compare_eq_lt.2 (number_lt_of_length_lt hp hq first' h)]
    rfl
  · have cast : compare (number p) (number q) = compare (number p : ℚ) (number q) := by
      have ascends : StrictMono fun n : Nat => (n : ℚ) := Nat.strictMono_cast
      rw [← cmp_eq_compare, ← cmp_eq_compare]
      exact (ascends.cmp_map_eq (number p) (number q)).symm
    rw [Nat.compare_eq_eq.2 h, Ordering.then, compare_places hp hq (.inl h), cast, fraction, fraction, h]
    exact compare_div (by positivity) _ _
  · rw [Nat.compare_eq_gt.2 h, Nat.compare_eq_gt.2 (number_lt_of_length_lt hq hp first h)]
    rfl

end DecimalLiteral

namespace DecimalParts

open DecimalLiteral

variable {p q : DecimalParts}

theorem Reduced.magnitude_pos (h : p.Reduced) (negative : p.negative = true) : 0 < p.magnitude := by
  have whole : (0 : ℚ) ≤ number p.whole := Nat.cast_nonneg _
  have places := fraction_nonneg p.places
  rcases h.nonzero negative with nonempty | nonempty
  · have positive : (0 : ℚ) < number p.whole := by exact_mod_cast number_pos h.whole nonempty h.first
    exact add_pos_of_pos_of_nonneg positive places
  · exact add_pos_of_nonneg_of_pos whole (fraction_pos h.places nonempty h.last)

theorem magnitude_nonneg (p : DecimalParts) : 0 ≤ p.magnitude :=
  add_nonneg (Nat.cast_nonneg _) (fraction_nonneg p.places)

theorem compareMagnitude_eq (hp : p.Reduced) (hq : q.Reduced) :
    compareMagnitude p q = compare p.magnitude q.magnitude := by
  have wholes := compare_wholes hp.whole hq.whole hp.first hq.first
  have places := compare_places hp.places hq.places (.inr ⟨hp.last, hq.last⟩)
  rw [compareMagnitude, ← Ordering.then_assoc, wholes, places, magnitude, magnitude,
    compare_add_of_lt_one _ _ (fraction_nonneg _) (fraction_lt_one hp.places) (fraction_nonneg _)
      (fraction_lt_one hq.places)]

theorem compareParts_eq (hp : p.Reduced) (hq : q.Reduced) :
    compareParts p q = compare p.value q.value := by
  have magnitudes := compareMagnitude_eq hp hq
  rw [compareParts]
  cases hpn : p.negative with
  | false =>
      cases hqn : q.negative with
      | false => simp [value, hpn, hqn, magnitudes]
      | true =>
          have below : -q.magnitude < p.magnitude := by
            linarith [hq.magnitude_pos hqn, p.magnitude_nonneg]
          simp [value, hpn, hqn, compare_gt_iff_gt.2 below]
  | true =>
      cases hqn : q.negative with
      | false =>
          have below : -p.magnitude < q.magnitude := by
            linarith [hp.magnitude_pos hpn, q.magnitude_nonneg]
          simp [value, hpn, hqn, compare_lt_iff_lt.2 below]
      | true =>
          have reversed : compare (-p.magnitude) (-q.magnitude) = compare q.magnitude p.magnitude := by
            have flips : StrictAnti fun z : ℚ => -z := fun _ _ => neg_lt_neg
            rw [← cmp_eq_compare, ← cmp_eq_compare]
            exact flips.cmp_map_eq p.magnitude q.magnitude
          simp only [value, hpn, hqn, if_true, magnitudes, reversed]
          exact OrientedOrd.eq_swap.symm

end DecimalParts

namespace DecimalLiteral

variable {a b : List Char} {x y : ℚ}

theorem compareTexts_of_denotes (ha : Denotes a x) (hb : Denotes b y) :
    compareTexts a b = compare x y := by
  rw [compareTexts, DecimalParts.compareParts_eq (reduced_parts ha) (reduced_parts hb), value_parts ha,
    value_parts hb]

/-- The literals are the texts that write a number, they write one each, and their order is that of the
numbers; so it is total, and literals are equal in it just where their numbers are. Keys of the numeric
type are literals in this order. -/
theorem compareTexts_eq_compare_values :
    (∀ s, isLiteral s = true ↔ ∃! x, Denotes s x) ∧
    (∀ a b x y, Denotes a x → Denotes b y →
      compareTexts a b = compare x y ∧ (compareTexts a b = .eq ↔ x = y)) ∧
    TransCmp compareTexts ∧
    ∀ v w k l, KeyType.numeric.readKey v = .ok k → KeyType.numeric.readKey w = .ok l →
      ∃ x y, Denotes k.display.toList x ∧ Denotes l.display.toList y ∧ k.compare? l = some (compare x y) := by
  have unique {s x y} (hx : Denotes s x) (hy : Denotes s y) : y = x :=
    (value_parts hy).symm.trans (value_parts hx)
  have written {v k} (h : KeyType.numeric.readKey v = .ok k) :
      ∃ s x, k = .numeric (String.ofList s) ∧ Denotes s x := by
    obtain ⟨s, literal, key⟩ :=
      KeyType.isLiteral_of_readNumeric? ((KeyType.readKey_eq_ok_iff _ _ _).1 h)
    obtain ⟨x, hx⟩ := isLiteral_iff.1 literal
    exact ⟨s, x, key, hx⟩
  refine ⟨fun s => ?_, fun a b x y ha hb => ?_, inferInstance, fun v w k l hv hw => ?_⟩
  · rw [isLiteral_iff]
    exact ⟨fun ⟨x, hx⟩ => ⟨x, hx, fun _ => unique hx⟩, ExistsUnique.exists⟩
  · rw [compareTexts_of_denotes ha hb]
    exact ⟨rfl, Std.compare_eq_iff_eq⟩
  · obtain ⟨s, x, rfl, hx⟩ := written hv
    obtain ⟨t, y, rfl, hy⟩ := written hw
    refine ⟨x, y, by simpa [Key.display] using hx, by simpa [Key.display] using hy, ?_⟩
    simp only [Key.compare?, String.toList_ofList, compareTexts_of_denotes hx hy]

theorem compareTexts_minus_seven_and_a_half :
    (Denotes "-007.500".toList (-15 / 2) ∧ Denotes "-7.5".toList (-15 / 2) ∧
      compareTexts "-007.500".toList "-7.5".toList = compare (-15 / 2 : ℚ) (-15 / 2)) ∧
    KeyType.numeric.readKey (.text " -007.500") = .ok (.numeric "-007.500") ∧
      ∃ x y, Denotes "-007.500".toList x ∧ Denotes "-007.500".toList y ∧
        (Key.numeric "-007.500").compare? (.numeric "-007.500") = some (compare x y) := by
  have long : Denotes "-007.500".toList (-15 / 2) := by
    have value : -((number ['0', '0', '7'] : ℚ) + fraction ['5', '0', '0']) = -15 / 2 := by
      rw [fraction, show number ['0', '0', '7'] = 7 from rfl, show number ['5', '0', '0'] = 500 from rfl]
      norm_num
    rw [← value]
    exact .minus (@Unsigned.pointed ['0', '0', '7'] ['5', '0', '0'] (all_isDigit_iff.1 rfl)
      (List.cons_ne_nil _ _) (all_isDigit_iff.1 rfl))
  have short : Denotes "-7.5".toList (-15 / 2) := by
    have value : -((number ['7'] : ℚ) + fraction ['5']) = -15 / 2 := by
      rw [fraction, show number ['7'] = 7 from rfl, show number ['5'] = 5 from rfl]
      norm_num
    rw [← value]
    exact .minus (@Unsigned.pointed ['7'] ['5'] (all_isDigit_iff.1 rfl) (List.cons_ne_nil _ _)
      (all_isDigit_iff.1 rfl))
  have read : KeyType.numeric.readKey (.text " -007.500") = .ok (.numeric "-007.500") :=
    (KeyType.readKey_eq_ok_iff _ _ _).2 (by decide)
  obtain ⟨-, ordered, -, keys⟩ := compareTexts_eq_compare_values
  exact ⟨⟨long, short, (ordered _ _ _ _ long short).1⟩, read, keys _ _ _ _ read read⟩

end DecimalLiteral

end SplitSnapshot
