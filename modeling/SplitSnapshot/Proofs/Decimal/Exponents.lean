import Mathlib.Algebra.Order.Field.Power
import SplitSnapshot.Decimal.Shortest
import SplitSnapshot.Proofs.Decimal.Value
import SplitSnapshot.Proofs.Key.Display

namespace SplitSnapshot

open Text DecimalLiteral

namespace DecimalLiteral

variable {s : List Char} {x : ℚ}

theorem Denotes.not_mem_e (h : Denotes s x) : 'e' ∉ s := by
  intro mark
  have literal : isLiteral s = true := isLiteral_iff.2 ⟨x, h⟩
  have other : ¬ (isSign 'e' = true ∨ 'e' = '.' ∨ 'e'.isDigit = true) := by decide
  exact other (mem_of_isLiteral literal mark)

theorem number_decimal (n : Nat) : number (decimal n) = n := by
  have read : ∀ d, d < 10 → digit (decimalChar d) = d := by decide
  have digits : (decimal n).map digit = digitsIn 10 n := by
    rw [decimal, List.map_map]
    exact (List.map_congr_left fun d hd => read d (digitsIn_lt (by decide) n d hd)).trans (List.map_id _)
  rw [number, digits, valueIn_digitsIn (by decide)]

theorem isDigits_decimal (n : Nat) : IsDigits (decimal n) :=
  fun _ => isDigit_of_mem_decimal

theorem decimal_ne_nil (n : Nat) : decimal n ≠ [] := by
  simp [decimal, digitsIn_ne_nil]

theorem denotes_signedDecimal (n : ℤ) : Denotes (signedDecimal n) n := by
  have digits : Unsigned (decimal n.natAbs) (number (decimal n.natAbs)) :=
    .whole (isDigits_decimal _) (decimal_ne_nil _)
  rw [number_decimal] at digits
  by_cases negative : n < 0
  · have value : (n : ℚ) = -(n.natAbs : ℚ) := by
      rw [Nat.cast_natAbs, abs_of_neg negative]
      simp
    rw [signedDecimal, if_pos negative, value]
    exact .minus digits
  · have value : (n : ℚ) = (n.natAbs : ℚ) := by
      rw [Nat.cast_natAbs, abs_of_nonneg (Int.not_lt.1 negative)]
    rw [signedDecimal, if_neg negative, value]
    exact .unsigned digits

theorem isDigits_zeros (n : Nat) : IsDigits (List.replicate n '0') := by
  intro c hc
  rw [List.eq_of_mem_replicate hc]
  rfl

theorem IsDigits.append {ds es : List Char} (hd : IsDigits ds) (he : IsDigits es) : IsDigits (ds ++ es) :=
  List.forall_mem_append.2 ⟨hd, he⟩

theorem unsigned_pointed {ds ps : List Char} (digits : IsDigits ds) (nonempty : ds ≠ [])
    (places : IsDigits ps) : Unsigned (ds ++ '.' :: ps) (number (ds ++ ps) / 10 ^ ps.length) := by
  have value : (number (ds ++ ps) : ℚ) / 10 ^ ps.length = number ds + fraction ps := by
    rw [number_append, fraction]
    push_cast
    field_simp
  rw [value]
  exact .pointed digits nonempty places

theorem unsigned_point_zero {ds : List Char} (digits : IsDigits ds) (nonempty : ds ≠ []) :
    Unsigned (ds ++ ['.', '0']) (number ds) := by
  have none : fraction ['0'] = 0 := by
    rw [fraction, show number ['0'] = 0 from rfl]
    simp
  have pointed := Unsigned.pointed digits nonempty (isDigits_zeros 1)
  rwa [List.replicate_one, none, add_zero] at pointed

theorem pow_le_of_decimal {n : Nat} (h : 0 < n) : 10 ^ ((decimal n).length - 1) ≤ n := by
  by_contra small
  cases length : (decimal n).length - 1 with
  | zero =>
      rw [length] at small
      omega
  | succ w =>
      rw [length] at small
      have short : (decimal n).length ≤ w + 1 := by
        rw [decimal, List.length_map]
        exact length_digitsIn_le (Nat.lt_of_not_le small)
      omega

theorem lt_pow_of_decimal (n : Nat) : n < 10 ^ (decimal n).length := by
  have bound := number_lt (isDigits_decimal n)
  rwa [number_decimal] at bound

theorem length_decimal_pos (n : Nat) : 0 < (decimal n).length :=
  List.length_pos_iff.2 (decimal_ne_nil n)

end DecimalLiteral

inductive Exponent : List Char → ℤ → Prop
  | unsigned {ds} (digits : IsDigits ds) (nonempty : ds ≠ []) : Exponent ds (number ds)
  | plus {ds} (digits : IsDigits ds) (nonempty : ds ≠ []) : Exponent ('+' :: ds) (number ds)
  | minus {ds} (digits : IsDigits ds) (nonempty : ds ≠ []) : Exponent ('-' :: ds) (-number ds)

inductive NumberText : List Char → ℚ → Prop
  | literal {s x} (h : Denotes s x) : NumberText s x
  | scaled {s x es e} (h : Denotes s x) (exponent : Exponent es e) :
      NumberText (s ++ 'e' :: es) (x * 10 ^ e)

variable {s : List Char} {x y : ℚ} {e f : ℤ}

theorem Exponent.unique (he : Exponent s e) (hf : Exponent s f) : e = f := by
  have unsigned {c : Char} {ds : List Char} (digits : IsDigits (c :: ds)) : c.isDigit = true :=
    digits c List.mem_cons_self
  cases he with
  | unsigned digits =>
      cases hf with
      | unsigned => rfl
      | plus | minus => cases unsigned digits
  | plus =>
      cases hf with
      | unsigned digits => cases unsigned digits
      | plus => rfl
  | minus =>
      cases hf with
      | unsigned digits => cases unsigned digits
      | minus => rfl

theorem NumberText.unique (hx : NumberText s x) (hy : NumberText s y) : x = y := by
  cases hx with
  | literal hx =>
      cases hy with
      | literal hy => exact hx.unique hy
      | scaled => exact absurd (by simp) hx.not_mem_e
  | @scaled p x es e hx he =>
      generalize whole : p ++ 'e' :: es = s at hy
      cases hy with
      | literal hy => exact absurd (by simp [← whole]) hy.not_mem_e
      | @scaled q y fs f hy hf =>
          -- both literals are what stands before the first mark
          have cut : cutAt? 'e' (p ++ 'e' :: es) = some (p, es) := cutAt?_append hx.not_mem_e
          rw [whole, cutAt?_append hy.not_mem_e] at cut
          obtain ⟨rfl, rfl⟩ := Prod.mk.inj (Option.some.inj cut)
          rw [hx.unique hy, he.unique hf]

namespace Decimal

variable {d : Decimal}

def value (d : Decimal) : ℚ :=
  d.coefficient * 10 ^ d.exponent

theorem value_of_nonneg (h : 0 ≤ d.exponent) : d.value = d.coefficient * 10 ^ d.exponent.toNat := by
  rw [value, ← zpow_natCast, Int.toNat_of_nonneg h]

theorem value_of_neg (h : d.exponent < 0) : d.value = d.coefficient / 10 ^ (-d.exponent).toNat := by
  have negative : d.exponent = -((-d.exponent).toNat : ℤ) := by omega
  rw [value]
  conv_lhs => rw [negative]
  rw [zpow_neg, zpow_natCast, div_eq_mul_inv]

theorem positional_whole (h : 0 ≤ d.exponent) :
    IsDigits d.positional ∧ d.positional ≠ [] ∧ (number d.positional : ℚ) = d.value := by
  have digits := isDigits_decimal d.coefficient
  have nonempty := decimal_ne_nil d.coefficient
  rw [positional, if_pos h, value_of_nonneg h]
  by_cases zero : d.coefficient = 0
  · rw [if_pos (beq_iff_eq.2 zero)]
    exact ⟨digits, nonempty, by rw [number_decimal, zero]; simp⟩
  · rw [if_neg (by simpa using zero)]
    refine ⟨digits.append (isDigits_zeros _), by simp [nonempty], ?_⟩
    rw [number_append, number_zeros fun c hc => List.eq_of_mem_replicate hc, number_decimal,
      List.length_replicate]
    push_cast
    ring

theorem unsigned_positional_of_neg (h : d.exponent < 0) : Unsigned d.positional d.value := by
  have digits := isDigits_decimal d.coefficient
  rw [positional, if_neg (by omega), value_of_neg h]
  dsimp only
  generalize hp : (-d.exponent).toNat = places
  by_cases few : places < (decimal d.coefficient).length
  · rw [if_pos few]
    -- the point falls inside the digits
    have pointed := @unsigned_pointed
      ((decimal d.coefficient).take ((decimal d.coefficient).length - places))
      ((decimal d.coefficient).drop ((decimal d.coefficient).length - places))
      (fun c hc => digits c (List.mem_of_mem_take hc))
      (List.ne_nil_of_length_pos (by rw [List.length_take]; omega))
      (fun c hc => digits c (List.mem_of_mem_drop hc))
    have width : (decimal d.coefficient).length - ((decimal d.coefficient).length - places) = places := by
      omega
    rwa [List.take_append_drop, number_decimal, List.length_drop, width] at pointed
  · rw [if_neg few]
    have pointed := @unsigned_pointed ['0']
      (List.replicate (places - (decimal d.coefficient).length) '0' ++ decimal d.coefficient)
      (isDigits_zeros 1) (List.cons_ne_nil _ _) ((isDigits_zeros _).append digits)
    have width : places - (decimal d.coefficient).length + (decimal d.coefficient).length = places := by
      omega
    have zeros : ∀ c ∈ ['0'] ++ List.replicate (places - (decimal d.coefficient).length) '0', c = '0' :=
      List.forall_mem_cons.2 ⟨rfl, fun c => List.eq_of_mem_replicate⟩
    rw [← List.append_assoc, number_append, number_zeros zeros, Nat.zero_mul, Nat.zero_add, number_decimal,
      List.length_append, List.length_replicate, width] at pointed
    exact pointed

theorem unsigned_positional (d : Decimal) : Unsigned d.positional d.value := by
  by_cases whole : 0 ≤ d.exponent
  · obtain ⟨digits, nonempty, value⟩ := positional_whole whole
    rw [← value]
    exact .whole digits nonempty
  · exact unsigned_positional_of_neg (by omega)

theorem exponent_signed (e : ℤ) :
    Exponent ((if e < 0 then ['-'] else ['+']) ++ decimal e.natAbs) e := by
  have digits := isDigits_decimal e.natAbs
  have nonempty := decimal_ne_nil e.natAbs
  split
  · have negative : e = -(number (decimal e.natAbs) : ℤ) := by
      rw [number_decimal]
      omega
    conv_rhs => rw [negative]
    exact .minus digits nonempty
  · have nonneg : e = (number (decimal e.natAbs) : ℤ) := by
      rw [number_decimal]
      omega
    conv_rhs => rw [nonneg]
    exact .plus digits nonempty

theorem exists_scientific_eq (d : Decimal) : ∃ s es, d.scientific = s ++ 'e' :: es ∧
    Unsigned s (d.coefficient / 10 ^ ((decimal d.coefficient).length - 1)) ∧ Exponent es d.leading := by
  have digits := isDigits_decimal d.coefficient
  have value := number_decimal d.coefficient
  have mark : (if d.leading < 0 then ['e', '-'] else ['e', '+']) =
      'e' :: if d.leading < 0 then ['-'] else ['+'] := by
    split <;> rfl
  rw [scientific, mark]
  cases written : decimal d.coefficient with
  | nil => exact absurd written (decimal_ne_nil _)
  | cons c s =>
      rw [written] at digits value
      refine ⟨[c] ++ if s.isEmpty then [] else '.' :: s, _, ?_, ?_, exponent_signed d.leading⟩
      · simp
      · cases s with
        | nil =>
            have whole : Unsigned [c] (number [c]) := .whole digits (List.cons_ne_nil _ _)
            rw [value] at whole
            simpa using whole
        | cons c' s =>
            obtain ⟨first, rest⟩ := IsDigits.cons_iff.1 digits
            have pointed : Unsigned ([c] ++ '.' :: c' :: s)
                (number (c :: c' :: s) / 10 ^ (c' :: s).length) :=
              unsigned_pointed (List.forall_mem_singleton.2 first) (List.cons_ne_nil c []) rest
            rw [value] at pointed
            simpa using pointed

theorem value_eq_leading (d : Decimal) :
    d.value = d.coefficient / 10 ^ ((decimal d.coefficient).length - 1) * 10 ^ d.leading := by
  have nonempty := length_decimal_pos d.coefficient
  have split : d.leading = ((decimal d.coefficient).length - 1 : ℕ) + d.exponent := by
    rw [leading]
    omega
  rw [split, zpow_add₀ (by norm_num), zpow_natCast, value]
  field_simp

theorem pow_leading_le (h : 0 < d.coefficient) : (10 : ℚ) ^ d.leading ≤ d.value := by
  have digits : (10 : ℚ) ^ ((decimal d.coefficient).length - 1) ≤ d.coefficient := by
    exact_mod_cast pow_le_of_decimal h
  have one : 1 ≤ (d.coefficient : ℚ) / 10 ^ ((decimal d.coefficient).length - 1) := by
    rwa [le_div_iff₀ (by positivity), one_mul]
  rw [value_eq_leading]
  exact le_mul_of_one_le_left (by positivity) one

theorem value_lt_pow (d : Decimal) : d.value < 10 ^ (d.leading + 1) := by
  have digits : (d.coefficient : ℚ) < 10 ^ (decimal d.coefficient).length := by
    exact_mod_cast lt_pow_of_decimal d.coefficient
  have split : d.leading + 1 = (decimal d.coefficient).length + d.exponent := by
    rw [leading]
    omega
  rw [split, zpow_add₀ (by norm_num), zpow_natCast, value]
  exact mul_lt_mul_of_pos_right digits (by positivity)

theorem pow_le_value_iff (h : 0 < d.coefficient) (k : ℤ) : (10 : ℚ) ^ k ≤ d.value ↔ k ≤ d.leading := by
  constructor
  · intro large
    have below := large.trans_lt d.value_lt_pow
    exact Int.lt_add_one_iff.1 ((zpow_lt_zpow_iff_right₀ (by norm_num)).1 below)
  · intro le
    exact (zpow_le_zpow_right₀ (by norm_num) le).trans (pow_leading_le h)

end Decimal

end SplitSnapshot
