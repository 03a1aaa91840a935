import Mathlib.Algebra.GroupWithZero.Nat
import SplitSnapshot.Binary64

namespace SplitSnapshot

namespace Binary64

theorem exponentField_eq (x : Binary64) : x.exponentField = x.bits.toNat / 2 ^ 52 % 2 ^ 11 := by
  simp [exponentField, Nat.shiftRight_eq_div_pow, Nat.and_two_pow_sub_one_eq_mod _ 11]

theorem isFinite_iff {x : Binary64} :
    x.isFinite = true ↔ x.bits.toNat / 2 ^ 52 % 2 ^ 11 ≠ 2047 := by
  rw [isFinite, exponentField_eq, bne_iff_ne]

theorem isFinite_ofMagnitude (negative : Bool) {magnitude : Nat} (h : magnitude < 2047 * 2 ^ 52) :
    (ofMagnitude negative magnitude).isFinite = true := by
  rw [isFinite_iff, ofMagnitude, UInt64.toNat_ofNat']
  cases negative with
  | false => simp; omega
  | true => simp; omega

theorem isFinite_infinity (negative : Bool) : (infinity negative).isFinite = false := by
  cases negative <;> rfl

theorem isFinite_nan : nan.isFinite = false := rfl

theorem roundDiv_le (num den : Nat) : roundDiv num den ≤ num / den + 1 := by
  simp only [roundDiv]
  split
  · omega
  · omega
  · split <;> omega

theorem roundScaled_le {num den : Nat} {scale : Int} (hd : den ≠ 0)
    (h : (num.log2 : Int) - den.log2 - 53 ≤ scale) : roundScaled num den scale ≤ 2 ^ 54 := by
  have below : num < 2 ^ (num.log2 + 1) := Nat.lt_log2_self
  have above : 2 ^ den.log2 ≤ den := Nat.log2_self_le hd
  have quotient : num * 2 ^ (-scale).toNat < den * 2 ^ scale.toNat * 2 ^ 54 := by
    calc num * 2 ^ (-scale).toNat
        < 2 ^ (num.log2 + 1) * 2 ^ (-scale).toNat :=
          Nat.mul_lt_mul_of_pos_right below (Nat.two_pow_pos _)
      _ = 2 ^ (num.log2 + 1 + (-scale).toNat) := (Nat.pow_add ..).symm
      _ ≤ 2 ^ (den.log2 + (scale.toNat + 54)) := Nat.pow_le_pow_right (by decide) (by omega)
      _ = 2 ^ den.log2 * 2 ^ scale.toNat * 2 ^ 54 := by rw [Nat.pow_add, Nat.pow_add, Nat.mul_assoc]
      _ ≤ den * 2 ^ scale.toNat * 2 ^ 54 :=
          Nat.mul_le_mul_right _ (Nat.mul_le_mul_right _ above)
  exact Nat.le_trans (roundDiv_le ..) (Nat.div_lt_of_lt_mul quotient)

theorem isFinite_ofRatio (negative : Bool) {num den : Nat} (hd : den ≠ 0)
    (h : num < 2 ^ (den.log2 + 900)) : (ofRatio negative num den).isFinite = true := by
  rw [ofRatio]
  split
  · exact isFinite_ofMagnitude negative (by decide)
  · rename_i nonzero
    rw [beq_iff_eq] at nonzero
    have places : num.log2 < den.log2 + 900 := (Nat.log2_lt nonzero).2 h
    have finite {scale : Int} (hs : (num.log2 : Int) - den.log2 - 53 ≤ scale) (hs' : scale ≤ 900) :
        (scale + 1074).toNat * pow2 52 + roundScaled num den scale < 2047 * pow2 52 := by
      have q := roundScaled_le hd hs
      simp only [Nat.pow_eq]
      omega
    -- the exponent is the guess or the one after it, but never below the smallest
    dsimp only
    rw [if_pos]
    · apply isFinite_ofMagnitude
      apply finite
      · split <;> omega
      · split <;> omega
    · apply finite
      · split <;> omega
      · split <;> omega

theorem isFinite_ofSingle_iff {bits : UInt32} :
    (ofSingle bits).isFinite = true ↔ bits.toNat / 2 ^ 23 % 2 ^ 8 ≠ 255 := by
  have exponent : ((bits >>> 23) &&& 0xFF).toNat = bits.toNat / 2 ^ 23 % 2 ^ 8 := by
    simp [Nat.shiftRight_eq_div_pow, Nat.and_two_pow_sub_one_eq_mod _ 8]
  have fraction : (bits &&& 0x7FFFFF).toNat = bits.toNat % 2 ^ 23 := by
    simp [Nat.and_two_pow_sub_one_eq_mod _ 23]
  have hf : bits.toNat % 2 ^ 23 < 2 ^ 23 := Nat.mod_lt _ (by decide)
  have he : bits.toNat / 2 ^ 23 % 2 ^ 8 < 256 := Nat.mod_lt _ (by decide)
  simp only [ofSingle, exponent, fraction, beq_iff_eq]
  generalize bits.toNat / 2 ^ 23 % 2 ^ 8 = e at he ⊢
  generalize bits.toNat % 2 ^ 23 = f at hf ⊢
  by_cases top : e = 255
  · rw [if_pos top]
    split <;> simp [isFinite_infinity, isFinite_nan, top]
  · rw [if_neg top, iff_true_right top]
    split
    · apply isFinite_ofRatio _ (by decide)
      exact Nat.lt_of_lt_of_le hf (Nat.pow_le_pow_right (by decide) (by decide))
    · apply isFinite_ofRatio _ (by decide)
      have significand : pow2 23 + f < 2 ^ 24 := by
        simp only [Nat.pow_eq]
        omega
      calc (pow2 23 + f) * pow2 e < 2 ^ 24 * 2 ^ e :=
            Nat.mul_lt_mul_of_pos_right significand (Nat.two_pow_pos e)
        _ = 2 ^ (24 + e) := (Nat.pow_add ..).symm
        _ ≤ 2 ^ ((pow2 150).log2 + 900) := Nat.pow_le_pow_right (by decide) (by
            have : (pow2 150).log2 = 150 := Nat.log2_two_pow
            omega)

end Binary64

end SplitSnapshot
