import SplitSnapshot.Lsn
import SplitSnapshot.Proofs.Text.Cut
import SplitSnapshot.Proofs.Text.Numeral

namespace SplitSnapshot

namespace Text

theorem exists_digit_of_mem_upperHex {c : Char} {n : Nat} (h : c ∈ upperHex n) :
    ∃ d < 16, c = upperHexChar d := by
  obtain ⟨d, hd, rfl⟩ := List.mem_map.1 h
  exact ⟨d, digitsIn_lt (by decide) n d hd, rfl⟩

theorem isBlank_of_mem_upperHex {c : Char} {n : Nat} (h : c ∈ upperHex n) : isBlank c = false := by
  have unblank : ∀ d < 16, isBlank (upperHexChar d) = false := by decide
  obtain ⟨d, hd, rfl⟩ := exists_digit_of_mem_upperHex h
  exact unblank d hd

theorem not_mem_upperHex {c : Char} (hc : ∀ d < 16, upperHexChar d ≠ c) (n : Nat) :
    c ∉ upperHex n := by
  intro h
  obtain ⟨d, hd, rfl⟩ := exists_digit_of_mem_upperHex h
  exact hc d hd rfl

end Text

namespace Lsn

theorem readHalf?_upperHex {n : Nat} (h : n < pow2 32) : readHalf? (Text.upperHex n) = some n := by
  have unsigned : '+' ∉ Text.upperHex n := Text.not_mem_upperHex (by decide) n
  have digits : readHalf? (Text.upperHex n) =
      (Text.readHex? (Text.upperHex n)).filter (· < pow2 32) := by
    unfold readHalf?
    split
    · rename_i s hs
      rw [hs] at unsigned
      exact absurd List.mem_cons_self unsigned
    · rfl
  rw [digits, Text.readHex?_upperHex, Option.filter_some, if_pos (by simpa using h)]

theorem high_lt (p : Lsn) : p.high < pow2 32 := by
  have bound : p.value.toNat < pow2 32 * pow2 32 := p.value.toNat_lt
  exact Nat.div_lt_of_lt_mul bound

theorem low_lt (p : Lsn) : p.low < pow2 32 :=
  Nat.mod_lt _ (by decide)

theorem ofHalves_high_low (p : Lsn) : ofHalves p.high p.low = p := by
  have whole : p.high * pow2 32 + p.low = p.value.toNat := Nat.div_add_mod' _ _
  rw [ofHalves, whole, UInt64.ofNat_toNat]

theorem read?_text (p : Lsn) : read? p.text = some p := by
  have unblank : ∀ c ∈ p.chars, Text.isBlank c = false := by
    intro c hc
    rcases List.mem_append.1 hc with hc | hc
    · exact Text.isBlank_of_mem_upperHex hc
    rcases List.mem_cons.1 hc with rfl | hc
    · rfl
    · exact Text.isBlank_of_mem_upperHex hc
  -- a half has no slash, so the text is cut where the halves were joined
  have cut : Text.cutAt? '/' p.chars = some (Text.upperHex p.high, Text.upperHex p.low) :=
    Text.cutAt?_append (Text.not_mem_upperHex (by decide) p.high)
  rw [read?, text, String.toList_ofList, Text.trim_eq_self unblank, cut]
  simp [readHalf?_upperHex p.high_lt, readHalf?_upperHex p.low_lt, ofHalves_high_low]

end Lsn

end SplitSnapshot
