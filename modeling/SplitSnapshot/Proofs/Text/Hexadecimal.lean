import Mathlib.Data.List.Induction
import SplitSnapshot.Text.Numeral

namespace SplitSnapshot.Text

def hexAlphabet : List (Char × Nat) :=
  "0123456789abcdef".toList.zipIdx ++ "ABCDEF".toList.zipIdx 10

inductive HexRun : List Char → Nat → Prop
  | nil : HexRun [] 0
  | concat {s n c d} (run : HexRun s n) (digit : (c, d) ∈ hexAlphabet) :
      HexRun (s ++ [c]) (n * 16 + d)

variable {s : List Char} {c : Char} {d n : Nat}

theorem hexDigit?_eq_some_iff : hexDigit? c = some d ↔ (c, d) ∈ hexAlphabet := by
  constructor
  · intro h
    have letters : ∀ k, k < 103 → ∀ d ∈ hexDigit? (Char.ofNat k), (Char.ofNat k, d) ∈ hexAlphabet := by
      decide
    have last : c.toNat < 103 := by
      have le {a : Char} (h : c ≤ a) : c.toNat ≤ a.toNat := h
      unfold hexDigit? at h
      split at h
      · rename_i hc
        exact Nat.lt_of_le_of_lt (le hc.2) (by decide)
      split at h
      · rename_i hc
        exact Nat.lt_of_le_of_lt (le hc.2) (by decide)
      split at h
      · rename_i hc
        exact Nat.lt_of_le_of_lt (le hc.2) (by decide)
      · cases h
    have letter := letters c.toNat last d
    rw [Char.ofNat_toNat] at letter
    exact letter h
  · intro h
    have digits : ∀ p ∈ hexAlphabet, hexDigit? p.1 = some p.2 := by decide
    exact digits (c, d) h

theorem mapM_concat_eq_some_iff {α β : Type} {f : α → Option β} {xs : List α} {x : α} {ys : List β} :
    (xs ++ [x]).mapM f = some ys ↔
      ∃ zs y, xs.mapM f = some zs ∧ f x = some y ∧ ys = zs ++ [y] := by
  rw [List.mapM_append]
  cases xs.mapM f with
  | none => simp
  | some zs => cases h : f x <;> simp [h, eq_comm]

theorem hexRun_iff : HexRun s n ↔ (s.mapM hexDigit?).map (valueIn 16) = some n := by
  constructor
  · intro h
    induction h with
    | nil => rfl
    | concat run digit ih =>
        obtain ⟨ds, hds, rfl⟩ := Option.map_eq_some_iff.1 ih
        rw [mapM_concat_eq_some_iff.2 ⟨ds, _, hds, hexDigit?_eq_some_iff.2 digit, rfl⟩,
          Option.map_some, valueIn_append_singleton, Nat.mul_comm]
  · intro h
    induction s using List.reverseRecOn generalizing n with
    | nil =>
        cases h
        exact .nil
    | append_singleton s c ih =>
        obtain ⟨ds, hds, rfl⟩ := Option.map_eq_some_iff.1 h
        obtain ⟨es, e, hes, he, rfl⟩ := mapM_concat_eq_some_iff.1 hds
        rw [valueIn_append_singleton, Nat.mul_comm]
        exact .concat (ih (by rw [hes, Option.map_some])) (hexDigit?_eq_some_iff.1 he)

theorem readHex?_eq_some_iff : readHex? s = some n ↔ s ≠ [] ∧ HexRun s n := by
  rw [hexRun_iff, readHex?]
  cases s with
  | nil => simp
  | cons c s => simp

theorem HexRun.of_mem (h : HexRun s n) (hc : c ∈ s) : ∃ d, (c, d) ∈ hexAlphabet := by
  induction h with
  | nil => cases hc
  | concat run digit ih =>
      rcases List.mem_append.1 hc with hc | hc
      · exact ih hc
      · exact ⟨_, List.mem_singleton.1 hc ▸ digit⟩

end SplitSnapshot.Text
