import Mathlib.Data.List.TakeWhile
import SplitSnapshot.Proofs.Text.Numeral
import SplitSnapshot.Text.Ascii

namespace SplitSnapshot.Text

variable {sep : Char} {s before after : List Char}

theorem cutAt?_append (h : sep ∉ before) :
    cutAt? sep (before ++ sep :: after) = some (before, after) := by
  induction before with
  | nil => simp [cutAt?]
  | cons c before ih =>
      rw [List.mem_cons, not_or] at h
      rw [List.cons_append, cutAt?, if_neg (Ne.symm h.1), ih h.2, Option.map_some]

theorem cutAt?_of_not_mem (h : sep ∉ s) : cutAt? sep s = none := by
  induction s with
  | nil => rfl
  | cons c s ih =>
      rw [List.mem_cons, not_or] at h
      rw [cutAt?, if_neg (Ne.symm h.1), ih h.2, Option.map_none]

theorem cutAt?_eq_some_iff :
    cutAt? sep s = some (before, after) ↔ s = before ++ sep :: after ∧ sep ∉ before := by
  constructor
  · intro h
    by_cases hs : sep ∈ s
    · obtain ⟨start, rest, rfl, absent⟩ := List.eq_append_cons_of_mem hs
      rw [cutAt?_append absent] at h
      cases h
      exact ⟨rfl, absent⟩
    · rw [cutAt?_of_not_mem hs] at h
      cases h
  · rintro ⟨rfl, absent⟩
    exact cutAt?_append absent

theorem splitAt_eq_splitOn (sep : Char) (s : List Char) : splitAt sep s = s.splitOn sep := by
  induction s with
  | nil => rfl
  | cons c s ih =>
      rw [splitAt, ih, List.splitOn_eq_splitOnP, List.splitOn_eq_splitOnP,
        List.splitOnP_cons_eq_if_modifyHead]
      by_cases hc : c = sep
      · rw [if_pos hc, if_pos (beq_iff_eq.2 hc)]
      · rw [if_neg hc, if_neg (by simpa using hc)]
        cases pieces : s.splitOnP (· == sep) with
        | nil => exact absurd pieces (List.splitOnP_ne_nil _ s)
        | cons p ps => rfl

theorem not_mem_of_mem_splitOn {piece : List Char} (h : piece ∈ s.splitOn sep) : sep ∉ piece := by
  rw [← splitAt_eq_splitOn] at h
  induction s generalizing piece with
  | nil =>
      rw [List.mem_singleton.1 h]
      exact List.not_mem_nil
  | cons c s ih =>
      rw [splitAt] at h
      split at h
      · rcases List.mem_cons.1 h with rfl | h
        · exact List.not_mem_nil
        · exact ih h
      · rename_i hc
        split at h
        · rw [List.mem_singleton.1 h, List.mem_singleton]
          exact Ne.symm hc
        · rename_i p ps pieces
          rw [pieces] at ih
          rcases List.mem_cons.1 h with rfl | h
          · rw [List.mem_cons, not_or]
            exact ⟨Ne.symm hc, ih List.mem_cons_self⟩
          · exact ih (List.mem_cons_of_mem p h)

theorem trim_append (hb : ∀ c ∈ before, isBlank c = true) (ha : ∀ c ∈ after, isBlank c = true)
    (hs : ∀ c ∈ s, isBlank c = false) : trim (before ++ s ++ after) = s := by
  have start : trimStart (before ++ s ++ after) = trimStart (s ++ after) := by
    rw [trimStart, List.append_assoc, List.dropWhile_append_of_pos hb, trimStart]
  have reversed : ∀ c ∈ s.reverse, isBlank c = false := fun c hc => hs c (List.mem_reverse.1 hc)
  have ended : trimEnd (s ++ after) = s := by
    rw [trimEnd, List.reverse_append,
      List.dropWhile_append_of_pos fun c hc => ha c (List.mem_reverse.1 hc)]
    cases hr : s.reverse with
    | nil => simpa using hr.symm
    | cons c r =>
        rw [hr, List.forall_mem_cons] at reversed
        rw [List.dropWhile_cons_of_neg (by simp [reversed.1]), ← hr, List.reverse_reverse]
  rw [trim, start]
  cases s with
  | nil =>
      have blank : trimStart ([] ++ after) = [] := List.dropWhile_eq_nil_iff.2 ha
      rw [blank]
      rfl
  | cons c s =>
      rw [List.forall_mem_cons] at hs
      rw [List.cons_append, trimStart_cons hs.1, ← List.cons_append, ended]

theorem exists_eq_append_trim (s : List Char) : ∃ before after, s = before ++ trim s ++ after ∧
    (∀ c ∈ before, isBlank c = true) ∧ ∀ c ∈ after, isBlank c = true := by
  refine ⟨s.takeWhile isBlank, ((trimStart s).reverse.takeWhile isBlank).reverse, ?_, ?_, ?_⟩
  · have ended : trim s ++ ((trimStart s).reverse.takeWhile isBlank).reverse = trimStart s := by
      rw [trim, trimEnd, ← List.reverse_append, List.takeWhile_append_dropWhile, List.reverse_reverse]
    rw [List.append_assoc, ended, trimStart, List.takeWhile_append_dropWhile]
  · exact fun c hc => List.mem_takeWhile_imp hc
  · exact fun c hc => List.mem_takeWhile_imp (List.mem_reverse.1 hc)

end SplitSnapshot.Text
