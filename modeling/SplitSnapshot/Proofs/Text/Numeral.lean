import Mathlib.Algebra.GroupWithZero.Nat
import SplitSnapshot.Text.Blank
import SplitSnapshot.Text.Numeral

namespace SplitSnapshot.Text

variable {c : Char} {s : List Char} {w n : Nat}

theorem isBlank_of_isDigit (h : c.isDigit = true) : isBlank c = false := by
  have digit : 48 ≤ c.toNat ∧ c.toNat ≤ 57 := by
    simpa [Char.isDigit, UInt32.le_iff_toNat_le] using h
  have apart : ∀ r ∈ blankRanges, r.2 < 48 ∨ 57 < r.1 := by decide
  rw [isBlank, List.any_eq_false]
  intro r hr
  have := apart r hr
  simp only [Bool.and_eq_true, decide_eq_true_eq]
  omega

theorem trimStart_cons (h : isBlank c = false) : trimStart (c :: s) = c :: s := by
  simp [trimStart, h]

theorem trim_eq_self (h : ∀ c ∈ s, isBlank c = false) : trim s = s := by
  have kept {s : List Char} (h : ∀ c ∈ s, isBlank c = false) : s.dropWhile isBlank = s := by
    cases s with
    | nil => rfl
    | cons c s => exact trimStart_cons (h c List.mem_cons_self)
  have reversed : ∀ c ∈ s.reverse, isBlank c = false := fun c hc => h c (List.mem_reverse.1 hc)
  rw [trim, trimEnd, trimStart, kept h, kept reversed, List.reverse_reverse]

theorem valueIn_replicate_append (b k : Nat) (ds : List Nat) :
    valueIn b (List.replicate k 0 ++ ds) = valueIn b ds := by
  induction k with
  | zero => rfl
  | succ k ih =>
      rw [← ih]
      simp [valueIn, List.replicate_succ]

theorem decimalWide_eq_map (w n : Nat) : decimalWide w n =
    (List.replicate (w - (decimal n).length) 0 ++ digitsIn 10 n).map decimalChar := by
  rw [decimalWide, List.map_append, List.map_replicate]
  rfl

theorem lt_of_mem_wide {k d : Nat} (h : d ∈ List.replicate k 0 ++ digitsIn 10 n) : d < 10 := by
  rcases List.mem_append.1 h with h | h
  · rw [List.eq_of_mem_replicate h]
    decide
  · exact digitsIn_lt (by decide) n d h

theorem isDigit_of_mem_decimalWide (h : c ∈ decimalWide w n) : c.isDigit = true := by
  have digit : ∀ d, d < 10 → (decimalChar d).isDigit = true := by decide
  rw [decimalWide_eq_map] at h
  obtain ⟨d, hd, rfl⟩ := List.mem_map.1 h
  exact digit d (lt_of_mem_wide hd)

theorem nul_not_mem_decimalWide (w n : Nat) : '\x00' ∉ decimalWide w n := by
  intro h
  cases isDigit_of_mem_decimalWide h

theorem decimalWide_zero (n : Nat) : decimalWide 0 n = decimal n := by
  rw [decimalWide, Nat.zero_sub, List.replicate_zero, List.nil_append]

theorem isDigit_of_mem_decimal (h : c ∈ decimal n) : c.isDigit = true := by
  rw [← decimalWide_zero] at h
  exact isDigit_of_mem_decimalWide h

theorem length_digitsIn_le (h : n < 10 ^ (w + 1)) : (digitsIn 10 n).length ≤ w + 1 := by
  induction w generalizing n with
  | zero =>
      have digit : n < 10 := by omega
      rw [digitsIn, dif_pos (Or.inl digit)]
      exact Nat.le_refl 1
  | succ w ih =>
      rw [digitsIn]
      split
      · simp
      · have rest := ih (n := n / 10) (by omega)
        rw [List.length_append, List.length_singleton]
        omega

theorem length_decimalWide (h : n < 10 ^ (w + 1)) : (decimalWide (w + 1) n).length = w + 1 := by
  have short : (decimal n).length ≤ w + 1 := by
    rw [decimal, List.length_map]
    exact length_digitsIn_le h
  rw [decimalWide, List.length_append, List.length_replicate]
  omega

theorem readDecimal?_decimalWide (w n : Nat) : readDecimal? (decimalWide w n) = some n := by
  rw [decimalWide_eq_map]
  generalize w - (decimal n).length = k
  have read : ((List.replicate k 0 ++ digitsIn 10 n).map decimalChar).mapM decimalDigit? =
      some (List.replicate k 0 ++ digitsIn 10 n) :=
    mapM_map_some fun d hd => decimalDigit?_decimalChar d (lt_of_mem_wide hd)
  have digits : ((List.replicate k 0 ++ digitsIn 10 n).map decimalChar).isEmpty = false := by
    simp [digitsIn_ne_nil]
  rw [readDecimal?, digits, read, Option.map_some, valueIn_replicate_append,
    valueIn_digitsIn (by decide)]
  rfl

theorem foldl_digits_lt {b v : Nat} {ds : List Nat} (h : ∀ d ∈ ds, d < b) :
    ds.foldl (fun v d => b * v + d) v < (v + 1) * b ^ ds.length := by
  induction ds generalizing v with
  | nil => simp
  | cons d ds ih =>
      have hd := h d List.mem_cons_self
      calc ds.foldl (fun v d => b * v + d) (b * v + d)
          < (b * v + d + 1) * b ^ ds.length := ih fun e he => h e (List.mem_cons_of_mem d he)
        _ ≤ (b * v + b) * b ^ ds.length := Nat.mul_le_mul_right _ (by omega)
        _ = (v + 1) * b ^ (ds.length + 1) := by
            rw [Nat.pow_succ, Nat.mul_comm (b ^ ds.length) b, ← Nat.mul_assoc, Nat.succ_mul,
              Nat.mul_comm v b]

theorem digits_of_mapM {ds : List Nat} (h : s.mapM decimalDigit? = some ds) :
    ds.length = s.length ∧ ∀ d ∈ ds, d < 10 := by
  induction s generalizing ds with
  | nil =>
      cases h
      simp
  | cons c s ih =>
      rw [List.mapM_cons] at h
      obtain ⟨d, hd, h⟩ := Option.bind_eq_some_iff.1 h
      obtain ⟨es, hes, h⟩ := Option.bind_eq_some_iff.1 h
      cases h
      obtain ⟨length, small⟩ := ih hes
      have digit : d < 10 := by
        unfold decimalDigit? at hd
        split at hd
        · rename_i hc
          have : c.toNat ≤ 57 := by
            have := (Bool.and_eq_true_iff.1 hc).2
            simpa [UInt32.le_iff_toNat_le] using this
          cases hd
          omega
        · cases hd
      exact ⟨by simp [length], List.forall_mem_cons.2 ⟨digit, small⟩⟩

theorem lt_of_readDecimal? (h : readDecimal? s = some n) : n < 10 ^ s.length := by
  unfold readDecimal? at h
  split at h
  · cases h
  · obtain ⟨ds, hds, rfl⟩ := Option.map_eq_some_iff.1 h
    obtain ⟨length, small⟩ := digits_of_mapM hds
    have bound := foldl_digits_lt (v := 0) small
    rw [length, Nat.zero_add, Nat.one_mul] at bound
    exact bound

theorem takeWhile_isDigit_append {r : List Char} (hs : ∀ c ∈ s, c.isDigit = true)
    (hr : ∀ c ∈ r.head?, c.isDigit = false) :
    (s ++ r).takeWhile Char.isDigit = s ∧ (s ++ r).dropWhile Char.isDigit = r := by
  rw [List.takeWhile_append_of_pos hs, List.dropWhile_append_of_pos hs]
  cases r with
  | nil => simp
  | cons c r => simp [hr c rfl]

theorem exists_decimalWide_eq_cons (w n : Nat) :
    ∃ c s, decimalWide w n = c :: s ∧ c.isDigit = true := by
  cases hd : decimalWide w n with
  | nil =>
      have read := readDecimal?_decimalWide w n
      rw [hd] at read
      cases read
  | cons c s =>
      have digit : c ∈ decimalWide w n := by simp [hd]
      exact ⟨c, s, rfl, isDigit_of_mem_decimalWide digit⟩

theorem trimStart_decimalWide (w n : Nat) (s : List Char) :
    trimStart (decimalWide w n ++ s) = decimalWide w n ++ s := by
  obtain ⟨c, ds, hd, digit⟩ := exists_decimalWide_eq_cons w n
  rw [hd]
  exact trimStart_cons (isBlank_of_isDigit digit)

theorem mem_signedDecimal {n : Int} (h : c ∈ signedDecimal n) : c = '-' ∨ c.isDigit = true := by
  rw [signedDecimal] at h
  split at h
  · exact (List.mem_cons.1 h).imp_right isDigit_of_mem_decimal
  · exact .inr (isDigit_of_mem_decimal h)

theorem readSigned?_signedDecimal (n : Int) : readSigned? (signedDecimal n) = some n := by
  have read := readDecimal?_decimal n.natAbs
  by_cases negative : n < 0
  · have whole : -(n.natAbs : Int) = n := by omega
    rw [signedDecimal, if_pos negative, readSigned?, read]
    exact congrArg some whole
  · have whole : (n.natAbs : Int) = n := by omega
    rw [signedDecimal, if_neg negative]
    obtain ⟨c, s, hd, digit⟩ := exists_decimalWide_eq_cons 0 n.natAbs
    rw [decimalWide_zero] at hd
    rw [hd] at read ⊢
    unfold readSigned?
    split
    · rename_i heq
      cases heq
      cases digit
    · rename_i heq
      cases heq
      cases digit
    · rw [read]
      exact congrArg some whole

end SplitSnapshot.Text
