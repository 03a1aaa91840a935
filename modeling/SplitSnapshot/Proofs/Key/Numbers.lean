import SplitSnapshot.Json.Printing
import SplitSnapshot.Proofs.Decimal.Exponents
import SplitSnapshot.Proofs.Decimal.Order

namespace SplitSnapshot

open Text DecimalLiteral

namespace Binary64

variable {x : Binary64} {s : List Char} {q : ℚ}

def signed (x : Binary64) (q : ℚ) : ℚ :=
  if x.isNegative then -q else q

theorem denotes_signText (h : Unsigned s q) : Denotes (x.signText ++ s) (x.signed q) := by
  rw [signText, signed]
  split
  · exact .minus h
  · exact .unsigned h

theorem abs_signed (q : ℚ) : |x.signed q| = |q| := by
  rw [signed]
  split
  · exact abs_neg q
  · rfl

theorem signed_mul (q r : ℚ) : x.signed (q * r) = x.signed q * r := by
  rw [signed, signed]
  split
  · exact (neg_mul q r).symm
  · rfl

def written (x : Binary64) : Decimal :=
  .shortest .even x

def IsPositional (x : Binary64) : Prop :=
  x.written.coefficient = 0 ∨ -5 ≤ x.written.leading ∧ x.written.leading < 16

theorem denotes_documentText (h : x.IsPositional) :
    Denotes x.documentText (x.signed x.written.value) := by
  rw [documentText, ← written]
  apply denotes_signText
  by_cases zero : x.written.coefficient = 0
  · have nothing : x.written.value = number ['0'] := by
      rw [Decimal.value, zero, show number ['0'] = 0 from rfl]
      simp
    rw [if_pos (beq_iff_eq.2 zero), nothing]
    exact unsigned_point_zero (isDigits_zeros 1) (List.cons_ne_nil _ _)
  · rw [if_neg (by simpa using zero), if_pos (h.resolve_left zero)]
    split
    · rename_i whole
      obtain ⟨digits, nonempty, value⟩ := Decimal.positional_whole whole
      rw [← value]
      exact unsigned_point_zero digits nonempty
    · exact Decimal.unsigned_positional _

theorem scaled_documentText (h : ¬ x.IsPositional) :
    NumberText x.documentText (x.signed x.written.value) ∧ 'e' ∈ x.documentText := by
  obtain ⟨zero, outside⟩ := not_or.1 h
  obtain ⟨s, es, scientific, literal, exponent⟩ := x.written.exists_scientific_eq
  have text : x.documentText = x.signText ++ s ++ 'e' :: es := by
    rw [documentText, ← written, if_neg (by simpa using zero), if_neg outside, scientific,
      List.append_assoc]
  rw [text, Decimal.value_eq_leading, signed_mul]
  exact ⟨.scaled (denotes_signText literal) exponent, by simp⟩

theorem isPositional_iff : x.IsPositional ↔ x.signed x.written.value = 0 ∨
    1 / 10 ^ 5 ≤ |x.signed x.written.value| ∧ |x.signed x.written.value| < 10 ^ 16 := by
  have nonneg : 0 ≤ x.written.value := by
    rw [Decimal.value]
    positivity
  rw [← abs_eq_zero, abs_signed, abs_of_nonneg nonneg, IsPositional]
  rcases Nat.eq_zero_or_pos x.written.coefficient with zero | positive
  · have none : x.written.value = 0 := by
      rw [Decimal.value, zero]
      simp
    exact iff_of_true (.inl zero) (.inl none)
  · have large : 0 < x.written.value := by
      rw [Decimal.value]
      positivity
    have low := Decimal.pow_le_value_iff positive (-5)
    have high := Decimal.pow_le_value_iff positive 16
    rw [zpow_neg] at low
    have cast (k : ℕ) : (10 : ℚ) ^ (k : ℤ) = 10 ^ k := zpow_natCast _ _
    rw [or_iff_right positive.ne', or_iff_right large.ne', one_div, ← not_le, ← not_le]
    exact (and_congr low (not_congr high)).symm

end Binary64

namespace Json

variable {v w : Json} {x y : ℚ} {k l : Key}

def IsNumber : Json → Prop
  | int n => -2 ^ 63 ≤ n ∧ n < 2 ^ 64
  | float x => x.isFinite = true
  | _ => False

def IsPlain (v : Json) (x : ℚ) : Prop :=
  (∃ n, v = int n) ∨ x = 0 ∨ 1 / 10 ^ 5 ≤ |x| ∧ |x| < 10 ^ 16

def IsNumericKey (v : Json) : Prop :=
  ∃ x k, NumberText v.chars x ∧ KeyType.numeric.readKey v = .ok k ∧ Denotes k.display.toList x

theorem exists_numberText (h : v.IsNumber) : ∃ x, NumberText v.chars x := by
  cases v with
  | int n =>
      rw [chars]
      exact ⟨n, .literal (denotes_signedDecimal n)⟩
  | float d =>
      rw [chars]
      by_cases positional : d.IsPositional
      · exact ⟨_, .literal (Binary64.denotes_documentText positional)⟩
      · exact ⟨_, (Binary64.scaled_documentText positional).1⟩
  | _ => exact h.elim

theorem isLiteral_chars_iff (h : v.IsNumber) (hx : NumberText v.chars x) :
    isLiteral v.chars = true ↔ v.IsPlain x := by
  cases v with
  | int n =>
      refine iff_of_true ?_ (.inl ⟨n, rfl⟩)
      rw [chars]
      exact isLiteral_iff.2 ⟨n, denotes_signedDecimal n⟩
  | float d =>
      have plain : (float d).IsPlain x ↔ x = 0 ∨ 1 / 10 ^ 5 ≤ |x| ∧ |x| < 10 ^ 16 :=
        or_iff_right nofun
      rw [chars] at hx ⊢
      by_cases positional : d.IsPositional
      · have literal := Binary64.denotes_documentText positional
        rw [plain, hx.unique (.literal literal), ← Binary64.isPositional_iff]
        exact iff_of_true (isLiteral_iff.2 ⟨_, literal⟩) positional
      · obtain ⟨scaled, mark⟩ := Binary64.scaled_documentText positional
        rw [plain, hx.unique scaled, ← Binary64.isPositional_iff, isLiteral_iff]
        refine iff_of_false ?_ positional
        rintro ⟨y, hy⟩
        exact hy.not_mem_e mark
  | _ => exact h.elim

theorem readKey_of_isNumber (h : v.IsNumber) : KeyType.numeric.readKey v =
    if isLiteral v.chars then .ok (.numeric (String.ofList v.chars))
    else .error (.invalidKey v .numeric) := by
  have read : KeyType.numeric.readKey? v = KeyType.numericKey? v.chars := by
    cases v with
    | int n =>
        rw [chars]
        rfl
    | float d =>
        rw [chars]
        rfl
    | _ => exact h.elim
  have comparable : KeyType.numeric.isComparable = true := rfl
  rw [KeyType.readKey, if_pos comparable, read, KeyType.numericKey?]
  cases isLiteral v.chars <;> rfl

theorem readKey_eq_ok_of_isNumber (h : v.IsNumber) : KeyType.numeric.readKey v = .ok k ↔
    isLiteral v.chars = true ∧ k = .numeric (String.ofList v.chars) := by
  rw [readKey_of_isNumber h]
  split
  · rename_i literal
    simp [literal, eq_comm]
  · rename_i refused
    simp [refused]

theorem denotes_of_readKey (h : v.IsNumber) (hx : NumberText v.chars x)
    (hk : KeyType.numeric.readKey v = .ok k) : Denotes k.display.toList x := by
  obtain ⟨literal, rfl⟩ := (readKey_eq_ok_of_isNumber h).1 hk
  obtain ⟨y, hy⟩ := isLiteral_iff.1 literal
  rw [Key.display, String.toList_ofList, hx.unique (.literal hy)]
  exact hy

theorem isNumericKey_iff (h : v.IsNumber) (hx : NumberText v.chars x) : v.IsNumericKey ↔ v.IsPlain x := by
  rw [← isLiteral_chars_iff h hx]
  constructor
  · rintro ⟨y, k, -, read, -⟩
    exact ((readKey_eq_ok_of_isNumber h).1 read).1
  · intro literal
    have read := (readKey_eq_ok_of_isNumber h).2 ⟨literal, rfl⟩
    exact ⟨x, _, hx, read, denotes_of_readKey h hx read⟩

theorem compare?_of_readKey (hv : v.IsNumber) (hw : w.IsNumber) (hx : NumberText v.chars x)
    (hy : NumberText w.chars y) (hk : KeyType.numeric.readKey v = .ok k)
    (hl : KeyType.numeric.readKey w = .ok l) : k.compare? l = some (compare x y) := by
  have first := denotes_of_readKey hv hx hk
  have second := denotes_of_readKey hw hy hl
  obtain ⟨-, rfl⟩ := (readKey_eq_ok_of_isNumber hv).1 hk
  obtain ⟨-, rfl⟩ := (readKey_eq_ok_of_isNumber hw).1 hl
  exact congrArg some (compareTexts_of_denotes first second)

/-- A document writes every number, each as one number. It is read as a key, which then is that number,
exactly if it is written without an exponent, and refused otherwise. The keys of two numbers are in the
order of the numbers that the document writes. -/
theorem isNumericKey_number (v : Json) (h : v.IsNumber) :
    ∃ x, NumberText v.chars x ∧ (∀ y, NumberText v.chars y → y = x) ∧
      (v.IsNumericKey ↔ v.IsPlain x) ∧
      (¬ v.IsPlain x → KeyType.numeric.readKey v = .error (.invalidKey v .numeric)) ∧
      ∀ (w : Json) (y : ℚ) (k l : Key), w.IsNumber → NumberText w.chars y →
        KeyType.numeric.readKey v = .ok k → KeyType.numeric.readKey w = .ok l →
        k.compare? l = some (compare x y) := by
  obtain ⟨x, hx⟩ := exists_numberText h
  refine ⟨x, hx, fun y hy => hy.unique hx, isNumericKey_iff h hx, fun marked => ?_, ?_⟩
  · rw [readKey_of_isNumber h, if_neg fun literal => marked ((isLiteral_chars_iff h hx).1 literal)]
  · intro w y k l hw hy
    exact compare?_of_readKey h hw hx hy

def half : Json :=
  float ⟨0x3FE0000000000000⟩

theorem isNumericKey_number_half :
    (half.IsNumber ∧ NumberText half.chars (1 / 2) ∧ half.IsNumericKey) ∧
      ((int (-7)).IsNumber ∧ NumberText (int (-7)).chars (-7)) ∧
      ∃ k l, KeyType.numeric.readKey half = .ok k ∧ KeyType.numeric.readKey (int (-7)) = .ok l ∧
        k.compare? l = some (compare (1 / 2 : ℚ) (-7)) := by
  have chars : half.chars = "0.5".toList := by decide +kernel
  have digits : Denotes "0.5".toList (1 / 2) := by
    have value : (number ['0', '5'] : ℚ) / 10 ^ 1 = 1 / 2 := by
      rw [show number ['0', '5'] = 5 from rfl]
      norm_num
    rw [← value]
    exact .unsigned (@unsigned_pointed ['0'] ['5'] (all_isDigit_iff.1 rfl) (List.cons_ne_nil _ _)
      (all_isDigit_iff.1 rfl))
  have written : NumberText half.chars (1 / 2) := chars ▸ .literal digits
  have seven : NumberText (int (-7)).chars (-7) := by
    rw [Json.chars]
    exact_mod_cast NumberText.literal (denotes_signedDecimal (-7))
  have number : half.IsNumber := rfl
  have whole : (int (-7)).IsNumber := ⟨by decide, by decide⟩
  have read : KeyType.numeric.readKey half = .ok (.numeric "0.5") :=
    (KeyType.readKey_eq_ok_iff _ _ _).2 (by decide +kernel)
  have read' : KeyType.numeric.readKey (int (-7)) = .ok (.numeric "-7") :=
    (KeyType.readKey_eq_ok_iff _ _ _).2 (by decide +kernel)
  obtain ⟨x, -, unique, key, -, ordered⟩ := isNumericKey_number half number
  obtain rfl := unique _ written
  have plain : half.IsPlain (1 / 2) := by
    refine .inr (.inr ?_)
    norm_num [abs_of_pos]
  exact ⟨⟨number, written, key.2 plain⟩, ⟨whole, seven⟩, _, _, read, read',
    ordered _ _ _ _ whole seven read read'⟩

def tenToSixteen : Json :=
  float ⟨0x4341C37937E08000⟩

theorem not_isNumericKey_tenToSixteen :
    tenToSixteen.IsNumber ∧ tenToSixteen.chars = "1e+16".toList ∧
      NumberText tenToSixteen.chars (10 ^ 16) ∧ ¬ tenToSixteen.IsNumericKey := by
  have chars : tenToSixteen.chars = "1e+16".toList := by decide +kernel
  have refused : KeyType.numeric.readKey? tenToSixteen = none := by decide +kernel
  have one : Denotes ['1'] 1 := by
    have value : ((number ['1'] : ℕ) : ℚ) = 1 := by
      rw [show number ['1'] = 1 from rfl, Nat.cast_one]
    rw [← value]
    exact .unsigned (.whole (all_isDigit_iff.1 rfl) (List.cons_ne_nil _ _))
  have sixteen : Exponent "+16".toList 16 :=
    @Exponent.plus ['1', '6'] (all_isDigit_iff.1 rfl) (List.cons_ne_nil _ _)
  have written : NumberText tenToSixteen.chars (10 ^ 16) := by
    rw [chars]
    have scaled := NumberText.scaled one sixteen
    rw [one_mul] at scaled
    exact_mod_cast scaled
  refine ⟨rfl, chars, written, ?_⟩
  rintro ⟨x, k, -, read, -⟩
  rw [KeyType.readKey_eq_ok_iff, refused] at read
  cases read

end Json

end SplitSnapshot
