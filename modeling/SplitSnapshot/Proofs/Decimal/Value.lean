import Mathlib.Algebra.Order.Field.Rat
import Mathlib.Data.List.TakeWhile
import Mathlib.Tactic.FieldSimp
import Mathlib.Tactic.Linarith
import Mathlib.Tactic.Positivity
import Mathlib.Tactic.Ring
import SplitSnapshot.Decimal.Literal
import SplitSnapshot.Proofs.Text.Cut
import SplitSnapshot.Proofs.Text.Numeral

namespace SplitSnapshot

open Text

namespace DecimalLiteral

def digit (c : Char) : Nat :=
  c.toNat - 48

def IsDigits (s : List Char) : Prop :=
  ∀ c ∈ s, c.isDigit = true

def number (s : List Char) : Nat :=
  valueIn 10 (s.map digit)

def fraction (s : List Char) : ℚ :=
  number s / 10 ^ s.length

inductive Unsigned : List Char → ℚ → Prop
  | whole {ds} (digits : IsDigits ds) (nonempty : ds ≠ []) : Unsigned ds (number ds)
  | pointed {ds ps} (digits : IsDigits ds) (nonempty : ds ≠ []) (places : IsDigits ps) :
      Unsigned (ds ++ '.' :: ps) (number ds + fraction ps)
  | placed {ps} (places : IsDigits ps) (nonempty : ps ≠ []) : Unsigned ('.' :: ps) (fraction ps)

inductive Denotes : List Char → ℚ → Prop
  | unsigned {s x} (h : Unsigned s x) : Denotes s x
  | plus {s x} (h : Unsigned s x) : Denotes ('+' :: s) x
  | minus {s x} (h : Unsigned s x) : Denotes ('-' :: s) (-x)

variable {s ds ps : List Char} {c : Char} {x : ℚ}

theorem IsDigits.nil : IsDigits [] :=
  List.forall_mem_nil _

theorem IsDigits.cons_iff : IsDigits (c :: s) ↔ c.isDigit = true ∧ IsDigits s :=
  List.forall_mem_cons

theorem IsDigits.not_mem (h : IsDigits s) (hc : c.isDigit = false) : c ∉ s := by
  intro hm
  rw [h c hm] at hc
  cases hc

theorem all_isDigit_iff : s.all Char.isDigit = true ↔ IsDigits s :=
  List.all_eq_true

theorem digit_lt (h : c.isDigit = true) : digit c < 10 := by
  have bounds := Char.isDigit_iff_toNat.1 h
  have last : '9'.toNat = 57 := rfl
  rw [digit]
  omega

theorem digit_pos (h : c.isDigit = true) (hc : c ≠ '0') : 0 < digit c := by
  have bounds := Char.isDigit_iff_toNat.1 h
  have zero : '0'.toNat = 48 := rfl
  have apart : c.toNat ≠ '0'.toNat := fun heq => hc (Char.toNat_inj.1 heq)
  rw [digit]
  omega

theorem valueIn_append (b : Nat) (ds es : List Nat) :
    valueIn b (ds ++ es) = valueIn b ds * b ^ es.length + valueIn b es := by
  induction es using List.reverseRecOn with
  | nil => simp [valueIn]
  | append_singleton es e ih =>
      rw [← List.append_assoc, valueIn_append_singleton, valueIn_append_singleton, ih,
        List.length_append, List.length_singleton]
      ring

theorem number_append (s t : List Char) : number (s ++ t) = number s * 10 ^ t.length + number t := by
  rw [number, List.map_append, valueIn_append, List.length_map]
  rfl

theorem number_cons (c : Char) (s : List Char) : number (c :: s) = digit c * 10 ^ s.length + number s := by
  have single : number [c] = digit c := by simp [number, valueIn]
  rw [← List.singleton_append, number_append, single]

theorem number_lt (h : IsDigits s) : number s < 10 ^ s.length := by
  have small : ∀ d ∈ s.map digit, d < 10 := by
    intro d hd
    obtain ⟨c, hc, rfl⟩ := List.mem_map.1 hd
    exact digit_lt (h c hc)
  have bound := foldl_digits_lt (v := 0) small
  rw [List.length_map, Nat.zero_add, Nat.one_mul] at bound
  exact bound

theorem number_zeros (h : ∀ c ∈ s, c = '0') : number s = 0 := by
  induction s with
  | nil => rfl
  | cons c s ih =>
      obtain ⟨rfl, hs⟩ := List.forall_mem_cons.1 h
      rw [number_cons, ih hs]
      simp [digit]

theorem fraction_nil : fraction [] = 0 := by
  simp [fraction, number, valueIn]

theorem fraction_cons (c : Char) (s : List Char) : fraction (c :: s) = (digit c + fraction s) / 10 := by
  rw [fraction, fraction, number_cons, List.length_cons, pow_succ]
  push_cast
  field_simp

theorem fraction_nonneg (s : List Char) : 0 ≤ fraction s := by
  rw [fraction]
  positivity

theorem fraction_lt_one (h : IsDigits s) : fraction s < 1 := by
  have bound : (number s : ℚ) < 10 ^ s.length := by exact_mod_cast number_lt h
  rw [fraction, div_lt_one (by positivity)]
  exact bound

theorem exists_zeros_append (s : List Char) : ∃ zs, (∀ c ∈ zs, c = '0') ∧ s = zs ++ dropZeros s := by
  refine ⟨s.takeWhile (· == '0'), fun c hc => ?_, List.takeWhile_append_dropWhile.symm⟩
  exact eq_of_beq (List.mem_takeWhile_imp (p := (· == '0')) hc)

theorem number_dropZeros (s : List Char) : number (dropZeros s) = number s := by
  obtain ⟨zs, zeros, split⟩ := exists_zeros_append s
  conv_rhs => rw [split]
  rw [number_append, number_zeros zeros, Nat.zero_mul, Nat.zero_add]

theorem fraction_dropZeros (s : List Char) : fraction (dropZeros s.reverse).reverse = fraction s := by
  obtain ⟨zs, zeros, split⟩ := exists_zeros_append s.reverse
  have behind : ∀ c ∈ zs.reverse, c = '0' := fun c hc => zeros c (List.mem_reverse.1 hc)
  conv_rhs => rw [← List.reverse_reverse s, split, List.reverse_append]
  rw [fraction, fraction, number_append, number_zeros behind, List.length_append, pow_add]
  push_cast
  field_simp
  ring

theorem isDigits_dropZeros (h : IsDigits s) : IsDigits (dropZeros s) :=
  fun c hc => h c (List.dropWhile_subset _ hc)

theorem head?_dropZeros (s : List Char) : (dropZeros s).head? ≠ some '0' := by
  have first := List.head?_dropWhile_not (· == '0') s
  intro zero
  rw [← dropZeros, zero] at first
  cases first

theorem Unsigned.not_isSign (h : Unsigned s x) : ∀ c ∈ s.head?, isSign c = false := by
  have digit (c : Char) (hc : c.isDigit = true) : isSign c = false := by
    rw [isSign, Bool.or_eq_false_iff]
    constructor
    · exact beq_eq_false_iff_ne.2 fun heq => by rw [heq] at hc; cases hc
    · exact beq_eq_false_iff_ne.2 fun heq => by rw [heq] at hc; cases hc
  intro c hc
  cases h with
  | whole digits nonempty => exact digit c (digits c (List.mem_of_mem_head? hc))
  | @pointed ds ps digits nonempty places =>
      cases ds with
      | nil => exact absurd rfl nonempty
      | cons d ds =>
          cases hc
          exact digit c (digits c List.mem_cons_self)
  | placed places nonempty =>
      cases hc
      rfl

theorem denotes_iff : Denotes s x ↔
    ∃ y, Unsigned (unsigned s) y ∧ x = if s.head? = some '-' then -y else y := by
  constructor
  · intro h
    cases h with
    | unsigned h =>
        cases s with
        | nil => exact ⟨x, h, rfl⟩
        | cons c s =>
            have plain : isSign c = false := h.not_isSign c rfl
            refine ⟨x, by rwa [unsigned, if_neg (by simp [plain])], ?_⟩
            rw [if_neg]
            rintro ⟨⟩
            cases plain
    | @plus s x h => exact ⟨x, h, rfl⟩
    | @minus s x h => exact ⟨x, h, rfl⟩
  · rintro ⟨y, h, rfl⟩
    cases s with
    | nil => exact .unsigned h
    | cons c s =>
        rw [unsigned] at h
        split at h
        · rename_i sign
          rcases Bool.or_eq_true_iff.1 sign with hc | hc
          · rw [eq_of_beq hc]
            exact .minus h
          · rw [eq_of_beq hc]
            exact .plus h
        · rename_i plain
          rw [if_neg]
          · exact .unsigned h
          · rintro ⟨⟩
            exact plain rfl

theorem Unsigned.cut (h : Unsigned s x) : ∃ ds ps, IsDigits ds ∧ IsDigits ps ∧
    (cutAt? '.' s).getD (s, []) = (ds, ps) ∧ x = number ds + fraction ps := by
  have pointless {ds : List Char} (digits : IsDigits ds) : '.' ∉ ds := digits.not_mem rfl
  cases h with
  | @whole _ digits nonempty =>
      refine ⟨s, [], digits, .nil, ?_, by rw [fraction_nil, add_zero]⟩
      rw [cutAt?_of_not_mem (pointless digits), Option.getD_none]
  | @pointed ds ps digits nonempty places =>
      refine ⟨ds, ps, digits, places, ?_, rfl⟩
      rw [cutAt?_append (pointless digits), Option.getD_some]
  | @placed ps places nonempty =>
      refine ⟨[], ps, .nil, places, rfl, ?_⟩
      simp [number, valueIn]

theorem isLiteral_iff_unsigned : isLiteral s = true ↔ ∃ x, Unsigned (unsigned s) x := by
  unfold isLiteral
  generalize unsigned s = body
  constructor
  · intro h
    split at h
    · rename_i ds ps cut
      simp only [Bool.and_eq_true, all_isDigit_iff] at h
      obtain ⟨⟨nonempty, digits⟩, places⟩ := h
      rw [(cutAt?_eq_some_iff.1 cut).1]
      cases ds with
      | nil => exact ⟨_, .placed places (by simpa using nonempty)⟩
      | cons d ds => exact ⟨_, .pointed digits (List.cons_ne_nil d ds) places⟩
    · simp only [Bool.and_eq_true, all_isDigit_iff] at h
      exact ⟨_, .whole h.2 (by simpa using h.1)⟩
  · rintro ⟨x, h⟩
    cases h with
    | whole digits nonempty =>
        rw [cutAt?_of_not_mem (digits.not_mem rfl)]
        simp [nonempty, all_isDigit_iff.2 digits]
    | pointed digits nonempty places =>
        rw [cutAt?_append (digits.not_mem rfl)]
        simp [nonempty, all_isDigit_iff.2 digits, all_isDigit_iff.2 places]
    | placed places nonempty =>
        rw [cutAt?, if_pos rfl]
        simp [nonempty, all_isDigit_iff.2 places]

theorem isLiteral_iff : isLiteral s = true ↔ ∃ x, Denotes s x := by
  rw [isLiteral_iff_unsigned]
  constructor
  · rintro ⟨y, h⟩
    exact ⟨_, denotes_iff.2 ⟨y, h, rfl⟩⟩
  · rintro ⟨x, h⟩
    obtain ⟨y, h, -⟩ := denotes_iff.1 h
    exact ⟨y, h⟩

end DecimalLiteral

namespace DecimalParts

open DecimalLiteral

def magnitude (p : DecimalParts) : ℚ :=
  number p.whole + fraction p.places

def value (p : DecimalParts) : ℚ :=
  if p.negative then -p.magnitude else p.magnitude

structure Reduced (p : DecimalParts) : Prop where
  whole : IsDigits p.whole
  places : IsDigits p.places
  first : p.whole.head? ≠ some '0'
  last : p.places.getLast? ≠ some '0'
  nonzero : p.negative = true → p.whole ≠ [] ∨ p.places ≠ []

end DecimalParts

namespace DecimalLiteral

variable {s : List Char} {x : ℚ}

theorem reduced_parts (h : Denotes s x) : (parts s).Reduced := by
  obtain ⟨y, body, -⟩ := denotes_iff.1 h
  obtain ⟨ds, ps, digits, places, cut, -⟩ := body.cut
  simp only [parts, cut]
  refine ⟨isDigits_dropZeros digits, fun c hc => ?_, head?_dropZeros ds, ?_, fun negative => ?_⟩
  · refine isDigits_dropZeros (s := ps.reverse) (fun d hd => ?_) c (List.mem_reverse.1 hc)
    exact places d (List.mem_reverse.1 hd)
  · rw [List.getLast?_reverse]
    exact head?_dropZeros ps.reverse
  · have nonempty := (Bool.and_eq_true_iff.1 negative).2
    rw [Bool.not_eq_true', Bool.and_eq_false_iff] at nonempty
    simpa using nonempty

theorem value_parts (h : Denotes s x) : (parts s).value = x := by
  obtain ⟨y, body, rfl⟩ := denotes_iff.1 h
  obtain ⟨ds, ps, -, -, cut, rfl⟩ := body.cut
  have magnitude : (parts s).magnitude = number ds + fraction ps := by
    simp only [DecimalParts.magnitude, parts, cut, number_dropZeros, fraction_dropZeros]
  have negative : (parts s).negative = (s.head? == some '-' &&
      !((parts s).whole.isEmpty && (parts s).places.isEmpty)) := by
    simp only [parts, cut]
  rw [DecimalParts.value, magnitude, negative]
  by_cases minus : s.head? = some '-'
  · cases zero : (parts s).whole.isEmpty && (parts s).places.isEmpty with
    | false => simp [minus]
    | true =>
        -- without a digit that counts the number is zero, with or without sign
        obtain ⟨hw, hp⟩ := Bool.and_eq_true_iff.1 zero
        have none : number ds + fraction ps = 0 := by
          rw [← magnitude, DecimalParts.magnitude, List.isEmpty_iff.1 hw, List.isEmpty_iff.1 hp,
            fraction_nil]
          simp [number, valueIn]
        simp [none]
  · simp [minus]

theorem Denotes.unique {y : ℚ} (hx : Denotes s x) (hy : Denotes s y) : x = y :=
  (value_parts hx).symm.trans (value_parts hy)

end DecimalLiteral

end SplitSnapshot
