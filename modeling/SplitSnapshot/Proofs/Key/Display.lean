import SplitSnapshot.Proofs.Calendar.Reading
import SplitSnapshot.Proofs.Key.Order
import SplitSnapshot.Proofs.Text.Cut

namespace SplitSnapshot

open Text Std

namespace Uuid

theorem hexDigits_eq_map (w n : Nat) : ∃ ds : List Nat, hexDigits w n = ds.map lowerHexChar ∧
    ds.length = w ∧ (∀ d ∈ ds, d < 16) ∧ valueIn 16 ds = n % 16 ^ w := by
  induction w generalizing n with
  | zero => exact ⟨[], rfl, rfl, (fun _ hm => nomatch hm), (Nat.mod_one n).symm⟩
  | succ w ih =>
      obtain ⟨ds, hds, length, small, value⟩ := ih (n / 16)
      refine ⟨ds ++ [n % 16], by simp [hexDigits, hds], by simp [length], ?_, ?_⟩
      · refine List.forall_mem_append.2 ⟨small, List.forall_mem_singleton.2 ?_⟩
        exact Nat.mod_lt n (by decide)
      · rw [valueIn_append_singleton, value, Nat.pow_succ, Nat.mul_comm (16 ^ w) 16, Nat.mod_mul]
        omega

theorem readHex?_hexDigits {w n : Nat} (h : n < 16 ^ (w + 1)) :
    readHex? (hexDigits (w + 1) n) = some n := by
  obtain ⟨ds, hds, length, small, value⟩ := hexDigits_eq_map (w + 1) n
  have read : (ds.map lowerHexChar).mapM hexDigit? = some ds :=
    mapM_map_some fun d hd => hexDigit?_lowerHexChar d (small d hd)
  have digits : (ds.map lowerHexChar).isEmpty = false := by
    cases ds with
    | nil => cases length
    | cons d ds => rfl
  rw [hds, readHex?, digits, read, Option.map_some, value, Nat.mod_eq_of_lt h]
  rfl

theorem length_hexDigits (w n : Nat) : (hexDigits w n).length = w := by
  obtain ⟨ds, hds, length, -⟩ := hexDigits_eq_map w n
  rw [hds, List.length_map, length]

theorem ungroup?_grouped {n : Nat} {ns : List Nat} {s : List Char} (h : s.length = (n :: ns).sum) :
    ungroup? (n :: ns) (grouped (n :: ns) s) = some s := by
  induction ns generalizing n s with
  | nil =>
      rw [List.sum_singleton] at h
      simp [ungroup?, grouped, h, List.take_of_length_le (Nat.le_of_eq h)]
  | cons m ns ih =>
      rw [List.sum_cons] at h
      have width : (s.take n).length = n := by
        rw [List.length_take]
        omega
      have rest := ih (n := m) (s := s.drop n) (by
        rw [List.length_drop]
        omega)
      simp only [grouped, ungroup?, List.take_left' width, List.drop_left' width, width, if_true, rest,
        Option.map_some, List.take_append_drop]

theorem length_grouped {n : Nat} {ns : List Nat} {s : List Char} (h : s.length = (n :: ns).sum) :
    (grouped (n :: ns) s).length = s.length + ns.length := by
  induction ns generalizing n s with
  | nil =>
      rw [List.sum_singleton] at h
      simp [grouped, h]
  | cons m ns ih =>
      rw [List.sum_cons] at h
      have rest := ih (n := m) (s := s.drop n) (by
        rw [List.length_drop]
        omega)
      have few : n ≤ s.length := by omega
      simp only [grouped, List.length_append, List.length_take, List.length_cons, rest,
        List.length_drop]
      omega

theorem exists_text_eq_cons (u : Uuid) : ∃ d s, d < 16 ∧ u.text = lowerHexChar d :: s := by
  obtain ⟨ds, hds, length, small, -⟩ := hexDigits_eq_map 32 u.bits.toNat
  cases ds with
  | nil => cases length
  | cons d ds =>
      have first : ∃ s, u.text = lowerHexChar d :: s := by
        rw [text, hds]
        exact ⟨_, rfl⟩
      obtain ⟨s, hs⟩ := first
      exact ⟨d, s, small d List.mem_cons_self, hs⟩

theorem read?_text (u : Uuid) : read? u.text = some u := by
  have width := length_hexDigits 32 u.bits.toNat
  have long : u.text.length = 36 := by
    rw [text, groups, length_grouped width, width]
    rfl
  have digits : ungroup? groups u.text = some (hexDigits 32 u.bits.toNat) := ungroup?_grouped width
  have number : readHex? (hexDigits 32 u.bits.toNat) = some u.bits.toNat :=
    readHex?_hexDigits u.bits.isLt
  have grouped : readGrouped? u.text = some u := by
    rw [readGrouped?, digits, Option.bind_some, ofDigits?, if_pos width, number, Option.map_some,
      BitVec.ofNat_toNat, BitVec.setWidth_eq]
  -- its first character is a digit, so the text is taken for neither of the other forms
  obtain ⟨d, s, small, first⟩ := u.exists_text_eq_cons
  have plain : ∀ d, d < 16 → lowerHexChar d ≠ '\x7b' ∧ (lowerHexChar d).toLower ≠ 'u' := by decide
  have unbraced : unbraced? u.text = none := by
    rw [first]
    unfold unbraced?
    split
    · rename_i heq
      exact absurd (List.cons.inj heq).1 (plain d small).1
    · rfl
  have unnamed : ¬ lowerAscii (u.text.take 9) = "urn:uuid:".toList := by
    intro named
    rw [first] at named
    exact (plain d small).2 (List.cons.inj named).1
  rw [read?, if_neg (by omega), unbraced, if_neg unnamed, grouped]

theorem nul_not_mem_text (u : Uuid) : '\x00' ∉ u.text := by
  have digit : '\x00' ∉ hexDigits 32 u.bits.toNat := by
    obtain ⟨ds, hds, -, small, -⟩ := hexDigits_eq_map 32 u.bits.toNat
    have plain : ∀ d, d < 16 → lowerHexChar d ≠ '\x00' := by decide
    rw [hds, List.mem_map]
    rintro ⟨d, hd, nul⟩
    exact plain d (small d hd) nul
  have grouped (ns : List Nat) {s : List Char} (h : '\x00' ∉ s) : '\x00' ∉ grouped ns s := by
    fun_induction grouped ns s with
    | case1 => exact List.not_mem_nil
    | case2 n s => exact fun hm => h (List.mem_of_mem_take hm)
    | case3 n ns s _ ih =>
        have rest := ih fun hm => h (List.mem_of_mem_drop hm)
        have first : '\x00' ∉ s.take n := fun hm => h (List.mem_of_mem_take hm)
        simp [first, rest]
  exact grouped _ digit

end Uuid

namespace DecimalLiteral

theorem mem_unsigned {c : Char} {s : List Char} (h : c ∈ s) : isSign c = true ∨ c ∈ unsigned s := by
  cases s with
  | nil => cases h
  | cons d s =>
      rw [unsigned]
      split
      · rename_i sign
        rcases List.mem_cons.1 h with rfl | h
        · exact .inl sign
        · exact .inr h
      · exact .inr h

theorem mem_of_isLiteral {c : Char} {s : List Char} (h : isLiteral s = true) (hc : c ∈ s) :
    isSign c = true ∨ c = '.' ∨ c.isDigit = true := by
  refine (mem_unsigned hc).imp_right fun hc => ?_
  unfold isLiteral at h
  split at h
  · rename_i whole places cut
    simp only [Bool.and_eq_true, List.all_eq_true] at h
    rw [(cutAt?_eq_some_iff.1 cut).1] at hc
    rcases List.mem_append.1 hc with hc | hc
    · exact .inr (h.1.2 c hc)
    · exact (List.mem_cons.1 hc).imp_right (h.2 c)
  · simp only [Bool.and_eq_true, List.all_eq_true] at h
    exact .inr (h.2 c hc)

theorem trim_of_isLiteral {s : List Char} (h : isLiteral s = true) : trim s = s := by
  refine trim_eq_self fun c hc => ?_
  rcases mem_of_isLiteral h hc with sign | rfl | digit
  · rcases Bool.or_eq_true_iff.1 sign with hs | hs <;> rw [eq_of_beq hs] <;> rfl
  · rfl
  · exact isBlank_of_isDigit digit

end DecimalLiteral

namespace KeyType

variable {t : KeyType} {v : Json} {key : Key}

theorem readInt?_display (h : t.readInt? v = some key) :
    t.readInt? (.text key.display) = some key := by
  have again {n : Int} (h : t.intKey? n = some key) : t.readInt? (.text key.display) = some key := by
    have number : key = .int n := by
      rw [intKey?] at h
      split at h
      · exact (Option.some.inj h).symm
      · cases h
    have unblanked : trim (signedDecimal n) = signedDecimal n := by
      refine trim_eq_self fun c hc => ?_
      rcases mem_signedDecimal hc with rfl | digit
      · rfl
      · exact isBlank_of_isDigit digit
    rw [number] at h ⊢
    rw [Key.display, readInt?, String.toList_ofList, unblanked, readSigned?_signedDecimal,
      Option.bind_some, h]
  cases v with
  | int n => exact again h
  | text s =>
      obtain ⟨n, -, h⟩ := Option.bind_eq_some_iff.1 h
      exact again h
  | _ => cases h

theorem isLiteral_of_readNumeric? (h : readNumeric? v = some key) :
    ∃ s, DecimalLiteral.isLiteral s = true ∧ key = .numeric (String.ofList s) := by
  have literal {s : List Char} (h : numericKey? s = some key) :
      ∃ s, DecimalLiteral.isLiteral s = true ∧ key = .numeric (String.ofList s) := by
    rw [numericKey?] at h
    split at h
    · rename_i literal
      exact ⟨s, literal, (Option.some.inj h).symm⟩
    · cases h
  cases v with
  | int _ | float _ | text _ => exact literal h
  | _ => cases h

theorem readNumeric?_display (h : readNumeric? v = some key) :
    readNumeric? (.text key.display) = some key := by
  obtain ⟨s, literal, rfl⟩ := isLiteral_of_readNumeric? h
  rw [Key.display, readNumeric?, String.toList_ofList, DecimalLiteral.trim_of_isLiteral literal,
    numericKey?, if_pos literal]

theorem readKey?_display (ht : t ≠ float64) (h : t.readKey? v = some key) :
    t.readKey? (.text key.display) = some key := by
  cases t with
  | float64 => exact absurd rfl ht
  | int16 | int32 | int64 => exact readInt?_display h
  | numeric => exact readNumeric?_display h
  | text =>
      obtain ⟨s, -, rfl⟩ := Option.map_eq_some_iff.1 h
      rfl
  | uuid =>
      obtain ⟨u, -, rfl⟩ := Option.map_eq_some_iff.1 h
      simp [readKey?, Key.display, Json.text?, Uuid.read?_text]
  | date =>
      obtain ⟨d, hd, rfl⟩ := Option.map_eq_some_iff.1 h
      obtain ⟨s, -, hd⟩ := Option.bind_eq_some_iff.1 hd
      simp [readKey?, Key.display, Json.text?, Date.read?_text (Date.isValid_of_read? hd)]
  | timestamp =>
      obtain ⟨d, hd, rfl⟩ := Option.map_eq_some_iff.1 h
      obtain ⟨s, -, hd⟩ := Option.bind_eq_some_iff.1 hd
      obtain ⟨date, clock⟩ := Timestamp.isValid_of_read? hd
      simp [readKey?, Key.display, Json.text?, Timestamp.read?_text date clock]
  | timestampTz =>
      obtain ⟨d, hd, rfl⟩ := Option.map_eq_some_iff.1 h
      obtain ⟨s, -, hd⟩ := Option.bind_eq_some_iff.1 hd
      have writable := ZonedTimestamp.writable_of_read? hd
      simp [readKey?, Key.display, Json.text?, ZonedTimestamp.read?_text writable]
  | bool | json | bytes => cases h

theorem compare?_self (ht : t ≠ float64) (h : t.admits key = true) : key.compare? key = some .eq := by
  obtain ⟨measure⟩ := exists_measure ht
  obtain ⟨x, rfl⟩ := measure.onto h
  exact (measure.compare?_key x x).trans (congrArg some ReflCmp.compare_self)

/-- A bound survives being printed: its type reads the text that a query has of it as the key that it
was, and a key is where it is in the order. -/
theorem readKey_printed (ht : t ≠ float64) (h : t.readKey v = .ok key) :
    t.readKey (.text key.display) = .ok key ∧ key.compare? key = some .eq := by
  refine ⟨?_, compare?_self ht (admits_of_readKey h)⟩
  rw [readKey_eq_ok_iff] at h ⊢
  exact readKey?_display ht h

theorem readKey_printed_written :
    (∃ key, timestampTz.readKey (.text "2016-12-31 23:59:60.5-05:30") = .ok key ∧
      key.display = "2016-12-31T23:59:60.500-05:30" ∧
      timestampTz.readKey (.text key.display) = .ok key ∧ key.compare? key = some .eq) ∧
    (∃ key, date.readKey (.text "+12345-01-02") = .ok key ∧ key.display = "+12345-01-02" ∧
      date.readKey (.text key.display) = .ok key ∧ key.compare? key = some .eq) ∧
    ∃ key, numeric.readKey (.text " +007.50 ") = .ok key ∧ key.display = "+007.50" ∧
      numeric.readKey (.text key.display) = .ok key ∧ key.compare? key = some .eq := by
  have leap : timestampTz.readKey (.text "2016-12-31 23:59:60.5-05:30") =
      .ok (.timestampTz ⟨⟨⟨2016, 12, 31⟩, ⟨23, 59, 60, 500000000⟩⟩, -330⟩) :=
    (readKey_eq_ok_iff _ _ _).2 (by decide)
  have far : date.readKey (.text "+12345-01-02") = .ok (.date ⟨12345, 1, 2⟩) :=
    (readKey_eq_ok_iff _ _ _).2 (by decide)
  have blanks : numeric.readKey (.text " +007.50 ") = .ok (.numeric "+007.50") :=
    (readKey_eq_ok_iff _ _ _).2 (by decide)
  exact ⟨⟨_, leap, by decide +kernel, readKey_printed (by decide) leap⟩,
    ⟨_, far, by decide +kernel, readKey_printed (by decide) far⟩,
    ⟨_, blanks, by decide, readKey_printed (by decide) blanks⟩⟩

theorem nul_not_mem_display (ht : t ≠ float64) (h : t.readKey? v = some key)
    (hv : ∀ s, v = .text s → '\x00' ∉ s.toList) : '\x00' ∉ key.display.toList := by
  have int {n : Int} : '\x00' ∉ signedDecimal n := by
    intro nul
    rcases mem_signedDecimal nul with h | h <;> cases h
  have admitted := admits_of_readKey ((readKey_eq_ok_iff t v key).2 h)
  cases key with
  | float x => cases t <;> first | exact absurd rfl ht | cases admitted
  | int n => simpa [Key.display] using int
  | numeric digits =>
      cases t <;> cases admitted
      obtain ⟨s, literal, heq⟩ := isLiteral_of_readNumeric? h
      cases heq
      rw [Key.display, String.toList_ofList]
      intro nul
      rcases DecimalLiteral.mem_of_isLiteral literal nul with h | h | h <;> cases h
  | text s =>
      cases t <;> cases admitted
      obtain ⟨text, hv', heq⟩ := Option.map_eq_some_iff.1 h
      cases heq
      cases v with
      | text s =>
          cases hv'
          exact hv s rfl
      | _ => cases hv'
  | uuid u => simpa [Key.display] using Uuid.nul_not_mem_text u
  | date d => simpa [Key.display] using Date.nul_not_mem_text d
  | timestamp t => simp [Key.display, Timestamp.text, Date.nul_not_mem_text, Clock.nul_not_mem_text]
  | timestampTz t =>
      simp [Key.display, ZonedTimestamp.text, Date.nul_not_mem_text, Clock.nul_not_mem_text,
        ZonedTimestamp.nul_not_mem_offsetText]

end KeyType

end SplitSnapshot
