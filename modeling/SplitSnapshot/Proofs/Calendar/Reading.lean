import SplitSnapshot.Calendar.Timestamp
import SplitSnapshot.Proofs.Text.Numeral

namespace SplitSnapshot

open Text

variable {w n : Nat} {rest s : List Char}

namespace Date

variable {d : Date}

theorem takeNumber?_decimalWide (h : n < 10 ^ (w + 1)) (rest : List Char) :
    takeNumber? (w + 1) (decimalWide (w + 1) n ++ rest) = some (n, rest) := by
  have width := length_decimalWide h
  have all : (decimalWide (w + 1) n).takeWhile Char.isDigit = decimalWide (w + 1) n := by
    simpa using (takeWhile_isDigit_append (s := decimalWide (w + 1) n) (r := [])
      (fun _ => isDigit_of_mem_decimalWide) (by simp)).1
  rw [takeNumber?, trimStart_decimalWide]
  simp only [List.take_left' width, all, readDecimal?_decimalWide, Option.map_some, width,
    List.drop_left' width]

theorem takeYear?_cons {c : Char} (h : c.isDigit = true) : takeYear? (c :: s) =
    (takeNumber? 4 (c :: s)).map fun (n, rest) => ((n : Int), rest) := by
  rw [takeYear?, trimStart_cons (isBlank_of_isDigit h)]
  split
  · rename_i heq
    cases heq
    cases h
  · rename_i heq
    cases heq
    cases h
  · rfl

theorem takeYear?_yearText (year : Int) (rest : List Char) :
    takeYear? (yearText year ++ '-' :: rest) = some (year, '-' :: rest) := by
  obtain ⟨run, after⟩ := takeWhile_isDigit_append (s := decimalWide 4 year.natAbs) (r := '-' :: rest)
    (fun _ => isDigit_of_mem_decimalWide) (by simp)
  by_cases short : 0 ≤ year ∧ year ≤ 9999
  · have number := takeNumber?_decimalWide (w := 3) (n := year.natAbs) (by omega) ('-' :: rest)
    have whole : (year.natAbs : Int) = year := by omega
    rw [yearText, if_pos short]
    obtain ⟨c, ds, hd, digit⟩ := exists_decimalWide_eq_cons 4 year.natAbs
    rw [hd] at number ⊢
    rw [List.cons_append, takeYear?_cons digit, ← List.cons_append, number]
    exact congrArg (fun y => some (y, '-' :: rest)) whole
  · rw [yearText, if_neg short]
    by_cases negative : year < 0
    · have whole : -(year.natAbs : Int) = year := by omega
      rw [if_pos negative, List.cons_append, takeYear?, trimStart_cons rfl]
      simp only [run, after, readDecimal?_decimalWide]
      exact congrArg (fun y => some (y, '-' :: rest)) whole
    · have whole : (year.natAbs : Int) = year := by omega
      rw [if_neg negative, List.cons_append, takeYear?, trimStart_cons rfl]
      simp only [run, after, readDecimal?_decimalWide]
      exact congrArg (fun y => some (y, '-' :: rest)) whole

theorem ofParts?_eq_some_iff {year : Int} {month day : Nat} :
    ofParts? year month day = some d ↔ d = ⟨year, month, day⟩ ∧ d.isValid = true := by
  rw [ofParts?, Option.ite_none_right_eq_some, Option.some.injEq]
  constructor
  · rintro ⟨valid, rfl⟩
    exact ⟨rfl, valid⟩
  · rintro ⟨rfl, valid⟩
    exact ⟨valid, rfl⟩

theorem bounds_of_isValid (h : d.isValid = true) : d.month < 10 ^ 2 ∧ d.day < 10 ^ 2 := by
  have month : monthLength d.year d.month ≤ 31 := by
    unfold monthLength
    split
    · split <;> decide
    · split <;> decide
  simp only [isValid, Bool.and_eq_true, decide_eq_true_eq] at h
  omega

theorem take?_text (h : d.isValid = true) (rest : List Char) :
    take? (d.text ++ rest) = some (d, rest) := by
  obtain ⟨month, day⟩ := bounds_of_isValid h
  have parts : ofParts? d.year d.month d.day = some d := ofParts?_eq_some_iff.2 ⟨rfl, h⟩
  rw [text, List.append_assoc, List.append_assoc, List.cons_append, List.cons_append, take?,
    takeYear?_yearText]
  simp [dropStart?, takeNumber?_decimalWide month, takeNumber?_decimalWide day, parts]

theorem isValid_of_take? (h : take? s = some (d, rest)) : d.isValid = true := by
  obtain ⟨⟨year, s₁⟩, -, h⟩ := Option.bind_eq_some_iff.1 h
  obtain ⟨s₂, -, h⟩ := Option.bind_eq_some_iff.1 h
  obtain ⟨⟨month, s₃⟩, -, h⟩ := Option.bind_eq_some_iff.1 h
  obtain ⟨s₄, -, h⟩ := Option.bind_eq_some_iff.1 h
  obtain ⟨⟨day, s₅⟩, -, h⟩ := Option.bind_eq_some_iff.1 h
  obtain ⟨date, parts, h⟩ := Option.bind_eq_some_iff.1 h
  cases h
  exact (ofParts?_eq_some_iff.1 parts).2

theorem read?_text (h : d.isValid = true) : read? d.text = some d := by
  have read := take?_text h []
  rw [List.append_nil] at read
  rw [read?, read]

theorem isValid_of_read? (h : read? s = some d) : d.isValid = true := by
  rw [read?] at h
  split at h
  · rename_i read
    cases h
    exact isValid_of_take? read
  · cases h

theorem nul_not_mem_text (d : Date) : '\x00' ∉ d.text := by
  have year : '\x00' ∉ yearText d.year := by
    unfold yearText
    split
    · exact nul_not_mem_decimalWide 4 _
    · split <;> simp [nul_not_mem_decimalWide]
  simp [text, year, nul_not_mem_decimalWide]

end Date

namespace Clock

variable {t : Clock}

def EndsBefore (rest : List Char) : Prop :=
  ∀ c ∈ rest.head?, c ≠ '.' ∧ c.isDigit = false

theorem takeFraction?_places (hw : w + 1 ≤ 9) (hn : n < 10 ^ (w + 1)) (hr : EndsBefore rest) :
    takeFraction? ('.' :: decimalWide (w + 1) n ++ rest) = some (n * pow10 (8 - w), rest) := by
  have width := length_decimalWide hn
  have digits : ∀ c ∈ decimalWide (w + 1) n, c.isDigit = true := fun _ => isDigit_of_mem_decimalWide
  have after := (takeWhile_isDigit_append digits fun c hc => (hr c hc).2).2
  have run : ((decimalWide (w + 1) n ++ rest).take 9).takeWhile Char.isDigit =
      decimalWide (w + 1) n := by
    rw [List.take_append, List.take_of_length_le (by omega)]
    refine (takeWhile_isDigit_append digits fun c hc => (hr c ?_).2).1
    rw [List.head?_take] at hc
    split at hc
    · cases hc
    · exact hc
  rw [List.cons_append, takeFraction?]
  simp [run, after, readDecimal?_decimalWide, width]

theorem takeFraction?_fractionText (hn : n < 1000000000) (hr : EndsBefore rest) :
    takeFraction? (fractionText n ++ rest) = some (n, rest) := by
  unfold fractionText
  split
  · rename_i zero
    rw [List.nil_append, eq_of_beq zero]
    unfold takeFraction?
    split
    · exact absurd rfl (hr '.' rfl).1
    · rfl
  · split
    · rename_i exact_
      have whole : n / 1000000 * pow10 6 = n := by
        have power : pow10 6 = 1000000 := rfl
        have := eq_of_beq exact_
        rw [power]
        omega
      rw [takeFraction?_places (by decide) (by omega) hr, whole]
    · split
      · rename_i exact_
        have whole : n / 1000 * pow10 3 = n := by
          have power : pow10 3 = 1000 := rfl
          have := eq_of_beq exact_
          rw [power]
          omega
        rw [takeFraction?_places (by decide) (by omega) hr, whole]
      · rw [takeFraction?_places (by decide) (by omega) hr]
        simp

theorem ofParts?_eq_some_iff {hour minute second nano : Nat} :
    ofParts? hour minute second nano = some t ↔
      t = ⟨hour, minute, second, nano⟩ ∧ t.isValid = true := by
  rw [ofParts?, Option.ite_none_right_eq_some, Option.some.injEq]
  constructor
  · rintro ⟨valid, rfl⟩
    exact ⟨rfl, valid⟩
  · rintro ⟨rfl, valid⟩
    exact ⟨valid, rfl⟩

theorem bounds_of_isValid (h : t.isValid = true) :
    t.hour < 10 ^ 2 ∧ t.minute < 10 ^ 2 ∧ t.second < 10 ^ 2 ∧ t.nano < 1000000000 := by
  simp only [isValid, Bool.and_eq_true, decide_eq_true_eq] at h
  omega

theorem take?_text (h : t.isValid = true) (hr : EndsBefore rest) :
    take? (t.text ++ rest) = some (t, rest) := by
  obtain ⟨hour, minute, second, nano⟩ := bounds_of_isValid h
  have parts : ofParts? t.hour t.minute t.second t.nano = some t := ofParts?_eq_some_iff.2 ⟨rfl, h⟩
  simp only [text, List.append_assoc, List.cons_append, take?, Option.bind_eq_bind,
    Date.takeNumber?_decimalWide hour, Date.takeNumber?_decimalWide minute,
    Date.takeNumber?_decimalWide second, dropStart?, takeFraction?_fractionText nano hr, parts,
    Option.bind_some, if_true]
  rfl

theorem isValid_of_take? (h : take? s = some (t, rest)) : t.isValid = true := by
  obtain ⟨⟨hour, s₁⟩, -, h⟩ := Option.bind_eq_some_iff.1 h
  obtain ⟨s₂, -, h⟩ := Option.bind_eq_some_iff.1 h
  obtain ⟨⟨minute, s₃⟩, -, h⟩ := Option.bind_eq_some_iff.1 h
  obtain ⟨s₄, -, h⟩ := Option.bind_eq_some_iff.1 h
  obtain ⟨⟨second, s₅⟩, -, h⟩ := Option.bind_eq_some_iff.1 h
  obtain ⟨⟨nano, s₆⟩, -, h⟩ := Option.bind_eq_some_iff.1 h
  obtain ⟨clock, parts, h⟩ := Option.bind_eq_some_iff.1 h
  cases h
  exact (ofParts?_eq_some_iff.1 parts).2

theorem read?_text (h : t.isValid = true) : read? t.text = some t := by
  have ends : EndsBefore [] := fun c hc => nomatch hc
  have read := take?_text h ends
  rw [List.append_nil] at read
  rw [read?, read]

theorem isValid_of_read? (h : read? s = some t) : t.isValid = true := by
  rw [read?] at h
  split at h
  · rename_i read
    cases h
    exact isValid_of_take? read
  · cases h

theorem nul_not_mem_text (t : Clock) : '\x00' ∉ t.text := by
  have fraction : '\x00' ∉ fractionText t.nano := by
    unfold fractionText
    split
    · simp
    · split
      · simp [nul_not_mem_decimalWide]
      · split <;> simp [nul_not_mem_decimalWide]
  simp [text, fraction, nul_not_mem_decimalWide]

end Clock

namespace Timestamp

variable {t : Timestamp}

theorem read?_text (hd : t.date.isValid = true) (hc : t.clock.isValid = true) :
    read? t.text = some t := by
  have clock : Clock.read? (trimStart (' ' :: t.clock.text)) = some t.clock := by
    have trimmed : trimStart (' ' :: t.clock.text) = trimStart t.clock.text := rfl
    have kept : trimStart t.clock.text = t.clock.text := by
      rw [Clock.text, List.append_assoc, List.append_assoc, trimStart_decimalWide]
    rw [trimmed, kept, Clock.read?_text hc]
  rw [read?, text, Date.take?_text hd]
  simp [clock]

theorem isValid_of_read? (h : read? s = some t) :
    t.date.isValid = true ∧ t.clock.isValid = true := by
  obtain ⟨⟨date, s₁⟩, hd, h⟩ := Option.bind_eq_some_iff.1 h
  simp only at h
  split at h
  · rename_i clock
    cases h
    exact ⟨Date.isValid_of_take? hd, Clock.isValid_of_read? clock⟩
  · obtain ⟨clock, hc, rfl⟩ := Option.map_eq_some_iff.1 h
    exact ⟨Date.isValid_of_take? hd, Clock.isValid_of_read? hc⟩
  · cases h

end Timestamp

namespace ZonedTimestamp

variable {t : ZonedTimestamp} {offset : Int}

structure Writable (t : ZonedTimestamp) : Prop where
  date : t.wall.date.isValid = true
  year : 0 ≤ t.wall.date.year ∧ t.wall.date.year ≤ 9999
  clock : t.wall.clock.isValid = true
  offset : t.offset.natAbs ≤ 1439

theorem takeExact?_decimalWide (h : n < 10 ^ (w + 1)) (rest : List Char) :
    takeExact? (w + 1) (decimalWide (w + 1) n ++ rest) = some (n, rest) := by
  have width := length_decimalWide h
  have digits : (decimalWide (w + 1) n).all Char.isDigit = true :=
    List.all_eq_true.2 fun _ => isDigit_of_mem_decimalWide
  rw [takeExact?, List.take_left' width, List.drop_left' width]
  simp [width, digits, readDecimal?_decimalWide]

theorem takeOffset?_offsetText (h : offset.natAbs ≤ 1439) :
    takeOffset? (offsetText offset) = some (offset, []) := by
  have size : takeOffsetSize? (decimalWide 2 (offset.natAbs / 60) ++
      ':' :: decimalWide 2 (offset.natAbs % 60)) = some ((offset.natAbs : Int), []) := by
    have hours := takeExact?_decimalWide (w := 1) (n := offset.natAbs / 60) (by omega)
      (':' :: decimalWide 2 (offset.natAbs % 60))
    have minutes := takeExact?_decimalWide (w := 1) (n := offset.natAbs % 60) (by omega) []
    rw [List.append_nil] at minutes
    simp only [takeOffsetSize?, hours, minutes, Option.bind_eq_bind, Option.bind_some, dropStart?,
      if_true]
    rw [if_pos (by omega)]
    simp only [Option.pure_def, Option.some.injEq, Prod.mk.injEq, and_true]
    omega
  have minus (s : List Char) :
      takeOffset? ('-' :: s) = (takeOffsetSize? s).map fun p => (-p.1, p.2) := rfl
  have plus (s : List Char) : takeOffset? ('+' :: s) = takeOffsetSize? s := rfl
  by_cases negative : offset < 0
  · have whole : -(offset.natAbs : Int) = offset := by omega
    rw [offsetText, if_pos negative, List.cons_append, minus, size]
    exact congrArg (fun n => some (n, [])) whole
  · have whole : (offset.natAbs : Int) = offset := by omega
    rw [offsetText, if_neg negative, List.cons_append, plus, size, whole]

theorem endsBefore_offsetText (offset : Int) : Clock.EndsBefore (offsetText offset) := by
  intro c hc
  rw [offsetText, List.cons_append, List.head?_cons, Option.mem_some_iff] at hc
  subst hc
  split <;> decide

theorem read?_text (h : t.Writable) : read? t.text = some t := by
  obtain ⟨month, day⟩ := Date.bounds_of_isValid h.date
  obtain ⟨hour, minute, second, nano⟩ := Clock.bounds_of_isValid h.clock
  have year : t.wall.date.year.natAbs < 10 ^ (3 + 1) := by
    have := h.year
    omega
  have date : Date.ofParts? t.wall.date.year.natAbs t.wall.date.month t.wall.date.day =
      some t.wall.date := by
    rw [Int.natAbs_of_nonneg h.year.1]
    exact Date.ofParts?_eq_some_iff.2 ⟨rfl, h.date⟩
  have clock : Clock.ofParts? t.wall.clock.hour t.wall.clock.minute t.wall.clock.second
      t.wall.clock.nano = some t.wall.clock := Clock.ofParts?_eq_some_iff.2 ⟨rfl, h.clock⟩
  have mark (c : Char) (s : List Char) : dropStart? [c] (c :: s) = some s := by
    rw [dropStart?, if_pos rfl, dropStart?]
  rw [text, Date.text, Clock.text, Date.yearText, if_pos h.year]
  simp only [List.append_assoc, List.cons_append]
  -- one step for every part that the reader takes
  refine Option.bind_eq_some_iff.2 ⟨_, takeExact?_decimalWide year _, ?_⟩
  refine Option.bind_eq_some_iff.2 ⟨_, mark '-' _, ?_⟩
  refine Option.bind_eq_some_iff.2 ⟨_, takeExact?_decimalWide month _, ?_⟩
  refine Option.bind_eq_some_iff.2 ⟨_, mark '-' _, ?_⟩
  refine Option.bind_eq_some_iff.2 ⟨_, takeExact?_decimalWide day _, ?_⟩
  refine Option.bind_eq_some_iff.2 ⟨_, date, ?_⟩
  refine Option.bind_eq_some_iff.2 ⟨'T', rfl, ?_⟩
  rw [if_pos (show isSeparator 'T' = true from rfl)]
  refine Option.bind_eq_some_iff.2 ⟨_, takeExact?_decimalWide hour _, ?_⟩
  refine Option.bind_eq_some_iff.2 ⟨_, mark ':' _, ?_⟩
  refine Option.bind_eq_some_iff.2 ⟨_, takeExact?_decimalWide minute _, ?_⟩
  refine Option.bind_eq_some_iff.2 ⟨_, mark ':' _, ?_⟩
  refine Option.bind_eq_some_iff.2 ⟨_, takeExact?_decimalWide second _, ?_⟩
  refine Option.bind_eq_some_iff.2
    ⟨_, Clock.takeFraction?_fractionText nano (endsBefore_offsetText t.offset), ?_⟩
  refine Option.bind_eq_some_iff.2 ⟨_, clock, ?_⟩
  refine Option.bind_eq_some_iff.2 ⟨_, takeOffset?_offsetText h.offset, ?_⟩
  rfl

theorem natAbs_le_of_takeOffset? (h : takeOffset? s = some (offset, rest)) :
    offset.natAbs ≤ 1439 := by
  have size {s : List Char} {n : Int} {rest : List Char}
      (h : takeOffsetSize? s = some (n, rest)) : n.natAbs ≤ 1439 := by
    obtain ⟨⟨hours, s₁⟩, -, h⟩ := Option.bind_eq_some_iff.1 h
    obtain ⟨s₂, -, h⟩ := Option.bind_eq_some_iff.1 h
    obtain ⟨⟨minutes, s₃⟩, -, h⟩ := Option.bind_eq_some_iff.1 h
    simp only at h
    split at h
    · cases h
      omega
    · cases h
  cases s with
  | nil => cases h
  | cons c s =>
      rw [takeOffset?] at h
      split at h
      · cases h
        decide
      · split at h
        · exact size h
        · split at h
          · obtain ⟨⟨n, r⟩, hn, h⟩ := Option.map_eq_some_iff.1 h
            cases h
            rw [Int.natAbs_neg]
            exact size hn
          · cases h

theorem lt_of_takeExact? (h : takeExact? w s = some (n, rest)) : n < 10 ^ w := by
  simp only [takeExact?] at h
  split at h
  · rename_i exact_
    obtain ⟨m, hm, h⟩ := Option.map_eq_some_iff.1 h
    cases h
    have bound := lt_of_readDecimal? hm
    rwa [exact_.1] at bound
  · cases h

theorem writable_of_read? (h : read? s = some t) : t.Writable := by
  obtain ⟨⟨year, s₁⟩, hyear, h⟩ := Option.bind_eq_some_iff.1 h
  obtain ⟨s₂, -, h⟩ := Option.bind_eq_some_iff.1 h
  obtain ⟨⟨month, s₃⟩, -, h⟩ := Option.bind_eq_some_iff.1 h
  obtain ⟨s₄, -, h⟩ := Option.bind_eq_some_iff.1 h
  obtain ⟨⟨day, s₅⟩, -, h⟩ := Option.bind_eq_some_iff.1 h
  obtain ⟨date, hdate, h⟩ := Option.bind_eq_some_iff.1 h
  obtain ⟨c, -, h⟩ := Option.bind_eq_some_iff.1 h
  split at h
  · obtain ⟨⟨hour, s₆⟩, -, h⟩ := Option.bind_eq_some_iff.1 h
    obtain ⟨s₇, -, h⟩ := Option.bind_eq_some_iff.1 h
    obtain ⟨⟨minute, s₈⟩, -, h⟩ := Option.bind_eq_some_iff.1 h
    obtain ⟨s₉, -, h⟩ := Option.bind_eq_some_iff.1 h
    obtain ⟨⟨second, s₁₀⟩, -, h⟩ := Option.bind_eq_some_iff.1 h
    obtain ⟨⟨nano, s₁₁⟩, -, h⟩ := Option.bind_eq_some_iff.1 h
    obtain ⟨clock, hclock, h⟩ := Option.bind_eq_some_iff.1 h
    obtain ⟨⟨offset, s₁₂⟩, hoffset, h⟩ := Option.bind_eq_some_iff.1 h
    simp only at h
    split at h
    · cases h
      obtain ⟨rfl, valid⟩ := Date.ofParts?_eq_some_iff.1 hdate
      have four : year ≤ 9999 := Nat.le_of_lt_succ (lt_of_takeExact? hyear)
      exact ⟨valid, ⟨Int.natCast_nonneg year, Int.ofNat_le.2 four⟩, (Clock.ofParts?_eq_some_iff.1 hclock).2,
        natAbs_le_of_takeOffset? hoffset⟩
    · cases h
  · cases h

theorem nul_not_mem_offsetText (offset : Int) : '\x00' ∉ offsetText offset := by
  unfold offsetText
  split <;> simp [nul_not_mem_decimalWide]

end ZonedTimestamp

end SplitSnapshot
