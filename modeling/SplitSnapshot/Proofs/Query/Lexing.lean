import SplitSnapshot.Query.Token

namespace SplitSnapshot

/-- What has been read of the token at hand. A quote behind a quoted text ends it, unless another one
follows. -/
inductive Lexing where
  | between
  | word (s : List Char)
  | operator (s : List Char)
  | colon
  | complete (t : SqlToken)
  | quoted (quote : Char) (s : List Char)
  | unquoted (quote : Char) (s : List Char)
  deriving DecidableEq, Repr

namespace Lexing

def isSpace (c : Char) : Bool :=
  [' ', '\t', '\n', '\r'].contains c

def isQuote (c : Char) : Bool :=
  c = '\x22' || c = '\x27'

def isWordStart (c : Char) : Bool :=
  c.isAlpha || c = '_'

def isWordChar (c : Char) : Bool :=
  c.isAlphanum || c = '_'

def isOperatorChar (c : Char) : Bool :=
  "+-*/<>=~!@#%^&|?".toList.contains c

def operator? : List Char → Option SqlToken
  | ['*'] => some .star
  | ['>', '='] => some .atLeast
  | ['<', '='] => some .atMost
  | ['<'] => some .below
  | _ => none

def within? : Lexing → Char → Option Lexing
  | word s, c => if isWordChar c then some (word (s ++ [c])) else none
  | operator s, c => if isOperatorChar c then some (operator (s ++ [c])) else none
  | colon, c => if c = ':' then some (complete .cast) else none
  | quoted q s, c => some (if c = q then unquoted q s else quoted q (s ++ [c]))
  | unquoted q s, c => if c = q then some (quoted q (s ++ [c])) else none
  | _, _ => none

def ended? : Lexing → Option (List SqlToken)
  | between => some []
  | word s => some [.word (String.ofList s)]
  | operator s => (operator? s).map ([·])
  | complete t => some [t]
  | unquoted q s => some [if q = '\x22' then .name (String.ofList s) else .literal (String.ofList s)]
  | colon | quoted _ _ => none

def begin? (before : Lexing) (c : Char) : Option Lexing :=
  if isSpace c then some between
  else if isQuote c then
    match before with
    | word _ => none
    | _ => some (quoted c [])
  else if isWordStart c then some (word [c])
  else if isOperatorChar c then some (operator [c])
  else if c = ',' then some (complete .comma)
  else if c = '.' then some (complete .point)
  else if c = ':' then some colon
  else none

def tokens? : Lexing → List Char → Option (List SqlToken)
  | st, [] => st.ended?
  | st, c :: s =>
      match st.within? c with
      | some st => tokens? st s
      | none => do
          let token ← st.ended?
          let st ← st.begin? c
          let rest ← tokens? st s
          pure (token ++ rest)

end Lexing

namespace SqlToken

def lex (s : List Char) : Option (List SqlToken) :=
  Lexing.between.tokens? s

def isWord (s : String) : Bool :=
  match s.toList with
  | [] => false
  | c :: s => Lexing.isWordStart c && s.all Lexing.isWordChar

def isWellFormed : SqlToken → Bool
  | word s => isWord s
  | _ => true

def lexed : SqlToken → Lexing
  | word s => .word s.toList
  | name s => .unquoted '\x22' s.toList
  | literal s => .unquoted '\x27' s.toList
  | star => .operator ['*']
  | atLeast => .operator ['>', '=']
  | atMost => .operator ['<', '=']
  | below => .operator ['<']
  | comma => .complete .comma
  | point => .complete .point
  | cast => .complete .cast

def quoted? : SqlToken → Option String
  | name s | literal s => some s
  | _ => none

def EndsBefore (t : SqlToken) (rest : List Char) : Prop :=
  ∀ c ∈ rest.head?, t.lexed.within? c = none ∧ t.lexed.begin? c = Lexing.between.begin? c

section

variable {t u : SqlToken} {ts : List SqlToken} {c q : Char} {s w rest : List Char}

theorem tokens?_begin {st : Lexing} (h : Lexing.between.begin? c = some st) :
    Lexing.between.tokens? (c :: s) = st.tokens? s := by
  simp [Lexing.tokens?, Lexing.within?, Lexing.ended?, h]

theorem tokens?_word (hw : w.all Lexing.isWordChar = true) :
    (Lexing.word s).tokens? (w ++ rest) = (Lexing.word (s ++ w)).tokens? rest := by
  induction w generalizing s with
  | nil => rw [List.nil_append, List.append_nil]
  | cons c w ih =>
      obtain ⟨hc, hw⟩ := Bool.and_eq_true_iff.1 hw
      rw [List.cons_append, Lexing.tokens?, Lexing.within?, if_pos hc]
      have step := ih (s := s ++ [c]) hw
      rwa [List.append_assoc] at step

theorem tokens?_quoted : (Lexing.quoted q s).tokens? (Quoting.doubled q w ++ q :: rest) =
    (Lexing.unquoted q (s ++ w)).tokens? rest := by
  induction w generalizing s with
  | nil => simp [Quoting.doubled, Lexing.tokens?, Lexing.within?]
  | cons c w ih =>
      have step := ih (s := s ++ [c])
      rw [List.append_assoc, List.singleton_append] at step
      rw [← step]
      -- a quote in the text is left at the first of its two and entered again at the second
      by_cases hc : c = q
      · simp [Quoting.doubled, hc, Lexing.tokens?, Lexing.within?]
      · simp [Quoting.doubled, hc, Lexing.tokens?, Lexing.within?]

theorem tokens?_enclosed (hq : Lexing.isQuote q = true) :
    Lexing.between.tokens? (Quoting.enclosed q s ++ rest) = (Lexing.unquoted q s).tokens? rest := by
  have begins : Lexing.between.begin? q = some (.quoted q []) := by
    rcases Bool.or_eq_true_iff.1 hq with h | h <;> rw [of_decide_eq_true h] <;> rfl
  rw [Quoting.enclosed, List.cons_append, List.cons_append, tokens?_begin begins, List.append_assoc,
    List.singleton_append, tokens?_quoted, List.nil_append]

theorem begin?_wordStart (hc : Lexing.isWordStart c = true) :
    Lexing.between.begin? c = some (.word [c]) := by
  have unspaced : Lexing.isSpace c = false := by
    rw [Bool.eq_false_iff]
    intro hs
    simp only [Lexing.isSpace, List.contains_iff_mem, List.mem_cons, List.not_mem_nil, or_false] at hs
    rcases hs with rfl | rfl | rfl | rfl <;> cases hc
  have unquoted : Lexing.isQuote c = false := by
    rw [Bool.eq_false_iff]
    intro hq
    rcases Bool.or_eq_true_iff.1 hq with h | h <;> rw [of_decide_eq_true h] at hc <;> cases hc
  simp [Lexing.begin?, unspaced, unquoted, hc]

theorem tokens?_chars (ht : t.isWellFormed = true) :
    Lexing.between.tokens? (t.chars ++ rest) = t.lexed.tokens? rest := by
  cases t with
  | word s =>
      rw [isWellFormed, isWord] at ht
      rw [chars, lexed]
      cases hs : s.toList with
      | nil =>
          rw [hs] at ht
          cases ht
      | cons c w =>
          rw [hs] at ht
          obtain ⟨hc, hw⟩ := Bool.and_eq_true_iff.1 ht
          rw [List.cons_append, tokens?_begin (begin?_wordStart hc), tokens?_word hw]
          rfl
  | name s =>
      rw [chars, Quoting.identifier, String.toList_ofList, tokens?_enclosed rfl]
      rfl
  | literal s =>
      rw [chars, Quoting.literal, String.toList_ofList, tokens?_enclosed rfl]
      rfl
  | comma | point | star | below => exact tokens?_begin rfl
  | cast =>
      have first : Lexing.between.tokens? (':' :: ':' :: rest) = Lexing.colon.tokens? (':' :: rest) :=
        tokens?_begin rfl
      exact first
  | atLeast =>
      have first : Lexing.between.tokens? ('>' :: '=' :: rest) =
          (Lexing.operator ['>']).tokens? ('=' :: rest) := tokens?_begin rfl
      exact first
  | atMost =>
      have first : Lexing.between.tokens? ('<' :: '=' :: rest) =
          (Lexing.operator ['<']).tokens? ('=' :: rest) := tokens?_begin rfl
      exact first

theorem ended?_lexed (t : SqlToken) : t.lexed.ended? = some [t] := by
  cases t with
  | word s | name s | literal s => simp [lexed, Lexing.ended?]
  | _ => rfl

theorem tokens?_lexed (h : t.EndsBefore rest) : t.lexed.tokens? rest = (lex rest).map (t :: ·) := by
  cases rest with
  | nil => exact ended?_lexed t
  | cons c rest =>
      obtain ⟨ends, begins⟩ := h c rfl
      have inBetween : Lexing.between.within? c = none := rfl
      have nothing : Lexing.between.ended? = some [] := rfl
      simp only [lex, Lexing.tokens?, ends, inBetween, nothing, ended?_lexed, begins,
        Option.bind_eq_bind, Option.bind_some, List.nil_append]
      cases hb : Lexing.between.begin? c with
      | none => rfl
      | some st => cases h : st.tokens? rest <;> simp [h]

theorem lex_chars_append (ht : t.isWellFormed = true) (h : t.EndsBefore rest) :
    lex (t.chars ++ rest) = (lex rest).map (t :: ·) := by
  rw [lex, tokens?_chars ht, tokens?_lexed h]

theorem lex_space : lex (' ' :: rest) = lex rest :=
  tokens?_begin rfl

theorem endsBefore_space (t : SqlToken) : t.EndsBefore (' ' :: rest) := by
  rintro c hc
  cases hc
  cases t <;> exact ⟨rfl, rfl⟩

theorem endsBefore_of_closeBefore (t : SqlToken) (h : u.closeBefore = true) :
    t.EndsBefore (u.chars ++ rest) := by
  rintro c hc
  cases u <;> cases h <;> cases hc <;> cases t <;> exact ⟨rfl, rfl⟩

theorem endsBefore_of_closeAfter (h : t.closeAfter = true) : t.EndsBefore rest := by
  rintro c -
  cases t <;> cases h <;> exact ⟨rfl, rfl⟩

theorem lex_gap_append (ht : t.isWellFormed = true) :
    lex (t.chars ++ gap t u ++ (u.chars ++ rest)) = (lex (u.chars ++ rest)).map (t :: ·) := by
  rw [gap, List.append_assoc]
  split
  · rename_i close
    rw [List.nil_append]
    rcases Bool.or_eq_true_iff.1 close with h | h
    · exact lex_chars_append ht (endsBefore_of_closeAfter h)
    · exact lex_chars_append ht (endsBefore_of_closeBefore t h)
  · rw [List.singleton_append, lex_chars_append ht (endsBefore_space t), lex_space]

theorem line_eq_chars_append (t : SqlToken) (ts : List SqlToken) :
    ∃ rest, line (t :: ts) = t.chars ++ rest := by
  cases ts with
  | nil => exact ⟨[], (List.append_nil _).symm⟩
  | cons u ts => exact ⟨gap t u ++ line (u :: ts), List.append_assoc _ _ _⟩

theorem lex_line (h : ∀ t ∈ ts, t.isWellFormed = true) : lex (line ts) = some ts := by
  induction ts with
  | nil => rfl
  | cons t ts ih =>
      have ht := h t List.mem_cons_self
      have hts := ih fun u hu => h u (List.mem_cons_of_mem t hu)
      cases ts with
      | nil =>
          have last : lex (t.chars ++ []) = (lex []).map (t :: ·) :=
            lex_chars_append ht fun c hc => nomatch hc
          rw [List.append_nil] at last
          exact last
      | cons u ts =>
          obtain ⟨rest, hrest⟩ := line_eq_chars_append u ts
          rw [line, hrest, lex_gap_append ht, ← hrest, hts]
          rfl

theorem mem_enclosed (hc : c ≠ q) : c ∈ Quoting.enclosed q s ↔ c ∈ s := by
  have doubled : c ∈ Quoting.doubled q s ↔ c ∈ s := by
    rw [Quoting.doubled, List.mem_flatMap]
    constructor
    · rintro ⟨d, hd, hm⟩
      split at hm
      · rename_i hq
        simp [hq, hc] at hm
      · rwa [List.mem_singleton.1 hm]
    · intro hm
      exact ⟨c, hm, by simp [hc]⟩
  simp [Quoting.enclosed, doubled, hc]

theorem nul_not_mem_word {s : String} (h : isWord s = true) : '\x00' ∉ s.toList := by
  intro hm
  rw [isWord] at h
  cases hs : s.toList with
  | nil => simp [hs] at hm
  | cons c w =>
      rw [hs] at h hm
      obtain ⟨hc, hw⟩ := Bool.and_eq_true_iff.1 h
      rcases List.mem_cons.1 hm with rfl | hm
      · cases hc
      · cases List.all_eq_true.1 hw _ hm

theorem nul_mem_chars (ht : t.isWellFormed = true) :
    '\x00' ∈ t.chars ↔ ∃ s ∈ t.quoted?, '\x00' ∈ s.toList := by
  cases t with
  | word s => simpa [quoted?, chars] using nul_not_mem_word ht
  | name s | literal s =>
      simp [chars, quoted?, Quoting.identifier, Quoting.literal, mem_enclosed]
  | _ => simp [quoted?, chars]

theorem mem_line (hc : c ≠ ' ') : c ∈ line ts ↔ ∃ t ∈ ts, c ∈ t.chars := by
  have blank (t u) : c ∉ gap t u := by
    rw [gap]
    split <;> simp [hc]
  induction ts with
  | nil => simp [line]
  | cons t ts ih =>
      cases ts with
      | nil => simp [line]
      | cons u ts => simp [line, ih, blank]

theorem nul_mem_line (h : ∀ t ∈ ts, t.isWellFormed = true) :
    '\x00' ∈ line ts ↔ ∃ s ∈ ts.filterMap quoted?, '\x00' ∈ s.toList := by
  rw [mem_line (by decide)]
  constructor
  · rintro ⟨t, hm, hn⟩
    obtain ⟨s, hs, hn⟩ := (nul_mem_chars (h t hm)).1 hn
    exact ⟨s, List.mem_filterMap.2 ⟨t, hm, hs⟩, hn⟩
  · rintro ⟨s, hs, hn⟩
    obtain ⟨t, hm, hs⟩ := List.mem_filterMap.1 hs
    exact ⟨t, hm, (nul_mem_chars (h t hm)).2 ⟨s, hs, hn⟩⟩

end

end SqlToken

end SplitSnapshot
