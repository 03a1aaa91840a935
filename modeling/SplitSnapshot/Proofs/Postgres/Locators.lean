import Mathlib.Data.Bool.AllAny
import SplitSnapshot.Postgres.Connection
import SplitSnapshot.Proofs.Text.Cut

namespace SplitSnapshot

open Text

namespace ConnectionString

variable {c : Char} {s t : List Char}

def behindSlash (s : List Char) : List Char :=
  (cutAt? '/' s).elim [] Prod.snd

def segment (s : List Char) : List Char :=
  s.takeWhile fun c => c ≠ '/' && c ≠ '?'

theorem behindSlash_slash (s : List Char) : behindSlash ('/' :: s) = s := by
  rw [behindSlash, cutAt?, if_pos rfl]
  rfl

theorem behindSlash_cons (h : c ≠ '/') : behindSlash (c :: s) = behindSlash s := by
  rw [behindSlash, cutAt?, if_neg h, behindSlash]
  cases cutAt? '/' s <;> rfl

theorem behindSlash_append (h : '/' ∉ s) : behindSlash (s ++ t) = behindSlash t := by
  induction s with
  | nil => rfl
  | cons c s ih =>
      rw [List.mem_cons, not_or] at h
      rw [List.cons_append, behindSlash_cons (Ne.symm h.1), ih h.2]

theorem isPrefixOf_mark_iff : "://".toList.isPrefixOf s = true ↔ ∃ t, s = ':' :: '/' :: '/' :: t := by
  rw [List.isPrefixOf_iff_prefix]
  constructor
  · rintro ⟨t, rfl⟩
    exact ⟨t, rfl⟩
  · rintro ⟨t, rfl⟩
    exact ⟨t, rfl⟩

theorem before_cons (h : ¬ ∃ t, c :: s = ':' :: '/' :: '/' :: t) :
    before "://".toList (c :: s) = c :: before "://".toList s := by
  rw [before, if_neg fun mark => h (isPrefixOf_mark_iff.1 mark)]

theorem before_slash (s : List Char) : before "://".toList ('/' :: s) = '/' :: before "://".toList s :=
  before_cons nofun

theorem segment_behindSlash_before (s : List Char) :
    segment (behindSlash (before "://".toList s)) = segment (before "://".toList (behindSlash s)) := by
  induction s with
  | nil => rfl
  | cons c s ih =>
      by_cases mark : ∃ t, c :: s = ':' :: '/' :: '/' :: t
      · obtain ⟨t, start⟩ := mark
        -- behind the first slash of the mark stands its second one
        have behind : behindSlash (':' :: '/' :: '/' :: t) = '/' :: t := rfl
        rw [start, behind, before_slash, before, if_pos (isPrefixOf_mark_iff.2 ⟨t, rfl⟩)]
        rfl
      · rw [before_cons mark]
        by_cases slash : c = '/'
        · rw [slash, behindSlash_slash, behindSlash_slash]
        · rw [behindSlash_cons slash, behindSlash_cons slash, ih]

theorem pathDatabase?_eq {rest : List Char} (h : after? "://".toList s = some rest) :
    pathDatabase? s =
      if (segment (before "://".toList (behindSlash rest))).isEmpty then none
      else some (segment (before "://".toList (behindSlash rest))) := by
  have path : pathDatabase? s = (cutAt? '/' (before "://".toList rest)).bind fun p =>
      if (segment p.2).isEmpty then none else some (segment p.2) := by
    rw [pathDatabase?, h]
    rfl
  rw [path, ← segment_behindSlash_before, behindSlash]
  cases cutAt? '/' (before "://".toList rest) <;> rfl

theorem words_eq_singleton (nonempty : s ≠ []) (h : ∀ c ∈ s, isBlank c = false) : words s = [s] := by
  induction s with
  | nil => exact absurd rfl nonempty
  | cons c s ih =>
      obtain ⟨hc, hs⟩ := List.forall_mem_cons.1 h
      cases s with
      | nil => simp [words, hc]
      | cons d s =>
          have hd : isBlank d = false := hs d List.mem_cons_self
          unfold words
          simp only [ih (List.cons_ne_nil d s) hs, hc, hd, Bool.false_eq_true, if_false]

theorem segment_before_append (hs : ∀ c ∈ s, c ≠ '/' ∧ c ≠ '?') (ht : ∀ c ∈ t.head?, c = '?') :
    segment (before "://".toList (s ++ t)) = s := by
  induction s with
  | nil =>
      cases t with
      | nil => rfl
      | cons c t =>
          have start : before "://".toList ('?' :: t) = '?' :: before "://".toList t := before_cons nofun
          rw [ht c rfl, List.nil_append, start]
          rfl
  | cons c s ih =>
      obtain ⟨hc, hs⟩ := List.forall_mem_cons.1 hs
      have unmarked : ¬ ∃ u, c :: (s ++ t) = ':' :: '/' :: '/' :: u := by
        rintro ⟨u, start⟩
        have slash : (s ++ t).head? = some '/' := by rw [(List.cons.inj start).2, List.head?_cons]
        cases s with
        | nil => cases ht '/' slash
        | cons d s => exact (hs d List.mem_cons_self).1 (Option.some.inj slash)
      rw [List.cons_append, before_cons unmarked, segment, List.takeWhile_cons_of_pos (by simp [hc]),
        ← segment, ih hs]

end ConnectionString

inductive Locator.Scheme where
  | postgres
  | postgresql
  deriving DecidableEq, Repr

def Locator.Scheme.text : Scheme → String
  | postgres => "postgres"
  | postgresql => "postgresql"

structure Locator where
  scheme : Locator.Scheme
  authority : String
  path : Option String
  query : Option String
  authority_within : ∀ c ∈ authority.toList, c ≠ '/' ∧ c ≠ '?' ∧ isBlank c = false
  path_within : ∀ db ∈ path, ∀ c ∈ db.toList, c ≠ '/' ∧ c ≠ '?' ∧ isBlank c = false
  query_unblank : ∀ q ∈ query, ∀ c ∈ q.toList, isBlank c = false

namespace Locator

open ConnectionString

def text (l : Locator) : String :=
  l.scheme.text ++ "://" ++ l.authority ++ l.path.elim "" ("/" ++ ·) ++ l.query.elim "" ("?" ++ ·)

def orStandard (db : String) : String :=
  if db = "" then "postgres" else db

def NamesPath (l : Locator) : Prop :=
  database l.text = orStandard (l.path.getD "")

instance (l : Locator) : Decidable l.NamesPath :=
  inferInstanceAs (Decidable (_ = _))

/-- What stands in the query of a locator behind the first slash, up to the next slash, question mark or
`://`. -/
def stray (l : Locator) : String :=
  .ofList (segment (before "://".toList (behindSlash (l.query.getD "").toList)))

variable (l : Locator)

def rest : List Char :=
  l.authority.toList ++ (l.path.elim [] ('/' :: ·.toList) ++ l.query.elim [] ('?' :: ·.toList))

theorem toList_text : l.text.toList = l.scheme.text.toList ++ "://".toList ++ l.rest := by
  obtain ⟨scheme, authority, path, query, -, -, -⟩ := l
  cases path <;> cases query <;> simp [text, rest]

theorem after?_text : after? "://".toList l.text.toList = some l.rest := by
  rw [toList_text]
  cases l.scheme <;> rfl

theorem isBlank_of_mem_text : ∀ c ∈ l.text.toList, isBlank c = false := by
  have scheme : ∀ c ∈ l.scheme.text.toList ++ "://".toList, isBlank c = false := by
    cases l.scheme <;> exact List.all_iff_forall_prop.1 (by decide)
  have authority : ∀ c ∈ l.authority.toList, isBlank c = false :=
    fun c hc => (l.authority_within c hc).2.2
  have path : ∀ c ∈ (l.path.elim [] ('/' :: ·.toList) : List Char), isBlank c = false := by
    cases path : l.path with
    | none => exact List.forall_mem_nil _
    | some db => exact List.forall_mem_cons.2 ⟨rfl, fun c hc => (l.path_within db path c hc).2.2⟩
  have query : ∀ c ∈ (l.query.elim [] ('?' :: ·.toList) : List Char), isBlank c = false := by
    cases query : l.query with
    | none => exact List.forall_mem_nil _
    | some q => exact List.forall_mem_cons.2 ⟨rfl, l.query_unblank q query⟩
  rw [toList_text, rest]
  simp only [List.forall_mem_append] at scheme ⊢
  exact ⟨scheme, authority, path, query⟩

theorem settingDatabase?_text : settingDatabase? l.text.toList = none := by
  have nonempty : l.text.toList ≠ [] := by
    rw [toList_text]
    simp
  rw [settingDatabase?, words_eq_singleton nonempty l.isBlank_of_mem_text, toList_text]
  cases l.scheme <;> rfl

theorem segment_rest : segment (before "://".toList (behindSlash l.rest)) =
    (l.path.getD l.stray).toList := by
  have within : '/' ∉ l.authority.toList := fun slash => (l.authority_within '/' slash).1 rfl
  rw [rest, behindSlash_append within]
  cases path : l.path with
  | none =>
      rw [Option.getD_none, Option.elim_none, List.nil_append, stray]
      refine Eq.trans ?_ String.toList_ofList.symm
      cases l.query with
      | none => rfl
      | some q =>
          have start : behindSlash ('?' :: q.toList) = behindSlash q.toList := behindSlash_cons nofun
          rw [Option.elim_some, start, Option.getD_some]
  | some db =>
      have plain : ∀ c ∈ db.toList, c ≠ '/' ∧ c ≠ '?' :=
        fun c hc => ⟨(l.path_within db path c hc).1, (l.path_within db path c hc).2.1⟩
      rw [Option.elim_some, List.cons_append, behindSlash_slash, Option.getD_some]
      apply segment_before_append plain
      cases l.query with
      | none => exact nofun
      | some q =>
          rintro c ⟨⟩
          rfl

theorem database_text : database l.text = orStandard (l.path.getD l.stray) := by
  have named : database l.text =
      String.ofList ((pathDatabase? l.text.toList).getD standardDatabase) := by
    rw [database, settingDatabase?_text]
    rfl
  rw [named, pathDatabase?_eq l.after?_text, segment_rest, orStandard]
  by_cases empty : l.path.getD l.stray = ""
  · rw [empty, if_pos rfl]
    rfl
  · rw [if_neg empty, if_neg (by simpa using empty), Option.getD_some, String.ofList_toList]

theorem namesPath_iff : l.NamesPath ↔ l.path.isSome = true ∨ l.stray = "" ∨ l.stray = "postgres" := by
  rw [NamesPath, database_text]
  cases l.path with
  | some db => simp
  | none =>
      simp only [Option.getD_none, orStandard, Option.isSome_none, Bool.false_eq_true, false_or, if_true]
      by_cases empty : l.stray = ""
      · simp [empty]
      · simp [empty]

/-- The database that a locator names is that of its path, or the standard one for an empty path. Without a
path it is the stray segment of the query, so the law that it be that of the path holds of all locators
with a path, and of the others exactly if that segment is empty or `postgres` itself. -/
theorem database_locator (l : Locator) :
    database l.text = orStandard (l.path.getD l.stray) ∧
    (l.NamesPath ↔ l.path.isSome = true ∨ l.stray = "" ∨ l.stray = "postgres") :=
  ⟨l.database_text, l.namesPath_iff⟩

def socketDirectory : Locator where
  scheme := .postgresql
  authority := "localhost"
  path := none
  query := some "host=/var/run/postgresql"
  authority_within := List.all_iff_forall_prop.1 (by decide)
  path_within := nofun
  query_unblank := by
    rintro q ⟨⟩
    exact List.all_iff_forall_prop.1 (by decide)

theorem not_namesPath_socketDirectory :
    socketDirectory.text = "postgresql://localhost?host=/var/run/postgresql" ∧
      database socketDirectory.text = "var" ∧ ¬ socketDirectory.NamesPath := by
  decide +kernel

end Locator

end SplitSnapshot
