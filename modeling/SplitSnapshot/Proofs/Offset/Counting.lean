import Mathlib.Data.List.Basic
import SplitSnapshot.Offset
import SplitSnapshot.Proofs.Table.Naming

namespace SplitSnapshot

inductive OffsetCall where
  | event (table : TableId) (millis : Int)
  | advance (position : Lsn)
  deriving DecidableEq, Repr

def OffsetCall.table? : OffsetCall → Option TableId
  | event table _ => some table
  | advance _ => none

namespace OffsetContext

def perform (c : OffsetContext) : OffsetCall → OffsetContext
  | .event table millis => c.event table millis
  | .advance position => c.advanceTo position

def after (c : OffsetContext) (calls : List OffsetCall) : OffsetContext :=
  calls.foldl perform c

def tables (calls : List OffsetCall) : List TableId :=
  calls.filterMap OffsetCall.table?

theorem tables_append (first second : List OffsetCall) :
    tables (first ++ second) = tables first ++ tables second :=
  List.filterMap_append

theorem eventsFor_event_eq (c : OffsetContext) (table other : TableId) (millis : Int) :
    (c.event table millis).eventsFor other =
      c.eventsFor other + if table.text = other.text then 1 else 0 := by
  by_cases same : table.text = other.text
  · simp [event, eventsFor, same, Fields.get?_put_self]
  · simp [event, eventsFor, same, Fields.get?_put_of_ne (Ne.symm same)]

theorem eventsFor_perform (c : OffsetContext) (call : OffsetCall) (table : TableId) :
    (c.perform call).eventsFor table =
      c.eventsFor table + ((tables [call]).map TableId.text).count table.text := by
  cases call with
  | advance position => rfl
  | event other millis =>
      rw [perform, eventsFor_event_eq]
      simp [tables, OffsetCall.table?, List.count_singleton]

theorem eventsFor_after (c : OffsetContext) (calls : List OffsetCall) (table : TableId) :
    (c.after calls).eventsFor table =
      c.eventsFor table + ((tables calls).map TableId.text).count table.text := by
  induction calls generalizing c with
  | nil => rfl
  | cons call calls ih =>
      have split := tables_append [call] calls
      rw [List.singleton_append] at split
      rw [after, List.foldl_cons, ← after, ih, eventsFor_perform, split, List.map_append,
        List.count_append, Nat.add_assoc]

theorem sequence_stamp_after (part : Partition) (position : Lsn) (before : List OffsetCall)
    (table : TableId) (millis : Int) :
    (((start part position).after before).stamp table millis).sequence =
      ((tables (before ++ [.event table millis])).map TableId.text).count table.text := by
  rw [stamp, eventsFor_after, tables_append, List.map_append, List.count_append]
  simp [start, eventsFor, Fields.get?, tables, OffsetCall.table?]

structure CountsExactly (part : Partition) (position : Lsn) (calls : List OffsetCall) : Prop where
  numbered : ∀ before table millis rest, calls = before ++ .event table millis :: rest →
    (((start part position).after before).stamp table millis).sequence =
      (tables (before ++ [.event table millis])).count table
  counted : ∀ table, ((start part position).after calls).eventsFor table = (tables calls).count table

theorem count_text_of_isPlain {names : List TableId} (h : ∀ t ∈ names, t.IsPlain) (table : TableId) :
    (names.map TableId.text).count table.text = names.count table := by
  rw [List.count, List.count, List.countP_map]
  apply List.countP_congr
  intro t ht
  simp only [Function.comp_apply, beq_iff_eq]
  constructor
  · intro same
    exact ((h t ht).eq_of_text_eq same.symm).symm
  · intro same
    rw [same]

theorem eq_of_count_text {names : List TableId} {t table : TableId}
    (h : (names.map TableId.text).count table.text = names.count table) (ht : t ∈ names)
    (same : t.text = table.text) : t = table := by
  have sub : (names.filter (· == table)).Sublist (names.filter (·.text == table.text)) := by
    apply List.monotone_filter_right
    intro u hu
    rw [eq_of_beq hu]
    exact beq_self_eq_true table.text
  have lengths : (names.filter (· == table)).length = (names.filter (·.text == table.text)).length := by
    rw [← List.countP_eq_length_filter, ← List.countP_eq_length_filter, ← List.count, ← h, List.count,
      List.countP_map]
    rfl
  have among : t ∈ names.filter (·.text == table.text) := List.mem_filter.2 ⟨ht, beq_iff_eq.2 same⟩
  rw [← sub.eq_of_length lengths] at among
  exact eq_of_beq (List.mem_filter.1 among).2

/-- The count of a table is that of all events under its text. Those are its own events, for every table
alike, just if no event was of a table with a catalog or with a point in its names. -/
theorem counts_byText (part : Partition) (position : Lsn) (calls : List OffsetCall) :
    (∀ before table millis rest, calls = before ++ .event table millis :: rest →
      (((start part position).after before).stamp table millis).sequence =
        ((tables (before ++ [.event table millis])).map TableId.text).count table.text) ∧
    (∀ table, ((start part position).after calls).eventsFor table =
      ((tables calls).map TableId.text).count table.text) ∧
    (CountsExactly part position calls ↔ ∀ table ∈ tables calls, table.IsPlain) := by
  have counted (table : TableId) : ((start part position).after calls).eventsFor table =
      ((tables calls).map TableId.text).count table.text := by
    rw [eventsFor_after]
    exact Nat.zero_add _
  refine ⟨?_, counted, ?_, ?_⟩
  · intro before table millis rest _
    exact sequence_stamp_after part position before table millis
  · intro exactly table ht
    apply TableId.isPlain_iff.2
    intro u same
    have counts := exactly.counted u
    rw [counted] at counts
    exact (eq_of_count_text counts ht same.symm).symm
  · intro plain
    refine ⟨?_, ?_⟩
    · intro before table millis rest split
      rw [sequence_stamp_after]
      apply count_text_of_isPlain
      intro t ht
      apply plain
      rw [split, List.append_cons, tables_append]
      exact List.mem_append_left _ ht
    · intro table
      rw [counted]
      exact count_text_of_isPlain plain table

theorem countsExactly_sameText : ¬ CountsExactly ⟨"rivven"⟩ ⟨0⟩
    [.event ⟨none, "a.b", "c"⟩ 0, .event ⟨some "a", "b", "c"⟩ 1] := by
  intro h
  have second := h.numbered [.event ⟨none, "a.b", "c"⟩ 0] ⟨some "a", "b", "c"⟩ 1 [] rfl
  revert second
  decide +kernel

end OffsetContext

end SplitSnapshot
