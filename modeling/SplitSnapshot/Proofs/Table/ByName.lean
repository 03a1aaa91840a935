import Mathlib.Data.List.Nodup
import SplitSnapshot.Proofs.Table.Placement

namespace SplitSnapshot

abbrev Cells := List (String × Json)

theorem ColumnDef.index?_eq_some_iff {c : ColumnDef} {j : Nat} :
    c.index? = some j ↔ c.position = j + 1 := by
  rw [index?]
  split
  · simp
    omega
  · simp
    omega

namespace TableSchema

def Knows (schema : TableSchema) (name : String) : Prop :=
  ∃ c ∈ schema.columns, c.name = name

def Puts (schema : TableSchema) (name : String) (j : Nat) : Prop :=
  ∃ before column after, schema.columns = before ++ column :: after ∧ column.name = name ∧
    column.position = j + 1 ∧ ∀ c ∈ before, c.name ≠ name

inductive Shows (schema : TableSchema) (j : Nat) : Cells → Json → Prop
  | value {before name v after} (puts : schema.Puts name j)
      (last : ∀ cell ∈ after, ¬ schema.Puts cell.1 j) :
      Shows schema j (before ++ (name, v) :: after) v
  | nothing {cells} (none : ∀ cell ∈ cells, ¬ schema.Puts cell.1 j) : Shows schema j cells .null

structure PlacedByName (schema : TableSchema) (cells : Cells) (row : Row) : Prop where
  full_width : row.values.length = schema.width
  shows : ∀ j v, row.get? j = some v → schema.Shows j cells v

inductive Rearranged (schema : TableSchema) : Cells → Cells → Prop
  | permuted {cells cells'} (perm : cells.Perm cells') : Rearranged schema cells cells'
  | inserted {before name v after} (unknown : ¬ schema.Knows name) :
      Rearranged schema (before ++ after) (before ++ (name, v) :: after)
  | trans {cells cells' cells''} (first : Rearranged schema cells cells')
      (second : Rearranged schema cells' cells'') : Rearranged schema cells cells''

variable {schema : TableSchema} {name name' : String} {j : Nat} {cells cells' : Cells} {v v' : Json}

theorem target?_eq_some_iff : ColumnMapping.target? schema name = some j ↔ schema.Puts name j := by
  simp only [ColumnMapping.target?, Option.bind_eq_some_iff, column?, List.find?_eq_some_iff_append,
    decide_eq_true_eq, ColumnDef.index?_eq_some_iff, Puts]
  constructor
  · rintro ⟨column, ⟨named, before, after, columns, earlier⟩, position⟩
    exact ⟨before, column, after, columns, named, position, by simpa using earlier⟩
  · rintro ⟨before, column, after, columns, named, position, earlier⟩
    exact ⟨column, ⟨named, before, after, columns, by simpa using earlier⟩, position⟩

theorem Puts.exists_column (h : schema.Puts name j) :
    ∃ c ∈ schema.columns, c.name = name ∧ c.position = j + 1 := by
  obtain ⟨before, column, after, columns, named, position, -⟩ := h
  exact ⟨column, by simp [columns], named, position⟩

theorem Puts.knows (h : schema.Puts name j) : schema.Knows name := by
  obtain ⟨c, hc, named, -⟩ := h.exists_column
  exact ⟨c, hc, named⟩

theorem puts_of_mem (names : (schema.columns.map ColumnDef.name).Nodup) {c : ColumnDef}
    (hc : c ∈ schema.columns) (position : c.position = j + 1) : schema.Puts c.name j := by
  obtain ⟨before, after, columns⟩ := List.append_of_mem hc
  refine ⟨before, c, after, columns, rfl, position, fun earlier he same => ?_⟩
  rw [columns, List.map_append, List.nodup_append] at names
  exact names.2.2 _ (List.mem_map_of_mem he) _ (List.mem_map_of_mem List.mem_cons_self) same

theorem Puts.name_eq (positions : (schema.columns.map ColumnDef.position).Nodup)
    (h : schema.Puts name j) (h' : schema.Puts name' j) : name = name' := by
  obtain ⟨c, hc, rfl, position⟩ := h.exists_column
  obtain ⟨c', hc', rfl, position'⟩ := h'.exists_column
  rw [List.inj_on_of_nodup_map positions hc hc' (position.trans position'.symm)]

def Apart (schema : TableSchema) (j : Nat) (cells : Cells) : Prop :=
  ∀ cell ∈ cells, ∀ cell' ∈ cells, schema.Puts cell.1 j → schema.Puts cell'.1 j → cell = cell'

theorem apart_zip (positions : (schema.columns.map ColumnDef.position).Nodup) {names : List String}
    (distinct : names.Nodup) (values : List Json) (j : Nat) : schema.Apart j (names.zip values) := by
  have keys : ((names.zip values).map Prod.fst).Nodup := by
    rw [List.zip_eq_zip_take_min, List.map_fst_zip (by simp)]
    exact distinct.sublist (List.take_sublist _ _)
  intro cell hc cell' hc' puts puts'
  exact List.inj_on_of_nodup_map keys hc hc' (puts.name_eq positions puts')

theorem Shows.eq_of_mem (apart : schema.Apart j cells) (h : schema.Shows j cells v)
    (puts : schema.Puts name j) (hm : (name, v') ∈ cells) : v = v' := by
  cases h with
  | @value _ shown v after puts' last =>
      have same := apart (shown, v) (List.mem_append_right _ List.mem_cons_self) _ hm puts' puts
      exact congrArg Prod.snd same
  | nothing none => exact absurd puts (none _ hm)

theorem Shows.eq_null (h : schema.Shows j cells v) (none : ∀ cell ∈ cells, ¬ schema.Puts cell.1 j) :
    v = .null := by
  cases h with
  | value shown last => exact absurd shown (none _ (List.mem_append_right _ List.mem_cons_self))
  | nothing none => rfl

theorem Shows.eq_of_mem_iff (apart : schema.Apart j cells) (h : schema.Shows j cells v)
    (h' : schema.Shows j cells' v')
    (same : ∀ cell, schema.Puts cell.1 j → (cell ∈ cells ↔ cell ∈ cells')) : v = v' := by
  cases h' with
  | value shown last => exact h.eq_of_mem apart shown ((same _ shown).2 (by simp))
  | nothing none => exact h.eq_null fun cell hc puts => none cell ((same cell puts).1 hc) puts

theorem Rearranged.mem_iff (h : schema.Rearranged cells cells') {cell : String × Json}
    (known : schema.Knows cell.1) : cell ∈ cells ↔ cell ∈ cells' := by
  induction h with
  | permuted perm => exact perm.mem_iff
  | @inserted before name v after unknown =>
      have other : cell ≠ (name, v) := by
        rintro rfl
        exact unknown known
      simp [other]
  | trans first second ih ih' => exact ih.trans ih'

theorem PlacedByName.eq_of_rearranged {row row' : Row} (apart : ∀ j, schema.Apart j cells)
    (rearranged : schema.Rearranged cells cells') (placed : schema.PlacedByName cells row)
    (placed' : schema.PlacedByName cells' row') : row' = row := by
  obtain ⟨values⟩ := row
  obtain ⟨values'⟩ := row'
  have lengths : values'.length = values.length := placed'.full_width.trans placed.full_width.symm
  rw [Row.mk.injEq]
  refine List.ext_getElem lengths fun j hj' hj => ?_
  have shows := placed.shows j values[j] (List.getElem?_eq_getElem hj)
  have shows' := placed'.shows j values'[j] (List.getElem?_eq_getElem hj')
  exact (shows.eq_of_mem_iff (apart j) shows' fun cell puts => rearranged.mem_iff puts.knows).symm

end TableSchema

namespace ColumnMapping

variable {schema : TableSchema}

theorem zip_map_eq (names : List String) (values : List Json) (target : String → Option Nat) :
    values.zip (names.map target) = (names.zip values).map fun cell => (cell.2, target cell.1) := by
  induction names generalizing values with
  | nil => simp
  | cons name names ih =>
      cases values with
      | nil => rfl
      | cons v values => simp [ih]

theorem shows_lastAt (schema : TableSchema) (j : Nat) (cells : Cells) :
    schema.Shows j cells (lastAt (cells.map fun cell => (cell.2, target? schema cell.1)) j) := by
  rw [lastAt, ← List.map_reverse, List.find?_map]
  cases found : cells.reverse.find? ((fun d : Json × Option Nat => decide (d.2 = some j)) ∘
      fun cell => (cell.2, target? schema cell.1)) with
  | none =>
      refine .nothing fun cell hc puts => ?_
      have other := List.find?_eq_none.1 found cell (List.mem_reverse.2 hc)
      exact other (decide_eq_true (TableSchema.target?_eq_some_iff.2 puts))
  | some cell =>
      obtain ⟨name, v⟩ := cell
      obtain ⟨here, after, before, split, others⟩ := List.find?_eq_some_iff_append.1 found
      have cells_eq : cells = before.reverse ++ (name, v) :: after.reverse := by
        rw [← List.reverse_reverse cells, split]
        simp
      rw [cells_eq]
      refine .value (TableSchema.target?_eq_some_iff.1 (of_decide_eq_true here)) ?_
      intro cell hc puts
      have other := others cell (List.mem_reverse.1 hc)
      simp [TableSchema.target?_eq_some_iff.2 puts] at other

theorem placedByName_place (schema : TableSchema) (names : List String) (values : List Json) :
    schema.PlacedByName (names.zip values) ((ofColumns names schema).place values) := by
  rw [place_ofColumns, zip_map_eq]
  refine ⟨by simp, fun j v h => ?_⟩
  have shown : lastAt ((names.zip values).map fun cell => (cell.2, target? schema cell.1)) j = v := by
    obtain ⟨i, hi, value⟩ := Option.map_eq_some_iff.1 ((List.getElem?_map ..).symm.trans h)
    obtain ⟨_, here⟩ := List.getElem?_eq_some_iff.1 hi
    rwa [← here, List.getElem_range] at value
  exact shown ▸ shows_lastAt schema j (names.zip values)

/-- The values of a result row stand where the schema has their columns, whatever the layout of the
result. Where columns share neither names nor places, another layout gives the same row. -/
theorem place_byName (schema : TableSchema) (names : List String) (values : List Json) :
    schema.PlacedByName (names.zip values) ((ofColumns names schema).place values) ∧
    (names.Nodup → (schema.columns.map ColumnDef.position).Nodup →
      ∀ names' values', schema.Rearranged (names.zip values) (names'.zip values') →
        (ofColumns names' schema).place values' = (ofColumns names schema).place values) := by
  refine ⟨placedByName_place schema names values, fun distinct positions names' values' rearranged => ?_⟩
  exact (placedByName_place schema names values).eq_of_rearranged
    (TableSchema.apart_zip positions distinct values) rearranged
    (placedByName_place schema names' values')

def gapSchema : TableSchema :=
  ⟨.ofNames "public" "orders", [⟨"a", 2, "text", true⟩, ⟨"b", 4, "text", true⟩,
    ⟨"a", 5, "text", true⟩, ⟨"z", 0, "text", true⟩]⟩

theorem rearranged_gaps : gapSchema.Rearranged (["b", "a"].zip [.int 1, .int 2])
    (["a", "x", "b"].zip [.int 2, .int 9, .int 1]) := by
  have unknown : ¬ gapSchema.Knows "x" := by simp [TableSchema.Knows, gapSchema]
  have inserted : gapSchema.Rearranged ([("a", .int 2)] ++ [("b", .int 1)])
      ([("a", .int 2)] ++ ("x", .int 9) :: [("b", .int 1)]) := .inserted unknown
  exact .trans (.permuted (List.Perm.swap _ _ _)) inserted

theorem place_byName_gaps :
    (["b", "a"].Nodup ∧ (gapSchema.columns.map ColumnDef.position).Nodup ∧
      gapSchema.Rearranged (["b", "a"].zip [.int 1, .int 2])
        (["a", "x", "b"].zip [.int 2, .int 9, .int 1])) ∧
    (ofColumns ["b", "a"] gapSchema).place [.int 1, .int 2] =
      ⟨[.null, .int 2, .null, .int 1, .null]⟩ ∧
    (ofColumns ["a", "x", "b"] gapSchema).place [.int 2, .int 9, .int 1] =
      (ofColumns ["b", "a"] gapSchema).place [.int 1, .int 2] := by
  have distinct : ["b", "a"].Nodup := by decide
  have positions : (gapSchema.columns.map ColumnDef.position).Nodup := by decide
  obtain ⟨-, same⟩ := place_byName gapSchema ["b", "a"] [.int 1, .int 2]
  exact ⟨⟨distinct, positions, rearranged_gaps⟩, rfl,
    same distinct positions ["a", "x", "b"] [.int 2, .int 9, .int 1] rearranged_gaps⟩

end ColumnMapping

end SplitSnapshot
