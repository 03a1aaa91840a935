import SplitSnapshot.Event
import SplitSnapshot.Proofs.Documents.Records
import SplitSnapshot.Proofs.Table.ByName

namespace SplitSnapshot

namespace ColumnDef

def valueIn (c : ColumnDef) (values : List Json) : Json :=
  (c.index?.bind fun i => values[i]?).getD .null

theorem valueIn_set {c other : ColumnDef} {i : Nat} (here : other.index? = some i)
    (apart : c.position ≠ other.position) (values : List Json) (v : Json) :
    c.valueIn (values.set i v) = c.valueIn values := by
  rw [valueIn, valueIn]
  cases there : c.index? with
  | none => rfl
  | some i' =>
      rw [index?_eq_some_iff] at here there
      have elsewhere : i ≠ i' := by omega
      rw [Option.bind_some, Option.bind_some, List.getElem?_set_ne elsewhere]

end ColumnDef

namespace Row

theorem recordFrom_eq {columns : List ColumnDef} (h : (columns.map ColumnDef.position).Nodup)
    (values : List Json) (fields : Fields Json) :
    recordFrom columns values fields =
      columns.foldl (fun fields c => fields.put c.name (c.valueIn values)) fields := by
  induction columns generalizing values fields with
  | nil => rfl
  | cons c columns ih =>
      rw [List.map_cons, List.nodup_cons] at h
      rw [List.foldl_cons, recordFrom, ColumnDef.valueIn]
      cases here : c.index? with
      | none => exact ih h.2 values _
      | some i =>
          dsimp only
          rw [ih h.2]
          -- the value that was taken out is missed by no later column, since none stands there
          refine List.foldl_ext _ _ _ fun fields later hl => ?_
          have apart : later.position ≠ c.position := fun same =>
            h.1 (same ▸ List.mem_map_of_mem hl)
          rw [ColumnDef.valueIn_set here apart]

theorem record_eq {schema : TableSchema} (h : (schema.columns.map ColumnDef.position).Nodup)
    (row : Row) : row.record schema =
      .ofFields (schema.columns.map fun c => (c.name, c.valueIn row.values)) := by
  rw [record, recordFrom_eq h, Json.ofFields, Fields.ofList, List.foldl_map]

theorem fitTo_self (row : Row) : row.fitTo row.values.length = row := by
  rw [fitTo, List.take_length, Nat.sub_self, List.replicate_zero, List.append_nil]

end Row

namespace TableSchema

variable {schema : TableSchema} {names : List String} {values : List Json}

structure NamedAs (schema : TableSchema) (names : List String) (values : List Json) (record : Json) :
    Prop where
  keys : ∃ fields, record = .object fields ∧
    (fields.map Prod.fst).Perm (schema.columns.map ColumnDef.name)
  paired : ∀ (i : Nat) name v, names[i]? = some name → values[i]? = some v → schema.Knows name →
    record.field? name = some v
  unpaired : ∀ c ∈ schema.columns, (∀ i : Nat, names[i]? = some c.name → values[i]? = none) →
    record.field? c.name = some .null

structure RecordedAs (schema : TableSchema) (names : List String) (values : List Json) (row : Row) :
    Prop where
  record : schema.NamedAs names values (row.record schema)
  after : ∀ table offset, ∃ after,
    (DataChange.record ⟨table, offset, row⟩ schema).field? "after" = some after ∧
      schema.NamedAs names values after

structure Proper (schema : TableSchema) : Prop where
  names : (schema.columns.map ColumnDef.name).Nodup
  positions : (schema.columns.map ColumnDef.position).Nodup
  placed : ∀ c ∈ schema.columns, 1 ≤ c.position

theorem Proper.field?_record (h : schema.Proper) {c : ColumnDef} (hc : c ∈ schema.columns)
    (row : Row) : (row.record schema).field? c.name = some (c.valueIn row.values) := by
  have keys : ((schema.columns.map fun c => (c.name, c.valueIn row.values)).map Prod.fst).Nodup := by
    rw [List.map_map]
    exact h.names
  have kept := Fields.perm_ofList keys
  rw [row.record_eq h.positions]
  apply Fields.get?_eq_some_of_mem ((kept.map Prod.fst).nodup_iff.2 keys)
  exact kept.mem_iff.2 (List.mem_map_of_mem hc)

theorem Proper.keys_record (h : schema.Proper) (row : Row) : ∃ fields,
    row.record schema = .object fields ∧
      (fields.map Prod.fst).Perm (schema.columns.map ColumnDef.name) := by
  have keys : (schema.columns.map fun c => (c.name, c.valueIn row.values)).map Prod.fst =
      schema.columns.map ColumnDef.name := List.map_map ..
  refine ⟨_, row.record_eq h.positions, ?_⟩
  rw [← keys]
  exact (Fields.perm_ofList (keys ▸ h.names)).map Prod.fst

theorem Proper.shows_valueIn (h : schema.Proper) {c : ColumnDef} (hc : c ∈ schema.columns)
    {cells : Cells} {row : Row} (placed : schema.PlacedByName cells row) :
    ∃ j, schema.Puts c.name j ∧ schema.Shows j cells (c.valueIn row.values) := by
  obtain ⟨j, position⟩ : ∃ j, c.position = j + 1 := Nat.exists_eq_succ_of_ne_zero (by
    have := h.placed c hc
    omega)
  have wide : j < row.values.length := by
    have := schema.position_le_width hc
    rw [placed.full_width]
    omega
  have value : c.valueIn row.values = row.values[j] := by
    simp [ColumnDef.valueIn, ColumnDef.index?, position, wide]
  refine ⟨j, puts_of_mem h.names hc position, ?_⟩
  rw [value]
  exact placed.shows j _ (List.getElem?_eq_getElem wide)

theorem Proper.namedAs (h : schema.Proper) (distinct : names.Nodup) {row : Row}
    (placed : schema.PlacedByName (names.zip values) row) :
    schema.NamedAs names values (row.record schema) where
  keys := h.keys_record row
  paired i name v hn hv known := by
    obtain ⟨c, hc, rfl⟩ := known
    obtain ⟨j, puts, shows⟩ := h.shows_valueIn hc placed
    have cell : (c.name, v) ∈ names.zip values := by
      apply List.mem_of_getElem? (i := i)
      rw [List.getElem?_zip_eq_some]
      exact ⟨hn, hv⟩
    rw [h.field?_record hc, shows.eq_of_mem (apart_zip h.positions distinct values j) puts cell]
  unpaired c hc alone := by
    obtain ⟨j, puts, shows⟩ := h.shows_valueIn hc placed
    rw [h.field?_record hc, shows.eq_null]
    intro cell hm puts'
    obtain ⟨i, hi⟩ := List.getElem?_of_mem hm
    obtain ⟨hn, hv⟩ := List.getElem?_zip_eq_some.1 hi
    rw [puts'.name_eq h.positions puts] at hn
    cases (alone i hn).symm.trans hv

end TableSchema

theorem DataChange.field?_after (change : DataChange) (schema : TableSchema) :
    (change.record schema).field? "after" = some (change.row.record schema) := by
  simp [record]

theorem ColumnMapping.record_place (schema : TableSchema) (names : List String) (values : List Json)
    (proper : schema.Proper) (distinct : names.Nodup) :
    schema.RecordedAs names values ((ofColumns names schema).place values) ∧
      schema.RecordedAs names values (((ofColumns names schema).place values).fitTo schema.width) := by
  have placed := placedByName_place schema names values
  have fitted : ((ofColumns names schema).place values).fitTo schema.width =
      (ofColumns names schema).place values := by
    rw [← placed.full_width, Row.fitTo_self]
  have named := proper.namedAs distinct placed
  have recorded : schema.RecordedAs names values ((ofColumns names schema).place values) :=
    ⟨named, fun table offset => ⟨_, DataChange.field?_after _ _, named⟩⟩
  exact ⟨recorded, fitted.symm ▸ recorded⟩

def shuffledSchema : TableSchema :=
  ⟨.ofNames "public" "orders", [⟨"note", 4, "text", true⟩, ⟨"id", 1, "bigint", false⟩,
    ⟨"at", 2, "date", true⟩]⟩

theorem ColumnMapping.record_place_shuffled :
    (shuffledSchema.Proper ∧ ["at", "more", "id"].Nodup) ∧
      (((ofColumns ["at", "more", "id"] shuffledSchema).place
          [.text "2024-01-01", .bool true, .int 7]).fitTo shuffledSchema.width).record shuffledSchema =
        .object [("at", .text "2024-01-01"), ("id", .int 7), ("note", .null)] ∧
      shuffledSchema.RecordedAs ["at", "more", "id"] [.text "2024-01-01", .bool true, .int 7]
        (((ofColumns ["at", "more", "id"] shuffledSchema).place
          [.text "2024-01-01", .bool true, .int 7]).fitTo shuffledSchema.width) := by
  have proper : shuffledSchema.Proper := ⟨by decide, by decide, by decide⟩
  have distinct : ["at", "more", "id"].Nodup := by decide
  obtain ⟨-, fitted⟩ := record_place shuffledSchema ["at", "more", "id"]
    [.text "2024-01-01", .bool true, .int 7] proper distinct
  exact ⟨⟨proper, distinct⟩, rfl, fitted⟩

end SplitSnapshot
