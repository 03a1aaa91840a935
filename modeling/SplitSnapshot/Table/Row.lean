import SplitSnapshot.LogEntry
import SplitSnapshot.Table.Schema

namespace SplitSnapshot

structure Row where
  values : List Json
  deriving Repr

namespace Row

def empty (width : Nat) : Row :=
  ⟨List.replicate width .null⟩

def get? (r : Row) (i : Nat) : Option Json :=
  r.values[i]?

def fitTo (r : Row) (width : Nat) : Row :=
  ⟨r.values.take width ++ List.replicate (width - r.values.length) .null⟩

def set (r : Row) (i : Nat) (v : Json) : Row :=
  ⟨(r.fitTo (max r.values.length (i + 1))).values.set i v⟩

def recordFrom : List ColumnDef → List Json → Fields Json → Fields Json
  | [], _, fields => fields
  | c :: cs, values, fields =>
      match c.index? with
      | some i => recordFrom cs (values.set i .null) (fields.put c.name ((values[i]?).getD .null))
      | none => recordFrom cs values (fields.put c.name .null)

def record (r : Row) (schema : TableSchema) : Json :=
  .object (recordFrom schema.columns r.values [])

def toJson (r : Row) : Json :=
  .list r.values

def ofJson? (v : Json) : Option Row :=
  v.list?.map Row.mk

end Row

structure ColumnMapping where
  targets : List (Option Nat)
  width : Nat
  deriving DecidableEq, Repr

namespace ColumnMapping

def target? (schema : TableSchema) (name : String) : Option Nat :=
  (schema.column? name).bind ColumnDef.index?

def ofColumns (names : List String) (schema : TableSchema) : ColumnMapping :=
  ⟨names.map (target? schema), schema.width⟩

def notes (names : List String) (schema : TableSchema) : List LogEntry :=
  (names.filter fun n => (target? schema n).isNone).map fun n =>
    ⟨.debug, "Result column not in table schema, ignoring",
      [("table", schema.table.text), ("column", n)]⟩

def place (m : ColumnMapping) (values : List Json) : Row :=
  (values.zip m.targets).foldl (fun r (v, t) =>
    match t with
    | some i => r.set i v
    | none => r) (Row.empty m.width)

end ColumnMapping

end SplitSnapshot
