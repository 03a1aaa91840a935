import SplitSnapshot.Fault
import SplitSnapshot.StableSort

namespace SplitSnapshot

structure ColumnDef where
  name : String
  position : Nat
  typeName : String
  nullable : Bool
  deriving DecidableEq, Repr

structure TableSchema where
  table : TableId
  columns : List ColumnDef
  deriving DecidableEq, Repr

namespace ColumnDef

def index? (c : ColumnDef) : Option Nat :=
  if c.position = 0 then none else some (c.position - 1)

def toJson (c : ColumnDef) : Json :=
  .ofFields [
    ("name", .text c.name),
    ("position", .int c.position),
    ("type_name", .text c.typeName),
    ("nullable", .bool c.nullable)]

def ofJson? (v : Json) : Option ColumnDef := do
  let v ← v.record? ["name", "position", "type_name", "nullable"]
  let name ← v.require? "name" Json.text?
  let position ← v.require? "position" Json.natural?
  let typeName ← v.require? "type_name" Json.text?
  let nullable ← v.require? "nullable" Json.bool?
  pure ⟨name, position, typeName, nullable⟩

end ColumnDef

namespace TableSchema

def width (s : TableSchema) : Nat :=
  s.columns.foldl (fun w c => max w c.position) 0

def withColumn (s : TableSchema) (name typeName : String) : TableSchema :=
  { s with columns := s.columns ++ [⟨name, s.width + 1, typeName, true⟩] }

def column? (s : TableSchema) (name : String) : Option ColumnDef :=
  s.columns.find? fun c => c.name = name

def ordered (s : TableSchema) : List ColumnDef :=
  sortBy (fun a b => decide (a.position ≤ b.position)) s.columns

def names (s : TableSchema) : List String :=
  s.ordered.map (·.name)

def numbered (table : TableId) (columns : List (String × String × Bool)) : TableSchema :=
  ⟨table, columns.mapIdx fun i c => ⟨c.1, i + 1, c.2.1, c.2.2⟩⟩

def toJson (s : TableSchema) : Json :=
  .ofFields [("table_id", s.table.toJson), ("columns", .list (s.columns.map ColumnDef.toJson))]

def ofJson? (v : Json) : Option TableSchema := do
  let v ← v.record? ["table_id", "columns"]
  let table ← v.require? "table_id" TableId.ofJson?
  let columns ← v.require? "columns" Json.list?
  let columns ← columns.mapM ColumnDef.ofJson?
  pure ⟨table, columns⟩

end TableSchema

end SplitSnapshot
