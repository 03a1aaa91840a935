import SplitSnapshot.Json.Value
import SplitSnapshot.Query.Quoting
import SplitSnapshot.Text.Ascii

namespace SplitSnapshot

structure TableId where
  catalog : Option String
  schema : String
  table : String
  deriving DecidableEq, Repr

namespace TableId

def ofNames (schema table : String) : TableId :=
  ⟨none, schema, table⟩

def withCatalog (t : TableId) (catalog : String) : TableId :=
  { t with catalog := some catalog }

def withoutCatalog (t : TableId) : TableId :=
  { t with catalog := none }

def text (t : TableId) : String :=
  match t.catalog with
  | some c => c ++ "." ++ t.schema ++ "." ++ t.table
  | none => t.schema ++ "." ++ t.table

def read? (s : String) : Option TableId :=
  let names := (Text.splitAt '.' s.toList).map String.ofList
  if names.any String.isEmpty then none
  else match names with
    | [schema, table] => some (ofNames schema table)
    | [catalog, schema, table] => some ((ofNames schema table).withCatalog catalog)
    | _ => none

def reference (t : TableId) : String :=
  Quoting.identifier t.schema ++ "." ++ Quoting.identifier t.table

def toJson (t : TableId) : Json :=
  let names := [("schema", Json.text t.schema), ("table", Json.text t.table)]
  match t.catalog with
  | some c => Json.ofFields (("catalog", .text c) :: names)
  | none => Json.ofFields names

def ofJson? (v : Json) : Option TableId := do
  let v ← v.record? ["catalog", "schema", "table"]
  let catalog ← v.optional? "catalog" Json.text?
  let schema ← v.require? "schema" Json.text?
  let table ← v.require? "table" Json.text?
  pure ⟨catalog, schema, table⟩

end TableId

end SplitSnapshot
