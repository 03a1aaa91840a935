import SplitSnapshot.ReadError
import SplitSnapshot.Table.Map
import SplitSnapshot.Table.Schema

namespace SplitSnapshot

structure Catalog where
  schemas : TableMap TableSchema
  deriving Repr

namespace Catalog

def empty : Catalog := ⟨.empty⟩

def register (c : Catalog) (schema : TableSchema) : Catalog :=
  ⟨c.schemas.put schema.table schema⟩

def lookup (c : Catalog) (table : TableId) : Except ReadError TableSchema :=
  match c.schemas.get? table with
  | some schema => .ok schema
  | none => .error (.schema (.unknownTable table))

end Catalog

end SplitSnapshot
