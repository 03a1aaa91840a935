import SplitSnapshot.Table.Identifier

namespace SplitSnapshot

structure TableMap (α : Type) where
  entries : List (TableId × α)
  deriving Repr

namespace TableMap

variable {α : Type}

def empty : TableMap α := ⟨[]⟩

def put (m : TableMap α) (table : TableId) (a : α) : TableMap α :=
  ⟨(table.withoutCatalog, a) :: m.entries.filter fun e => e.1 ≠ table.withoutCatalog⟩

def get? (m : TableMap α) (table : TableId) : Option α :=
  (m.entries.find? fun e => e.1 = table.withoutCatalog).map (·.2)

theorem get?_put_self (m : TableMap α) (table : TableId) (a : α) :
    (m.put table a).get? table = some a := by
  simp [put, get?]

end TableMap

end SplitSnapshot
