import SplitSnapshot.ReadError
import SplitSnapshot.Split
import SplitSnapshot.Table.Map
import SplitSnapshot.Table.Row

namespace SplitSnapshot

structure StoredTable where
  columns : List String
  rows : List Json
  deriving Repr

namespace Split

def isUnbounded (s : Split) : Bool :=
  s.isFirst && s.isLast

def rowKey (s : Split) (row : Json) : Except QueryFault (Option Key) :=
  match row.present? s.keyColumn with
  | none => .ok none
  | some v => (s.keyType.readKey v).map some

def includes (s : Split) : Option Key → Except QueryFault Bool
  | none => .ok s.isUnbounded
  | some key => s.contains key

def keyOrder : Option Key → Option Key → Bool
  | some a, some b => a.compare? b != some .gt
  | none, some _ => false
  | _, none => true

end Split

namespace StoredTable

def values (t : StoredTable) (row : Json) : List Json :=
  t.columns.map fun c => (row.field? c).getD .null

def select (t : StoredTable) (split : Split) (row : Json) :
    Except ReadError (Option (Option Key × List Json)) := do
  let key ← (split.rowKey row).mapError fun fault => .scanFailed (.invalidRowKey fault) none
  let included ← (split.includes key).mapError .queryConstruction
  pure (if included then some (key, t.values row) else none)

def scan (t : StoredTable) (split : Split) : Except ReadError (List (List Json)) := do
  let selected ← t.rows.mapM (t.select split)
  pure ((sortBy (fun a b => Split.keyOrder a.1 b.1) (selected.filterMap id)).map (·.2))

end StoredTable

structure TableScan where
  mapping : ColumnMapping
  pending : List (List Json)
  buffer : List Row
  batch : Nat
  batch_pos : 0 < batch
  deriving Repr

namespace TableScan

def rows (s : TableScan) : List Row :=
  s.buffer ++ s.pending.map s.mapping.place

def start (mapping : ColumnMapping) (rows : List (List Json)) (fetchSize : Nat) : TableScan :=
  ⟨mapping, rows, [], max fetchSize 1, by omega⟩

theorem rows_start (mapping : ColumnMapping) (rows : List (List Json)) (fetchSize : Nat) :
    (start mapping rows fetchSize).rows = rows.map mapping.place := rfl

def open? (tables : TableMap StoredTable) (split : Split) (schema : TableSchema) (fetchSize : Nat) :
    Except ReadError (TableScan × List LogEntry) := do
  split.validate.mapError .queryConstruction
  if (schema.column? split.keyColumn).isNone then
    throw (.queryConstruction (.unknownKeyColumn split.keyColumn split.table))
  match tables.get? split.table with
  | none => throw (.scanFailed (.unknownTable split.table) none)
  | some table =>
      let rows ← table.scan split
      pure (start (.ofColumns table.columns schema) rows fetchSize,
        ColumnMapping.notes table.columns schema)

def next (s : TableScan) : Option Row × List LogEntry × TableScan :=
  match s.buffer with
  | row :: buffer => (some row, [], { s with buffer := buffer })
  | [] =>
      if s.pending.isEmpty then (none, [], s)
      else
        let rows := (s.pending.take s.batch).map s.mapping.place
        (rows.head?,
          [⟨.debug, "Fetched batch", [("rows", toString rows.length)]⟩],
          { s with pending := s.pending.drop s.batch, buffer := rows.tail })

theorem next_fst (s : TableScan) : s.next.1 = s.rows.head? := by
  unfold next rows
  split
  · rename_i h
    simp [h]
  · rename_i h
    split
    · rename_i hp
      simp [h, List.isEmpty_iff.1 hp]
    · simp [h, List.head?_take, Nat.ne_of_gt s.batch_pos]

theorem rows_next (s : TableScan) : s.next.2.2.rows = s.rows.tail := by
  unfold next rows
  split
  · rename_i h
    simp [h]
  · rename_i h
    split
    · rename_i hp
      simp [h, List.isEmpty_iff.1 hp]
    · have hp := s.batch_pos
      cases hs : s.pending with
      | nil => simp_all
      | cons v vs =>
          obtain ⟨n, hn⟩ : ∃ n, s.batch = n + 1 := ⟨s.batch - 1, by omega⟩
          simp [h, hn]

def take : Nat → TableScan → List Row × List LogEntry × TableScan
  | 0, s => ([], [], s)
  | n + 1, s =>
      match s.next with
      | (none, notes, s) => ([], notes, s)
      | (some row, notes, s) =>
          let (rows, more, s) := take n s
          (row :: rows, notes ++ more, s)

end TableScan

end SplitSnapshot
