import SplitSnapshot.Table.Row
import SplitSnapshot.Watermark

namespace SplitSnapshot

structure Partition where
  serverName : String
  deriving DecidableEq, Repr

def Partition.standard : Partition := ⟨"rivven"⟩

structure OffsetStamp where
  position : Lsn
  snapshot : Bool
  sequence : Nat
  millis : Int
  deriving DecidableEq, Repr

structure WatermarkEvent where
  split : String
  part : Partition
  kind : WatermarkKind
  position : Lsn
  deriving DecidableEq, Repr

structure DataChange where
  table : TableId
  offset : OffsetStamp
  row : Row
  deriving Repr

inductive SplitEvent where
  | watermark (w : WatermarkEvent)
  | dataChange (c : DataChange)
  | completed (splitId : String)
  deriving Repr

namespace Partition

def toJson (p : Partition) : Json :=
  .ofFields [("server_name", .text p.serverName)]

def ofJson? (v : Json) : Option Partition := do
  let v ← v.record? ["server_name"]
  (v.require? "server_name" Json.text?).map Partition.mk

end Partition

namespace OffsetStamp

def toJson (s : OffsetStamp) : Json :=
  .ofFields [
    ("position", s.position.toJson),
    ("snapshot", .bool s.snapshot),
    ("table_sequence", .int s.sequence),
    ("timestamp_ms", .int s.millis)]

def ofJson? (v : Json) : Option OffsetStamp := do
  let v ← v.record? ["position", "snapshot", "table_sequence", "timestamp_ms"]
  let position ← v.require? "position" Lsn.ofJson?
  let snapshot ← v.require? "snapshot" Json.bool?
  let sequence ← v.require? "table_sequence" Json.natural?
  let millis ← v.require? "timestamp_ms" Json.signed?
  pure ⟨position, snapshot, sequence, millis⟩

end OffsetStamp

namespace DataChange

def operation : String := "r"

def record (c : DataChange) (schema : TableSchema) : Json :=
  .ofFields [
    ("schema", .text c.table.schema),
    ("table", .text c.table.table),
    ("op", .text operation),
    ("before", .null),
    ("after", c.row.record schema),
    ("source", .ofFields [
      ("position", .text c.offset.position.text),
      ("snapshot", .bool c.offset.snapshot),
      ("sequence", .int c.offset.sequence)]),
    ("ts_ms", .int c.offset.millis)]

def fields (c : DataChange) : List (String × Json) :=
  [("table_id", c.table.toJson), ("offset", c.offset.toJson), ("row", c.row.toJson)]

def ofJson? (v : Json) : Option DataChange := do
  let v ← v.record? ["table_id", "offset", "row"]
  let table ← v.require? "table_id" TableId.ofJson?
  let offset ← v.require? "offset" OffsetStamp.ofJson?
  let row ← v.require? "row" Row.ofJson?
  pure ⟨table, offset, row⟩

end DataChange

namespace WatermarkEvent

def fields (w : WatermarkEvent) : List (String × Json) :=
  [("partition", w.part.toJson), ("split_id", .text w.split), ("kind", w.kind.toJson),
    ("position", w.position.toJson)]

def ofJson? (v : Json) : Option WatermarkEvent := do
  let v ← v.record? ["partition", "split_id", "kind", "position"]
  let part ← v.require? "partition" Partition.ofJson?
  let split ← v.require? "split_id" Json.text?
  let kind ← v.require? "kind" (WatermarkKind.ofJson? Json.isVoid)
  let position ← v.require? "position" Lsn.ofJson?
  pure ⟨split, part, kind, position⟩

end WatermarkEvent

namespace SplitEvent

def splitId? : SplitEvent → Option String
  | watermark w => some w.split
  | completed splitId => some splitId
  | dataChange _ => none

def isWatermark (kind : WatermarkKind) : SplitEvent → Bool
  | watermark w => w.kind = kind
  | _ => false

def toJson : SplitEvent → Json
  | watermark w => .ofFields (("type", .text "watermark") :: w.fields)
  | dataChange c => .ofFields (("type", .text "data_change") :: c.fields)
  | completed splitId => .ofFields [("type", .text "split_completed"), ("split_id", .text splitId)]

def typed? : Json → Option (String × Json)
  | .list (.text type :: items) => some (type, .list items)
  | v => (v.require? "type" Json.text?).map (·, v)

def splitOfJson? (v : Json) : Option String := do
  let v ← v.record? ["split_id"]
  v.require? "split_id" Json.text?

def ofJson? (v : Json) : Option SplitEvent := do
  let (type, v) ← typed? v
  if type = "watermark" then (WatermarkEvent.ofJson? v).map watermark
  else if type = "data_change" then (DataChange.ofJson? v).map dataChange
  else if type = "split_completed" then (splitOfJson? v).map completed
  else none

end SplitEvent

end SplitSnapshot
