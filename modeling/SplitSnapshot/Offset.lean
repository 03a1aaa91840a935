import SplitSnapshot.Event

namespace SplitSnapshot

structure OffsetContext where
  part : Partition
  position : Lsn
  snapshot : Bool
  lastTable : Option TableId
  millis : Int
  counts : Fields Nat
  deriving DecidableEq, Repr

namespace OffsetContext

def start (part : Partition) (position : Lsn) : OffsetContext :=
  ⟨part, position, true, none, 0, []⟩

def eventsFor (c : OffsetContext) (table : TableId) : Nat :=
  (c.counts.get? table.text).getD 0

def stamp (c : OffsetContext) (table : TableId) (millis : Int) : OffsetStamp :=
  ⟨c.position, c.snapshot, c.eventsFor table + 1, millis⟩

def event (c : OffsetContext) (table : TableId) (millis : Int) : OffsetContext :=
  { c with
    lastTable := some table
    millis := millis
    counts := c.counts.put table.text (c.eventsFor table + 1) }

def advanceTo (c : OffsetContext) (position : Lsn) : OffsetContext :=
  { c with position := position }

def totalEvents (c : OffsetContext) : Nat :=
  c.counts.foldl (fun n count => n + count.2) 0

def toJson (c : OffsetContext) : Json :=
  .ofFields [
    ("partition", c.part.toJson),
    ("position", c.position.toJson),
    ("snapshot", .bool c.snapshot),
    ("last_table", .ofOption (c.lastTable.map TableId.toJson)),
    ("timestamp_ms", .int c.millis),
    ("table_events", .object (c.counts.map fun (k, n) => (k, .int n)))]

def countsOfJson? (v : Json) : Option (Fields Nat) :=
  v.object?.bind fun fields => fields.mapM fun (k, n) => n.natural?.map (k, ·)

def ofJson? (v : Json) : Option OffsetContext := do
  let v ← v.record? ["partition", "position", "snapshot", "last_table", "timestamp_ms",
    "table_events"]
  let part ← v.require? "partition" Partition.ofJson?
  let position ← v.require? "position" Lsn.ofJson?
  let snapshot ← v.require? "snapshot" Json.bool?
  let lastTable ← v.optional? "last_table" TableId.ofJson?
  let millis ← v.require? "timestamp_ms" Json.signed?
  let counts ← v.require? "table_events" countsOfJson?
  pure ⟨part, position, snapshot, lastTable, millis, counts⟩

end OffsetContext

end SplitSnapshot
