import SplitSnapshot.Memory.Catalog
import SplitSnapshot.Memory.Positions
import SplitSnapshot.Memory.Scan
import SplitSnapshot.Read.Services
import SplitSnapshot.Session.RowScript

namespace SplitSnapshot

inductive RowSource where
  | tables
  | script (s : RowScript)
  deriving Repr

inductive OpenScan where
  | ofTable (s : TableScan)
  | ofScript (s : ScriptedScan)
  deriving Repr

structure MemoryWorld where
  catalog : Catalog
  tables : TableMap StoredTable
  positions : PositionScript
  source : RowSource
  scan : Option OpenScan
  host : Host
  deriving Repr

namespace MemoryWorld

def openScan (split : Split) (schema : TableSchema) (fetchSize : Nat) (w : MemoryWorld) :
    Answer MemoryWorld Unit :=
  match w.source with
  | .script s =>
      match s.openFailure with
      | some e => ⟨.error e, [], w⟩
      | none => ⟨.ok (), [], { w with scan := some (.ofScript (.start s)) }⟩
  | .tables =>
      match TableScan.open? w.tables split schema fetchSize with
      | .ok (scan, notes) => ⟨.ok (), notes, { w with scan := some (.ofTable scan) }⟩
      | .error e => ⟨.error e, [], w⟩

def nextRow (w : MemoryWorld) : Answer MemoryWorld (Option Row) :=
  match w.scan with
  | none => ⟨.ok none, [], w⟩
  | some (.ofTable scan) =>
      let (row, notes, scan) := scan.next
      ⟨.ok row, notes, { w with scan := some (.ofTable scan) }⟩
  | some (.ofScript scan) =>
      let (row, scan, host) := scan.next w.host
      ⟨row, [], { w with scan := some (.ofScript scan), host := host }⟩

def closeScan (w : MemoryWorld) : Answer MemoryWorld Unit :=
  match w.scan with
  | some (.ofScript scan) =>
      match scan.script.closeFailure with
      | some e => ⟨.error e, [], w⟩
      | none => ⟨.ok (), [], w⟩
  | _ => ⟨.ok (), [], w⟩

def services : Services MemoryWorld where
  schema table w := ⟨w.catalog.lookup table, [], w⟩
  position w :=
    let (p, positions) := w.positions.read
    ⟨p, [], { w with positions := positions }⟩
  openScan := openScan
  nextRow := nextRow
  closeScan := closeScan
  send event w :=
    let (answer, host) := w.host.send event
    ⟨answer, [], { w with host := host }⟩
  cancelled w := w.host.cancellation
  clock w := w.host.clock
  wallMillis w := w.host.wallMillis

def rowLimit (w : MemoryWorld) : Nat :=
  let ofSource := match w.source with
    | .tables => w.tables.entries.foldl (fun n e => n + e.2.rows.length) 0
    | .script s => s.rows.length
  ofSource + 1

end MemoryWorld

end SplitSnapshot
