import SplitSnapshot.Session.Memory
import SplitSnapshot.Session.Report

namespace SplitSnapshot

structure Session where
  catalog : Catalog
  tables : TableMap StoredTable
  positions : PositionScript
  metricsName : Option String
  clock : Nat
  epoch : Int
  telemetry : Telemetry

structure SessionEntry where
  report : ReadReport
  positionCalls : Nat
  counters : Counters

namespace Session

def standardSource : String := "default"

def source (s : Session) : String :=
  s.metricsName.getD standardSource

def baseline (s : Session) : Telemetry :=
  if s.metricsName.isSome then s.telemetry else { s.telemetry with counters := .zero }

def world (s : Session) (p : PlannedRead) (rows : RowSource) : MemoryWorld :=
  ⟨s.catalog, s.tables, s.positions, rows, none, p.host s.clock s.epoch⟩

def read (s : Session) (p : PlannedRead) (rows : RowSource) : SessionEntry × Session :=
  let world := s.world p rows
  let run := p.task.execute MemoryWorld.services world.rowLimit .none world
  let report := p.report run run.world.host
  let telemetry := s.baseline.addReport s.source report
  (⟨report, run.world.positions.calls, telemetry.counters⟩,
    { s with
      positions := run.world.positions
      clock := run.world.host.clock
      telemetry := telemetry })

def readAll : Session → List (PlannedRead × RowSource) → List SessionEntry × Session
  | s, [] => ([], s)
  | s, (p, rows) :: reads =>
      let (entry, s) := s.read p rows
      let (entries, s) := s.readAll reads
      (entry :: entries, s)

end Session

end SplitSnapshot
