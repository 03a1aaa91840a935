import SplitSnapshot.Postgres.Services
import SplitSnapshot.Session.Report
import SplitSnapshot.Session.ServerScript

namespace SplitSnapshot

inductive ServerStep where
  | position
  | schema (table : TableId)
  | openScan (split : Split) (fetchSize : Nat) (schema : Option TableSchema)
  | next (count : Nat)
  | close
  | drop
  | leave
  | raw (sql : String)
  | execute (read : PlannedRead)
  deriving Repr

inductive StepAnswer where
  | position (p : Except ReadError Lsn)
  | schema (s : Except ReadError TableSchema)
  | opened (r : Except ReadError Unit)
  | rows (rows : List (Except ReadError (Option Row)))
  | closed (r : Except ReadError Unit)
  | released
  | raw (r : Except ReadError Unit)
  | report (r : ReadReport)
  | noScan

structure StepReport where
  answer : StepAnswer
  receipts : List Receipt
  notes : List LogEntry

structure Conversation where
  client : Client ScriptedServer Host
  schema : Option TableSchema
  left : List CursorScan

namespace Conversation

def surroundings : Surroundings Host where
  send event h := h.send event
  cancelled := Host.cancellation
  clock := Host.clock
  wallMillis := Host.wallMillis
  afterTrip := id
  cursorTag h := (⟨['X'], rfl⟩, h)

def services : Services (Client ScriptedServer Host) :=
  Client.services ScriptedServer.server surroundings

def start (script : ServerScript) (host : Host) : Conversation :=
  ⟨.start (.start script) host, none, []⟩

def run {α : Type} (c : Conversation) (m : Exchange (Client ScriptedServer Host) α) :
    Except ReadError α × List LogEntry × Conversation :=
  let a := m c.client
  (a.result, a.notes, { c with client := a.world })

def nextRows : Nat → Conversation → List (Except ReadError (Option Row)) × List LogEntry × Conversation
  | 0, c => ([], [], c)
  | n + 1, c =>
      let (row, notes, c) := c.run (Client.nextRow ScriptedServer.server surroundings)
      let (rows, more, c) := nextRows n c
      (row :: rows, notes ++ more, c)

def dropScan (c : Conversation) : List LogEntry × Conversation :=
  let (_, notes, c) := c.run (Client.dropScan ScriptedServer.server surroundings true)
  (notes, c)

def openScan (c : Conversation) (split : Split) (fetchSize : Nat) (schema : TableSchema) :
    StepAnswer × List LogEntry × Conversation :=
  let before := c.client.scan
  let (result, notes, c) := c.run
    (Client.openScan ScriptedServer.server surroundings split schema fetchSize)
  match result with
  | .error e => (.opened (.error e), notes, c)
  | .ok () =>
      let opened := c.client.scan
      let (more, c) := dropScan { c with client := { c.client with scan := before } }
      (.opened (.ok ()), notes ++ more, { c with client := { c.client with scan := opened } })

def execute (c : Conversation) (p : PlannedRead) : StepAnswer × List LogEntry × Conversation :=
  let host := p.host c.client.around.clock c.client.around.epoch
  let rowLimit := c.client.server.script.result.rows.length + 1
  let run := p.task.execute services rowLimit .none { c.client with scan := none, around := host }
  let report := p.report run run.world.around
  (.report report, report.notes, { c with client := { run.world with scan := c.client.scan } })

def answer (c : Conversation) : ServerStep → StepAnswer × List LogEntry × Conversation
  | .position =>
      let (p, notes, c) := c.run (Client.position ScriptedServer.server surroundings)
      (.position p, notes, c)
  | .schema table =>
      let (s, notes, c) := c.run (Client.tableSchema ScriptedServer.server surroundings table)
      (.schema s, notes, { c with schema := s.toOption <|> c.schema })
  | .openScan split fetchSize schema =>
      let schema := schema <|> c.schema
      openScan { c with schema := schema } split fetchSize (schema.getD ⟨split.table, []⟩)
  | .next count =>
      if c.client.scan.isNone then (.noScan, [], c)
      else
        let (rows, notes, c) := c.nextRows count
        (.rows rows, notes, c)
  | .close =>
      if c.client.scan.isNone then (.noScan, [], c)
      else
        let (r, notes, c) := c.run (Client.closeScan ScriptedServer.server surroundings)
        (.closed r, notes, c)
  | .drop =>
      if c.client.scan.isNone then (.noScan, [], c)
      else
        let (notes, c) := c.dropScan
        (.released, notes, c)
  | .leave =>
      match c.client.scan with
      | none => (.noScan, [], c)
      | some scan =>
          (.released, [],
            { c with client := { c.client with scan := none }, left := c.left ++ [scan] })
  | .raw sql =>
      let (r, notes, c) := c.run
        (Client.issue ScriptedServer.server surroundings (.raw sql) ReadError.client)
      (.raw r, notes, c)
  | .execute p => c.execute p

def receivedCount (c : Conversation) : Nat :=
  c.client.server.received.length

def receiptsSince (c : Conversation) (count : Nat) : List Receipt :=
  c.client.server.received.drop count

def step (c : Conversation) (s : ServerStep) : StepReport × Conversation :=
  let (answer, notes, after) := c.answer s
  (⟨answer, after.receiptsSince c.receivedCount, notes⟩, after)

def steps : Conversation → List ServerStep → List StepReport × Conversation
  | c, [] => ([], c)
  | c, s :: rest =>
      let (report, c) := c.step s
      let (reports, c) := c.steps rest
      (report :: reports, c)

def farewell : List CursorScan → Conversation → List LogEntry
  | [], _ => []
  | scan :: scans, c =>
      let (_, notes, _) := { c with client := { c.client with scan := some scan } }.run
        (Client.dropScan ScriptedServer.server surroundings false)
      notes ++ farewell scans c

def finish (c : Conversation) : List Receipt × List LogEntry :=
  let (notes, after) := c.dropScan
  (after.receiptsSince c.receivedCount, notes ++ farewell c.left after)

end Conversation

end SplitSnapshot
