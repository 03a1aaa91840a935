import SplitSnapshot.Postgres.Client

namespace SplitSnapshot

namespace ColumnDef

def binaryTypes : List String :=
  ["boolean", "smallint", "integer", "bigint", "oid", "\"char\"", "real", "double precision", "bytea",
    "date", "time without time zone", "timestamp without time zone", "timestamp with time zone",
    "json", "jsonb", "uuid", "text", "character varying", "character", "name"]

def isReadAsText (c : ColumnDef) : Bool :=
  !binaryTypes.any (Text.sameIgnoringCase c.typeName)

end ColumnDef

namespace CursorScan

def start (cursor : String) (batch : Nat) (schema : TableSchema) : CursorScan :=
  ⟨cursor, batch, schema, none, [], .open⟩

def quotedCursor (s : CursorScan) : String :=
  Quoting.identifier s.cursor

def cursorField (s : CursorScan) : String × String :=
  ("cursor", s.quotedCursor)

def holdsTransaction (s : CursorScan) : Bool :=
  match s.state with
  | .open | .failed _ => true
  | .exhausted | .closed => false

def settleMapping (s : CursorScan) (r : ResultSet) : CursorScan × List LogEntry :=
  if s.mapping.isSome || r.rows.isEmpty then (s, [])
  else ({ s with mapping := some (.ofColumns r.names s.schema) }, ColumnMapping.notes r.names s.schema)

def untilError {ε α : Type} : List (Except ε α) → List α × Except ε Unit
  | [] => ([], .ok ())
  | .ok a :: rest =>
      let (more, last) := untilError rest
      (a :: more, last)
  | .error e :: _ => ([], .error e)

def rowsOf (s : CursorScan) (r : ResultSet) : List Row × Except ReadError Unit :=
  match s.mapping with
  | none => ([], .ok ())
  | some m => untilError (r.rows.map fun row => (r.decodeRow row).map m.place)

end CursorScan

namespace Client

variable {ρ τ : Type}

def scanFailure (fault : ScanFault) (e : ClientError) : ReadError :=
  .scanFailed fault (some (.client e))

def rollBack (sv : Server ρ) (env : Surroundings τ) : Exchange (Client ρ τ) Unit := do
  match ← Exchange.attempt (issue sv env .rollback .client) with
  | .ok _ => pure ()
  | .error (.client e) =>
      Exchange.note .warn ("Failed to roll back split scan: " ++ e.message) []
  | .error e => Exchange.fail e

def openScan (sv : Server ρ) (env : Surroundings τ) (split : Split) (schema : TableSchema)
    (fetchSize : Nat) : Exchange (Client ρ τ) Unit := do
  let query ← Exchange.ofExcept
    ((ScanQuery.ofSplit split (.ofSchema schema ColumnDef.isReadAsText)).mapError .queryConstruction)
  if (schema.column? split.keyColumn).isNone then
    Exchange.fail (.queryConstruction (.unknownKeyColumn split.keyColumn split.table))
  else do
    let cursor ← freshCursor env
    let scan := CursorScan.start cursor fetchSize schema
    let _ ← issue sv env .begin (scanFailure .beginFailed)
    match ← Exchange.attempt
        (issue sv env (.declare cursor query) (scanFailure .declareFailed)) with
    | .error e => do
        rollBack sv env
        Exchange.fail e
    | .ok _ => do
        Exchange.note .debug "Declared split cursor"
          [("split_id", split.splitId), scan.cursorField, ("sql", query.sql)]
        setScan scan

def fetch (sv : Server ρ) (env : Surroundings τ) (scan : CursorScan) :
    Exchange (Client ρ τ) CursorScan := do
  let result ← issue sv env (.fetch scan.cursor (max scan.batch 1)) (scanFailure .fetchFailed)
  let (scan, notes) := scan.settleMapping result
  Exchange.noteAll notes
  let (rows, decoded) := scan.rowsOf result
  let scan := { scan with buffer := scan.buffer ++ rows }
  setScan scan
  Exchange.ofExcept decoded
  Exchange.note .debug "Fetched batch"
    [scan.cursorField, ("rows", toString result.rows.length)]
  pure scan

def refill (sv : Server ρ) (env : Surroundings τ) (scan : CursorScan) :
    Exchange (Client ρ τ) CursorScan := do
  let scan ← fetch sv env scan
  if scan.buffer.isEmpty then do
    let _ ← issue sv env (.finish scan.cursor) (scanFailure .finishFailed)
    pure { scan with state := .exhausted }
  else pure scan

def takeRow (scan : CursorScan) : Exchange (Client ρ τ) (Option Row) := do
  setScan { scan with buffer := scan.buffer.tail }
  pure scan.buffer.head?

def failScan (message : String) : Exchange (Client ρ τ) Unit :=
  .change fun c => { c with scan := c.scan.map fun scan => { scan with state := .failed message } }

def nextOf (sv : Server ρ) (env : Surroundings τ) (scan : CursorScan) :
    Exchange (Client ρ τ) (Option Row) :=
  match scan.state with
  | .failed message => Exchange.fail (.scanFailed (.alreadyFailed message) none)
  | .exhausted | .closed => pure none
  | .open =>
      if scan.buffer.isEmpty then do
        match ← Exchange.attempt (refill sv env scan) with
        | .ok scan => takeRow scan
        | .error e => do
            failScan e.message
            Exchange.fail e
      else takeRow scan

def nextRow (sv : Server ρ) (env : Surroundings τ) : Exchange (Client ρ τ) (Option Row) := do
  match ← Exchange.look Client.scan with
  | some scan => nextOf sv env scan
  | none => pure none

def closeScan (sv : Server ρ) (env : Surroundings τ) : Exchange (Client ρ τ) Unit := do
  match ← Exchange.look Client.scan with
  | none => pure ()
  | some scan => do
      setScan { scan with buffer := [], state := .closed }
      if scan.holdsTransaction then do
        let _ ← issue sv env .rollback (scanFailure .rollbackFailed)
        pure ()
      else pure ()

def dropScan (sv : Server ρ) (env : Surroundings τ) (working : Bool) : Exchange (Client ρ τ) Unit := do
  match ← Exchange.look Client.scan with
  | none => pure ()
  | some scan => do
      Exchange.change fun c => { c with scan := none }
      if !scan.holdsTransaction then pure ()
      else if working then do
        Exchange.note .debug "Split scan dropped while open, rolling back" [scan.cursorField]
        rollBack sv env
      else
        Exchange.note .warn "Split scan dropped outside a runtime, transaction left open"
          [scan.cursorField]

end Client

end SplitSnapshot
