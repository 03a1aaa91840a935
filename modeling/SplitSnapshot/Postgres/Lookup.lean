import SplitSnapshot.Postgres.Client

namespace SplitSnapshot

namespace Client

variable {ρ τ : Type}

def positionOf : List (Option String) → Except ReadError Lsn
  | [some text] =>
      match Lsn.read? text with
      | some p => .ok p
      | none => .error (.sourceUnavailable .unparseable (some (.position text)))
  | [none] => .error (.sourceUnavailable .unreadable (some (.client (.column 0))))
  | _ => .error (.sourceUnavailable .queryFailed (some (.client .rowCount)))

def position (sv : Server ρ) (env : Surroundings τ) : Exchange (Client ρ τ) Lsn := do
  let rows ← issue sv env .position fun e => .sourceUnavailable .queryFailed (some (.client e))
  let p ← Exchange.ofExcept (positionOf rows)
  Exchange.note .debug ("PostgreSQL watermark (WAL LSN): " ++ p.text) []
  pure p

def schemaOf (table : TableId) (rows : List ColumnRow) : TableSchema :=
  .numbered table.withoutCatalog
    (rows.map fun r => (r.name, r.typeName, Text.sameIgnoringCase r.nullable "YES"))

def tableSchema (sv : Server ρ) (env : Surroundings τ) (table : TableId) :
    Exchange (Client ρ τ) TableSchema := do
  let rows ← issue sv env (.columns table) fun e => .schema (.columnsUnavailable table e)
  if rows.isEmpty then Exchange.fail (.schema (.unknownTable table))
  else do
    let schema := schemaOf table rows
    Exchange.note .debug "Resolved table schema"
      [("table", table.text), ("columns", toString schema.columns.length)]
    pure schema

end Client

end SplitSnapshot
