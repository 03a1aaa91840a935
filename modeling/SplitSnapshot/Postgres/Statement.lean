import SplitSnapshot.Postgres.ResultSet
import SplitSnapshot.Query.Scan

namespace SplitSnapshot

inductive Statement where
  | columns (table : TableId)
  | position
  | begin
  | declare (cursor : String) (query : ScanQuery)
  | fetch (cursor : String) (rows : Nat)
  | finish (cursor : String)
  | rollback
  | raw (sql : String)
  deriving DecidableEq, Repr

structure ColumnRow where
  name : String
  typeName : String
  nullable : String
  deriving DecidableEq, Repr

namespace Statement

def columnsText : String :=
  "SELECT column_name::text, data_type::text, is_nullable::text FROM information_schema.columns " ++
    "WHERE table_schema = $1 AND table_name = $2 ORDER BY ordinal_position"

def sql : Statement → String
  | columns _ => columnsText
  | position => "SELECT pg_current_wal_lsn()::text"
  | begin => "BEGIN READ ONLY"
  | declare cursor query =>
      "DECLARE " ++ Quoting.identifier cursor ++ " NO SCROLL CURSOR FOR " ++ query.sql
  | fetch cursor rows =>
      "FETCH FORWARD " ++ toString rows ++ " FROM " ++ Quoting.identifier cursor
  | finish cursor => "CLOSE " ++ Quoting.identifier cursor ++ "; COMMIT"
  | rollback => "ROLLBACK"
  | raw sql => sql

def parameters : Statement → Option (List String)
  | columns table => some [table.schema, table.table]
  | _ => none

def Reply : Statement → Type
  | columns _ => List ColumnRow
  | position => List (Option String)
  | fetch _ _ => ResultSet
  | _ => Unit

def isEncodable (s : Statement) : Bool :=
  !s.sql.toList.contains '\x00'

end Statement

end SplitSnapshot
