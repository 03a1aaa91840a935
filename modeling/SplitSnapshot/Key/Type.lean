import SplitSnapshot.Json.Value
import SplitSnapshot.Power
import SplitSnapshot.Text.Ascii

namespace SplitSnapshot

inductive KeyType where
  | int16
  | int32
  | int64
  | numeric
  | float64
  | text
  | uuid
  | date
  | timestamp
  | timestampTz
  | bool
  | json
  | bytes
  deriving DecidableEq, Repr

namespace KeyType

def all : List KeyType :=
  [int16, int32, int64, numeric, float64, text, uuid, date, timestamp, timestampTz, bool, json, bytes]

def sqlName : KeyType → String
  | int16 => "int2"
  | int32 => "int4"
  | int64 => "int8"
  | numeric => "numeric"
  | float64 => "float8"
  | text => "text"
  | uuid => "uuid"
  | date => "date"
  | timestamp => "timestamp"
  | timestampTz => "timestamptz"
  | bool => "bool"
  | json => "jsonb"
  | bytes => "bytea"

def isComparable : KeyType → Bool
  | bool | json | bytes => false
  | _ => true

def catalogNames : KeyType → List String
  | int16 => ["smallint", "int2", "smallserial"]
  | int32 => ["integer", "int", "int4", "serial"]
  | int64 => ["bigint", "int8", "bigserial"]
  | numeric => ["numeric", "decimal"]
  | float64 => ["double precision", "float8", "real", "float4"]
  | text => ["text", "character varying", "varchar", "character", "char", "bpchar", "name"]
  | uuid => ["uuid"]
  | date => ["date"]
  | timestamp => ["timestamp without time zone", "timestamp"]
  | timestampTz => ["timestamp with time zone", "timestamptz"]
  | bool => ["boolean", "bool"]
  | json => ["json", "jsonb"]
  | bytes => ["bytea"]

def ofCatalogName? (name : String) : Option KeyType :=
  all.find? fun t => t.catalogNames.any (Text.sameIgnoringCase name)

def documentName : KeyType → String
  | int16 => "int16"
  | int32 => "int32"
  | int64 => "int64"
  | numeric => "numeric"
  | float64 => "float64"
  | text => "text"
  | uuid => "uuid"
  | date => "date"
  | timestamp => "timestamp"
  | timestampTz => "timestamp_tz"
  | bool => "bool"
  | json => "json"
  | bytes => "bytes"

def ofDocumentName? (name : String) : Option KeyType :=
  all.find? fun t => t.documentName == name

theorem ofDocumentName?_documentName (t : KeyType) : ofDocumentName? t.documentName = some t := by
  cases t <;> decide

def toJson (t : KeyType) : Json :=
  .text t.documentName

def ofJson? (v : Json) : Option KeyType :=
  (v.choice? Json.isNull).bind ofDocumentName?

theorem ofJson?_toJson (t : KeyType) : ofJson? t.toJson = some t :=
  ofDocumentName?_documentName t

def intRange : KeyType → Int × Int
  | int16 => (-pow2 15, pow2 15)
  | int32 => (-pow2 31, pow2 31)
  | _ => (-pow2 63, pow2 63)

end KeyType

end SplitSnapshot
