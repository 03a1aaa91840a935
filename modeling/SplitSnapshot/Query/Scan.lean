import SplitSnapshot.Query.Token
import SplitSnapshot.Split
import SplitSnapshot.Table.Schema

namespace SplitSnapshot

inductive Selection where
  | all
  | columns (items : List (String × Bool))
  deriving DecidableEq, Repr

structure ScanQuery where
  selection : Selection
  table : TableId
  keyColumn : String
  keyType : KeyType
  lower : Option Key
  upper : Option Key
  endInclusive : Bool
  deriving DecidableEq, Repr

namespace SqlToken

def tableName (table : TableId) : List SqlToken :=
  [.name table.schema, .point, .name table.table]

def comparison (column : String) (type : KeyType) (sign : SqlToken) (key : Key) : List SqlToken :=
  [.name column, sign, .literal key.display, .cast, .word type.sqlName]

def upperSign (inclusive : Bool) : SqlToken :=
  if inclusive then atMost else below

end SqlToken

namespace Selection

def column : String × Bool → List SqlToken
  | (name, true) => [.name name, .cast, .word "text", .word "AS", .name name]
  | (name, false) => [.name name]

def tokens : Selection → List SqlToken
  | all => [.star]
  | columns items => List.intercalate [.comma] (items.map column)

def orderKey (table : TableId) (key : String) : Selection → List SqlToken
  | all => [.name key]
  | columns _ => SqlToken.tableName table ++ [.point, .name key]

def ofSchema (schema : TableSchema) (asText : ColumnDef → Bool) : Selection :=
  if schema.columns.isEmpty then all
  else columns (schema.ordered.map fun c => (c.name, asText c))

end Selection

namespace ScanQuery

def comparisons (q : ScanQuery) : List (List SqlToken) :=
  let compared := SqlToken.comparison q.keyColumn q.keyType
  (q.lower.map (compared .atLeast)).toList ++
    (q.upper.map (compared (SqlToken.upperSign q.endInclusive))).toList

def condition (q : ScanQuery) : List SqlToken :=
  if q.comparisons.isEmpty then []
  else .word "WHERE" :: List.intercalate [.word "AND"] q.comparisons

def tokens (q : ScanQuery) : List SqlToken :=
  .word "SELECT" :: q.selection.tokens ++ .word "FROM" :: SqlToken.tableName q.table ++ q.condition ++
    .word "ORDER" :: .word "BY" :: q.selection.orderKey q.table q.keyColumn

def chars (q : ScanQuery) : List Char :=
  SqlToken.line q.tokens

def sql (q : ScanQuery) : String :=
  String.ofList q.chars

def ofSplit (split : Split) (selection : Selection) : Except QueryFault ScanQuery := do
  split.validate
  let lower ← split.lowerKey
  let upper ← split.upperKey
  let q : ScanQuery := ⟨selection, split.table, split.keyColumn, split.keyType, lower, upper,
    split.endInclusive⟩
  if q.chars.contains '\x00' then throw .nulInQuery else pure q

end ScanQuery

end SplitSnapshot
