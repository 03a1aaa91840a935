import SplitSnapshot.Proofs.Key.Sorting
import SplitSnapshot.Proofs.Query.Statement

namespace SplitSnapshot

inductive SqlSign where
  | atLeast
  | atMost
  | below
  deriving DecidableEq, Repr

structure SqlComparison where
  column : String
  sign : SqlSign
  literal : String
  typeName : String
  deriving DecidableEq, Repr

structure SqlSelect where
  schema : String
  table : String
  conditions : List SqlComparison
  orderColumn : String
  deriving DecidableEq, Repr

namespace SqlSign

def ofToken? : SqlToken → Option SqlSign
  | .atLeast => some atLeast
  | .atMost => some atMost
  | .below => some below
  | _ => none

def holds : SqlSign → Ordering → Bool
  | atLeast, o => o.isGE
  | atMost, o => o.isLE
  | below, o => o.isLT

end SqlSign

namespace SqlSelect

def conditions? : List SqlToken → Option (List SqlComparison × List SqlToken)
  | .name column :: sign :: .literal text :: .cast :: .word typeName :: rest => do
      let sign ← SqlSign.ofToken? sign
      match rest with
      | .word "AND" :: more => do
          let (others, rest) ← conditions? more
          pure (⟨column, sign, text, typeName⟩ :: others, rest)
      | _ => pure ([⟨column, sign, text, typeName⟩], rest)
  | _ => none

def where? : List SqlToken → Option (List SqlComparison × List SqlToken)
  | .word "WHERE" :: rest => conditions? rest
  | rest => some ([], rest)

def ofTokens? : List SqlToken → Option SqlSelect
  | .word "SELECT" :: .star :: .word "FROM" :: .name schema :: .point :: .name table :: rest => do
      let (conditions, rest) ← where? rest
      match rest with
      | [.word "ORDER", .word "BY", .name column] => some ⟨schema, table, conditions, column⟩
      | _ => none
  | _ => none

def read? (text : String) : Option SqlSelect :=
  (SqlToken.lex text.toList).bind ofTokens?

end SqlSelect

namespace Split

variable {split : Split} {lower upper : Option Key}

def sqlComparison (split : Split) (sign : SqlSign) (bound : Key) : SqlComparison :=
  ⟨split.keyColumn, sign, bound.display, split.keyType.sqlName⟩

def upperSqlSign (split : Split) : SqlSign :=
  if split.endInclusive then .atMost else .below

def sqlSelect (split : Split) (lower upper : Option Key) : SqlSelect :=
  ⟨split.table.schema, split.table.table,
    (lower.map (split.sqlComparison .atLeast)).toList ++
      (upper.map (split.sqlComparison split.upperSqlSign)).toList,
    split.keyColumn⟩

theorem ofTokens?_statement : SqlSelect.ofTokens?
    (split.statement lower upper [.star] [.name split.keyColumn]) =
      some (split.sqlSelect lower upper) := by
  have sign : SqlSign.ofToken? (SqlToken.upperSign split.endInclusive) = some split.upperSqlSign := by
    rw [SqlToken.upperSign, upperSqlSign]
    split <;> rfl
  have atLeast : SqlSign.ofToken? .atLeast = some .atLeast := rfl
  cases lower <;> cases upper <;>
    simp [statement, condition, SqlToken.tableName, SqlToken.comparison, SqlSelect.ofTokens?, SqlSelect.where?,
      SqlSelect.conditions?, atLeast, sign, sqlSelect, sqlComparison]

theorem read?_of_ofSplit {q : ScanQuery} (h : ScanQuery.ofSplit split .all = .ok q)
    (hl : split.lowerKey = .ok lower) (hu : split.upperKey = .ok upper) :
    SqlSelect.read? q.sql = some (split.sqlSelect lower upper) := by
  obtain ⟨lo, hi, hl', hu', lexed⟩ := ScanQuery.readsAs_of_ofSplit h
  rw [hl] at hl'
  rw [hu] at hu'
  cases hl'
  cases hu'
  rw [SqlSelect.read?, lexed]
  exact ofTokens?_statement

end Split

/-- A truth value, unknown where there is none. -/
abbrev SqlTruth := Option Bool

def SqlTruth.and : SqlTruth → SqlTruth → SqlTruth
  | some true, some true => some true
  | some false, _ | _, some false => some false
  | _, _ => none

theorem SqlTruth.and_eq_true_iff {a b : SqlTruth} :
    a.and b = some true ↔ a = some true ∧ b = some true := by
  rcases a with _ | _ | _ <;> rcases b with _ | _ | _ <;> simp [SqlTruth.and]

def KeyType.ofSqlName? (name : String) : Option KeyType :=
  all.find? fun t => t.sqlName == name

theorem KeyType.ofSqlName?_sqlName (t : KeyType) : ofSqlName? t.sqlName = some t := by
  cases t <;> decide

def SqlComparison.truth? (types : String → KeyType) (c : SqlComparison) (row : Json) :
    Option SqlTruth := do
  let type ← KeyType.ofSqlName? c.typeName
  let bound ← type.readKey? (.text c.literal)
  match row.present? c.column with
  | none => pure none
  | some v => do
      let key ← (types c.column).readKey? v
      let order ← key.compare? bound
      pure (some (c.sign.holds order))

namespace SqlSelect

def truth? (types : String → KeyType) (q : SqlSelect) (row : Json) : Option SqlTruth :=
  (q.conditions.mapM fun c : SqlComparison => c.truth? types row).map fun truths =>
    truths.foldr SqlTruth.and (some true)

/-- Rows that the selection may have for its result: they are those in which its conditions are true, in
its order. Rows that tie stand in any order. -/
def Yields (types : String → KeyType) (tables : TableMap StoredTable) (q : SqlSelect)
    (rows : List Json) : Prop :=
  ∃ stored, tables.get? (.ofNames q.schema q.table) = some stored ∧
    (∀ row ∈ stored.rows, (q.truth? types row).isSome = true) ∧
    rows.Perm (stored.rows.filter fun row => q.truth? types row = some (some true)) ∧
    rows.Pairwise (RowsAscend q.orderColumn (types q.orderColumn))

end SqlSelect

end SplitSnapshot
