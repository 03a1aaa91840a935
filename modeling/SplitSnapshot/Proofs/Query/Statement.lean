import SplitSnapshot.Proofs.Query.Lexing
import SplitSnapshot.Proofs.Split.Bounds
import SplitSnapshot.Query.Scan

namespace SplitSnapshot

structure ByPosition (columns listed : List ColumnDef) : Prop where
  perm : listed.Perm columns
  ascending : listed.Pairwise fun a b => a.position ≤ b.position
  stable : ∀ n, listed.filter (fun c => c.position = n) = columns.filter fun c => c.position = n

theorem TableSchema.byPosition_ordered (schema : TableSchema) :
    ByPosition schema.columns schema.ordered where
  perm := sortBy_perm _ _
  ascending := by
    have total (x y : ColumnDef) :
        decide (x.position ≤ y.position) = true ∨ decide (y.position ≤ x.position) = true := by
      simpa using Nat.le_total x.position y.position
    have trans (x y z : ColumnDef) (hxy : decide (x.position ≤ y.position) = true)
        (hyz : decide (y.position ≤ z.position) = true) :
        decide (x.position ≤ z.position) = true :=
      decide_eq_true (Nat.le_trans (of_decide_eq_true hxy) (of_decide_eq_true hyz))
    exact (pairwise_sortBy total trans schema.columns).imp of_decide_eq_true
  stable n := by
    refine filter_sortBy fun x _ y _ hx hy => ?_
    simp only [decide_eq_true_eq] at *
    omega

namespace Selection

theorem isWellFormed_column (item : String × Bool) :
    ∀ t ∈ column item, t.isWellFormed = true := by
  obtain ⟨name, cast⟩ := item
  cases cast with
  | false => exact List.forall_mem_singleton.2 rfl
  | true =>
      have words : SqlToken.isWord "text" = true ∧ SqlToken.isWord "AS" = true := by decide
      simp [column, SqlToken.isWellFormed, words]

theorem isWellFormed_tokens (selection : Selection) :
    ∀ t ∈ selection.tokens, t.isWellFormed = true := by
  cases selection with
  | all => exact List.forall_mem_cons.2 ⟨rfl, fun _ hm => nomatch hm⟩
  | columns items =>
      rw [tokens]
      induction items with
      | nil => exact fun _ hm => nomatch hm
      | cons item items ih =>
          cases items with
          | nil => simpa [List.intercalate_singleton] using isWellFormed_column item
          | cons next items =>
              rw [List.map_cons, List.map_cons, List.intercalate_cons_cons]
              refine List.forall_mem_append.2 ⟨List.forall_mem_append.2 ⟨isWellFormed_column item, ?_⟩, ih⟩
              exact List.forall_mem_cons.2 ⟨rfl, fun _ hm => nomatch hm⟩

theorem mem_quoted_columns {items : List (String × Bool)} {s : String} :
    s ∈ (columns items).tokens.filterMap SqlToken.quoted? ↔ s ∈ items.map Prod.fst := by
  have column (item : String × Bool) : s ∈ (column item).filterMap SqlToken.quoted? ↔ s = item.1 := by
    rcases item with ⟨name, cast⟩
    cases cast <;> simp [Selection.column, SqlToken.quoted?, eq_comm]
  rw [tokens]
  induction items with
  | nil => simp
  | cons item items ih =>
      cases items with
      | nil => simp [List.intercalate_singleton, column]
      | cons next items =>
          rw [List.map_cons, List.map_cons, List.intercalate_cons_cons, List.filterMap_append,
            List.filterMap_append, List.mem_append, List.mem_append, column]
          rw [List.map_cons] at ih
          simp [ih, SqlToken.quoted?]

theorem ofSchema_of_eq_nil {schema : TableSchema} (h : schema.columns = [])
    (asText : ColumnDef → Bool) : ofSchema schema asText = .all := by
  simp [ofSchema, h]

theorem ofSchema_of_ne_nil {schema : TableSchema} (h : schema.columns ≠ [])
    (asText : ColumnDef → Bool) :
    ofSchema schema asText = .columns (schema.ordered.map fun c => (c.name, asText c)) := by
  simp [ofSchema, h]

theorem isWellFormed_orderKey (selection : Selection) (table : TableId) (key : String) :
    ∀ t ∈ selection.orderKey table key, t.isWellFormed = true := by
  cases selection <;> simp [orderKey, SqlToken.tableName, SqlToken.isWellFormed]

theorem quoted_orderKey (selection : Selection) (table : TableId) (key : String) :
    key ∈ (selection.orderKey table key).filterMap SqlToken.quoted? ∧
      ∀ s ∈ (selection.orderKey table key).filterMap SqlToken.quoted?,
        s ∈ [table.schema, table.table, key] := by
  cases selection with
  | all => exact ⟨List.mem_singleton.2 rfl, fun s hs => List.mem_append_right [_, _] hs⟩
  | columns items =>
      have quoted : (orderKey table key (columns items)).filterMap SqlToken.quoted? =
          [table.schema, table.table, key] := rfl
      rw [quoted]
      exact ⟨by simp, fun s hs => hs⟩

end Selection

namespace SqlToken

theorem isWellFormed_comparison (column : String) (type : KeyType) {sign : SqlToken}
    (h : sign.isWellFormed = true) (bound : Key) :
    ∀ t ∈ comparison column type sign bound, t.isWellFormed = true := by
  have typeName : isWord type.sqlName = true := by
    cases type <;> decide
  simp only [comparison, List.forall_mem_cons]
  exact ⟨rfl, h, rfl, rfl, typeName, fun _ hm => nomatch hm⟩

theorem isWellFormed_upperSign (inclusive : Bool) : (upperSign inclusive).isWellFormed = true := by
  cases inclusive <;> rfl

theorem quoted_comparison (column : String) (type : KeyType) {sign : SqlToken}
    (h : sign.quoted? = none) (bound : Key) :
    (comparison column type sign bound).filterMap quoted? = [column, bound.display] := by
  simp only [comparison, List.filterMap_cons, h]
  rfl

theorem quoted?_upperSign (inclusive : Bool) : (upperSign inclusive).quoted? = none := by
  cases inclusive <;> rfl

end SqlToken

namespace Split

variable {split : Split} {lower upper : Option Key} {list order : List SqlToken}

def condition (split : Split) (lower upper : Option Key) : List SqlToken :=
  let compared := SqlToken.comparison split.keyColumn split.keyType
  let upperSign := SqlToken.upperSign split.endInclusive
  match lower, upper with
  | none, none => []
  | some lower, none => .word "WHERE" :: compared .atLeast lower
  | none, some upper => .word "WHERE" :: compared upperSign upper
  | some lower, some upper =>
      .word "WHERE" :: compared .atLeast lower ++ .word "AND" :: compared upperSign upper

def statement (split : Split) (lower upper : Option Key) (list order : List SqlToken) :
    List SqlToken :=
  .word "SELECT" :: list ++ .word "FROM" :: SqlToken.tableName split.table ++
    split.condition lower upper ++ .word "ORDER" :: .word "BY" :: order

structure NulFree (split : Split) : Prop where
  schema : '\x00' ∉ split.table.schema.toList
  table : '\x00' ∉ split.table.table.toList
  keyColumn : '\x00' ∉ split.keyColumn.toList
  lower : ∀ key, split.lowerKey = .ok (some key) → '\x00' ∉ key.display.toList
  upper : ∀ key, split.upperKey = .ok (some key) → '\x00' ∉ key.display.toList

theorem isWellFormed_condition :
    ∀ t ∈ split.condition lower upper, t.isWellFormed = true := by
  have words : SqlToken.isWord "WHERE" = true ∧ SqlToken.isWord "AND" = true := by decide
  have fromLower := SqlToken.isWellFormed_comparison split.keyColumn split.keyType
    (rfl : SqlToken.atLeast.isWellFormed = true)
  have toUpper := SqlToken.isWellFormed_comparison split.keyColumn split.keyType
    (SqlToken.isWellFormed_upperSign split.endInclusive)
  cases lower with
  | none =>
      cases upper with
      | none => exact fun _ hm => nomatch hm
      | some hi => exact List.forall_mem_cons.2 ⟨words.1, toUpper hi⟩
  | some lo =>
      cases upper with
      | none => exact List.forall_mem_cons.2 ⟨words.1, fromLower lo⟩
      | some hi =>
          refine List.forall_mem_append.2 ⟨List.forall_mem_cons.2 ⟨words.1, fromLower lo⟩, ?_⟩
          exact List.forall_mem_cons.2 ⟨words.2, toUpper hi⟩

theorem isWellFormed_statement (hl : ∀ t ∈ list, t.isWellFormed = true)
    (ho : ∀ t ∈ order, t.isWellFormed = true) :
    ∀ t ∈ split.statement lower upper list order, t.isWellFormed = true := by
  have words : ∀ w ∈ ["SELECT", "FROM", "ORDER", "BY"], SqlToken.isWord w = true := by decide
  simp only [List.forall_mem_cons] at words
  simp only [statement, SqlToken.tableName, List.forall_mem_append, List.forall_mem_cons]
  refine ⟨⟨⟨⟨words.1, hl⟩, words.2.1, rfl, rfl, rfl, fun _ hm => nomatch hm⟩, isWellFormed_condition⟩,
    words.2.2.1, words.2.2.2.1, ho⟩

theorem quoted_condition : (split.condition lower upper).filterMap SqlToken.quoted? =
    (lower.toList ++ upper.toList).flatMap fun key => [split.keyColumn, key.display] := by
  have word (w : String) : (SqlToken.word w).quoted? = none := rfl
  have sign : SqlToken.atLeast.quoted? = none := rfl
  cases lower <;> cases upper <;>
    simp [condition, word, SqlToken.quoted_comparison, sign, SqlToken.quoted?_upperSign]

theorem quoted_statement : (split.statement lower upper list order).filterMap SqlToken.quoted? =
    list.filterMap SqlToken.quoted? ++ [split.table.schema, split.table.table] ++
      ((lower.toList ++ upper.toList).flatMap fun key => [split.keyColumn, key.display]) ++
      order.filterMap SqlToken.quoted? := by
  rw [statement, List.filterMap_append, List.filterMap_append, List.filterMap_append,
    quoted_condition]
  rfl

theorem nul_not_mem_statement (hlower : split.lowerKey = .ok lower) (hupper : split.upperKey = .ok upper)
    (hl : ∀ t ∈ list, t.isWellFormed = true) (ho : ∀ t ∈ order, t.isWellFormed = true)
    (key : split.keyColumn ∈ order.filterMap SqlToken.quoted?)
    (only : ∀ s ∈ order.filterMap SqlToken.quoted?,
      s ∈ [split.table.schema, split.table.table, split.keyColumn]) :
    '\x00' ∉ SqlToken.line (split.statement lower upper list order) ↔
      split.NulFree ∧ ∀ s ∈ list.filterMap SqlToken.quoted?, '\x00' ∉ s.toList := by
  rw [SqlToken.nul_mem_line (isWellFormed_statement hl ho), quoted_statement]
  simp only [not_exists, not_and, List.forall_mem_append]
  constructor
  · rintro ⟨⟨⟨listed, table⟩, bounds⟩, ordered⟩
    rw [List.forall_mem_cons, List.forall_mem_singleton] at table
    refine ⟨⟨table.1, table.2, ordered _ key, fun k hk => ?_, fun k hk => ?_⟩, listed⟩
    · rw [hlower] at hk
      cases hk
      exact bounds _ (by simp)
    · rw [hupper] at hk
      cases hk
      exact bounds _ (by simp)
  · rintro ⟨free, listed⟩
    have names : ∀ s ∈ [split.table.schema, split.table.table, split.keyColumn],
        '\x00' ∉ s.toList := by
      simp [free.schema, free.table, free.keyColumn]
    refine ⟨⟨⟨listed, fun s hs => names s (List.mem_append_left [_] hs)⟩, ?_⟩, fun s hs => names s (only s hs)⟩
    intro s hs
    obtain ⟨k, hk, hs⟩ := List.mem_flatMap.1 hs
    rw [List.mem_cons, List.mem_singleton] at hs
    rcases hs with rfl | rfl
    · exact free.keyColumn
    · rcases List.mem_append.1 hk with hk | hk
      · exact free.lower k (by rw [hlower, Option.mem_toList.1 hk])
      · exact free.upper k (by rw [hupper, Option.mem_toList.1 hk])

end Split

namespace ScanQuery

variable {split : Split} {selection : Selection} {q : ScanQuery}

theorem ofSplit_eq_ok_iff : ofSplit split selection = .ok q ↔ split.validate = .ok () ∧
    ∃ lower upper, split.lowerKey = .ok lower ∧ split.upperKey = .ok upper ∧
      q = ⟨selection, split.table, split.keyColumn, split.keyType, lower, upper, split.endInclusive⟩ ∧
      '\x00' ∉ q.chars := by
  constructor
  · intro h
    obtain ⟨_, valid, h⟩ := exists_ok_of_bind h
    obtain ⟨lower, hl, h⟩ := exists_ok_of_bind h
    obtain ⟨upper, hu, h⟩ := exists_ok_of_bind h
    refine ⟨valid, lower, upper, hl, hu, ?_⟩
    simp only at h
    split at h
    · cases h
    · rename_i free
      cases h
      exact ⟨rfl, by simpa using free⟩
  · rintro ⟨valid, lower, upper, hl, hu, rfl, free⟩
    simp [ofSplit, valid, hl, hu, bind, Except.bind, pure, Except.pure, free]

theorem tokens_eq_statement (split : Split) (selection : Selection) (lower upper : Option Key) :
    (⟨selection, split.table, split.keyColumn, split.keyType, lower, upper, split.endInclusive⟩ :
        ScanQuery).tokens =
      split.statement lower upper selection.tokens (selection.orderKey split.table split.keyColumn) := by
  cases selection <;> cases lower <;> cases upper <;> rfl

theorem isWellFormed_tokens (split : Split) (selection : Selection) (lower upper : Option Key) :
    ∀ t ∈ split.statement lower upper selection.tokens (selection.orderKey split.table split.keyColumn),
      t.isWellFormed = true :=
  split.isWellFormed_statement selection.isWellFormed_tokens (selection.isWellFormed_orderKey _ _)

def ReadsAs (q : ScanQuery) (split : Split) (list order : List SqlToken) : Prop :=
  ∃ lower upper, split.lowerKey = .ok lower ∧ split.upperKey = .ok upper ∧
    SqlToken.lex q.sql.toList = some (split.statement lower upper list order)

theorem readsAs_of_ofSplit (h : ofSplit split selection = .ok q) :
    q.ReadsAs split selection.tokens (selection.orderKey split.table split.keyColumn) := by
  obtain ⟨-, lower, upper, hl, hu, rfl, -⟩ := ofSplit_eq_ok_iff.1 h
  refine ⟨lower, upper, hl, hu, ?_⟩
  rw [sql, String.toList_ofList, chars, tokens_eq_statement]
  exact SqlToken.lex_line (isWellFormed_tokens split selection lower upper)

theorem exists_ofSplit_iff : (∃ q, ofSplit split selection = .ok q) ↔
    split.validate = .ok () ∧ split.NulFree ∧
      ∀ s ∈ selection.tokens.filterMap SqlToken.quoted?, '\x00' ∉ s.toList := by
  obtain ⟨key, quoted⟩ := selection.quoted_orderKey split.table split.keyColumn
  have free {lower upper : Option Key} (hl : split.lowerKey = .ok lower)
      (hu : split.upperKey = .ok upper) := Split.nul_not_mem_statement hl hu
    selection.isWellFormed_tokens (selection.isWellFormed_orderKey _ _) key quoted
  constructor
  · rintro ⟨q, h⟩
    obtain ⟨valid, lower, upper, hl, hu, rfl, hn⟩ := ofSplit_eq_ok_iff.1 h
    rw [chars, tokens_eq_statement, free hl hu] at hn
    exact ⟨valid, hn⟩
  · rintro ⟨valid, hn⟩
    obtain ⟨-, lower, upper, hl, hu⟩ := Split.keys_of_validate valid
    refine ⟨_, ofSplit_eq_ok_iff.2 ⟨valid, lower, upper, hl, hu, rfl, ?_⟩⟩
    rw [chars, tokens_eq_statement, free hl hu]
    exact hn

/-- A split has a query just where it is valid and neither its names and bounds nor the listed columns
hold a zero character. The text of the query is read as the words and signs that were meant, and each
name and each bound in it as it was given, whatever quotes stand in them. -/
theorem ofSplit_keepsQuotes (split : Split) (schema : TableSchema) (asText : ColumnDef → Bool) :
    ((∃ q, ofSplit split .all = .ok q) ↔ split.validate = .ok () ∧ split.NulFree) ∧
    ((∃ q, ofSplit split (.ofSchema schema asText) = .ok q) ↔
      split.validate = .ok () ∧ split.NulFree ∧ ∀ c ∈ schema.columns, '\x00' ∉ c.name.toList) ∧
    (∀ q, ofSplit split .all = .ok q → q.ReadsAs split [.star] [.name split.keyColumn]) ∧
    ∀ q, ofSplit split (.ofSchema schema asText) = .ok q →
      (schema.columns = [] → q.ReadsAs split [.star] [.name split.keyColumn]) ∧
      (schema.columns ≠ [] → ∃ columns, ByPosition schema.columns columns ∧
        q.ReadsAs split
          (List.intercalate [.comma] (columns.map fun c => Selection.column (c.name, asText c)))
          [.name split.table.schema, .point, .name split.table.table, .point,
            .name split.keyColumn]) := by
  refine ⟨?_, ?_, fun q h => readsAs_of_ofSplit h, fun q h => ⟨fun none => ?_, fun some => ?_⟩⟩
  · rw [exists_ofSplit_iff]
    simp [Selection.tokens, SqlToken.quoted?]
  · rw [exists_ofSplit_iff]
    by_cases none : schema.columns = []
    · rw [Selection.ofSchema_of_eq_nil none]
      simp [Selection.tokens, SqlToken.quoted?, none]
    · rw [Selection.ofSchema_of_ne_nil none]
      simp only [Selection.mem_quoted_columns, List.forall_mem_map,
        schema.byPosition_ordered.perm.mem_iff]
  · rw [Selection.ofSchema_of_eq_nil none] at h
    exact readsAs_of_ofSplit h
  · rw [Selection.ofSchema_of_ne_nil some] at h
    have read := readsAs_of_ofSplit h
    rw [Selection.tokens, List.map_map] at read
    exact ⟨schema.ordered, schema.byPosition_ordered, read⟩

end ScanQuery

end SplitSnapshot
