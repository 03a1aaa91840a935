import SplitSnapshot.Proofs.Key.Display
import SplitSnapshot.Proofs.Query.Meaning

namespace SplitSnapshot

namespace SqlSelect

variable {types : String → KeyType} {row : Json}

theorem foldr_and_eq_true_iff {truths : List SqlTruth} :
    truths.foldr SqlTruth.and (some true) = some true ↔ ∀ truth ∈ truths, truth = some true := by
  induction truths with
  | nil => simp
  | cons truth truths ih => rw [List.foldr_cons, SqlTruth.and_eq_true_iff, ih, List.forall_mem_cons]

theorem truth?_of_conditions {q : SqlSelect}
    (h : ∀ c ∈ q.conditions, (c.truth? types row).isSome = true) :
    (q.truth? types row).isSome = true ∧ (q.truth? types row = some (some true) ↔
      ∀ c ∈ q.conditions, c.truth? types row = some (some true)) := by
  have all {conditions : List SqlComparison}
      (h : ∀ c ∈ conditions, (c.truth? types row).isSome = true) :
      ∃ truths, conditions.mapM (fun c => c.truth? types row) = some truths ∧
        ((∀ truth ∈ truths, truth = some true) ↔
          ∀ c ∈ conditions, c.truth? types row = some (some true)) := by
    induction conditions with
    | nil => exact ⟨[], rfl, by simp⟩
    | cons c conditions ih =>
        obtain ⟨hc, hs⟩ := List.forall_mem_cons.1 h
        obtain ⟨truth, htruth⟩ := Option.isSome_iff_exists.1 hc
        obtain ⟨truths, htruths, iff⟩ := ih hs
        refine ⟨truth :: truths, ?_, ?_⟩
        · rw [List.mapM_cons, htruth, htruths]
          rfl
        · rw [List.forall_mem_cons, List.forall_mem_cons, iff, htruth, Option.some.injEq]
  obtain ⟨truths, htruths, iff⟩ := all h
  rw [truth?, htruths, Option.map_some, Option.some.injEq, foldr_and_eq_true_iff]
  exact ⟨rfl, iff⟩

end SqlSelect

namespace Split

variable {split : Split} {tables : TableMap StoredTable} {schema : TableSchema}
  {stored : StoredTable} {types : String → KeyType} {lower upper : Option Key} {bound : Key}
  {row : Json}

theorem atLeast_iff {key : Key} :
    (key.compare? bound).map SqlSign.atLeast.holds = some true ↔ atLeast key (some bound) = true := by
  rw [atLeast]
  cases key.compare? bound with
  | none => simp
  | some o => cases o <;> simp [SqlSign.holds]

theorem atMost_iff {key : Key} : (key.compare? bound).map split.upperSqlSign.holds = some true ↔
    atMost split.endInclusive key (some bound) = true := by
  rw [atMost, upperSqlSign]
  cases key.compare? bound with
  | none => simp
  | some o => cases o <;> cases split.endInclusive <;> simp [SqlSign.holds]

theorem truth?_sqlComparison (ht : split.keyType ≠ .float64)
    (typed : types split.keyColumn = split.keyType)
    (hk : KeysRead split.keyColumn split.keyType stored.rows) (hm : row ∈ stored.rows)
    (hb : ∃ v, split.keyType.readKey v = .ok bound) (sign : SqlSign) :
    (split.sqlComparison sign bound).truth? types row =
      some ((keyOf split.keyColumn split.keyType row).bind fun key =>
        (key.compare? bound).map sign.holds) := by
  obtain ⟨w, hw⟩ := hb
  have literal : split.keyType.readKey? (.text bound.display) = some bound :=
    KeyType.readKey?_display ht ((KeyType.readKey_eq_ok_iff _ _ _).1 hw)
  rw [keyOf, SqlComparison.truth?, sqlComparison, KeyType.ofSqlName?_sqlName]
  simp only [Option.bind_eq_bind, Option.bind_some, literal, typed]
  cases hp : row.present? split.keyColumn with
  | none => rfl
  | some v =>
      obtain ⟨key, hkey⟩ := hk row hm v hp
      -- both sides are of the split's type, so they have an order
      obtain ⟨m⟩ := KeyType.exists_measure ht
      obtain ⟨x, rfl⟩ := m.onto (KeyType.admits_of_readKey hkey)
      obtain ⟨y, rfl⟩ := m.onto (KeyType.admits_of_readKey hw)
      simp [(KeyType.readKey_eq_ok_iff _ _ _).1 hkey, m.compare?_key]

theorem exists_readKey_of_readBound {t : KeyType} {v : Option Json} {b : Option Key}
    (h : readBound t v = .ok b) : ∀ key ∈ b, ∃ v, t.readKey v = .ok key := by
  intro key hkey
  cases v with
  | none =>
      cases h
      cases hkey
  | some v =>
      obtain ⟨k, hk, rfl⟩ := readKey_of_readBound h
      cases hkey
      exact ⟨v, hk⟩

theorem forall_conditions {p : SqlComparison → Prop} :
    (∀ c ∈ (split.sqlSelect lower upper).conditions, p c) ↔
      (∀ b ∈ lower, p (split.sqlComparison .atLeast b)) ∧
        ∀ b ∈ upper, p (split.sqlComparison split.upperSqlSign b) := by
  simp [sqlSelect, or_imp, forall_and]

theorem truth?_sqlSelect (ht : split.keyType ≠ .float64) (typed : types split.keyColumn = split.keyType)
    (hk : KeysRead split.keyColumn split.keyType stored.rows) (hm : row ∈ stored.rows)
    (hl : split.lowerKey = .ok lower) (hu : split.upperKey = .ok upper) :
    ((split.sqlSelect lower upper).truth? types row).isSome = true ∧
      ((split.sqlSelect lower upper).truth? types row = some (some true) ↔
        split.selects lower upper (keyOf split.keyColumn split.keyType row) = true) := by
  have fromLower (b) (hb : b ∈ lower) := truth?_sqlComparison ht typed hk hm
    (exists_readKey_of_readBound hl b hb) .atLeast
  have toUpper (b) (hb : b ∈ upper) := truth?_sqlComparison ht typed hk hm
    (exists_readKey_of_readBound hu b hb) split.upperSqlSign
  have evaluates : ∀ c ∈ (split.sqlSelect lower upper).conditions,
      (c.truth? types row).isSome = true := by
    refine forall_conditions.2 ⟨fun b hb => ?_, fun b hb => ?_⟩
    · rw [fromLower b hb]
      rfl
    · rw [toUpper b hb]
      rfl
  obtain ⟨evaluated, selected⟩ := SqlSelect.truth?_of_conditions evaluates
  refine ⟨evaluated, selected.trans (forall_conditions.trans ?_)⟩
  cases hkey : keyOf split.keyColumn split.keyType row with
  | none =>
      -- null is neither above nor below a bound
      have unknown (b) (hb : b ∈ lower) :
          (split.sqlComparison .atLeast b).truth? types row ≠ some (some true) := by
        simp [fromLower b hb, hkey]
      have unknown' (b) (hb : b ∈ upper) :
          (split.sqlComparison split.upperSqlSign b).truth? types row ≠ some (some true) := by
        simp [toUpper b hb, hkey]
      cases lower <;> cases upper <;> simp_all [selects]
  | some key =>
      have below : (∀ b ∈ lower, (split.sqlComparison .atLeast b).truth? types row =
          some (some true)) ↔ atLeast key lower = true := by
        cases lower with
        | none => simp [atLeast]
        | some b => simp [fromLower b rfl, hkey, ← atLeast_iff]
      have above : (∀ b ∈ upper, (split.sqlComparison split.upperSqlSign b).truth? types row =
          some (some true)) ↔ atMost split.endInclusive key upper = true := by
        cases upper with
        | none => simp [atMost]
        | some b => simp [toUpper b rfl, hkey, ← atMost_iff]
      rw [below, above, selects, Bool.and_eq_true]

theorem yields_sqlSelect_iff (ht : split.keyType ≠ .float64)
    (typed : types split.keyColumn = split.keyType) (registered : tables.get? split.table = some stored)
    (hk : KeysRead split.keyColumn split.keyType stored.rows) (hl : split.lowerKey = .ok lower)
    (hu : split.upperKey = .ok upper) {rows : List Json} :
    (split.sqlSelect lower upper).Yields types tables rows ↔
      rows.Perm (split.scanned lower upper stored) ∧
        rows.Pairwise (RowsAscend split.keyColumn split.keyType) := by
  have truth (row) (hm : row ∈ stored.rows) := truth?_sqlSelect ht typed hk hm hl hu
  have rowsOf : stored.rows.filter (fun row =>
      (split.sqlSelect lower upper).truth? types row = some (some true)) =
      stored.rows.filter fun row =>
        split.selects lower upper (keyOf split.keyColumn split.keyType row) := by
    refine List.filter_congr fun row hm => ?_
    rw [Bool.eq_iff_iff, decide_eq_true_iff]
    exact (truth row hm).2
  have sorted : (split.scanned lower upper stored).Perm (stored.rows.filter fun row =>
      split.selects lower upper (keyOf split.keyColumn split.keyType row)) := sortBy_perm _ _
  constructor
  · rintro ⟨stored', registered', -, perm, ascends⟩
    obtain rfl : stored = stored' := Option.some.inj (registered.symm.trans registered')
    rw [rowsOf] at perm
    exact ⟨perm.trans sorted.symm, typed ▸ ascends⟩
  · rintro ⟨perm, ascends⟩
    refine ⟨stored, registered, fun row hm => (truth row hm).1, ?_, typed.symm ▸ ascends⟩
    rw [rowsOf]
    exact perm.trans sorted

theorem nulFree_of_texts (ht : split.keyType ≠ .float64)
    (names : ∀ name ∈ [split.table.schema, split.table.table, split.keyColumn],
      '\x00' ∉ name.toList)
    (bounds : ∀ s, split.lower = some (.text s) ∨ split.upper = some (.text s) →
      '\x00' ∉ s.toList) : split.NulFree := by
  have display {v : Option Json} {key : Key} (h : readBound split.keyType v = .ok (some key))
      (hv : ∀ s, v = some (.text s) → '\x00' ∉ s.toList) : '\x00' ∉ key.display.toList := by
    cases v with
    | none => cases h
    | some v =>
        obtain ⟨k, hk, heq⟩ := readKey_of_readBound h
        cases heq
        exact KeyType.nul_not_mem_display ht ((KeyType.readKey_eq_ok_iff _ _ _).1 hk)
          fun s hs => hv s (congrArg some hs)
  simp only [List.forall_mem_cons] at names
  exact ⟨names.1, names.2.1, names.2.2.1, fun key h => display h fun s hs => bounds s (.inl hs),
    fun key h => display h fun s hs => bounds s (.inr hs)⟩

/-- The query of a split selects the rows that a scan of the split in memory returns, in the same order
but for rows of equal key. -/
theorem query_selects_scan (split : Split) (types : String → KeyType) (tables : TableMap StoredTable)
    (schema : TableSchema) (stored : StoredTable) (valid : split.validate = .ok ())
    (names : ∀ name ∈ [split.table.schema, split.table.table, split.keyColumn],
      '\x00' ∉ name.toList)
    (bounds : ∀ s, split.lower = some (.text s) ∨ split.upper = some (.text s) →
      '\x00' ∉ s.toList)
    (ht : split.keyType ≠ .float64) (typed : types split.keyColumn = split.keyType)
    (registered : tables.get? split.table = some stored)
    (listed : (schema.column? split.keyColumn).isSome = true)
    (keys : KeysRead split.keyColumn split.keyType stored.rows) :
    ∃ query select scanned, ScanQuery.ofSplit split .all = .ok query ∧
      SqlSelect.read? query.sql = some select ∧
      (∀ fetchSize rows, split.Returns tables schema fetchSize rows ↔
        rows = scanned.map fun row =>
          (ColumnMapping.ofColumns stored.columns schema).place (stored.values row)) ∧
      select.Yields types tables scanned ∧
      ∀ yielded, select.Yields types tables yielded → yielded.Perm scanned ∧
        List.Forall₂ (RowsTie split.keyColumn split.keyType) yielded scanned := by
  obtain ⟨-, lower, upper, hl, hu⟩ := keys_of_validate valid
  have listless : ∀ s ∈ Selection.all.tokens.filterMap SqlToken.quoted?, '\x00' ∉ s.toList :=
    fun _ hm => nomatch hm
  obtain ⟨query, hquery⟩ :=
    ScanQuery.exists_ofSplit_iff.2 ⟨valid, nulFree_of_texts ht names bounds, listless⟩
  have yields (rows : List Json) :
      (split.sqlSelect lower upper).Yields types tables rows ↔
        rows.Perm (split.scanned lower upper stored) ∧
          rows.Pairwise (RowsAscend split.keyColumn split.keyType) :=
    yields_sqlSelect_iff ht typed registered keys hl hu
  refine ⟨query, split.sqlSelect lower upper, split.scanned lower upper stored, hquery,
    read?_of_ofSplit hquery hl hu, fun fetchSize rows => ?_, ?_, fun yielded h => ?_⟩
  · rw [returns_iff valid listed registered (scan_eq_scanned keys hl hu), List.map_map]
    rfl
  · exact (yields _).2 ⟨List.Perm.refl _, pairwise_rowsAscend _ ht _⟩
  · obtain ⟨perm, ascends⟩ := (yields _).1 h
    exact ⟨perm, forall₂_rowsTie _ ht perm ascends (pairwise_rowsAscend _ ht _)⟩

def quotedSplit : Split where
  splitId := "S1"
  table := .ofNames "we\x22ird" "o'rders"
  keyColumn := "\x22key\x22"
  keyType := .numeric
  lower := some (.text " +1.0")
  upper := some (.text "20")
  endInclusive := false

def quotedTable : StoredTable :=
  ⟨["\x22key\x22"], [.object [("\x22key\x22", .text "20.0")], .object [],
    .object [("\x22key\x22", .text " 3")], .object [("\x22key\x22", .text "1")]]⟩

def quotedSchema : TableSchema :=
  ⟨.ofNames "we\x22ird" "o'rders", [⟨"\x22key\x22", 1, "numeric", true⟩]⟩

theorem query_selects_scan_quoted :
    ∃ query select scanned, ScanQuery.ofSplit quotedSplit .all = .ok query ∧
      SqlSelect.read? query.sql = some select ∧
      (∀ fetchSize rows,
        quotedSplit.Returns (TableMap.empty.put quotedSplit.table quotedTable) quotedSchema fetchSize
          rows ↔ rows = scanned.map fun row =>
            (ColumnMapping.ofColumns quotedTable.columns quotedSchema).place
              (quotedTable.values row)) ∧
      select.Yields (fun _ => .numeric) (TableMap.empty.put quotedSplit.table quotedTable) scanned ∧
      ∀ yielded,
        select.Yields (fun _ => .numeric) (TableMap.empty.put quotedSplit.table quotedTable) yielded →
          yielded.Perm scanned ∧
            List.Forall₂ (RowsTie quotedSplit.keyColumn quotedSplit.keyType) yielded scanned := by
  refine query_selects_scan quotedSplit (fun _ => .numeric) _ quotedSchema quotedTable ?_ ?_ ?_ ?_ rfl
    (TableMap.get?_put_self _ _ _) rfl ?_
  · rfl
  · decide
  · rintro s (h | h)
    · cases h
      decide
    · cases h
      decide
  · decide
  · decide

end Split

end SplitSnapshot
