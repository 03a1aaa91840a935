import SplitSnapshot.Proofs.Key.Sorting
import SplitSnapshot.Proofs.Memory.Scan
import SplitSnapshot.Proofs.Table.Placement

namespace SplitSnapshot

open Std

namespace TableScan

def after : Nat → TableScan → TableScan
  | 0, s => s
  | n + 1, s => after n s.next.2.2

theorem rows_after (n : Nat) (s : TableScan) : (after n s).rows = s.rows.drop n := by
  induction n generalizing s with
  | zero => rfl
  | succ n ih => rw [after, ih, rows_next, List.drop_tail]

theorem next_after (n : Nat) (s : TableScan) : (after n s).next.1 = s.rows[n]? := by
  rw [next_fst, rows_after, List.head?_drop]

end TableScan

namespace StoredTable

def fieldAt (t : StoredTable) (schema : TableSchema) (row : Json) (j : Nat) : Json :=
  ((t.columns.reverse.find? fun c => ColumnMapping.target? schema c = some j).bind row.field?).getD .null

def placed (t : StoredTable) (schema : TableSchema) (row : Json) : Row :=
  ⟨(List.range schema.width).map (t.fieldAt schema row)⟩

theorem place_values (t : StoredTable) (schema : TableSchema) (row : Json) :
    (ColumnMapping.ofColumns t.columns schema).place (t.values row) = t.placed schema row := by
  have at_place (j : Nat) :
      ColumnMapping.lastAt ((t.values row).zip (t.columns.map (ColumnMapping.target? schema))) j =
        t.fieldAt schema row j := by
    rw [ColumnMapping.lastAt, values, List.zip_map', ← List.map_reverse, List.find?_map, fieldAt]
    have same : ((fun d : Json × Option Nat => decide (d.2 = some j)) ∘ fun c =>
        ((row.field? c).getD .null, ColumnMapping.target? schema c)) =
          fun c => decide (ColumnMapping.target? schema c = some j) := rfl
    rw [same]
    cases t.columns.reverse.find? fun c => ColumnMapping.target? schema c = some j <;> rfl
  rw [ColumnMapping.place_ofColumns, placed, Row.mk.injEq]
  exact List.map_congr_left fun j _ => at_place j

end StoredTable

namespace Split

variable {split : Split} {stored : StoredTable} {lower upper : Option Key} {row : Json}

def covers (split : Split) (row : Json) : Bool :=
  match keyOf split.keyColumn split.keyType row with
  | some key => (split.contains key matches .ok true)
  | none => split.isUnbounded

theorem covers_eq (hl : split.lowerKey = .ok lower) (hu : split.upperKey = .ok upper) :
    split.covers row = split.selects lower upper (keyOf split.keyColumn split.keyType row) := by
  rw [covers]
  cases keyOf split.keyColumn split.keyType row with
  | some key =>
      simp only [contains_eq_ok hl hu key, selects]
      cases atLeast key lower && atMost split.endInclusive key upper <;> rfl
  | none =>
      have unbounded := includes_eq_selects hl hu none
      exact Except.ok.inj unbounded

structure Ranges (split : Split) (rows scanned : List Json) : Prop where
  perm : scanned.Perm (rows.filter split.covers)
  ascends : scanned.Pairwise (RowsAscend split.keyColumn split.keyType)
  stable : ∀ row, scanned.filter (RowsTie split.keyColumn split.keyType row) =
    (rows.filter split.covers).filter (RowsTie split.keyColumn split.keyType row)

theorem keyOrder_of_ties (ht : split.keyType ≠ .float64) {a b : Json}
    (ha : RowsTie split.keyColumn split.keyType row a)
    (hb : RowsTie split.keyColumn split.keyType row b) :
    keyOrder (keyOf split.keyColumn split.keyType a) (keyOf split.keyColumn split.keyType b) = true := by
  obtain ⟨m⟩ := KeyType.exists_measure ht
  obtain ⟨f, hf⟩ := m.exists_keyOf split.keyColumn
  rw [rowsTie_iff split.keyColumn hf] at ha hb
  have tie : nullsLast m.cmp (f a) (f b) = .eq := TransCmp.eq_trans (OrientedCmp.eq_symm ha) hb
  rw [hf, hf, m.keyOrder_eq, tie]
  rfl

theorem ranges_scanned (ht : split.keyType ≠ .float64) (hl : split.lowerKey = .ok lower)
    (hu : split.upperKey = .ok upper) :
    split.Ranges stored.rows (split.scanned lower upper stored) := by
  have covered : (stored.rows.filter fun row =>
      split.selects lower upper (keyOf split.keyColumn split.keyType row)) =
        stored.rows.filter split.covers :=
    List.filter_congr fun row _ => (covers_eq hl hu).symm
  rw [scanned, covered]
  refine ⟨sortBy_perm _ _, pairwise_rowsAscend _ ht _, ?_⟩
  intro row
  apply filter_sortBy
  intro a _ b _ ha hb
  exact keyOrder_of_ties ht (of_decide_eq_true ha) (of_decide_eq_true hb)

theorem ranges_iff (ht : split.keyType ≠ .float64) (hl : split.lowerKey = .ok lower)
    (hu : split.upperKey = .ok upper) {rows : List Json} :
    split.Ranges stored.rows rows ↔ rows = split.scanned lower upper stored := by
  have scanned : split.Ranges stored.rows (split.scanned lower upper stored) :=
    ranges_scanned ht hl hu
  constructor
  · intro h
    apply eq_of_perm_of_rowsTie split.keyColumn ht (h.perm.trans scanned.perm.symm) h.ascends
      scanned.ascends
    intro row
    rw [h.stable, scanned.stable]
  · rintro rfl
    exact scanned

theorem scan_fails (hl : split.lowerKey = .ok lower) (hu : split.upperKey = .ok upper)
    (h : ¬ KeysRead split.keyColumn split.keyType stored.rows) :
    ∃ fault, stored.scan split = .error (.scanFailed fault none) := by
  have fails (row : Json) (e : ReadError) (he : stored.select split row = .error e) :
      ∃ fault, e = .scanFailed fault none := by
    rw [StoredTable.select] at he
    cases hk : split.rowKey row with
    | error fault =>
        rw [hk] at he
        cases he
        exact ⟨_, rfl⟩
    | ok key =>
        rw [hk] at he
        simp [includes_eq_selects hl hu, bind, Except.bind, pure, Except.pure] at he
  simp only [KeysRead, not_forall] at h
  obtain ⟨row, hm, v, hv, unread⟩ := h
  have fault : ∃ e, stored.select split row = .error e := by
    cases hk : split.keyType.readKey v with
    | ok key => exact absurd ⟨key, hk⟩ unread
    | error fault =>
        refine ⟨.scanFailed (.invalidRowKey fault) none, ?_⟩
        simp [StoredTable.select, rowKey, hv, hk, Except.map, bind, Except.bind]
  obtain ⟨e, ⟨fault, rfl⟩, hs⟩ := exists_mapM_eq_error (fun row _ e he => fails row e he) hm fault
  refine ⟨fault, ?_⟩
  rw [StoredTable.scan, hs]
  rfl

end Split

namespace TableScan

variable {tables : TableMap StoredTable} {split : Split} {schema : TableSchema} {stored : StoredTable}

theorem open?_refused (h : split.validate ≠ .ok () ∨ schema.column? split.keyColumn = none)
    (fetchSize : Nat) :
    ∃ fault, open? tables split schema fetchSize = .error (.queryConstruction fault) := by
  cases hv : split.validate with
  | error fault =>
      refine ⟨fault, ?_⟩
      rw [open?, hv]
      rfl
  | ok _ =>
      have unlisted := h.resolve_left (not_not_intro hv)
      refine ⟨.unknownKeyColumn split.keyColumn split.table, ?_⟩
      rw [open?, hv, unlisted]
      rfl

theorem open?_fails (valid : split.validate = .ok ())
    (listed : (schema.column? split.keyColumn).isSome = true)
    (h : tables.get? split.table = none ∨ ∃ stored, tables.get? split.table = some stored ∧
      ¬ Split.KeysRead split.keyColumn split.keyType stored.rows) (fetchSize : Nat) :
    ∃ fault, open? tables split schema fetchSize = .error (.scanFailed fault none) := by
  obtain ⟨-, lower, upper, hl, hu⟩ := Split.keys_of_validate valid
  rw [open?_eq valid listed]
  rcases h with unknown | ⟨stored, registered, unread⟩
  · rw [unknown]
    exact ⟨_, rfl⟩
  · obtain ⟨fault, hs⟩ := Split.scan_fails hl hu unread
    rw [registered]
    exact ⟨fault, by simp [hs, Except.map]⟩

theorem open?_hands (ht : split.keyType ≠ .float64) (valid : split.validate = .ok ())
    (listed : (schema.column? split.keyColumn).isSome = true)
    (registered : tables.get? split.table = some stored)
    (keys : Split.KeysRead split.keyColumn split.keyType stored.rows) :
    ∃ scanned, (∀ rows, split.Ranges stored.rows rows ↔ rows = scanned) ∧ ∀ fetchSize, ∃ scan notes,
      open? tables split schema fetchSize = .ok (scan, notes) ∧
        ∀ n, (scan.after n).next.1 = (scanned.map (stored.placed schema))[n]? := by
  obtain ⟨-, lower, upper, hl, hu⟩ := Split.keys_of_validate valid
  refine ⟨split.scanned lower upper stored, fun _ => Split.ranges_iff ht hl hu, ?_⟩
  intro fetchSize
  rw [open?_eq valid listed, registered]
  simp only [Split.scan_eq_scanned keys hl hu, Except.map]
  refine ⟨_, _, rfl, ?_⟩
  intro n
  rw [next_after, rows_start, List.map_map]
  have placed : (ColumnMapping.ofColumns stored.columns schema).place ∘ stored.values =
      stored.placed schema := funext (stored.place_values schema)
  rw [placed]

/-- What opening a scan of a split comes to. It is refused where the split is invalid or its key no column
of the schema; it fails where the table is unknown or has a row, in the range or not, whose key cannot be
read; otherwise the rows of the range are handed out one by one, and nothing after them. -/
theorem open?_scansRange (tables : TableMap StoredTable) (split : Split) (schema : TableSchema)
    (ht : split.keyType ≠ .float64) :
    (∀ fetchSize, (∃ fault, open? tables split schema fetchSize = .error (.queryConstruction fault)) ↔
      split.validate ≠ .ok () ∨ schema.column? split.keyColumn = none) ∧
    (split.validate = .ok () → schema.column? split.keyColumn ≠ none →
      (∀ fetchSize, (∃ fault cause,
          open? tables split schema fetchSize = .error (.scanFailed fault cause)) ↔
        tables.get? split.table = none ∨ ∃ stored, tables.get? split.table = some stored ∧
          ¬ Split.KeysRead split.keyColumn split.keyType stored.rows) ∧
      ∀ stored, tables.get? split.table = some stored →
        Split.KeysRead split.keyColumn split.keyType stored.rows →
        ∃ scanned, (∀ rows, split.Ranges stored.rows rows ↔ rows = scanned) ∧
          ∀ fetchSize, ∃ scan notes, open? tables split schema fetchSize = .ok (scan, notes) ∧
            ∀ n, (scan.after n).next.1 = (scanned.map (stored.placed schema))[n]?) := by
  have readable : (tables.get? split.table = none ∨ ∃ stored, tables.get? split.table = some stored ∧
      ¬ Split.KeysRead split.keyColumn split.keyType stored.rows) ∨
        ∃ stored, tables.get? split.table = some stored ∧
          Split.KeysRead split.keyColumn split.keyType stored.rows := by
    cases registered : tables.get? split.table with
    | none => exact .inl (.inl rfl)
    | some stored =>
        by_cases keys : Split.KeysRead split.keyColumn split.keyType stored.rows
        · exact .inr ⟨stored, rfl, keys⟩
        · exact .inl (.inr ⟨stored, rfl, keys⟩)
  constructor
  · intro fetchSize
    constructor
    · rintro ⟨fault, refused⟩
      by_contra accepted
      obtain ⟨valid, listed⟩ := not_or.1 accepted
      have valid := not_not.1 valid
      have listed := Option.isSome_iff_ne_none.2 listed
      rcases readable with fails | ⟨stored, registered, keys⟩
      · obtain ⟨_, failed⟩ := open?_fails valid listed fails fetchSize
        cases refused.symm.trans failed
      · obtain ⟨_, -, opens⟩ := open?_hands ht valid listed registered keys
        obtain ⟨_, _, opened, -⟩ := opens fetchSize
        cases refused.symm.trans opened
    · intro h
      exact open?_refused h fetchSize
  · intro valid listed
    have listed := Option.isSome_iff_ne_none.2 listed
    refine ⟨fun fetchSize => ⟨?_, ?_⟩, ?_⟩
    · rintro ⟨fault, cause, failed⟩
      apply readable.resolve_right
      rintro ⟨stored, registered, keys⟩
      obtain ⟨_, -, opens⟩ := open?_hands ht valid listed registered keys
      obtain ⟨_, _, opened, -⟩ := opens fetchSize
      cases failed.symm.trans opened
    · intro h
      obtain ⟨fault, failed⟩ := open?_fails valid listed h fetchSize
      exact ⟨fault, none, failed⟩
    · intro stored registered keys
      exact open?_hands ht valid listed registered keys

def ledger : StoredTable :=
  ⟨["note", "id"], [.object [("id", .int 90)], .object [("id", .int 10), ("note", .text "first")],
    .object [("id", .null)], .object [("id", .text " 10"), ("note", .text "second")]]⟩

def ledgerSchema : TableSchema :=
  ⟨.ofNames "public" "ledger", [⟨"id", 1, "bigint", false⟩, ⟨"note", 2, "text", true⟩]⟩

def ledgerSplit : Split :=
  (Split.whole "S1" (.ofNames "public" "ledger") "id" .int64).withUpper (.int 50)

theorem open?_scansRange_ledger :
    (ledgerSplit.validate = .ok () ∧ Split.KeysRead "id" .int64 ledger.rows) ∧
      ∃ scanned, (∀ rows, ledgerSplit.Ranges ledger.rows rows ↔ rows = scanned) ∧
        ∀ fetchSize, ∃ scan notes,
          open? (TableMap.empty.put ledgerSplit.table ledger) ledgerSplit ledgerSchema fetchSize =
              .ok (scan, notes) ∧
            ∀ n, (scan.after n).next.1 = (scanned.map (ledger.placed ledgerSchema))[n]? := by
  have valid : ledgerSplit.validate = .ok () := rfl
  have keys : Split.KeysRead "id" .int64 ledger.rows := by decide
  obtain ⟨-, opened⟩ := open?_scansRange (TableMap.empty.put ledgerSplit.table ledger) ledgerSplit
    ledgerSchema (by decide)
  exact ⟨⟨valid, keys⟩, (opened valid (by decide)).2 ledger (TableMap.get?_put_self _ _ _) keys⟩

end TableScan

end SplitSnapshot
