import SplitSnapshot.Memory.Scan
import SplitSnapshot.Proofs.Results
import SplitSnapshot.Proofs.Split.Bounds

namespace SplitSnapshot

namespace TableScan

inductive HandsOut : TableScan → List Row → Prop
  | none {s notes s'} (h : s.next = (none, notes, s')) : HandsOut s []
  | some {s row notes s' rows} (h : s.next = (some row, notes, s')) (rest : HandsOut s' rows) :
      HandsOut s (row :: rows)

theorem HandsOut.eq_rows {s : TableScan} {rows : List Row} (h : s.HandsOut rows) :
    rows = s.rows := by
  induction h with
  | @none s _ _ h =>
      have hn := s.next_fst
      rw [h] at hn
      exact (List.head?_eq_none_iff.1 hn.symm).symm
  | @some s row _ s' _ h _ ih =>
      have hn := s.next_fst
      have ht := s.rows_next
      rw [h] at hn ht
      obtain ⟨rest, hr⟩ := List.head?_eq_some_iff.1 hn.symm
      rw [ih, hr, ht, hr, List.tail_cons]

theorem handsOut_rows (s : TableScan) : s.HandsOut s.rows := by
  generalize hr : s.rows = rows
  induction rows generalizing s with
  | nil =>
      have hn := s.next_fst
      rw [hr] at hn
      exact .none (Prod.ext hn rfl)
  | cons row rows ih =>
      have hn := s.next_fst
      have ht := s.rows_next
      rw [hr] at hn ht
      exact .some (Prod.ext hn rfl) (ih _ ht)

theorem handsOut_iff {s : TableScan} {rows : List Row} : s.HandsOut rows ↔ rows = s.rows := by
  constructor
  · intro h
    exact h.eq_rows
  · rintro rfl
    exact s.handsOut_rows

theorem open?_eq {tables : TableMap StoredTable} {split : Split} {schema : TableSchema}
    (valid : split.validate = .ok ()) (listed : (schema.column? split.keyColumn).isSome = true)
    (fetchSize : Nat) : open? tables split schema fetchSize =
      match tables.get? split.table with
      | none => .error (.scanFailed (.unknownTable split.table) none)
      | some stored => (stored.scan split).map fun rows =>
          (start (.ofColumns stored.columns schema) rows fetchSize,
            ColumnMapping.notes stored.columns schema) := by
  have known : (schema.column? split.keyColumn).isNone = false := by
    rw [Option.isNone_eq_false_iff]
    exact listed
  rw [open?, valid, known]
  cases tables.get? split.table with
  | none => rfl
  | some stored =>
      cases h : stored.scan split with
      | error e => simp [h, bind, Except.bind, Except.map]
      | ok rows => simp [h, bind, Except.bind, Except.map, pure, Except.pure]

end TableScan

namespace Split

def Returns (tables : TableMap StoredTable) (schema : TableSchema) (s : Split) (fetchSize : Nat)
    (rows : List Row) : Prop :=
  ∃ scan notes, TableScan.open? tables s schema fetchSize = .ok (scan, notes) ∧ scan.HandsOut rows

theorem returns_iff {tables : TableMap StoredTable} {schema : TableSchema} {s : Split}
    {stored : StoredTable} {results : List (List Json)} (hv : s.validate = .ok ())
    (hc : (schema.column? s.keyColumn).isSome = true) (ht : tables.get? s.table = some stored)
    (hs : stored.scan s = .ok results) (fetchSize : Nat) (rows : List Row) :
    s.Returns tables schema fetchSize rows ↔
      rows = results.map (ColumnMapping.ofColumns stored.columns schema).place := by
  have ho : TableScan.open? tables s schema fetchSize =
      .ok (.start (.ofColumns stored.columns schema) results fetchSize,
        ColumnMapping.notes stored.columns schema) := by
    rw [TableScan.open?_eq hv hc, ht]
    simp [hs, Except.map]
  rw [Returns, ho, ← TableScan.rows_start _ _ fetchSize]
  constructor
  · rintro ⟨scan, notes, heq, h⟩
    cases heq
    exact TableScan.handsOut_iff.1 h
  · intro h
    exact ⟨_, _, rfl, TableScan.handsOut_iff.2 h⟩

def keyOf (column : String) (t : KeyType) (row : Json) : Option Key :=
  (row.present? column).bind t.readKey?

def KeysRead (column : String) (t : KeyType) (rows : List Json) : Prop :=
  ∀ row ∈ rows, ∀ v, row.present? column = some v → ∃ key, t.readKey v = .ok key

instance (column : String) (t : KeyType) (rows : List Json) : Decidable (KeysRead column t rows) :=
  decidable_of_iff
    (∀ row ∈ rows, ((row.present? column).all fun v => (t.readKey? v).isSome) = true) <| by
      simp [KeysRead, Option.all_eq_true, Option.isSome_iff_exists, KeyType.readKey_eq_ok_iff]

theorem rowKey_eq_ok {s : Split} {rows : List Json} (h : KeysRead s.keyColumn s.keyType rows)
    {row : Json} (hm : row ∈ rows) : s.rowKey row = .ok (keyOf s.keyColumn s.keyType row) := by
  cases hp : row.present? s.keyColumn with
  | none => simp [rowKey, keyOf, hp]
  | some v =>
      obtain ⟨key, hk⟩ := h row hm v hp
      have hk' := (KeyType.readKey_eq_ok_iff _ _ _).1 hk
      simp [rowKey, keyOf, hp, hk, hk', Except.map]

theorem admits_of_keyOf {column : String} {t : KeyType} {row : Json} {key : Key}
    (h : keyOf column t row = some key) : t.admits key = true := by
  obtain ⟨v, -, hv⟩ := Option.bind_eq_some_iff.1 h
  exact KeyType.admits_of_readKey ((KeyType.readKey_eq_ok_iff t v key).2 hv)

end Split

namespace StoredTable

def keyed (t : StoredTable) (column : String) (type : KeyType) : List (Option Key × List Json) :=
  t.rows.map fun row => (Split.keyOf column type row, t.values row)

def byKey (rows : List (Option Key × List Json)) : List (Option Key × List Json) :=
  sortBy (fun a b => Split.keyOrder a.1 b.1) rows

theorem mapM_select {t : StoredTable} {s : Split} {p : Option Key → Bool} (rows : List Json)
    (hk : Split.KeysRead s.keyColumn s.keyType rows)
    (hp : ∀ row ∈ rows, s.includes (Split.keyOf s.keyColumn s.keyType row) =
      .ok (p (Split.keyOf s.keyColumn s.keyType row))) :
    rows.mapM (t.select s) = .ok (rows.map fun row =>
      if p (Split.keyOf s.keyColumn s.keyType row)
      then some (Split.keyOf s.keyColumn s.keyType row, t.values row) else none) := by
  refine mapM_eq_ok fun row hm => ?_
  rw [select, Split.rowKey_eq_ok hk hm]
  simp only [mapError_ok, bind, Except.bind]
  rw [hp row hm]
  rfl

theorem filterMap_selected {α β : Type} (p : α → Bool) (f : β → α × List Json) (rows : List β) :
    (rows.map fun row => if p (f row).1 then some (f row) else none).filterMap id =
      (rows.map f).filter fun pair => p pair.1 := by
  induction rows with
  | nil => rfl
  | cons row rows ih =>
      rw [List.map_cons, List.map_cons, List.filterMap_cons, List.filter_cons, ih]
      cases p (f row).1 <;> rfl

theorem scan_eq_ok {t : StoredTable} {s : Split} {p : Option Key → Bool}
    (hk : Split.KeysRead s.keyColumn s.keyType t.rows)
    (hp : ∀ row ∈ t.rows, s.includes (Split.keyOf s.keyColumn s.keyType row) =
      .ok (p (Split.keyOf s.keyColumn s.keyType row))) :
    t.scan s = .ok ((byKey ((t.keyed s.keyColumn s.keyType).filter fun row => p row.1)).map
      (·.2)) := by
  have hf := filterMap_selected p
    (fun row => (Split.keyOf s.keyColumn s.keyType row, t.values row)) t.rows
  rw [scan, mapM_select t.rows hk hp, keyed, byKey, ← hf]
  rfl

end StoredTable

namespace Split

variable {split : Split} {stored : StoredTable} {lower upper : Option Key}

def selects (split : Split) (lower upper : Option Key) : Option Key → Bool
  | none => lower.isNone && upper.isNone
  | some key => atLeast key lower && atMost split.endInclusive key upper

theorem includes_eq_selects (hl : split.lowerKey = .ok lower) (hu : split.upperKey = .ok upper)
    (key : Option Key) : split.includes key = .ok (split.selects lower upper key) := by
  cases key with
  | none =>
      have first : split.isFirst = lower.isNone := isNone_of_readBound hl
      have last : split.isLast = upper.isNone := isNone_of_readBound hu
      rw [includes, isUnbounded, first, last, selects]
  | some key => exact contains_eq_ok hl hu key

def scanned (split : Split) (lower upper : Option Key) (stored : StoredTable) : List Json :=
  sortBy (fun a b => keyOrder (keyOf split.keyColumn split.keyType a)
    (keyOf split.keyColumn split.keyType b))
    (stored.rows.filter fun row => split.selects lower upper (keyOf split.keyColumn split.keyType row))

theorem scan_eq_scanned (hk : KeysRead split.keyColumn split.keyType stored.rows)
    (hl : split.lowerKey = .ok lower) (hu : split.upperKey = .ok upper) :
    stored.scan split = .ok ((split.scanned lower upper stored).map stored.values) := by
  rw [StoredTable.scan_eq_ok hk fun row _ => includes_eq_selects hl hu _, StoredTable.keyed,
    List.filter_map, StoredTable.byKey, sortBy_map, List.map_map]
  rfl

end Split

end SplitSnapshot
