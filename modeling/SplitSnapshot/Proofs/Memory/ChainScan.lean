import SplitSnapshot.Proofs.Memory.Scan
import SplitSnapshot.Proofs.Split.Chain

namespace SplitSnapshot

namespace Split

variable {table : TableId} {column : String} {t : KeyType} {lo hi : Option Key} {s : Split}

theorem IsSlice.isUnbounded_eq (h : IsSlice table column t lo hi s) :
    s.isUnbounded = (lo.isNone && hi.isNone) := by
  have hf : s.isFirst = lo.isNone := isNone_of_readBound h.lower_eq
  have hu : s.isLast = hi.isNone := isNone_of_readBound h.upper_eq
  rw [isUnbounded, hf, hu]

theorem IsSlice.includes_eq (h : IsSlice table column t lo hi s) (key : Option Key) :
    s.includes key = .ok (within lo hi key) := by
  cases key with
  | none => rw [includes, h.isUnbounded_eq, within]
  | some key => exact h.contains_eq key

theorem keyOrder_of_separated (ht : t ≠ .float64) {x y : Option Key} {b : Key}
    (hx : ∀ key ∈ x, t.admits key = true) (hy : ∀ key ∈ y, t.admits key = true)
    (hb : t.admits b = true) (below : within lo (some b) x = true)
    (fromBound : above (some b) y = true) : keyOrder x y = true ∧ keyOrder y x = false := by
  cases x with
  | none => simp [within] at below
  | some x =>
      cases y with
      | none => cases fromBound
      | some y =>
          rw [within, atMost_false_eq ht (hx x rfl) hb, Bool.and_eq_true, Bool.not_eq_true'] at below
          obtain ⟨hxy, hyx⟩ := compare?_of_separated ht (hx x rfl) (hy y rfl) hb below.2 fromBound
          simp [keyOrder, hxy, hyx]

theorem above_eq (ht : t ≠ .float64) {b : Key} (hb : t.admits b = true)
    (hlo : ∀ a ∈ lo, t.admits a = true) (ascends : ∀ a ∈ lo, a.compare? b = some .lt)
    {x : Option Key} (hx : ∀ key ∈ x, t.admits key = true) :
    (within lo (some b) x && above lo x) = within lo (some b) x ∧
      (!within lo (some b) x && above lo x) = above (some b) x := by
  cases x with
  | none => cases lo <;> exact ⟨rfl, rfl⟩
  | some x =>
      have hk := hx x rfl
      have up : atLeast x (some b) = true → atLeast x lo = true := by
        intro h
        cases lo with
        | none => rfl
        | some a => exact atLeast_of_lt ht hk (hlo a rfl) hb (ascends a rfl) h
      simp only [within, above, atMost_false_eq ht hk hb]
      cases hl : atLeast x lo <;> cases hu : atLeast x (some b) <;> simp_all

end Split

namespace StoredTable

variable {table : TableId} {column : String} {t : KeyType} {lo hi : Option Key} {s : Split}
  {ss : List Split} {stored : StoredTable}

open Split

def results (stored : StoredTable) (s : Split) : List (List Json) :=
  match stored.scan s with
  | .ok rows => rows
  | .error _ => []

theorem scan_slice (h : IsSlice table column t lo hi s) (hk : KeysRead column t stored.rows) :
    stored.scan s =
      .ok ((byKey ((stored.keyed column t).filter fun row => within lo hi row.1)).map (·.2)) := by
  obtain ⟨-, rfl, rfl⟩ := And.intro h.table_eq (And.intro h.column_eq h.type_eq)
  exact scan_eq_ok hk fun row _ => h.includes_eq _

theorem results_slice (h : IsSlice table column t lo hi s) (hk : KeysRead column t stored.rows) :
    stored.results s =
      (byKey ((stored.keyed column t).filter fun row => within lo hi row.1)).map (·.2) := by
  rw [results, scan_slice h hk]

theorem admits_of_keyed {row : Option Key × List Json} (hm : row ∈ stored.keyed column t) :
    ∀ key ∈ row.1, t.admits key = true := by
  obtain ⟨stored, -, rfl⟩ := List.mem_map.1 hm
  intro key hkey
  exact admits_of_keyOf hkey

theorem byKey_above (ht : t ≠ .float64) {b : Key} (hb : t.admits b = true)
    (hlo : ∀ a ∈ lo, t.admits a = true) (ascends : ∀ a ∈ lo, a.compare? b = some .lt)
    {rows : List (Option Key × List Json)} (hr : ∀ row ∈ rows, ∀ key ∈ row.1, t.admits key = true) :
    byKey (rows.filter fun row => above lo row.1) =
      byKey (rows.filter fun row => within lo (some b) row.1) ++
        byKey (rows.filter fun row => above (some b) row.1) := by
  have lower : (rows.filter fun row => above lo row.1).filter (fun row => within lo (some b) row.1) =
      rows.filter fun row => within lo (some b) row.1 := by
    rw [List.filter_filter]
    exact List.filter_congr fun row hm => (above_eq ht hb hlo ascends (hr row hm)).1
  have upper : (rows.filter fun row => above lo row.1).filter (fun row => !within lo (some b) row.1) =
      rows.filter fun row => above (some b) row.1 := by
    rw [List.filter_filter]
    exact List.filter_congr fun row hm => (above_eq ht hb hlo ascends (hr row hm)).2
  rw [byKey, sortBy_eq_append fun row => within lo (some b) row.1, lower, upper, byKey, byKey]
  intro x hx y hy hpx hpy
  obtain ⟨hmx, -⟩ := List.mem_filter.1 hx
  obtain ⟨hmy, hay⟩ := List.mem_filter.1 hy
  refine keyOrder_of_separated ht (hr x hmx) (hr y hmy) hb hpx ?_
  rw [← (above_eq ht hb hlo ascends (hr y hmy)).2, hpy, hay]
  rfl

theorem flatMap_results (ht : t ≠ .float64) (h : Slices table column t lo ss)
    (hk : KeysRead column t stored.rows) (hlo : ∀ a ∈ lo, t.admits a = true)
    (bounded : ∀ s ∈ ss, s.isUnbounded = false) :
    ss.flatMap stored.results =
      (byKey ((stored.keyed column t).filter fun row => above lo row.1)).map (·.2) := by
  induction h with
  | @last lo s h =>
      have hb : lo.isNone = false := by
        simpa [h.isUnbounded_eq] using bounded s (List.mem_singleton.2 rfl)
      have hw : above lo = within lo none := by
        funext key
        cases key with
        | none => simp [above, within, hb]
        | some key => simp [above, within, atMost]
      rw [List.flatMap_singleton, results_slice h hk, hw]
  | @cons lo b s ss h admitted ascends rest ih =>
      have hrest := ih (fun a ha => Option.mem_some.1 ha ▸ admitted)
        fun other hm => bounded other (List.mem_cons_of_mem s hm)
      rw [List.flatMap_cons, results_slice h hk, hrest, ← List.map_append,
        byKey_above ht admitted hlo ascends fun row hm => admits_of_keyed hm]

theorem keyOf_eq_none (hk : KeysRead column t stored.rows) {row : Json} (hm : row ∈ stored.rows) :
    keyOf column t row = none ↔ row.present? column = none := by
  cases hp : row.present? column with
  | none => simp [keyOf, hp]
  | some v =>
      obtain ⟨key, hkey⟩ := hk row hm v hp
      simp [keyOf, hp, (KeyType.readKey_eq_ok_iff t v key).1 hkey]

theorem byKey_keyed (hk : KeysRead column t stored.rows) :
    (byKey (stored.keyed column t)).map (·.2) =
      (byKey ((stored.keyed column t).filter fun row => above none row.1)).map (·.2) ++
        (stored.rows.filter fun row => (row.present? column).isNone).map stored.values := by
  have nulls : ((stored.keyed column t).filter fun row => !above none row.1).map (·.2) =
      (stored.rows.filter fun row => (row.present? column).isNone).map stored.values := by
    rw [keyed, List.filter_map, List.map_map]
    congr 1
    refine List.filter_congr fun row hm => ?_
    rw [Function.comp_apply, Bool.eq_iff_iff, Option.isNone_iff_eq_none, ← keyOf_eq_none hk hm]
    cases keyOf column t row <;> simp [above, atLeast]
  rw [byKey, sortBy_eq_append fun row => above none row.1, List.map_append, ← nulls]
  · congr 2
    refine sortBy_eq_self fun x hx y hy => ?_
    obtain ⟨-, hy⟩ := List.mem_filter.1 hy
    rcases y with ⟨_ | key, values⟩
    · simp [keyOrder]
    · cases hy
  · rintro ⟨_ | x, _⟩ hx ⟨_ | y, _⟩ hy hpx hpy
    · cases hpx
    · cases hpx
    · exact ⟨rfl, rfl⟩
    · cases hpy

end StoredTable

namespace Split

variable {table : TableId} {column : String} {t : KeyType} {lo : Option Key} {ss : List Split}

theorem Slices.isUnbounded_eq_false (h : Slices table column t lo ss)
    (hb : lo.isSome = true ∨ 1 < ss.length) : ∀ s ∈ ss, s.isUnbounded = false := by
  induction h with
  | last h =>
      intro s hm
      obtain rfl := List.mem_singleton.1 hm
      have hlo := hb.resolve_right (Nat.lt_irrefl 1)
      simpa [h.isUnbounded_eq] using hlo
  | cons h admitted ascends rest ih =>
      intro s hm
      rcases List.mem_cons.1 hm with rfl | hm
      · simp [h.isUnbounded_eq]
      · exact ih (.inl rfl) s hm

theorem Slices.exists_isSlice (h : Slices table column t lo ss) :
    ∀ s ∈ ss, ∃ lo hi, IsSlice table column t lo hi s := by
  induction h with
  | last h =>
      intro s hm
      obtain rfl := List.mem_singleton.1 hm
      exact ⟨_, _, h⟩
  | cons h admitted ascends rest ih =>
      intro s hm
      rcases List.mem_cons.1 hm with rfl | hm
      · exact ⟨_, _, h⟩
      · exact ih s hm

theorem IsSlice.returns_iff {hi : Option Key} {s : Split} {tables : TableMap StoredTable}
    {schema : TableSchema} {stored : StoredTable} (h : IsSlice table column t lo hi s)
    (hv : s.validate = .ok ()) (htable : tables.get? table = some stored)
    (hschema : (schema.column? column).isSome = true) (hk : KeysRead column t stored.rows)
    (fetchSize : Nat) (rows : List Row) :
    s.Returns tables schema fetchSize rows ↔
      rows = (stored.results s).map (ColumnMapping.ofColumns stored.columns schema).place := by
  rw [StoredTable.results_slice h hk]
  exact Split.returns_iff hv (h.column_eq ▸ hschema) (h.table_eq ▸ htable)
    (StoredTable.scan_slice h hk) fetchSize rows

theorem results_whole {stored : StoredTable} (hk : KeysRead column t stored.rows) {id : String}
    (hid : id.isEmpty = false) :
    stored.results (whole id table column t) =
      (StoredTable.byKey (stored.keyed column t)).map (·.2) := by
  have h : IsSlice table column t none none (whole id table column t) := isSlice_whole hid
  have all : ((stored.keyed column t).filter fun row => within none none row.1) =
      stored.keyed column t := by
    rw [List.filter_eq_self]
    intro row hm
    cases row.1 <;> rfl
  rw [StoredTable.results_slice h hk, all]

theorem one_lt_length_chain {cuts : List Cut} (hne : cuts ≠ []) (table : TableId)
    (column : String) (t : KeyType) (last : String) : 1 < (chain table column t cuts last).length := by
  match cuts with
  | [] => exact absurd rfl hne
  | [_] => exact Nat.lt_add_one 1
  | _ :: _ :: _ => simp [chain, chainFrom]

/-- A chain of adjacent splits over ascending bounds parts the keys and the rows of a table: all its
splits are valid, each key lies in exactly one of them, and the rows that their scans return, one after
the other and whatever the sizes of their batches, are those of the whole table that have a key, in the
order of a scan of the whole table, in which the rows without key come last. -/
theorem chain_partitions (table : TableId) {column : String} {t : KeyType} {cuts : List Cut}
    {keys : List Key} {last : String} (ht : t ≠ .float64) (hcolumn : column.isEmpty = false)
    (hids : ∀ id ∈ cuts.map Cut.splitId ++ [last], id.isEmpty = false) (hne : cuts ≠ [])
    (hkeys : cuts.map (fun cut => t.readKey cut.bound) = keys.map .ok)
    (ascends : keys.Pairwise fun a b => a.compare? b = some .lt) :
    (∀ s ∈ chain table column t cuts last, s.validate = .ok ()) ∧
    (∀ key, t.admits key = true → ∃ before s after,
      chain table column t cuts last = before ++ s :: after ∧ s.contains key = .ok true ∧
        ∀ other ∈ before ++ after, other.contains key = .ok false) ∧
    ∀ tables schema stored, tables.get? table = some stored →
      (schema.column? column).isSome = true → KeysRead column t stored.rows →
      ∃ rowsOf : Split → List Row,
        (∀ s ∈ chain table column t cuts last, ∀ fetchSize rows,
          s.Returns tables schema fetchSize rows ↔ rows = rowsOf s) ∧
        ∀ id, id.isEmpty = false → ∀ fetchSize rows,
          (whole id table column t).Returns tables schema fetchSize rows ↔
            rows = (chain table column t cuts last).flatMap rowsOf ++
              (stored.rows.filter fun row => (row.present? column).isNone).map fun row =>
                (ColumnMapping.ofColumns stored.columns schema).place (stored.values row) := by
  have slices : Slices table column t none (chain table column t cuts last) :=
    slices_chainFrom hids rfl hkeys ascends
  have comparable : t.isComparable = true := by
    match cuts, keys, hkeys with
    | [], _, _ => exact absurd rfl hne
    | _ :: _, [], hkeys => cases hkeys
    | cut :: _, key :: _, hkeys =>
        exact KeyType.isComparable_of_readKey?
          ((KeyType.readKey_eq_ok_iff t cut.bound key).1 (List.cons.inj hkeys).1)
  have bounded := slices.isUnbounded_eq_false (.inr (one_lt_length_chain hne table column t last))
  have valid := slices.validate_eq hcolumn comparable
  refine ⟨valid, fun key hkey => slices.contains_once ht hkey rfl, ?_⟩
  intro tables schema stored htable hschema hk
  refine ⟨fun s => (stored.results s).map (ColumnMapping.ofColumns stored.columns schema).place,
    fun s hm => ?_, fun id hid fetchSize rows => ?_⟩
  · obtain ⟨lo, hi, slice⟩ := slices.exists_isSlice s hm
    exact slice.returns_iff (valid s hm) htable hschema hk
  · have slice : IsSlice table column t none none (whole id table column t) := isSlice_whole hid
    have wholeValid : (whole id table column t).validate = .ok () :=
      slice.validate_eq hcolumn comparable fun _ ha => nomatch ha
    have rowsWithKey := StoredTable.flatMap_results ht slices hk (fun _ ha => nomatch ha) bounded
    rw [slice.returns_iff wholeValid htable hschema hk, results_whole hk hid,
      StoredTable.byKey_keyed hk, ← rowsWithKey, List.map_append, List.map_flatMap, List.map_map]
    rfl

def ordersTable : StoredTable :=
  ⟨["amount"], [.object [("amount", .text "1")], .object [], .object [("amount", .text " +1.00")],
    .object [("amount", .text "0.5")], .object [("amount", .text "1.")]]⟩

def ordersSchema : TableSchema :=
  ⟨.ofNames "public" "orders", [⟨"amount", 1, "numeric", true⟩]⟩

theorem chain_partitions_orders :
    ∃ rowsOf : Split → List Row,
      (∀ s ∈ chain (.ofNames "public" "orders") "amount" .numeric
          [⟨"low", .text "1.0"⟩, ⟨"middle", .text "20"⟩] "high", ∀ fetchSize rows,
        s.Returns (TableMap.empty.put (.ofNames "public" "orders") ordersTable) ordersSchema fetchSize
          rows ↔ rows = rowsOf s) ∧
      ∀ id, id.isEmpty = false → ∀ fetchSize rows,
        (whole id (.ofNames "public" "orders") "amount" .numeric).Returns
          (TableMap.empty.put (.ofNames "public" "orders") ordersTable) ordersSchema fetchSize rows ↔
            rows = (chain (.ofNames "public" "orders") "amount" .numeric
              [⟨"low", .text "1.0"⟩, ⟨"middle", .text "20"⟩] "high").flatMap rowsOf ++ [⟨[.null]⟩] := by
  have bounds : [Cut.mk "low" (.text "1.0"), Cut.mk "middle" (.text "20")].map
      (fun cut => KeyType.numeric.readKey cut.bound) =
        [Key.numeric "1.0", Key.numeric "20"].map .ok := rfl
  refine (chain_partitions (.ofNames "public" "orders") ?_ ?_ ?_ ?_ bounds ?_).2.2
    (TableMap.empty.put (.ofNames "public" "orders") ordersTable) ordersSchema ordersTable rfl rfl ?_
  all_goals decide

end Split

end SplitSnapshot
