import SplitSnapshot.Proofs.Documents.Events
import SplitSnapshot.Split

namespace SplitSnapshot

namespace Split

inductive Obtained : Split → Prop
  | whole (splitId : String) (table : TableId) (keyColumn : String) (keyType : KeyType) :
      Obtained (whole splitId table keyColumn keyType)
  | withLower {s} (before : Obtained s) (v : Json) : Obtained (s.withLower v)
  | withUpper {s} (before : Obtained s) (v : Json) : Obtained (s.withUpper v)
  | withRange {s} (before : Obtained s) (lower upper : Option Json) :
      Obtained (s.withRange lower upper)
  | withExclusiveEnd {s} (before : Obtained s) : Obtained s.withExclusiveEnd
  | read {v s} (document : ofJson? v = some s) : Obtained s

structure Nullless (s : Split) : Prop where
  lower : s.lower ≠ some .null
  upper : s.upper ≠ some .null

variable {s : Split} {v : Json}

theorem filter_ne_null (v : Option Json) : v.filter (fun x => !x.isNull) ≠ some .null := by
  intro h
  have kept := (Option.filter_eq_some_iff.1 h).2
  cases kept

theorem nullless_of_ofJson? (h : ofJson? v = some s) : s.Nullless := by
  obtain ⟨v, -, h⟩ := Option.bind_eq_some_iff.1 h
  obtain ⟨splitId, -, h⟩ := Option.bind_eq_some_iff.1 h
  obtain ⟨table, -, h⟩ := Option.bind_eq_some_iff.1 h
  obtain ⟨keyColumn, -, h⟩ := Option.bind_eq_some_iff.1 h
  obtain ⟨keyType, -, h⟩ := Option.bind_eq_some_iff.1 h
  obtain ⟨endInclusive, -, h⟩ := Option.bind_eq_some_iff.1 h
  cases h
  exact ⟨filter_ne_null _, filter_ne_null _⟩

theorem Obtained.nullless (h : Obtained s) : s.Nullless := by
  induction h with
  | whole => exact ⟨nofun, nofun⟩
  | withLower before v ih => exact ⟨filter_ne_null (some v), ih.upper⟩
  | withUpper before v ih => exact ⟨ih.lower, filter_ne_null (some v)⟩
  | withRange before lower upper ih => exact ⟨filter_ne_null lower, filter_ne_null upper⟩
  | withExclusiveEnd before ih => exact ⟨ih.lower, ih.upper⟩
  | read document => exact nullless_of_ofJson? document

theorem present?_ofOption {bound : Option Json} {name : String}
    (field : v.field? name = some (.ofOption bound)) (nullless : bound ≠ some .null) :
    v.present? name = bound := by
  rw [Json.present?, field]
  cases bound with
  | none => rfl
  | some x =>
      cases x with
      | null => exact absurd rfl nullless
      | _ => rfl

theorem Nullless.ofJson?_toJson (h : s.Nullless) : ofJson? s.toJson = some s := by
  have record (names : List String) : s.toJson.record? names = some s.toJson := rfl
  have splitId : s.toJson.require? "split_id" Json.text? = some s.splitId :=
    Json.require?_eq (x := .text s.splitId) (by simp [toJson]) rfl
  have table : s.toJson.require? "table_id" TableId.ofJson? = some s.table :=
    Json.require?_eq (by simp [toJson]) s.table.ofJson?_toJson
  have keyColumn : s.toJson.require? "split_key" Json.text? = some s.keyColumn :=
    Json.require?_eq (x := .text s.keyColumn) (by simp [toJson]) rfl
  have keyType : s.toJson.require? "split_key_type" KeyType.ofJson? = some s.keyType :=
    Json.require?_eq (by simp [toJson]) s.keyType.ofJson?_toJson
  have endInclusive : s.toJson.default? "end_inclusive" true Json.bool? = some s.endInclusive := by
    have field : s.toJson.field? "end_inclusive" = some (.bool s.endInclusive) := by simp [toJson]
    rw [Json.default?, field]
    rfl
  have lower : s.toJson.present? "split_start" = s.lower :=
    present?_ofOption (by simp [toJson]) h.lower
  have upper : s.toJson.present? "split_end" = s.upper :=
    present?_ofOption (by simp [toJson]) h.upper
  rw [ofJson?]
  simp [record, splitId, table, keyColumn, keyType, endInclusive, lower, upper]

theorem obtained_readBack (h : Obtained s) :
    s.lower ≠ some .null ∧ s.upper ≠ some .null ∧ ofJson? s.toJson = some s :=
  ⟨h.nullless.lower, h.nullless.upper, h.nullless.ofJson?_toJson⟩

def openBelow : Split :=
  ((whole "s1" ⟨some "db", "public", "orders"⟩ "id" .int64).withRange (some .null)
    (some (.list [.null]))).withExclusiveEnd

def documentOpenAbove : Json :=
  .ofFields [("split_id", .text "s1"), ("table_id", (TableId.ofNames "public" "t").toJson),
    ("split_key", .text "id"), ("split_key_type", .text "numeric"), ("split_start", .int 1),
    ("split_end", .null)]

theorem obtained_readBack_nulls :
    (Obtained openBelow ∧ openBelow.lower ≠ some .null ∧ openBelow.upper ≠ some .null ∧
      ofJson? openBelow.toJson = some openBelow) ∧
    ∃ s, ofJson? documentOpenAbove = some s ∧ Obtained s ∧ s.lower ≠ some .null ∧
      s.upper ≠ some .null ∧ ofJson? s.toJson = some s := by
  have built : Obtained openBelow := .withExclusiveEnd (.withRange (.whole _ _ _ _) _ _)
  have read : ofJson? documentOpenAbove =
      some ((whole "s1" (.ofNames "public" "t") "id" .numeric).withLower (.int 1)) := rfl
  exact ⟨⟨built, obtained_readBack built⟩, _, read, .read read, obtained_readBack (.read read)⟩

end Split

end SplitSnapshot
