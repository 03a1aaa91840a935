import SplitSnapshot.Offset
import SplitSnapshot.Proofs.Documents.Position
import SplitSnapshot.Proofs.Documents.Records

namespace SplitSnapshot

theorem Lsn.ofJson?_toJson (p : Lsn) : ofJson? p.toJson = some p := by
  rw [ofJson?, toJson, Json.text?, Option.bind_some, read?_text]

theorem Partition.ofJson?_toJson (p : Partition) : ofJson? p.toJson = some p := by
  simp [ofJson?, toJson, Json.require?, Json.text?]

namespace TableId

theorem isNull_toJson (t : TableId) : t.toJson.isNull = false := by
  unfold toJson
  split <;> rfl

theorem ofJson?_toJson (t : TableId) : ofJson? t.toJson = some t := by
  obtain ⟨catalog, schema, table⟩ := t
  cases catalog with
  | none =>
      rw [ofJson?, toJson]
      simp [Json.optional?_absent, Json.require?, Json.text?]
  | some c =>
      have catalog : (toJson ⟨some c, schema, table⟩).optional? "catalog" Json.text? = some (some c) :=
        Json.optional?_eq (x := .text c) (by simp [toJson]) rfl rfl
      rw [toJson] at catalog
      rw [ofJson?, toJson]
      simp [catalog, Json.require?, Json.text?]

end TableId

theorem Row.ofJson?_toJson (r : Row) : ofJson? r.toJson = some r :=
  rfl

def FitsTime (millis : Int) : Prop :=
  -(pow2 63 : Int) ≤ millis ∧ millis < (pow2 63 : Int)

instance (millis : Int) : Decidable (FitsTime millis) :=
  inferInstanceAs (Decidable (_ ∧ _))

namespace OffsetStamp

structure FitsWords (s : OffsetStamp) : Prop where
  sequence : s.sequence < pow2 64
  millis : FitsTime s.millis

theorem ofJson?_toJson {s : OffsetStamp} (h : s.FitsWords) : ofJson? s.toJson = some s := by
  have position : s.toJson.require? "position" Lsn.ofJson? = some s.position :=
    Json.require?_eq (by simp [toJson]) s.position.ofJson?_toJson
  have snapshot : s.toJson.require? "snapshot" Json.bool? = some s.snapshot :=
    Json.require?_eq (by simp [toJson]; rfl) rfl
  have sequence : s.toJson.require? "table_sequence" Json.natural? = some s.sequence :=
    Json.require?_eq (by simp [toJson]) (Json.natural?_int h.sequence)
  have millis : s.toJson.require? "timestamp_ms" Json.signed? = some s.millis :=
    Json.require?_eq (by simp [toJson]) (Json.signed?_int h.millis)
  have record (names : List String) : s.toJson.record? names = some s.toJson := rfl
  rw [ofJson?]
  simp [record, position, snapshot, sequence, millis]

end OffsetStamp

namespace SplitEvent

def FitsWords : SplitEvent → Prop
  | dataChange c => c.offset.FitsWords
  | _ => True

theorem typed?_ofFields (type : String) (fields : List (String × Json))
    (h : (Json.ofFields fields).field? "type" = none) :
    typed? (.ofFields (("type", .text type) :: fields)) =
      some (type, .ofFields (("type", .text type) :: fields)) := by
  change ((Json.ofFields (("type", Json.text type) :: fields)).require? "type" Json.text?).map _ = _
  simp [Json.require?, h, Json.text?]

theorem ofJson?_watermark (w : WatermarkEvent) :
    WatermarkEvent.ofJson? (.ofFields (("type", .text "watermark") :: w.fields)) = some w := by
  simp [WatermarkEvent.ofJson?, WatermarkEvent.fields, Json.require?, Partition.ofJson?_toJson,
    Json.text?, WatermarkKind.ofJson?_toJson, Lsn.ofJson?_toJson]

theorem ofJson?_dataChange {c : DataChange} (h : c.offset.FitsWords) :
    DataChange.ofJson? (.ofFields (("type", .text "data_change") :: c.fields)) = some c := by
  simp [DataChange.ofJson?, DataChange.fields, Json.require?, TableId.ofJson?_toJson,
    OffsetStamp.ofJson?_toJson h, Row.ofJson?_toJson]

theorem ofJson?_toJson {e : SplitEvent} (h : e.FitsWords) : ofJson? e.toJson = some e := by
  cases e with
  | watermark w =>
      rw [ofJson?, toJson, typed?_ofFields _ _ (by simp [WatermarkEvent.fields])]
      simp [ofJson?_watermark]
  | dataChange c =>
      rw [ofJson?, toJson, typed?_ofFields _ _ (by simp [DataChange.fields])]
      simp [ofJson?_dataChange h]
  | completed splitId =>
      rw [ofJson?, toJson, typed?_ofFields _ _ (by simp)]
      simp [splitOfJson?, Json.require?, Json.text?]

end SplitEvent

namespace OffsetContext

structure FitsWords (c : OffsetContext) : Prop where
  millis : FitsTime c.millis
  counts : ∀ e ∈ c.counts, e.2 < pow2 64

theorem countsOfJson?_object {counts : Fields Nat} (h : ∀ e ∈ counts, e.2 < pow2 64) :
    countsOfJson? (.object (counts.map fun (k, n) => (k, .int n))) = some counts := by
  refine Text.mapM_map_some fun e he => ?_
  change (Json.int e.2).natural?.map _ = _
  rw [Json.natural?_int (h e he), Option.map_some]

theorem optional?_lastTable (c : OffsetContext) :
    c.toJson.optional? "last_table" TableId.ofJson? = some c.lastTable := by
  cases hl : c.lastTable with
  | none => exact Json.optional?_null (by simp [toJson, hl, Json.ofOption])
  | some t =>
      exact Json.optional?_eq (by simp [toJson, hl, Json.ofOption]) t.isNull_toJson t.ofJson?_toJson

theorem ofJson?_toJson {c : OffsetContext} (h : c.FitsWords) : ofJson? c.toJson = some c := by
  have part : c.toJson.require? "partition" Partition.ofJson? = some c.part :=
    Json.require?_eq (by simp [toJson]) c.part.ofJson?_toJson
  have position : c.toJson.require? "position" Lsn.ofJson? = some c.position :=
    Json.require?_eq (by simp [toJson]) c.position.ofJson?_toJson
  have snapshot : c.toJson.require? "snapshot" Json.bool? = some c.snapshot :=
    Json.require?_eq (by simp [toJson]; rfl) rfl
  have millis : c.toJson.require? "timestamp_ms" Json.signed? = some c.millis :=
    Json.require?_eq (by simp [toJson]) (Json.signed?_int h.millis)
  have counts : c.toJson.require? "table_events" countsOfJson? = some c.counts :=
    Json.require?_eq (by simp [toJson]) (countsOfJson?_object h.counts)
  have record (names : List String) : c.toJson.record? names = some c.toJson := rfl
  rw [ofJson?]
  simp [record, part, position, snapshot, c.optional?_lastTable, millis, counts]

end OffsetContext

/-- Every event and every offset is read back from its document, and two of them with one document are
the same. -/
theorem documents_readBack :
    (∀ e : SplitEvent, e.FitsWords → SplitEvent.ofJson? e.toJson = some e) ∧
    (∀ e e' : SplitEvent, e.FitsWords → e'.FitsWords → e.toJson = e'.toJson → e = e') ∧
    (∀ c : OffsetContext, c.FitsWords → OffsetContext.ofJson? c.toJson = some c) ∧
    ∀ c c' : OffsetContext, c.FitsWords → c'.FitsWords → c.toJson = c'.toJson → c = c' := by
  refine ⟨fun e => SplitEvent.ofJson?_toJson, fun e e' h h' same => ?_,
    fun c => OffsetContext.ofJson?_toJson, fun c c' h h' same => ?_⟩
  · have read := SplitEvent.ofJson?_toJson h
    rw [same, SplitEvent.ofJson?_toJson h'] at read
    exact (Option.some.inj read).symm
  · have read := OffsetContext.ofJson?_toJson h
    rw [same, OffsetContext.ofJson?_toJson h'] at read
    exact (Option.some.inj read).symm

def lastChange : SplitEvent :=
  .dataChange ⟨.ofNames "public" "t", ⟨⟨UInt64.ofNat (pow2 64 - 1)⟩, true, pow2 64 - 1, -pow2 63⟩,
    ⟨[.null, .object [("type", .null)], .list [.int (-1), .list []]]⟩⟩

def lastOffset : OffsetContext :=
  ⟨.standard, ⟨UInt64.ofNat (pow2 64 - 1)⟩, true, some ⟨some "db", "public", "t"⟩, pow2 63 - 1,
    [("db.public.t", pow2 64 - 1)]⟩

theorem documents_readBack_last :
    lastChange.FitsWords ∧ SplitEvent.ofJson? lastChange.toJson = some lastChange ∧
      lastOffset.FitsWords ∧ OffsetContext.ofJson? lastOffset.toJson = some lastOffset := by
  have change : lastChange.FitsWords := ⟨by decide, by decide⟩
  have offset : lastOffset.FitsWords := ⟨by decide, by simp [lastOffset]⟩
  exact ⟨change, documents_readBack.1 _ change, offset, documents_readBack.2.2.1 _ offset⟩

end SplitSnapshot
