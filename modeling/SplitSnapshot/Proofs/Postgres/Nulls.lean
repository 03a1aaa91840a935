import SplitSnapshot.Postgres.ResultSet
import SplitSnapshot.Proofs.Binary64
import SplitSnapshot.Proofs.Table.ByName

namespace SplitSnapshot

namespace ValueForm

def NotFinite : ValueForm → Bytes → Prop
  | single, v => v.length = 4 ∧ v.natural / 2 ^ 23 % 2 ^ 8 = 255
  | double, v => v.length = 8 ∧ v.natural / 2 ^ 52 % 2 ^ 11 = 2047
  | _, _ => False

def NullDocument : ValueForm → Bytes → Prop
  | json, v => document? v = some .null
  | binaryJson, v => (unversioned? v).bind document? = some .null
  | _, _ => False

theorem finite_eq_null_iff {x : Binary64} : finite x = .null ↔ x.isFinite = false := by
  unfold finite
  cases x.isFinite <;> simp

theorem natural?_eq_some_iff {width n : Nat} {v : Bytes} :
    v.natural? width = some n ↔ v.length = width ∧ v.natural = n := by
  unfold Bytes.natural?
  split <;> simp_all

theorem read?_eq_null_iff {form : ValueForm} {v : Bytes} :
    form.read? v = some .null ↔ form.NotFinite v ∨ form.NullDocument v := by
  cases form with
  | single =>
      have notFinite (n : Nat) : finite (Binary64.ofSingle (UInt32.ofNat n)) = .null ↔
          n / 2 ^ 23 % 2 ^ 8 = 255 := by
        rw [finite_eq_null_iff, ← Bool.not_eq_true, Binary64.isFinite_ofSingle_iff,
          UInt32.toNat_ofNat']
        omega
      simp [read?, NotFinite, NullDocument, natural?_eq_some_iff, notFinite]
  | double =>
      have notFinite (n : Nat) : finite ⟨UInt64.ofNat n⟩ = .null ↔ n / 2 ^ 52 % 2 ^ 11 = 2047 := by
        rw [finite_eq_null_iff, ← Bool.not_eq_true, Binary64.isFinite_iff, UInt64.toNat_ofNat']
        omega
      simp [read?, NotFinite, NullDocument, natural?_eq_some_iff, notFinite]
  | json | binaryJson => simp [read?, NotFinite, NullDocument]
  | objectNumber | date | versionedText => simp [read?, NotFinite, NullDocument, Option.bind_eq_some_iff]
  | _ => simp [read?, NotFinite, NullDocument]

end ValueForm

namespace ResultColumn

variable {c : ResultColumn} {i : Nat} {form : ValueForm}

def KeepsValues (c : ResultColumn) : Prop :=
  ∀ i bytes, c.decode i (some bytes) ≠ .ok .null

theorem decode_some_eq_null_iff (typed : ValueForm.ofType? c.type = some form) {bytes : Bytes} :
    c.decode i (some bytes) = .ok .null ↔ form.NotFinite bytes ∨ form.NullDocument bytes := by
  rw [← ValueForm.read?_eq_null_iff]
  simp only [decode, typed]
  cases form.read? bytes <;> simp

/-- What the server may have sent for a null in the column: null, a number that is not finite, or a null
document. -/
def StandsForNull (c : ResultColumn) (v : Option Bytes) : Prop :=
  ∃ form, ValueForm.ofType? c.type = some form ∧
    ∀ bytes ∈ v, form.NotFinite bytes ∨ form.NullDocument bytes

theorem standsForNull_of_decode {v : Option Bytes} (h : c.decode i v = .ok .null) :
    c.StandsForNull v := by
  cases typed : ValueForm.ofType? c.type with
  | none => simp [decode, typed] at h
  | some form =>
      refine ⟨form, typed, fun bytes hb => ?_⟩
      rw [Option.mem_def] at hb
      subst hb
      exact (decode_some_eq_null_iff typed).1 h

theorem keepsValues_iff (typed : ValueForm.ofType? c.type = some form) (json : form ≠ .json)
    (binaryJson : form ≠ .binaryJson) : c.KeepsValues ↔ form ≠ .single ∧ form ≠ .double := by
  constructor
  · intro keeps
    constructor
    · rintro rfl
      exact keeps 0 [0x7F, 0xC0, 0, 0] ((decode_some_eq_null_iff typed).2 (.inl ⟨rfl, rfl⟩))
    · rintro rfl
      exact keeps 0 [0x7F, 0xF8, 0, 0, 0, 0, 0, 0] ((decode_some_eq_null_iff typed).2 (.inl ⟨rfl, rfl⟩))
  · rintro ⟨single, double⟩ i bytes null
    rw [decode_some_eq_null_iff typed] at null
    cases form <;> simp_all [ValueForm.NotFinite, ValueForm.NullDocument]

end ResultColumn

structure DecodedCell where
  column : ResultColumn
  bytes : Option Bytes
  value : Json
  decoded : ∃ i, column.decode i bytes = .ok value

namespace ResultSet

theorem exists_decodedCells {i : Nat} {columns : List ResultColumn} {row : List (Option Bytes)}
    {values : List Json} (h : decodeFrom i columns row = .ok values) :
    ∃ cells : List DecodedCell, cells.map (fun d => (d.column, d.bytes)) = columns.zip row ∧
      cells.map (fun d => (d.column.name, d.value)) = (columns.map (·.name)).zip values := by
  induction columns generalizing i row values with
  | nil => exact ⟨[], rfl, rfl⟩
  | cons c columns ih =>
      cases row with
      | nil =>
          cases h
          exact ⟨[], rfl, rfl⟩
      | cons v row =>
          rw [decodeFrom] at h
          cases decoded : c.decode i v with
          | error e => simp [decoded, bind, Except.bind] at h
          | ok value =>
              cases rest : decodeFrom (i + 1) columns row with
              | error e => simp [decoded, rest, bind, Except.bind] at h
              | ok values' =>
                  simp only [decoded, rest, bind, Except.bind, pure, Except.pure,
                    Except.ok.injEq] at h
                  subst h
                  obtain ⟨cells, sent, named⟩ := ih rest
                  exact ⟨⟨c, v, value, i, decoded⟩ :: cells, by simp [sent], by simp [named]⟩

structure LastPut (schema : TableSchema) (j : Nat) (cells : List (ResultColumn × Option Bytes))
    (c : ResultColumn) (v : Option Bytes) : Prop where
  split : ∃ before after, cells = before ++ (c, v) :: after ∧
    ∀ cell ∈ after, ¬ schema.Puts cell.1.name j
  puts : schema.Puts c.name j

theorem source_of_null (r : ResultSet) (schema : TableSchema) {row : List (Option Bytes)}
    {values : List Json} (decoded : r.decodeRow row = .ok values) {j : Nat}
    (null : ((ColumnMapping.ofColumns r.names schema).place values).get? j = some .null) :
    (∀ cell ∈ r.columns.zip row, ¬ schema.Puts cell.1.name j) ∨
      ∃ c v, LastPut schema j (r.columns.zip row) c v ∧ c.StandsForNull v := by
  obtain ⟨cells, sent, named⟩ := exists_decodedCells decoded
  have shows := (ColumnMapping.placedByName_place schema r.names values).shows j .null null
  rw [names, ← named] at shows
  generalize shown : cells.map (fun d => (d.column.name, d.value)) = pairs at shows
  rw [← sent]
  cases shows with
  | nothing none =>
      subst shown
      refine .inl fun cell hm => ?_
      obtain ⟨d, hd, rfl⟩ := List.mem_map.1 hm
      exact none _ (List.mem_map_of_mem hd)
  | value puts last =>
      obtain ⟨before, rest, rfl, -, hrest⟩ := List.map_eq_append_iff.1 shown
      obtain ⟨d, after, rfl, hd, rfl⟩ := List.map_eq_cons_iff.1 hrest
      obtain ⟨rfl, null⟩ := Prod.mk.inj hd
      obtain ⟨i, hi⟩ := d.decoded
      rw [null] at hi
      refine .inr ⟨d.column, d.bytes, ⟨⟨_, _, List.map_append, ?_⟩, puts⟩,
        ResultColumn.standsForNull_of_decode hi⟩
      intro cell hm
      obtain ⟨d', hd', rfl⟩ := List.mem_map.1 hm
      exact last _ (List.mem_map_of_mem hd')

/-- Apart from documents, decoding turns exactly the numbers that are not finite into null, which only the
two types of floating-point numbers have. A null in a row therefore stands where the result has no column,
where the server has null, for such a number, or for a null document. -/
theorem nulls_accounted (r : ResultSet) :
    (∀ (c : ResultColumn) (form : ValueForm), ValueForm.ofType? c.type = some form →
      form ≠ .json → form ≠ .binaryJson →
      (∀ i bytes, c.decode i (some bytes) = .ok .null ↔ form.NotFinite bytes) ∧
        (c.KeepsValues ↔ form ≠ .single ∧ form ≠ .double)) ∧
    ∀ schema row values, r.decodeRow row = .ok values →
      ∀ j, ((ColumnMapping.ofColumns r.names schema).place values).get? j = some .null →
        (∀ cell ∈ r.columns.zip row, ¬ schema.Puts cell.1.name j) ∨
          ∃ c v, LastPut schema j (r.columns.zip row) c v ∧ c.StandsForNull v := by
  constructor
  · intro c form typed json binaryJson
    refine ⟨fun i bytes => ?_, c.keepsValues_iff typed json binaryJson⟩
    have document : ¬ form.NullDocument bytes := by
      cases form <;> simp_all [ValueForm.NullDocument]
    rw [ResultColumn.decode_some_eq_null_iff typed, or_iff_left document]
  · intro schema row values decoded j null
    exact r.source_of_null schema decoded null

def ratesResult : ResultSet :=
  ⟨[⟨"rate", .builtin 701⟩, ⟨"id", .builtin 23⟩], []⟩

def ratesSchema : TableSchema :=
  ⟨.ofNames "public" "rates", [⟨"id", 1, "integer", false⟩, ⟨"rate", 2, "double precision", true⟩,
    ⟨"note", 3, "text", true⟩]⟩

def infiniteRow : List (Option Bytes) :=
  [some [0x7F, 0xF0, 0, 0, 0, 0, 0, 0], some [0, 0, 0, 7]]

theorem nulls_accounted_infinity :
    (ratesResult.decodeRow infiniteRow = .ok [.null, .int 7] ∧
      ((ColumnMapping.ofColumns ratesResult.names ratesSchema).place [.null, .int 7]).get? 1 =
        some .null ∧
      ValueForm.ofType? (.builtin 701) = some .double) ∧
    ((∀ cell ∈ ratesResult.columns.zip infiniteRow, ¬ ratesSchema.Puts cell.1.name 1) ∨
      ∃ c v, LastPut ratesSchema 1 (ratesResult.columns.zip infiniteRow) c v ∧ c.StandsForNull v) ∧
    (ResultColumn.KeepsValues ⟨"rate", .builtin 701⟩ ↔
      ValueForm.double ≠ .single ∧ ValueForm.double ≠ .double) := by
  have decoded : ratesResult.decodeRow infiniteRow = .ok [.null, .int 7] := rfl
  have null : ((ColumnMapping.ofColumns ratesResult.names ratesSchema).place [.null, .int 7]).get? 1 =
      some .null := rfl
  have typed : ValueForm.ofType? (.builtin 701) = some .double := rfl
  obtain ⟨columns, rows⟩ := nulls_accounted ratesResult
  exact ⟨⟨decoded, null, typed⟩, rows ratesSchema infiniteRow _ decoded 1 null,
    (columns ⟨"rate", .builtin 701⟩ .double typed nofun nofun).2⟩

theorem keepsValues_notANumber : ¬ ResultColumn.KeepsValues ⟨"rate", .builtin 701⟩ := by
  intro keeps
  exact keeps 0 [0x7F, 0xF8, 0, 0, 0, 0, 0, 0] rfl

end ResultSet

end SplitSnapshot
