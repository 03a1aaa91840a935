import SplitSnapshot.Proofs.Documents.Events
import SplitSnapshot.Proofs.Read.RowCounts

namespace SplitSnapshot

variable {σ : Type}

def Entry.FitsWords : Entry → Prop
  | sent event _ => event.FitsWords
  | progressed _ rows => rows < pow2 64
  | _ => True

theorem Fields.mem_put {α : Type} {name : String} {value : α} {fields : Fields α} {e : String × α}
    (h : e ∈ fields.put name value) : e = (name, value) ∨ e ∈ fields := by
  induction fields with
  | nil => exact .inl (List.mem_singleton.1 h)
  | cons f fields ih =>
      rw [put] at h
      split at h
      · exact List.mem_cons.1 h
      split at h
      · exact (List.mem_cons.1 h).imp_right (List.mem_cons_of_mem f)
      rcases List.mem_cons.1 h with rfl | h
      · exact .inr List.mem_cons_self
      · exact (ih h).imp_right (List.mem_cons_of_mem f)

namespace OffsetContext

variable {c : OffsetContext} {table : TableId} {millis : Int}

theorem fitsWords_start (part : Partition) (position : Lsn) : (start part position).FitsWords where
  millis := (by decide : FitsTime 0)
  counts _ h := nomatch h

theorem FitsWords.event (h : c.FitsWords) (few : c.eventsFor table + 1 < pow2 64)
    (time : FitsTime millis) : (c.event table millis).FitsWords where
  millis := time
  counts e he := by
    rcases Fields.mem_put he with rfl | he
    · exact few
    · exact h.counts e he

theorem FitsWords.advanceTo (h : c.FitsWords) (position : Lsn) : (c.advanceTo position).FitsWords :=
  ⟨h.millis, h.counts⟩

end OffsetContext

structure ScanContext.HasRoom (c : ScanContext) (table : TableId) (more : Nat) : Prop where
  counted : c.offset.eventsFor table = c.rows
  offset : c.offset.FitsWords
  room : c.rows + more < pow2 64

namespace ScanContext.HasRoom

variable {c : ScanContext} {table : TableId} {more : Nat} {millis : Int}

theorem start (part : Partition) (low : Lsn) (now : Nat) (few : more < pow2 64) :
    (ScanContext.start part low now).HasRoom table more where
  counted := rfl
  offset := OffsetContext.fitsWords_start part low
  room := by
    rw [ScanContext.start, Nat.zero_add]
    exact few

theorem within {journal whole : List Entry} (h : c.HasRoom table (rowsRead whole).length)
    (part : journal <:+: whole) : c.HasRoom table (rowsRead journal).length where
  counted := h.counted
  offset := h.offset
  room := by
    have fewer : (rowsRead journal).length ≤ (rowsRead whole).length :=
      (part.filterMap Entry.row?).length_le
    exact Nat.lt_of_le_of_lt (Nat.add_le_add_left fewer c.rows) h.room

theorem rows_lt (h : c.HasRoom table (more + 1)) : c.rows + 1 < pow2 64 :=
  Nat.lt_of_le_of_lt (by omega) h.room

theorem events_lt (h : c.HasRoom table (more + 1)) : c.offset.eventsFor table + 1 < pow2 64 := by
  rw [h.counted]
  exact h.rows_lt

theorem withRow (h : c.HasRoom table (more + 1)) (time : FitsTime millis) :
    (c.withRow table millis).HasRoom table more where
  counted := by
    rw [ScanContext.withRow, OffsetContext.eventsFor_event, h.counted]
  offset := h.offset.event h.events_lt time
  room := by
    have room := h.room
    simp only [ScanContext.withRow]
    omega

end ScanContext.HasRoom

def InWords (journal : List Entry) : Prop :=
  ∀ entry ∈ journal, entry.FitsWords

section

variable {entry : Entry} {journal first second : List Entry}

@[simp] theorem inWords_nil : InWords [] := List.forall_mem_nil _

@[simp] theorem inWords_cons : InWords (entry :: journal) ↔ entry.FitsWords ∧ InWords journal :=
  List.forall_mem_cons

@[simp] theorem inWords_append : InWords (first ++ second) ↔ InWords first ∧ InWords second :=
  List.forall_mem_append

@[simp] theorem inWords_map_noted (notes : List LogEntry) : InWords (notes.map .noted) := by
  intro entry hm
  obtain ⟨note, -, rfl⟩ := List.mem_map.1 hm
  trivial

@[simp] theorem inWords_call (notes : List LogEntry) :
    InWords (Entry.call notes entry) ↔ entry.FitsWords := by
  simp [Entry.call]

end

namespace ReadTask

variable (task : ReadTask) (notes : List LogEntry)

theorem inWords_rowEntries {scan : ScanContext} (few : scan.rows + 1 < pow2 64) (timer : ProgressTimer)
    (row : Row) (now : Nat) : InWords (task.rowEntries scan timer notes row now) := by
  rw [rowEntries, progressEntries]
  split <;> simp [Entry.FitsWords, few]

@[simp] theorem inWords_closingEntries (closing : Except ReadError Unit) (rows : Nat) :
    InWords (task.closingEntries notes closing rows) := by
  simp [closingEntries, Entry.FitsWords]

@[simp] theorem inWords_positionEntries (start : String) (p : Lsn) :
    InWords (task.positionEntries notes start p) := by
  simp [positionEntries, Entry.FitsWords]

@[simp] theorem inWords_lowEntries (low : Lsn) : InWords (task.lowEntries notes low) :=
  task.inWords_positionEntries notes _ low

@[simp] theorem inWords_highEntries (high : Lsn) : InWords (task.highEntries notes high) :=
  task.inWords_positionEntries notes _ high

@[simp] theorem inWords_scanPrelude (schema : TableSchema) (low : Lsn) (more last : List LogEntry) :
    InWords (task.scanPrelude schema low notes more last) := by
  simp [scanPrelude, Entry.FitsWords, watermark, SplitEvent.FitsWords]

theorem fitsWords_rowEvent {scan : ScanContext} {more : Nat} {millis : Int}
    (h : scan.HasRoom task.split.table (more + 1)) (time : FitsTime millis) (width : Nat) (row : Row) :
    (task.rowEvent scan.offset width millis row).FitsWords :=
  ⟨h.events_lt, time⟩

end ReadTask

section

variable {sv : Services σ} {task : ReadTask} {marks : Watermarks} {scan : ScanContext} {w : σ}

theorem WindowCourse.inWords {low : Lsn} {r : StageResult σ OffsetContext}
    (h : WindowCourse sv task low scan marks w r) (offset : scan.offset.FitsWords) :
    InWords r.journal ∧ ∀ left, r.value = .ok left → left.FitsWords := by
  cases h with
  | completed read order sent completion =>
      refine ⟨by simp [Entry.FitsWords, ReadTask.watermark, SplitEvent.FitsWords], ?_⟩
      rintro _ ⟨⟩
      exact offset.advanceTo _
  | _ =>
      refine ⟨by simp [Entry.FitsWords, ReadTask.watermark, SplitEvent.FitsWords], ?_⟩
      rintro _ ⟨⟩

variable (times : ∀ w, FitsTime (sv.wallMillis w))
include times

theorem RowCourse.inWords {width : Nat} {timer : ProgressTimer}
    {r : StageResult σ (ScanContext × Except ReadError Unit)}
    (h : RowCourse sv task width marks scan timer w r)
    (room : scan.HasRoom task.split.table (rowsRead r.journal).length) :
    InWords r.journal ∧ ∀ left, r.value = .ok left → left.1.offset.FitsWords := by
  induction h with
  | limit | untimed => exact ⟨inWords_nil, nofun⟩
  | cancelled stop | failed go read | ended go read =>
      refine ⟨by simp [Entry.FitsWords], ?_⟩
      rintro _ ⟨⟩
      exact room.offset
  | overrun go read late =>
      rw [ReadTask.rowsRead_rowEntries] at room
      exact ⟨task.inWords_rowEntries _ room.rows_lt _ _ _, nofun⟩
  | @refused scan timer w row notes w₁ e more w₂ go read sent =>
      have one : rowsRead (task.rowEntries scan timer notes row (sv.clock w₁) ++ Entry.call more
          (.sent (task.rowEvent scan.offset width (sv.wallMillis w₁) row) (.error e))) = [row] := by
        simp [Entry.row?]
      rw [one] at room
      have words := task.inWords_rowEntries notes room.rows_lt timer row (sv.clock w₁)
      have event := task.fitsWords_rowEvent room (times w₁) width row
      refine ⟨by simpa [Entry.FitsWords] using ⟨words, event⟩, ?_⟩
      rintro _ ⟨⟩
      exact (room.withRow (times w₁)).offset
  | @sent scan timer w row notes w₁ more w₂ r go read sent rest ih =>
      have rows : rowsRead (r.after (task.rowEntries scan timer notes row (sv.clock w₁) ++
          Entry.call more (.sent (task.rowEvent scan.offset width (sv.wallMillis w₁) row)
            (.ok ())))).journal = row :: rowsRead r.journal := by
        simp [StageResult.after, Entry.row?]
      rw [rows] at room
      have words := task.inWords_rowEntries notes room.rows_lt timer row (sv.clock w₁)
      have event := task.fitsWords_rowEvent room (times w₁) width row
      obtain ⟨more_words, left⟩ := ih (room.withRow (times w₁))
      exact ⟨by simpa [StageResult.after, Entry.FitsWords] using ⟨words, event, more_words⟩, left⟩

theorem ScanCourse.inWords {schema : TableSchema} {r : StageResult σ ScanContext}
    (h : ScanCourse sv task schema marks scan w r)
    (room : scan.HasRoom task.split.table (rowsRead r.journal).length) :
    InWords r.journal ∧ ∀ left, r.value = .ok left → left.offset.FitsWords := by
  cases h with
  | unopened opened =>
      refine ⟨by simp [Entry.FitsWords], ?_⟩
      rintro _ ⟨⟩
  | unfinished opened rows =>
      obtain ⟨words, -⟩ := rows.inWords times (room.within ⟨_, [], List.append_nil _⟩)
      refine ⟨by simp [Entry.FitsWords, words], ?_⟩
      rintro _ ⟨⟩
  | broken opened rows closed =>
      obtain ⟨words, -⟩ := rows.inWords times (room.within ⟨_, _, rfl⟩)
      refine ⟨by simp [Entry.FitsWords, words], ?_⟩
      rintro _ ⟨⟩
  | exported opened rows closed =>
      obtain ⟨words, left⟩ := rows.inWords times (room.within ⟨_, _, rfl⟩)
      refine ⟨by simp [Entry.FitsWords, words], ?_⟩
      rintro _ ⟨⟩
      exact left _ rfl

theorem ReadCourse.inWords {r : StageResult σ OffsetContext} (h : ReadCourse sv task marks w r)
    (few : (rowsRead r.journal).length < pow2 64) :
    InWords r.journal ∧ ∀ offset, r.value = .ok offset → offset.FitsWords := by
  cases h with
  | @stopped schema notes w₁ low more w₂ last w₃ stop journal state config split asked read sent
      scanning =>
      rw [← ReadTask.scanPrelude_append] at few ⊢
      have room : (ScanContext.start task.part low (sv.clock w₃)).HasRoom task.split.table
          (rowsRead journal).length := (ScanContext.HasRoom.start _ _ _ few).within
        ⟨_, [], List.append_nil _⟩
      refine ⟨by simp [(scanning.inWords times room).1], ?_⟩
      rintro _ ⟨⟩
  | @scanned schema notes w₁ low more w₂ last w₃ scan journal w₄ r config split asked read sent
      scanning closing =>
      rw [← ReadTask.scanPrelude_append] at few ⊢
      have room : (ScanContext.start task.part low (sv.clock w₃)).HasRoom task.split.table
          (rowsRead journal).length := (ScanContext.HasRoom.start _ _ _ few).within ⟨_, _, rfl⟩
      obtain ⟨words, left⟩ := scanning.inWords times room
      obtain ⟨closed, offset⟩ := closing.inWords (left scan rfl)
      exact ⟨by simp [StageResult.after, words, closed], offset⟩
  | _ =>
      refine ⟨by simp [Entry.FitsWords, ReadTask.watermark, SplitEvent.FitsWords], ?_⟩
      rintro _ ⟨⟩

end

namespace ReadTask

theorem inWords_closing {task : ReadTask} (elapsed : Duration) (outcome : Option Outcome) :
    InWords ((outcome.map (task.closing elapsed)).getD []) := by
  rcases outcome with _ | (_ | _ | _) <;> simp [closing, InWords, Entry.FitsWords]

/-- A read of fewer rows than a word can count has no number anywhere that a word cannot hold. -/
theorem execute_inWords {sv : Services σ} {task : ReadTask} {limit : Nat} {marks : Watermarks}
    {w : σ} (times : ∀ w, FitsTime (sv.wallMillis w))
    (few : (rowsRead (task.execute sv limit marks w).journal).length < pow2 64) :
    InWords (task.execute sv limit marks w).journal ∧
      ∀ offset, (task.execute sv limit marks w).outcome = some (.completed offset) →
        offset.FitsWords := by
  rw [rowsRead_execute, rowsRead_calls] at few
  obtain ⟨words, left⟩ := (readCourse_stages sv task marks limit w).inWords times few
  exact ⟨inWords_append.2 ⟨inWords_cons.2 ⟨trivial, words⟩, inWords_closing _ _⟩,
    fun offset completed => left offset (outcomeOf_eq_completed_iff.1 completed)⟩

end ReadTask

end SplitSnapshot
