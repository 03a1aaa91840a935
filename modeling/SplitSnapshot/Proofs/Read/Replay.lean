import SplitSnapshot.Proofs.Read.Story

namespace SplitSnapshot

variable {σ : Type}

namespace Services

/-- The entry that the services make of this one's call in a world, and the world after it. A scan is
opened under the schema that was read; what is no call is kept. -/
def again (sv : Services σ) (task : ReadTask) (schema : TableSchema) (w : σ) : Entry → Entry × σ
  | .schemaRead _ =>
      let a := sv.schema task.split.table.withoutCatalog w
      (.schemaRead a.result, a.world)
  | .positionRead _ =>
      let a := sv.position w
      (.positionRead a.result, a.world)
  | .scanOpened _ _ =>
      let a := sv.openScan task.split schema task.config.fetchSize w
      (.scanOpened a.result (sv.clock a.world), a.world)
  | .cancellationChecked _ => (.cancellationChecked (sv.cancelled w), w)
  | .rowRead _ _ =>
      let a := sv.nextRow w
      (.rowRead a.result (sv.clock a.world), a.world)
  | .scanClosed _ =>
      let a := sv.closeScan w
      (.scanClosed a.result, a.world)
  | .sent event _ =>
      let a := sv.send event w
      (.sent event a.result, a.world)
  | entry => (entry, w)

def replay (sv : Services σ) (task : ReadTask) (schema : TableSchema) :
    σ → List Entry → List Entry × σ
  | w, [] => ([], w)
  | w, entry :: journal =>
      let made := sv.again task schema w entry
      let rest := replay sv task schema made.2 journal
      (made.1 :: rest.1, rest.2)

def Replays (sv : Services σ) (task : ReadTask) (schema : TableSchema) (w : σ) (journal : List Entry)
    (w' : σ) : Prop :=
  sv.replay task schema w journal = (journal, w')

variable {sv : Services σ} {task : ReadTask} {schema : TableSchema} {w w' w'' : σ}
  {journal more : List Entry} {entry : Entry}

theorem replays_nil : sv.Replays task schema w [] w := rfl

theorem replays_cons (made : sv.again task schema w entry = (entry, w'))
    (rest : sv.Replays task schema w' journal w'') :
    sv.Replays task schema w (entry :: journal) w'' := by
  unfold Replays at rest ⊢
  simp only [replay, made, rest]

theorem Replays.append (first : sv.Replays task schema w journal w')
    (second : sv.Replays task schema w' more w'') :
    sv.Replays task schema w (journal ++ more) w'' := by
  induction journal generalizing w with
  | nil =>
      cases first
      exact second
  | cons entry journal ih =>
      simp only [Replays, replay, Prod.mk.injEq, List.cons.injEq] at first
      obtain ⟨⟨made, rest⟩, world⟩ := first
      exact replays_cons (Prod.ext made rfl) (ih (Prod.ext rest world))

theorem again_of_not_isCall (h : entry.isCall = false) : sv.again task schema w entry = (entry, w) := by
  cases entry with
  | counted update => rfl
  | progressed table rows => rfl
  | noted note => rfl
  | _ => cases h

theorem replays_of_no_calls (h : ∀ entry ∈ journal, entry.isCall = false) :
    sv.Replays task schema w journal w := by
  induction journal with
  | nil => exact replays_nil
  | cons entry journal ih =>
      obtain ⟨hentry, hjournal⟩ := List.forall_mem_cons.1 h
      exact replays_cons (again_of_not_isCall hentry) (ih hjournal)

theorem replays_call (notes : List LogEntry) (made : sv.again task schema w entry = (entry, w')) :
    sv.Replays task schema w (Entry.call notes entry) w' := by
  refine (replays_of_no_calls ?_).append (replays_cons made replays_nil)
  intro entry hm
  obtain ⟨note, -, rfl⟩ := List.mem_map.1 hm
  rfl

theorem Replays.induction {R : σ → σ → Prop} (h : sv.Replays task schema w journal w')
    (refl : ∀ w, R w w) (trans : ∀ {w₁ w₂ w₃}, R w₁ w₂ → R w₂ w₃ → R w₁ w₃)
    (step : ∀ w entry, R w (sv.again task schema w entry).2) : R w w' := by
  induction journal generalizing w with
  | nil =>
      cases h
      exact refl _
  | cons entry journal ih =>
      simp only [Replays, replay, Prod.mk.injEq, List.cons.injEq] at h
      obtain ⟨⟨made, rest⟩, world⟩ := h
      exact trans (step w entry) (ih (Prod.ext rest world))

end Services

section

variable {sv : Services σ} {task : ReadTask} {schema : TableSchema} {marks : Watermarks} {w w₁ : σ}
  {notes : List LogEntry}

theorem again_schema {answer : Except ReadError TableSchema}
    (h : sv.schema task.split.table.withoutCatalog w = ⟨answer, notes, w₁⟩) :
    sv.again task schema w (.schemaRead answer) = (.schemaRead answer, w₁) := by
  simp only [Services.again, h]

theorem again_position {answer : Except ReadError Lsn} (h : sv.position w = ⟨answer, notes, w₁⟩) :
    sv.again task schema w (.positionRead answer) = (.positionRead answer, w₁) := by
  simp only [Services.again, h]

theorem again_openScan {answer : Except ReadError Unit}
    (h : sv.openScan task.split schema task.config.fetchSize w = ⟨answer, notes, w₁⟩) :
    sv.again task schema w (.scanOpened answer (sv.clock w₁)) =
      (.scanOpened answer (sv.clock w₁), w₁) := by
  simp only [Services.again, h]

theorem again_cancelled {cancelled : Bool} (h : sv.cancelled w = cancelled) :
    sv.again task schema w (.cancellationChecked cancelled) = (.cancellationChecked cancelled, w) := by
  simp only [Services.again, h]

theorem again_nextRow {answer : Except ReadError (Option Row)}
    (h : sv.nextRow w = ⟨answer, notes, w₁⟩) :
    sv.again task schema w (.rowRead answer (sv.clock w₁)) =
      (.rowRead answer (sv.clock w₁), w₁) := by
  simp only [Services.again, h]

theorem again_closeScan {answer : Except ReadError Unit} (h : sv.closeScan w = ⟨answer, notes, w₁⟩) :
    sv.again task schema w (.scanClosed answer) = (.scanClosed answer, w₁) := by
  simp only [Services.again, h]

theorem again_send {event : SplitEvent} {answer : Except ReadError Unit}
    (h : sv.send event w = ⟨answer, notes, w₁⟩) :
    sv.again task schema w (.sent event answer) = (.sent event answer, w₁) := by
  simp only [Services.again, h]

theorem replays_rowEntries {scan : ScanContext} {timer : ProgressTimer} {row : Row}
    (go : sv.cancelled w = false) (read : sv.nextRow w = ⟨.ok (some row), notes, w₁⟩) :
    sv.Replays task schema w (task.rowEntries scan timer notes row (sv.clock w₁)) w₁ := by
  refine Services.replays_cons (again_cancelled go)
    ((Services.replays_call notes (again_nextRow read)).append (Services.replays_of_no_calls ?_))
  intro entry hm
  unfold ReadTask.progressEntries at hm
  split at hm
  · simp only [List.mem_cons, List.not_mem_nil, or_false] at hm
    rcases hm with rfl | rfl
    · rfl
    · rfl
  · cases hm

theorem RowCourse.replays {width : Nat} {scan : ScanContext} {timer : ProgressTimer}
    {r : StageResult σ (ScanContext × Except ReadError Unit)}
    (h : RowCourse sv task width marks scan timer w r) :
    sv.Replays task schema w r.journal r.state.world := by
  induction h with
  | limit | untimed => exact Services.replays_nil
  | cancelled stop =>
      exact Services.replays_cons (again_cancelled stop)
        (Services.replays_of_no_calls (by simp [Entry.isCall]))
  | failed go read | ended go read =>
      exact Services.replays_cons (again_cancelled go) (Services.replays_call _ (again_nextRow read))
  | overrun go read late => exact replays_rowEntries go read
  | refused go read sent =>
      exact (replays_rowEntries go read).append (Services.replays_call _ (again_send sent))
  | sent go read sent rest ih =>
      exact ((replays_rowEntries go read).append (Services.replays_call _ (again_send sent))).append ih

theorem replays_closingEntries {closing : Except ReadError Unit} {rows : Nat}
    (closed : sv.closeScan w = ⟨closing, notes, w₁⟩) :
    sv.Replays task schema w (task.closingEntries notes closing rows) w₁ := by
  refine ((Services.replays_call notes (again_closeScan closed)).append
    (Services.replays_of_no_calls ?_)).append (Services.replays_of_no_calls (by simp [Entry.isCall]))
  intro entry hm
  obtain ⟨note, -, rfl⟩ := List.mem_map.1 hm
  rfl

theorem ScanCourse.replays {scan : ScanContext} {r : StageResult σ ScanContext}
    (h : ScanCourse sv task schema marks scan w r) :
    sv.Replays task schema w r.journal r.state.world := by
  cases h with
  | unopened opened => exact Services.replays_call _ (again_openScan opened)
  | unfinished opened rows =>
      exact (Services.replays_call _ (again_openScan opened)).append rows.replays
  | broken opened rows closed =>
      exact ((Services.replays_call _ (again_openScan opened)).append rows.replays).append
        (replays_closingEntries closed)
  | exported opened rows closed =>
      exact ((Services.replays_call _ (again_openScan opened)).append rows.replays).append
        ((replays_closingEntries closed).append
          (Services.replays_of_no_calls (by simp [Entry.isCall])))

theorem replays_positionEntries {start : String} {p : Lsn}
    (read : sv.position w = ⟨.ok p, notes, w₁⟩) :
    sv.Replays task schema w (task.positionEntries notes start p) w₁ :=
  (Services.replays_call notes (again_position read)).append
    (Services.replays_of_no_calls (by simp [Entry.isCall]))

theorem WindowCourse.replays {low : Lsn} {scan : ScanContext} {r : StageResult σ OffsetContext}
    (h : WindowCourse sv task low scan marks w r) :
    sv.Replays task schema w r.journal r.state.world := by
  cases h with
  | unread read | reversed read order => exact Services.replays_call _ (again_position read)
  | refused read order sent =>
      exact (replays_positionEntries read).append (Services.replays_call _ (again_send sent))
  | uncompleted read order sent completion | completed read order sent completion =>
      exact (replays_positionEntries read).append ((Services.replays_call _ (again_send sent)).append
        (Services.replays_call _ (again_send completion)))

theorem replays_throughScan {low : Lsn} {more last : List LogEntry} {w₂ w₃ w₄ : σ}
    {journal : List Entry} (asked : sv.schema task.split.table.withoutCatalog w = ⟨.ok schema, notes, w₁⟩)
    (read : sv.position w₁ = ⟨.ok low, more, w₂⟩)
    (sent : sv.send (task.watermark .low low) w₂ = ⟨.ok (), last, w₃⟩)
    (scanning : sv.Replays task schema w₃ journal w₄) :
    sv.Replays task schema w (Entry.call notes (.schemaRead (.ok schema)) ++
      (task.lowEntries more low ++ (Entry.call last (.sent (task.watermark .low low) (.ok ())) ++
        .noted task.scanNote :: journal))) w₄ := by
  refine (Services.replays_call _ (again_schema asked)).append ?_
  refine (replays_positionEntries read).append ?_
  refine (Services.replays_call _ (again_send sent)).append ?_
  exact Services.replays_cons (Services.again_of_not_isCall rfl) scanning

theorem ReadCourse.replays {r : StageResult σ OffsetContext} (h : ReadCourse sv task marks w r)
    (only : ∀ read, .schemaRead (.ok read) ∈ r.journal → read = schema) :
    sv.Replays task schema w r.journal r.state.world := by
  cases h with
  | configInvalid | splitInvalid => exact Services.replays_nil
  | schemaUnread config split asked => exact Services.replays_call _ (again_schema asked)
  | lowUnread config split asked read =>
      exact (Services.replays_call _ (again_schema asked)).append
        (Services.replays_call _ (again_position read))
  | lowRefused config split asked read sent =>
      exact (Services.replays_call _ (again_schema asked)).append
        ((replays_positionEntries read).append (Services.replays_call _ (again_send sent)))
  | @stopped read _ _ _ _ _ _ _ _ _ _ config split asked position sent scanning =>
      obtain rfl := only read (List.mem_append_left _ (by simp [Entry.call]))
      exact replays_throughScan asked position sent scanning.replays
  | @scanned read _ _ _ _ _ _ _ _ _ _ _ config split asked position sent scanning closing =>
      obtain rfl := only read (List.mem_append_left _ (List.mem_append_left _ (by simp [Entry.call])))
      exact (replays_throughScan asked position sent scanning.replays).append closing.replays

end

def Run.Replays (run : Run σ) (sv : Services σ) (task : ReadTask) (w : σ) : Prop :=
  ∃ schema, (∀ read, .schemaRead (.ok read) ∈ run.journal → read = schema) ∧
    sv.Replays task schema w run.journal run.world

namespace ReadTask

theorem replays_execute {sv : Services σ} {task : ReadTask} {schema : TableSchema} {limit : Nat}
    {marks : Watermarks} {w : σ}
    (h : sv.Replays task schema w (task.stages sv limit ⟨w, marks⟩).journal
      (task.stages sv limit ⟨w, marks⟩).state.world) :
    sv.Replays task schema w (task.execute sv limit marks w).journal
      (task.execute sv limit marks w).world := by
  have uncalled (elapsed : Duration) (outcome : Option Outcome) :
      ∀ entry ∈ (outcome.map (task.closing elapsed)).getD [], entry.isCall = false := by
    rcases outcome with _ | (_ | _ | _) <;> simp [closing, Entry.isCall]
  exact (Services.replays_cons (Services.again_of_not_isCall rfl) h).append
    (Services.replays_of_no_calls (uncalled _ _))

/-- Nothing in the journal of a read is made up, and nothing that it did is left out. -/
theorem execute_replays (sv : Services σ) (task : ReadTask) (limit : Nat) (marks : Watermarks)
    (w : σ) : (task.execute sv limit marks w).Replays sv task w := by
  obtain ⟨story, hcalls, -, -⟩ := task.execute_story sv limit marks w
  have read (schema : TableSchema) :
      .schemaRead (.ok schema) ∈ (task.stages sv limit ⟨w, marks⟩).journal →
        story.schema? = some schema := by
    rw [← mem_calls rfl, ← calls_execute, hcalls]
    exact Story.schema_of_mem
  refine ⟨story.schema?.getD ⟨task.split.table, []⟩, fun schema h => ?_, replays_execute ?_⟩
  · rw [← mem_calls rfl, hcalls] at h
    rw [Story.schema_of_mem h, Option.getD_some]
  · refine (readCourse_stages sv task marks limit w).replays fun schema h => ?_
    rw [read schema h, Option.getD_some]

end ReadTask

end SplitSnapshot
