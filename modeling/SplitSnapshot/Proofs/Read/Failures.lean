import SplitSnapshot.Proofs.Read.Marks
import SplitSnapshot.Proofs.Read.Rows
import SplitSnapshot.Proofs.Read.Stamps

namespace SplitSnapshot

variable {σ : Type}

def Entry.error? : Entry → Option ReadError
  | schemaRead (.error e) | positionRead (.error e) | scanOpened (.error e) _ | rowRead (.error e) _
  | scanClosed (.error e) | sent _ (.error e) => some e
  | _ => none

@[simp] abbrev serviceErrors (journal : List Entry) : List ReadError :=
  shown Entry.error? journal

def ReadError.isOwn : ReadError → Bool
  | snapshottingFailed _ _ | interrupted => false
  | _ => true

theorem ReadError.ofTable_of_isOwn {e : ReadError} (h : e.isOwn = true) (table : TableId) :
    ofTable table e = snapshottingFailed table e := by
  cases e <;> first | rfl | cases h

theorem ReadTask.openFailure_of_ne {task : ReadTask} {e : ReadError}
    (h : ∀ fault, e ≠ .queryConstruction fault) : task.openFailure e = task.ofTable e := by
  unfold openFailure
  split
  · exact absurd rfl (h _)
  · rfl

theorem mem_serviceErrors {journal : List Entry} {entry : Entry} {e : ReadError} (h : entry ∈ journal)
    (he : entry.error? = some e) : e ∈ serviceErrors journal :=
  List.mem_filterMap.2 ⟨entry, h, he⟩

theorem serviceErrors_calls (journal : List Entry) :
    serviceErrors (calls journal) = serviceErrors journal :=
  shown_calls (fun entry h => by cases entry <;> simp_all [Entry.isCall, Entry.error?]) journal

namespace ReadTask

def HighFailed (journal : List Entry) (source : ReadError) : Prop :=
  (positionAnswers journal)[1]? = some (.error source) ∨
    ∃ low high, positionAnswers journal = [.ok low, .ok high] ∧ high.precedes low = true ∧
      source = .sourceUnavailable (.positionsReversed high low) none

def TableFailed (journal : List Entry) (source : ReadError) : Prop :=
  .schemaRead (.error source) ∈ journal ∨ (∃ event, .sent event (.error source) ∈ journal) ∨
    (∃ time, .scanOpened (.error source) time ∈ journal ∧
      ∀ fault, source ≠ .queryConstruction fault) ∨
    ∃ time, .rowRead (.error source) time ∈ journal

structure SentToEnd (task : ReadTask) (journal : List Entry) : Prop where
  accepted : ∃ low, ∃ changes : List DataChange,
    acceptedEvents journal = task.watermark .low low :: changes.map .dataChange
  ended : ∃ time, .rowRead (.ok none) time ∈ journal
  every_row : ∃ schema, .schemaRead (.ok schema) ∈ journal ∧
    acceptedRows journal = (rowsRead journal).map fun row => row.fitTo schema.width
  untried : ∀ high answer, .sent (task.watermark .high high) answer ∉ journal

structure Classified (task : ReadTask) (journal : List Entry) (e : ReadError) : Prop where
  by_stage : (∃ fault, e = .config fault) ∨ (∃ fault, e = .queryConstruction fault) ∨
    (∃ kind source, e = .watermarkFailed kind source) ∨
      ∃ source, e = .snapshottingFailed task.split.table source
  config_iff : ∀ fault, e = .config fault ↔ task.config.validate = .error fault
  query_iff : ∀ fault, e = .queryConstruction fault ↔
    task.config.validate = .ok () ∧ task.split.validate = .error fault ∨
      ∃ time, .scanOpened (.error (.queryConstruction fault)) time ∈ journal
  query_early : ∀ fault, e = .queryConstruction fault → acceptedChanges journal = [] ∧
    (task.split.validate ≠ .ok () → acceptedEvents journal = [])
  low_iff : ∀ source, e = .watermarkFailed .low source ↔
    (positionAnswers journal)[0]? = some (.error source)
  low_early : ∀ source, e = .watermarkFailed .low source → acceptedEvents journal = []
  high_iff : ∀ source, e = .watermarkFailed .high source ↔ HighFailed journal source
  high_late : ∀ source, e = .watermarkFailed .high source → task.SentToEnd journal
  table_iff : ∀ source, e = .snapshottingFailed task.split.table source ↔ TableFailed journal source

end ReadTask

namespace Story

variable {task : ReadTask} {story : Story} {e : ReadError}

inductive Fails (task : ReadTask) : Story → ReadError → Prop
  | config (fault : ConfigFault) (invalid : task.config.validate = .error fault) :
      Fails task (.invalid (.config fault)) (.config fault)
  | split (fault : QueryFault) (valid : task.config.validate = .ok ())
      (invalid : task.split.validate = .error fault) :
      Fails task (.invalid (.queryConstruction fault)) (.queryConstruction fault)
  | schema (e : ReadError) :
      Fails task (.schemaUnread e) (.snapshottingFailed task.split.table e)
  | low (schema : TableSchema) (e : ReadError) :
      Fails task (.lowUnread schema e) (.watermarkFailed .low e)
  | lowSink (schema : TableSchema) (low : Lsn) (e : ReadError) :
      Fails task (.lowRefused schema low e) (.snapshottingFailed task.split.table e)
  | query (schema : TableSchema) (low : Lsn) (fault : QueryFault) (time : Nat) :
      Fails task (.unopened schema low (.queryConstruction fault) time) (.queryConstruction fault)
  | opening (schema : TableSchema) (low : Lsn) (e : ReadError) (time : Nat)
      (other : ∀ fault, e ≠ .queryConstruction fault) :
      Fails task (.unopened schema low e time) (.snapshottingFailed task.split.table e)
  | row (schema : TableSchema) (low : Lsn) (time : Nat) (ds : List Delivery) (e : ReadError)
      (finish : Nat) (closing : Option (Except ReadError Unit)) :
      Fails task (.broken schema low time ds (.failed e finish) closing)
        (.snapshottingFailed task.split.table e)
  | rowSink (schema : TableSchema) (low : Lsn) (time : Nat) (ds : List Delivery) (d : Delivery)
      (e : ReadError) (closing : Option (Except ReadError Unit)) :
      Fails task (.broken schema low time ds (.refused d e) closing)
        (.snapshottingFailed task.split.table e)
  | high (schema : TableSchema) (low : Lsn) (time : Nat) (ds : List Delivery) (finish : Nat)
      (closing : Except ReadError Unit) (e : ReadError) :
      Fails task (.exported schema low time ds finish closing (.unread e)) (.watermarkFailed .high e)
  | reversed (schema : TableSchema) (low : Lsn) (time : Nat) (ds : List Delivery) (finish : Nat)
      (closing : Except ReadError Unit) (high : Lsn) :
      Fails task (.exported schema low time ds finish closing (.reversed high))
        (.watermarkFailed .high (.sourceUnavailable (.positionsReversed high low) none))
  | highSink (schema : TableSchema) (low : Lsn) (time : Nat) (ds : List Delivery) (finish : Nat)
      (closing : Except ReadError Unit) (high : Lsn) (e : ReadError) :
      Fails task (.exported schema low time ds finish closing (.refused high e))
        (.snapshottingFailed task.split.table e)
  | completion (schema : TableSchema) (low : Lsn) (time : Nat) (ds : List Delivery) (finish : Nat)
      (closing : Except ReadError Unit) (high : Lsn) (e : ReadError) :
      Fails task (.exported schema low time ds finish closing (.uncompleted high e))
        (.snapshottingFailed task.split.table e)

theorem fails (hc : story.Consistent task) (hs : story.stop? task = some (.failed e))
    (uninterrupted : e ≠ .interrupted)
    (own : ∀ e ∈ serviceErrors (story.calls task), e.isOwn = true) : story.Fails task e := by
  have ofTable {entry : Entry} {e : ReadError} (h : entry ∈ story.calls task)
      (he : entry.error? = some e) : task.ofTable e = .snapshottingFailed task.split.table e :=
    ReadError.ofTable_of_isOwn (own e (mem_serviceErrors h he)) task.split.table
  cases story with
  | invalid e =>
      cases hs
      rcases hc with ⟨fault, config, rfl⟩ | ⟨config, fault, split, rfl⟩
      · exact .config fault config
      · exact .split fault config split
  | schemaUnread e =>
      cases hs
      rw [@ofTable (.schemaRead (.error e)) e (by simp [calls]) rfl]
      exact .schema e
  | lowUnread schema e =>
      cases hs
      exact .low schema e
  | lowRefused schema low e =>
      cases hs
      rw [@ofTable (.sent (task.watermark .low low) (.error e)) e (by simp [calls]) rfl]
      exact .lowSink schema low e
  | unopened schema low e time =>
      cases hs
      have failed := @ofTable (.scanOpened (.error e) time) e (by simp [calls]) rfl
      by_cases query : ∃ fault, e = .queryConstruction fault
      · obtain ⟨fault, rfl⟩ := query
        exact .query schema low fault time
      · have other := not_exists.1 query
        rw [ReadTask.openFailure_of_ne other, failed]
        exact .opening schema low e time other
  | broken schema low time ds ending closing =>
      cases ending with
      | unfinished | untimed | overrun => cases hs
      | cancelled =>
          cases hs
          exact absurd rfl uninterrupted
      | failed e finish =>
          cases hs
          rw [@ofTable (.rowRead (.error e) finish) e (by simp [calls, RowsEnd.calls]) rfl]
          exact .row schema low time ds e finish closing
      | exhausted finish => cases hs
      | refused d e =>
          cases hs
          rw [@ofTable (.sent (.dataChange d.change) (.error e)) e
            (by simp [calls, RowsEnd.calls]) rfl]
          exact .rowSink schema low time ds d e closing
  | exported schema low time ds finish closing window =>
      cases window with
      | unread e =>
          cases hs
          exact .high schema low time ds finish closing e
      | reversed high =>
          cases hs
          exact .reversed schema low time ds finish closing high
      | refused high e =>
          cases hs
          rw [@ofTable (.sent (task.watermark .high high) (.error e)) e
            (by simp [calls, WindowEnd.calls]) rfl]
          exact .highSink schema low time ds finish closing high e
      | uncompleted high e =>
          cases hs
          rw [@ofTable (.sent (.completed task.split.splitId) (.error e)) e
            (by simp [calls, WindowEnd.calls]) rfl]
          exact .completion schema low time ds finish closing high e
      | completed high => cases hs

namespace Fails

theorem valid (h : story.Fails task e) (hc : story.Consistent task) :
    (∃ fault, task.config.validate = .error fault ∧ e = .config fault ∧
        story = .invalid (.config fault)) ∨
      (∃ fault, task.config.validate = .ok () ∧ task.split.validate = .error fault ∧
        e = .queryConstruction fault ∧ story = .invalid (.queryConstruction fault)) ∨
      task.config.validate = .ok () ∧ task.split.validate = .ok () := by
  cases h with
  | config fault invalid => exact .inl ⟨fault, invalid, rfl, rfl⟩
  | split fault valid invalid => exact .inr (.inl ⟨fault, valid, invalid, rfl, rfl⟩)
  | row | rowSink | high | reversed | highSink | completion => exact .inr (.inr ⟨hc.1, hc.2.1⟩)
  | _ => exact .inr (.inr hc)

theorem by_stage (h : story.Fails task e) : (∃ fault, e = .config fault) ∨
    (∃ fault, e = .queryConstruction fault) ∨ (∃ kind source, e = .watermarkFailed kind source) ∨
      ∃ source, e = .snapshottingFailed task.split.table source := by
  cases h with
  | config fault => exact .inl ⟨fault, rfl⟩
  | split fault | query _ _ fault => exact .inr (.inl ⟨fault, rfl⟩)
  | low | high | reversed => exact .inr (.inr (.inl ⟨_, _, rfl⟩))
  | _ => exact .inr (.inr (.inr ⟨_, rfl⟩))

theorem config_iff (h : story.Fails task e) (hc : story.Consistent task) (fault : ConfigFault) :
    e = .config fault ↔ task.config.validate = .error fault := by
  rcases h.valid hc with ⟨fault, invalid, rfl, -⟩ | ⟨fault, valid, -, rfl, -⟩ | ⟨valid, -⟩
  · simp [invalid]
  · simp [valid]
  · rw [valid]
    cases h with
    | config fault invalid => simp [invalid] at valid
    | _ => simp

theorem query_iff (h : story.Fails task e) (hc : story.Consistent task) (fault : QueryFault) :
    e = .queryConstruction fault ↔
      task.config.validate = .ok () ∧ task.split.validate = .error fault ∨
        ∃ time, .scanOpened (.error (.queryConstruction fault)) time ∈ story.calls task := by
  rcases h.valid hc with ⟨fault, invalid, rfl, rfl⟩ | ⟨fault, valid, invalid, rfl, rfl⟩ |
    ⟨config, split⟩
  · simp [invalid, calls]
  · simp [valid, invalid, calls]
  · rw [split]
    cases h with
    | config fault invalid => simp [invalid] at config
    | split fault valid invalid => simp [invalid] at split
    | query => simp [calls, eq_comm]
    | opening schema low e time other => simp [calls, eq_comm, other]
    | rowSink | highSink | completion | high | reversed | row =>
        simp [calls, Delivery.calls, RowsEnd.calls, WindowEnd.calls]
    | _ => simp [calls]

theorem query_early (h : story.Fails task e) (hc : story.Consistent task) {fault : QueryFault}
    (hq : e = .queryConstruction fault) : acceptedChanges (story.calls task) = [] ∧
      (task.split.validate ≠ .ok () → acceptedEvents (story.calls task) = []) := by
  rw [acceptedChanges_eq_filterMap, Story.acceptedEvents_calls]
  cases h with
  | split => exact ⟨rfl, fun _ => rfl⟩
  | query => exact ⟨rfl, fun invalid => absurd hc.2 invalid⟩
  | _ => cases hq

theorem low_iff (h : story.Fails task e) (source : ReadError) : e = .watermarkFailed .low source ↔
    (positionAnswers (story.calls task))[0]? = some (.error source) := by
  rw [Story.positionAnswers_calls]
  cases h <;> simp [positions]

theorem low_early (h : story.Fails task e) {source : ReadError}
    (hl : e = .watermarkFailed .low source) : acceptedEvents (story.calls task) = [] := by
  rw [Story.acceptedEvents_calls]
  cases h with
  | low => rfl
  | _ => cases hl

theorem high_iff (h : story.Fails task e) (hc : story.Consistent task) (source : ReadError) :
    e = .watermarkFailed .high source ↔ ReadTask.HighFailed (story.calls task) source := by
  rw [ReadTask.HighFailed, Story.positionAnswers_calls]
  cases h with
  | high schema low time ds finish closing e => simp [positions, WindowEnd.position]
  | reversed schema low time ds finish closing high =>
      have order : high.precedes low = true := hc.2.2.2
      constructor
      · rintro ⟨⟩
        exact .inr ⟨low, high, rfl, order, rfl⟩
      · rintro (unread | ⟨low', high', read, -, rfl⟩)
        · cases unread
        · cases read
          rfl
  | highSink schema low time ds finish closing high e
  | completion schema low time ds finish closing high e =>
      have order : high.precedes low = false := hc.2.2.2
      constructor
      · rintro ⟨⟩
      · rintro (unread | ⟨low', high', read, order', -⟩)
        · cases unread
        · cases read
          rw [order] at order'
          cases order'
  | _ => simp [positions]

theorem table_iff (h : story.Fails task e) (source : ReadError) :
    e = .snapshottingFailed task.split.table source ↔
      ReadTask.TableFailed (story.calls task) source := by
  rw [ReadTask.TableFailed, eq_comm]
  cases h with
  | opening schema low e time other =>
      have opened : (∃ t, Entry.scanOpened (.error source) t ∈
          (unopened schema low e time).calls task ∧ ∀ fault, source ≠ .queryConstruction fault) ↔
            source = e := by
        constructor
        · rintro ⟨t, ht, -⟩
          simp [calls] at ht
          exact ht.1
        · rintro rfl
          exact ⟨time, by simp [calls], other⟩
      rw [opened]
      simp [calls]
  | query schema low fault time =>
      have unopened : ¬ ∃ t, Entry.scanOpened (.error source) t ∈
          (unopened schema low (.queryConstruction fault) time).calls task ∧
            ∀ fault, source ≠ .queryConstruction fault := by
        rintro ⟨t, ht, other⟩
        simp [calls] at ht
        exact other fault ht.1
      simp only [unopened]
      simp [calls]
  | _ => simp [calls, Delivery.calls, RowsEnd.calls, WindowEnd.calls]

end Fails

theorem sentToEnd {schema : TableSchema} {low : Lsn} {time : Nat} {ds : List Delivery} {finish : Nat}
    {closing : Except ReadError Unit} {window : WindowEnd} (fitted : Fitted schema ds)
    (accepted : window.accepted task = [])
    (untried : ∀ high answer, .sent (task.watermark .high high) answer ∉ window.calls task) :
    task.SentToEnd ((exported schema low time ds finish closing window).calls task) where
  accepted := by
    refine ⟨low, ds.map Delivery.change, ?_⟩
    rw [acceptedEvents_calls, Story.accepted, accepted, List.append_nil, List.map_map]
    rfl
  ended := ⟨finish, by simp [calls, RowsEnd.calls]⟩
  every_row := by
    refine ⟨schema, by simp [calls], ?_⟩
    rw [rowsRead_calls, acceptedRows_eq fitted]
    rfl
  untried high answer := by
    have unsent := untried high answer
    simp [calls, Delivery.calls, RowsEnd.calls, ReadTask.watermark] at unsent ⊢
    exact unsent

theorem Fails.high_late (h : story.Fails task e) (hc : story.Consistent task) {source : ReadError}
    (hh : e = .watermarkFailed .high source) : task.SentToEnd (story.calls task) := by
  cases h with
  | high => exact sentToEnd hc.2.2.1 rfl (by simp [WindowEnd.calls])
  | reversed => exact sentToEnd hc.2.2.1 rfl (by simp [WindowEnd.calls])
  | _ => cases hh

theorem Fails.classified (h : story.Fails task e) (hc : story.Consistent task) :
    task.Classified (story.calls task) e where
  by_stage := h.by_stage
  config_iff := h.config_iff hc
  query_iff := h.query_iff hc
  query_early _ := h.query_early hc
  low_iff := h.low_iff
  low_early _ := h.low_early
  high_iff := h.high_iff hc
  high_late _ := h.high_late hc
  table_iff := h.table_iff

end Story

namespace ReadTask

variable {task : ReadTask} {journal : List Entry} {e source : ReadError}

theorem highFailed_calls : HighFailed (calls journal) source ↔ HighFailed journal source := by
  rw [HighFailed, positionAnswers_calls, HighFailed]

theorem tableFailed_calls : TableFailed (calls journal) source ↔ TableFailed journal source := by
  simp only [TableFailed, mem_calls_iff, Entry.isCall, and_true]

theorem SentToEnd.of_calls (h : task.SentToEnd (calls journal)) : task.SentToEnd journal := by
  obtain ⟨accepted, ended, every_row, untried⟩ := h
  simp only [acceptedEvents_calls, acceptedRows_calls, rowsRead_calls, mem_calls_iff, Entry.isCall,
    and_true] at accepted ended every_row untried
  exact ⟨accepted, ended, every_row, untried⟩

theorem Classified.of_calls (h : task.Classified (calls journal) e) : task.Classified journal e where
  by_stage := h.by_stage
  config_iff := h.config_iff
  query_iff fault := by
    have query := h.query_iff fault
    simpa only [mem_calls_iff, Entry.isCall, and_true] using query
  query_early fault hq := by
    have early := h.query_early fault hq
    rwa [acceptedChanges_calls, acceptedEvents_calls] at early
  low_iff source := by
    have low := h.low_iff source
    rwa [positionAnswers_calls] at low
  low_early source hl := by
    have early := h.low_early source hl
    rwa [acceptedEvents_calls] at early
  high_iff source := (h.high_iff source).trans highFailed_calls
  high_late source hh := (h.high_late source hh).of_calls
  table_iff source := (h.table_iff source).trans tableFailed_calls

theorem execute_classified {sv : Services σ} {task : ReadTask} {limit : Nat} {marks : Watermarks}
    {w : σ} {e : ReadError}
    (own : ∀ e ∈ serviceErrors (task.execute sv limit marks w).journal, e.isOwn = true)
    (failed : (task.execute sv limit marks w).outcome = some (.failed e)) :
    (task.execute sv limit marks w).Replays sv task w ∧
      task.Classified (task.execute sv limit marks w).journal e := by
  obtain ⟨story, hcalls, hstop, hc⟩ := task.execute_story sv limit marks w
  obtain ⟨hv, uninterrupted⟩ := outcomeOf_eq_failed_iff.1 failed
  rw [hv] at hstop
  rw [← serviceErrors_calls, hcalls] at own
  have fails := Story.fails hc hstop.symm uninterrupted own
  exact ⟨task.execute_replays sv limit marks w, .of_calls (hcalls ▸ fails.classified hc)⟩

def breaking : Services Nat :=
  { emptyTable 9 with
    nextRow := fun w =>
      ⟨if w = 1 then .ok (some ⟨[.int 7]⟩) else .error (.scanFailed .fetchFailed none), [], w⟩ }

theorem execute_classified_breaking :
    (∀ e ∈ serviceErrors (ordersTask.execute breaking 5 .none 0).journal, e.isOwn = true) ∧
      (ordersTask.execute breaking 5 .none 0).outcome = some (.failed
        (.snapshottingFailed ordersTask.split.table (.scanFailed .fetchFailed none))) ∧
      ordersTask.Classified (ordersTask.execute breaking 5 .none 0).journal
        (.snapshottingFailed ordersTask.split.table (.scanFailed .fetchFailed none)) := by
  have errors : serviceErrors (ordersTask.execute breaking 5 .none 0).journal =
      [.scanFailed .fetchFailed none] := rfl
  have own : ∀ e ∈ serviceErrors (ordersTask.execute breaking 5 .none 0).journal,
      e.isOwn = true := by
    rw [errors]
    simp [ReadError.isOwn]
  exact ⟨own, rfl, (execute_classified own rfl).2⟩

end ReadTask

end SplitSnapshot
