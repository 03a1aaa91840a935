import SplitSnapshot.Proofs.Read.Marks
import SplitSnapshot.Proofs.Read.Rows
import SplitSnapshot.Proofs.Read.Stamps
import SplitSnapshot.Proofs.Read.Updates
import SplitSnapshot.Proofs.Throughout

namespace SplitSnapshot

variable {σ : Type}

namespace ReadTask

@[simp] theorem progressReports_closingEntries (task : ReadTask) (notes : List LogEntry)
    (closing : Except ReadError Unit) (rows : Nat) :
    progressReports (task.closingEntries notes closing rows) = [] := by
  cases closing <;> simp [closingEntries, closingNotes, Entry.progress?]

@[simp] theorem progressReports_lowEntries (task : ReadTask) (notes : List LogEntry) (low : Lsn) :
    progressReports (task.lowEntries notes low) = [] := by
  simp [lowEntries, positionEntries, Entry.progress?]

@[simp] theorem progressReports_highEntries (task : ReadTask) (notes : List LogEntry) (high : Lsn) :
    progressReports (task.highEntries notes high) = [] := by
  simp [highEntries, positionEntries, Entry.progress?]

@[simp] theorem rowsRead_rowEntries (task : ReadTask) (scan : ScanContext) (timer : ProgressTimer)
    (notes : List LogEntry) (row : Row) (now : Nat) :
    rowsRead (task.rowEntries scan timer notes row now) = [row] := by
  rw [← rowsRead_calls, calls_rowEntries]
  rfl

@[simp] theorem acceptedChanges_rowEntries (task : ReadTask) (scan : ScanContext)
    (timer : ProgressTimer) (notes : List LogEntry) (row : Row) (now : Nat) :
    acceptedChanges (task.rowEntries scan timer notes row now) = [] := by
  rw [← acceptedChanges_calls, calls_rowEntries]
  rfl

def ReportsRead (task : ReadTask) (before : List Entry) : Entry → Prop
  | .progressed table rows =>
      table = task.split.table ∧ rows = (rowsRead before).length ∧
        rows = (acceptedChanges before).length + 1 ∧
        ∃ earlier elapsed, before = earlier ++ [.noted (task.progressNote rows elapsed)]
  | _ => True

def ReportsFrom (task : ReadTask) (before entries : List Entry) : Prop :=
  Throughout (fun more => task.ReportsRead (before ++ more)) entries

namespace ReportsFrom

variable {task : ReadTask} {before first second : List Entry}

theorem append (h : task.ReportsFrom before first)
    (rest : task.ReportsFrom (before ++ first) second) :
    task.ReportsFrom before (first ++ second) := by
  refine throughout_append.2 ⟨h, ?_⟩
  simp only [← List.append_assoc]
  exact rest

theorem of_quiet (h : progressReports first = []) : task.ReportsFrom before first := by
  refine .of_forall fun entry hm more => ?_
  have quiet : entry.progress? = none := shown_eq_nil_iff.1 h entry hm
  cases entry with
  | progressed table rows => cases quiet
  | _ => trivial

theorem rowEntries {scan : ScanContext} (read : (rowsRead before).length = scan.rows)
    (accepted : (acceptedChanges before).length = scan.rows) (timer : ProgressTimer)
    (notes : List LogEntry) (row : Row) (now : Nat) :
    task.ReportsFrom before (task.rowEntries scan timer notes row now) := by
  rw [ReadTask.rowEntries, ← List.cons_append]
  refine .append (.of_quiet (by simp [Entry.progress?])) ?_
  unfold progressEntries
  split
  · refine throughout_cons.2 ⟨trivial, throughout_cons.2 ⟨⟨rfl, ?_, ?_, _, _, rfl⟩, throughout_nil⟩⟩
    · simp [read, Entry.row?]
    · simp [accepted, Entry.accepted?]
  · exact throughout_nil

end ReportsFrom

end ReadTask

open ReadTask

section

variable {sv : Services σ} {task : ReadTask} {marks : Watermarks} {scan : ScanContext} {w : σ}
  {before : List Entry}

theorem RowCourse.reports {width : Nat} {timer : ProgressTimer}
    {r : StageResult σ (ScanContext × Except ReadError Unit)}
    (h : RowCourse sv task width marks scan timer w r) (read : (rowsRead before).length = scan.rows)
    (accepted : (acceptedChanges before).length = scan.rows) :
    task.ReportsFrom before r.journal := by
  -- as long as each row is accepted, the scan knows the rows read and the changes accepted alike
  induction h generalizing before with
  | limit | untimed => exact throughout_nil
  | cancelled | failed | ended => exact .of_quiet (by simp [Entry.progress?])
  | overrun go nextRow late => exact .rowEntries read accepted _ _ _ _
  | refused go nextRow sent =>
      exact .append (.rowEntries read accepted _ _ _ _) (.of_quiet (by simp [Entry.progress?]))
  | sent go nextRow sent rest ih =>
      refine .append (.append (.rowEntries read accepted _ _ _ _)
        (.of_quiet (by simp [Entry.progress?]))) (ih ?_ ?_)
      · simp [read, ScanContext.withRow, Entry.row?]
      · simp [accepted, ScanContext.withRow, Entry.accepted?, rowEvent, SplitEvent.change?]

theorem RowCourse.reports_opened {width : Nat} {timer : ProgressTimer}
    {r : StageResult σ (ScanContext × Except ReadError Unit)}
    (h : RowCourse sv task width marks scan timer w r) (read : (rowsRead before).length = scan.rows)
    (accepted : (acceptedChanges before).length = scan.rows) (notes : List LogEntry) (time : Nat) :
    task.ReportsFrom before (Entry.call notes (.scanOpened (.ok ()) time) ++ r.journal) := by
  refine .append (.of_quiet (by simp [Entry.progress?])) (h.reports ?_ ?_)
  · simp [read, Entry.row?]
  · simp [accepted, Entry.accepted?]

theorem ScanCourse.reports {schema : TableSchema} {r : StageResult σ ScanContext}
    (h : ScanCourse sv task schema marks scan w r) (read : (rowsRead before).length = scan.rows)
    (accepted : (acceptedChanges before).length = scan.rows) :
    task.ReportsFrom before r.journal := by
  cases h with
  | unopened opened => exact .of_quiet (by simp [Entry.progress?])
  | unfinished opened rows => exact rows.reports_opened read accepted _ _
  | broken opened rows closed | exported opened rows closed =>
      exact .append (rows.reports_opened read accepted _ _) (.of_quiet (by simp [Entry.progress?]))

theorem WindowCourse.progressReports_eq {low : Lsn} {r : StageResult σ OffsetContext}
    (h : WindowCourse sv task low scan marks w r) : progressReports r.journal = [] := by
  cases h <;> simp [Entry.progress?]

namespace ReadTask

def scanPrelude (task : ReadTask) (schema : TableSchema) (low : Lsn) (notes more last : List LogEntry) :
    List Entry :=
  Entry.call notes (.schemaRead (.ok schema)) ++ task.lowEntries more low ++
    Entry.call last (.sent (task.watermark .low low) (.ok ())) ++ [.noted task.scanNote]

variable (task : ReadTask) (schema : TableSchema) (low : Lsn) (notes more last : List LogEntry)

theorem scanPrelude_append (journal : List Entry) :
    task.scanPrelude schema low notes more last ++ journal =
      Entry.call notes (.schemaRead (.ok schema)) ++ (task.lowEntries more low ++
        (Entry.call last (.sent (task.watermark .low low) (.ok ())) ++
          .noted task.scanNote :: journal)) := by
  simp [scanPrelude]

@[simp] theorem progressReports_scanPrelude :
    progressReports (task.scanPrelude schema low notes more last) = [] := by
  simp [scanPrelude, Entry.progress?]

@[simp] theorem rowsRead_scanPrelude :
    rowsRead (task.scanPrelude schema low notes more last) = [] := by
  rw [← rowsRead_calls]
  simp [scanPrelude, Entry.isCall, Entry.row?]

@[simp] theorem acceptedChanges_scanPrelude :
    acceptedChanges (task.scanPrelude schema low notes more last) = [] := by
  rw [← acceptedChanges_calls]
  simp [scanPrelude, Entry.isCall, Entry.accepted?, watermark, SplitEvent.change?]

end ReadTask

theorem ScanCourse.reports_prelude {schema : TableSchema} {low : Lsn} {time : Nat}
    {r : StageResult σ ScanContext}
    (h : ScanCourse sv task schema marks (.start task.part low time) w r)
    (unread : rowsRead before = []) (unsent : acceptedChanges before = [])
    (notes more last : List LogEntry) :
    task.ReportsFrom before (task.scanPrelude schema low notes more last ++ r.journal) := by
  refine .append (.of_quiet (by simp)) (h.reports ?_ ?_)
  · simp [unread, ScanContext.start]
  · simp [unsent, ScanContext.start]

theorem ReadCourse.reports {r : StageResult σ OffsetContext} (h : ReadCourse sv task marks w r)
    (unread : rowsRead before = []) (unsent : acceptedChanges before = []) :
    task.ReportsFrom before r.journal := by
  -- neither what comes before the scan nor what comes after it reports anything
  cases h with
  | @stopped _ notes _ _ more _ last _ _ _ _ config split asked read sent scanning =>
      simpa [scanPrelude] using scanning.reports_prelude unread unsent notes more last
  | @scanned _ notes _ _ more _ last _ _ _ _ _ config split asked read sent scanning closing =>
      have reports := (scanning.reports_prelude unread unsent notes more last).append
        (.of_quiet closing.progressReports_eq)
      simpa [scanPrelude, StageResult.after] using reports
  | _ => exact .of_quiet (by simp [Entry.progress?])

end

def SplitEvent.refusedChange? : SplitEvent × Except ReadError Unit → Option DataChange
  | (event, .error _) => event.change?
  | (_, .ok _) => none

def refusedChanges (journal : List Entry) : List DataChange :=
  (sendings journal).filterMap SplitEvent.refusedChange?

theorem refusedChanges_calls (journal : List Entry) :
    refusedChanges (calls journal) = refusedChanges journal := by
  rw [refusedChanges, sendings_calls, refusedChanges]

namespace Story

theorem refusedChanges_calls (task : ReadTask) (story : Story) :
    refusedChanges (story.calls task) =
      (story.refusals task).filterMap fun refusal => refusal.1.change? := by
  have unrefused : SplitEvent.refusedChange? ∘ (fun event => (event, .ok ())) = fun _ => none := rfl
  have refused : SplitEvent.refusedChange? ∘ (fun r : SplitEvent × ReadError => (r.1, .error r.2)) =
      fun r => r.1.change? := rfl
  rw [refusedChanges, sendings_calls, List.filterMap_append, List.filterMap_map, unrefused,
    List.filterMap_map, refused, List.filterMap_none, List.nil_append]

theorem acceptedChanges_calls (task : ReadTask) (story : Story) :
    acceptedChanges (story.calls task) = story.deliveries.map Delivery.change := by
  have sent (ds : List Delivery) :
      ds.filterMap (SplitEvent.change? ∘ fun d => .dataChange d.change) = ds.map Delivery.change :=
    congrFun List.filterMap_eq_map ds
  rw [acceptedChanges_eq_filterMap, acceptedEvents_calls]
  cases story with
  | exported schema low time ds finish closing window =>
      cases window <;> simp [accepted, deliveries, List.filterMap_cons, SplitEvent.change?,
        ReadTask.watermark, WindowEnd.accepted, sent]
  | broken schema low time ds ending closing =>
      simp [accepted, deliveries, List.filterMap_cons, SplitEvent.change?, ReadTask.watermark, sent]
  | _ => rfl

theorem length_rows {task : ReadTask} {story : Story} (timed : story.stop? task ≠ some .overflow) :
    story.rows.length = story.deliveries.length + (refusedChanges (story.calls task)).length := by
  rw [refusedChanges_calls]
  cases story with
  | broken schema low time ds ending closing =>
      cases ending with
      | untimed | overrun => exact absurd rfl timed
      | _ => simp [rows, deliveries, refusals, RowsEnd.lostRows, RowsEnd.refusals, SplitEvent.change?]
  | exported schema low time ds finish closing window =>
      cases window <;>
        simp [rows, deliveries, refusals, WindowEnd.refusals, SplitEvent.change?, ReadTask.watermark]
  | _ => rfl

theorem length_rows_le (story : Story) : story.rows.length ≤ story.deliveries.length + 1 := by
  cases story with
  | broken schema low time ds ending closing =>
      cases ending <;> simp [rows, deliveries, RowsEnd.lostRows]
  | _ => simp [rows, deliveries]

end Story

def AddsRows (journal : List Entry) (rows : Nat) : Prop :=
  ∀ c : Counters,
    ((metricUpdates journal).foldl Counters.record c).rows = c.rows + UInt64.ofNat rows

structure CountsExported (journal : List Entry) : Prop where
  reports : Throughout (fun before entry => ∀ table rows,
    entry = .progressed table rows → rows = (acceptedChanges before).length) journal
  metrics : AddsRows journal (acceptedChanges journal).length

/-- The reports of progress count the rows read, and every row read was handed to the sink, which can
have refused the last one only. A run whose clock overflows at a row does not hand that one over. -/
structure ReadTask.CountsRead (task : ReadTask) (run : Run σ) : Prop where
  reports : Throughout task.ReportsRead run.journal
  rows_eq : run.ending ≠ .overflowed → (rowsRead run.journal).length =
    (acceptedChanges run.journal).length + (refusedChanges run.journal).length
  one_refused : (refusedChanges run.journal).length ≤ 1
  one_unaccepted : (rowsRead run.journal).length ≤ (acceptedChanges run.journal).length + 1

theorem progressReports_eq_nil_iff {journal : List Entry} :
    progressReports journal = [] ↔ ∀ table rows, .progressed table rows ∉ journal := by
  simp only [shown_eq_nil_iff]
  constructor
  · intro quiet table rows hm
    cases quiet _ hm
  · intro quiet entry hm
    cases entry with
    | progressed table rows => exact absurd hm (quiet table rows)
    | _ => rfl

namespace ReadTask

theorem CountsRead.countsExported_iff {task : ReadTask} {run : Run σ} (h : task.CountsRead run)
    (ended : run.outcome ≠ none) (adds : AddsRows run.journal (rowsRead run.journal).length) :
    CountsExported run.journal ↔ progressReports run.journal = [] ∧ refusedChanges run.journal = [] := by
  have rows_eq := h.rows_eq fun overflowed => ended (congrArg Ending.outcome? overflowed)
  constructor
  · intro exported
    constructor
    · rw [progressReports_eq_nil_iff]
      intro table rows hm
      obtain ⟨before, after, parts⟩ := List.append_of_mem hm
      have ahead := (h.reports before _ after parts).2.2.1
      have exact := exported.reports before _ after parts table rows rfl
      omega
    · -- one row more is seen in the counter, which wraps around later
      have same := (adds .zero).symm.trans (exported.metrics .zero)
      rw [rows_eq] at same
      have none : (refusedChanges run.journal).length ≠ 1 := by
        intro one
        rw [one, UInt64.ofNat_add] at same
        simp at same
      have one := h.one_refused
      exact List.length_eq_zero_iff.1 (by omega)
  · rintro ⟨quiet, unrefused⟩
    refine ⟨?_, ?_⟩
    · rintro before _ after parts table rows rfl
      exact absurd (parts ▸ List.mem_append_right before List.mem_cons_self)
        (progressReports_eq_nil_iff.1 quiet table rows)
    · rwa [rows_eq, unrefused] at adds

theorem reports_execute (sv : Services σ) (task : ReadTask) (limit : Nat) (marks : Watermarks)
    (w : σ) : Throughout task.ReportsRead (task.execute sv limit marks w).journal := by
  have ending (elapsed : Duration) (outcome : Option Outcome) :
      progressReports ((outcome.map (task.closing elapsed)).getD []) = [] := by
    rcases outcome with _ | (_ | _ | _) <;> rfl
  have reports : task.ReportsFrom [.counted .started] (task.stages sv limit ⟨w, marks⟩).journal :=
    (readCourse_stages sv task marks limit w).reports rfl rfl
  have start : task.ReportsFrom [] [.counted .started] := .of_quiet rfl
  exact (start.append reports).append (.of_quiet (ending _ _))

theorem counts_execute (sv : Services σ) (task : ReadTask) (limit : Nat) (marks : Watermarks)
    (w : σ) : task.CountsRead (task.execute sv limit marks w) := by
  obtain ⟨story, hcalls, hstop, -⟩ := task.execute_story sv limit marks w
  refine ⟨task.reports_execute sv limit marks w, fun timed => ?_, ?_, ?_⟩
  · have timed : story.stop? task ≠ some .overflow := by
      rwa [← hstop, Ne, Stop.of?_eq_some, ← endingOf_eq_overflowed_iff]
    rw [← rowsRead_calls, ← acceptedChanges_calls, ← SplitSnapshot.refusedChanges_calls, hcalls,
      Story.rowsRead_calls, Story.acceptedChanges_calls, List.length_map]
    exact Story.length_rows timed
  · rw [← SplitSnapshot.refusedChanges_calls, hcalls, Story.refusedChanges_calls]
    exact Nat.le_trans (List.length_filterMap_le _ _) (story.length_refusals_le task)
  · rw [← rowsRead_calls, ← acceptedChanges_calls, hcalls, Story.rowsRead_calls,
      Story.acceptedChanges_calls, List.length_map]
    exact story.length_rows_le

theorem addsRows_execute (sv : Services σ) (task : ReadTask) (limit : Nat) (marks : Watermarks)
    (w : σ) (ended : (task.execute sv limit marks w).outcome ≠ none) :
    AddsRows (task.execute sv limit marks w).journal
      (rowsRead (task.execute sv limit marks w).journal).length := by
  intro c
  obtain ⟨elapsed, rows, hu, hr⟩ := task.metricUpdates_execute sv limit marks w
  obtain ⟨outcome, ho⟩ := Option.ne_none_iff_exists'.1 ended
  rw [hu, ho]
  rcases hr with ⟨rfl, unread⟩ | rfl
  · rw [unread ended]
    cases outcome <;> simp [Counters.record, Outcome.update]
  · cases outcome <;> simp [Counters.record, Outcome.update]

/-- What a read makes known are the rows that its scan returned: a report of progress counts one that is
not yet accepted, and the metric counts the one that was refused. They speak of the accepted changes just
where there is no report and no refused change. -/
theorem execute_countsRead (sv : Services σ) (task : ReadTask) (limit : Nat) (marks : Watermarks)
    (w : σ) :
    (task.execute sv limit marks w).Replays sv task w ∧
    task.CountsRead (task.execute sv limit marks w) ∧
    ((task.execute sv limit marks w).outcome ≠ none →
      AddsRows (task.execute sv limit marks w).journal
          (rowsRead (task.execute sv limit marks w).journal).length ∧
        (CountsExported (task.execute sv limit marks w).journal ↔
          progressReports (task.execute sv limit marks w).journal = [] ∧
            refusedChanges (task.execute sv limit marks w).journal = [])) := by
  have counts := task.counts_execute sv limit marks w
  refine ⟨task.execute_replays sv limit marks w, counts, fun ended => ?_⟩
  have adds := task.addsRows_execute sv limit marks w ended
  exact ⟨adds, counts.countsExported_iff ended adds⟩

def lateRow : Services Nat :=
  { emptyTable 1 with
    nextRow := fun w => ⟨.ok (some ⟨[.int 7]⟩), [], w + 1⟩
    clock := fun w => w * 60000000000 }

theorem execute_countsRead_lateRow :
    (ordersTask.execute lateRow 5 .none 0).outcome ≠ none ∧
    progressReports (ordersTask.execute lateRow 5 .none 0).journal = [(ordersTask.split.table, 1)] ∧
    acceptedChanges (ordersTask.execute lateRow 5 .none 0).journal = [] ∧
    AddsRows (ordersTask.execute lateRow 5 .none 0).journal 1 := by
  have ended : (ordersTask.execute lateRow 5 .none 0).outcome ≠ none := nofun
  obtain ⟨-, -, counted⟩ := ordersTask.execute_countsRead lateRow 5 .none 0
  exact ⟨ended, rfl, rfl, (counted ended).1⟩

theorem countsExported_lateRow :
    ¬ CountsExported (ordersTask.execute lateRow 5 .none 0).journal := by
  intro exported
  have counted : (1 : UInt64) = 0 + 0 := exported.metrics .zero
  cases counted

end ReadTask

end SplitSnapshot
