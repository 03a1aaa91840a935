import SplitSnapshot.Proofs.Progress
import SplitSnapshot.Proofs.Read.RowCounts

namespace SplitSnapshot

variable {σ : Type}

namespace Entry

def rowTime? : Entry → Option Nat
  | rowRead (.ok (some _)) time => some time
  | _ => none

def ofScan : Entry → Bool
  | scanOpened (.ok _) _ | cancellationChecked _ | rowRead _ _ | progressed _ _ => true
  | _ => false

def endsRows : Entry → Bool
  | cancellationChecked cancelled => cancelled
  | rowRead (.ok (some _)) _ => false
  | rowRead _ _ => true
  | _ => false

end Entry

@[simp] abbrev rowTimes (journal : List Entry) : List Nat :=
  shown Entry.rowTime? journal

def timedReports : Nat → List Entry → List (Nat × Nat)
  | _, [] => []
  | now, entry :: journal =>
      (entry.progress?.map fun report => (report.2, now)).toList ++
        timedReports (entry.rowTime?.getD now) journal

theorem timedReports_append (now : Nat) (first second : List Entry) :
    timedReports now (first ++ second) =
      timedReports now first ++ timedReports ((rowTimes first).getLastD now) second := by
  induction first generalizing now with
  | nil => rfl
  | cons entry first ih =>
      have times : rowTimes (entry :: first) = entry.rowTime?.toList ++ rowTimes first := shown_cons ..
      rw [List.cons_append, timedReports, timedReports, ih, List.append_assoc, times]
      cases entry.rowTime? with
      | none => rfl
      | some time => rw [Option.toList_some, List.singleton_append, List.getLastD_cons]; rfl

theorem timedReports_of_quiet {journal : List Entry} (h : progressReports journal = []) (now : Nat) :
    timedReports now journal = [] := by
  induction journal generalizing now with
  | nil => rfl
  | cons entry journal ih =>
      rw [progressReports, shown_cons, List.append_eq_nil_iff, Option.toList_eq_nil_iff] at h
      rw [timedReports, h.1, ih h.2]
      rfl

theorem progressReports_eq_map {table : TableId} {journal : List Entry}
    (ofTable : ∀ report ∈ progressReports journal, report.1 = table) (now : Nat) :
    progressReports journal = (timedReports now journal).map fun report => (table, report.1) := by
  induction journal generalizing now with
  | nil => rfl
  | cons entry journal ih =>
      rw [progressReports, shown_cons] at ofTable ⊢
      rw [timedReports, List.map_append, ← ih fun report h => ofTable report (by simp [h])]
      cases hp : entry.progress? with
      | none => rfl
      | some report =>
          have same := ofTable report (by simp [hp])
          subst same
          rfl

namespace ProgressTimer

theorem reports_cons (t : ProgressTimer) (rows time : Nat) (times : List Nat) :
    t.reports rows (time :: times) =
      (if t.expired time then [(rows + 1, time)] else []) ++
        (t.after time).reports (rows + 1) times := by
  rw [reports, after]
  split <;> simp

end ProgressTimer

namespace ReadTask

variable (task : ReadTask) (scan : ScanContext) (timer : ProgressTimer)

@[simp] theorem rowTimes_progressEntries (now : Nat) :
    rowTimes (task.progressEntries scan timer now) = [] := by
  unfold progressEntries
  split <;> rfl

@[simp] theorem timedReports_progressEntries (now : Nat) :
    timedReports now (task.progressEntries scan timer now) =
      if timer.expired now then [(scan.rows, now)] else [] := by
  unfold progressEntries
  split <;> rfl

@[simp] theorem rowTimes_rowEntries (notes : List LogEntry) (row : Row) (now : Nat) :
    rowTimes (task.rowEntries scan timer notes row now) = [now] := by
  simp [rowEntries, Entry.rowTime?]

@[simp] theorem timedReports_rowEntries (earlier : Nat) (notes : List LogEntry) (row : Row)
    (now : Nat) : timedReports earlier (task.rowEntries scan timer notes row now) =
      if timer.expired now then [(scan.rows + 1, now)] else [] := by
  let asked : List Entry := .cancellationChecked false :: Entry.call notes (.rowRead (.ok (some row)) now)
  have read : timedReports earlier asked = [] :=
    timedReports_of_quiet (by simp [asked, Entry.progress?]) _
  have time : rowTimes asked = [now] := by
    simp [asked, Entry.rowTime?]
  rw [rowEntries, ← List.cons_append, timedReports_append, read, List.nil_append, time]
  exact timedReports_progressEntries task { scan with rows := scan.rows + 1 } timer now

end ReadTask

open ReadTask

section

variable {sv : Services σ} {task : ReadTask} {marks : Watermarks} {w : σ} {width : Nat}
  {scan : ScanContext} {timer : ProgressTimer}
  {r : StageResult σ (ScanContext × Except ReadError Unit)}

theorem RowCourse.timedReports_eq (h : RowCourse sv task width marks scan timer w r) (earlier : Nat) :
    timedReports earlier r.journal = timer.reports scan.rows (rowTimes r.journal) := by
  induction h generalizing earlier with
  | limit | untimed => rfl
  | cancelled | failed | ended =>
      rw [timedReports_of_quiet (by simp [Entry.progress?])]
      simp [Entry.rowTime?, ProgressTimer.reports]
  | overrun go read late => simp [ProgressTimer.reports_cons, ProgressTimer.reports]
  | refused go read sent =>
      rw [timedReports_append, timedReports_rowEntries,
        timedReports_of_quiet (by simp [Entry.progress?])]
      simp [Entry.rowTime?, ProgressTimer.reports_cons, ProgressTimer.reports]
  | sent go read sent rest ih =>
      rw [StageResult.after, timedReports_append, timedReports_append, timedReports_rowEntries,
        timedReports_of_quiet (by simp [Entry.progress?]), ih]
      simp [Entry.rowTime?, ProgressTimer.reports_cons, ScanContext.withRow]

def ReportsUnended (before : List Entry) : Entry → Prop
  | .progressed _ _ => ∀ entry ∈ before, entry.endsRows = false
  | _ => True

theorem reportsUnended_of_unreported {before : List Entry} {entry : Entry}
    (h : entry.progress? = none) : ReportsUnended before entry := by
  cases entry with
  | progressed table rows => cases h
  | _ => trivial

theorem reportsUnended_of_quiet {journal : List Entry} (h : progressReports journal = []) :
    Throughout ReportsUnended journal :=
  .of_forall fun entry hm _ => reportsUnended_of_unreported (shown_eq_nil_iff.1 h entry hm)

theorem reportsUnended_of_unended {journal : List Entry}
    (h : ∀ entry ∈ journal, entry.endsRows = false) : Throughout ReportsUnended journal := by
  rintro before entry after rfl
  cases entry with
  | progressed table rows => exact fun x hx => h x (List.mem_append_left _ hx)
  | _ => trivial

theorem reportsUnended_append {first second : List Entry} (hf : Throughout ReportsUnended first)
    (unended : ∀ entry ∈ first, entry.endsRows = false) (hs : Throughout ReportsUnended second) :
    Throughout ReportsUnended (first ++ second) := by
  refine throughout_append.2 ⟨hf, fun before entry after h => ?_⟩
  have law := hs before entry after h
  cases entry with
  | progressed table rows =>
      intro x hx
      exact (List.mem_append.1 hx).elim (unended x) (law x)
  | _ => trivial

theorem reportsUnended_append_quiet {first second : List Entry}
    (hf : Throughout ReportsUnended first) (quiet : progressReports second = []) :
    Throughout ReportsUnended (first ++ second) := by
  refine throughout_append.2 ⟨hf, .of_forall fun entry hm before => ?_⟩
  exact reportsUnended_of_unreported (shown_eq_nil_iff.1 quiet entry hm)

theorem endsRows_rowEntries (task : ReadTask) (scan : ScanContext) (timer : ProgressTimer)
    (notes : List LogEntry) (row : Row) (now : Nat) :
    ∀ entry ∈ task.rowEntries scan timer notes row now, entry.endsRows = false := by
  have reported : ∀ entry ∈ task.progressEntries { scan with rows := scan.rows + 1 } timer now,
      entry.endsRows = false := by
    unfold progressEntries
    split <;> simp [Entry.endsRows]
  simp only [rowEntries, Entry.call, List.mem_cons, List.mem_append, List.mem_map]
  rintro entry (rfl | (⟨note, -, rfl⟩ | rfl | h) | h)
  · rfl
  · rfl
  · rfl
  · cases h
  · exact reported entry h

theorem endsRows_sent (more : List LogEntry) (event : SplitEvent) (answer : Except ReadError Unit) :
    ∀ entry ∈ Entry.call more (.sent event answer), entry.endsRows = false := by
  simp only [Entry.call, List.mem_append, List.mem_map, List.mem_singleton]
  rintro entry (⟨note, -, rfl⟩ | rfl)
  · rfl
  · rfl

theorem RowCourse.reportsUnended (h : RowCourse sv task width marks scan timer w r) :
    Throughout ReportsUnended r.journal := by
  induction h with
  | limit | untimed => exact throughout_nil
  | cancelled | failed | ended => exact reportsUnended_of_quiet (by simp [Entry.progress?])
  | overrun go read late => exact reportsUnended_of_unended (endsRows_rowEntries task _ _ _ _ _)
  | refused go read sent =>
      exact reportsUnended_append_quiet
        (reportsUnended_of_unended (endsRows_rowEntries task _ _ _ _ _)) (by simp [Entry.progress?])
  | sent go read sent rest ih =>
      refine reportsUnended_append (reportsUnended_of_unended ?_) ?_ ih
      all_goals
        exact fun entry hm => (List.mem_append.1 hm).elim (endsRows_rowEntries task _ _ _ _ _ entry)
          (endsRows_sent _ _ _ entry)

theorem RowCourse.unopened (h : RowCourse sv task width marks scan timer w r)
    (answer : Except ReadError Unit) (time : Nat) : .scanOpened answer time ∉ r.journal := by
  obtain ⟨ds, ending, hcalls, -⟩ := h.deliveries
  rw [← mem_calls rfl, hcalls]
  cases ending <;> simp [RowsEnd.calls, Delivery.calls]

structure Services.Forward (sv : Services σ) : Prop where
  nextRow : ∀ w, sv.clock w ≤ sv.clock (sv.nextRow w).world
  send : ∀ event w, sv.clock w ≤ sv.clock (sv.send event w).world

theorem RowCourse.forward (h : RowCourse sv task width marks scan timer w r) (forward : sv.Forward)
    {earlier : Nat} (before : earlier ≤ sv.clock w) :
    (earlier :: rowTimes r.journal).IsChain (· ≤ ·) := by
  induction h generalizing earlier with
  | limit | untimed | cancelled | failed | ended => simp [Entry.rowTime?]
  | @overrun _ _ w _ _ _ go read late =>
      have passed := forward.nextRow w
      rw [read] at passed
      simpa using Nat.le_trans before passed
  | @refused _ _ w _ _ _ _ _ _ go read sent =>
      have passed := forward.nextRow w
      rw [read] at passed
      simpa [Entry.rowTime?] using Nat.le_trans before passed
  | @sent scan _ w row _ w₁ _ _ _ go read sent rest ih =>
      have passed := forward.nextRow w
      have taken := forward.send (task.rowEvent scan.offset width (sv.wallMillis w₁) row) w₁
      rw [read] at passed
      rw [sent] at taken
      simpa [StageResult.after, Entry.rowTime?] using ⟨Nat.le_trans before passed, ih taken⟩

end

def Quiet (journal : List Entry) : Prop :=
  ∀ entry ∈ journal, entry.ofScan = false

section Quiet

variable {first second journal : List Entry}

@[simp] theorem quiet_nil : Quiet [] := nofun

@[simp] theorem quiet_cons {entry : Entry} :
    Quiet (entry :: journal) ↔ entry.ofScan = false ∧ Quiet journal :=
  List.forall_mem_cons

@[simp] theorem quiet_append : Quiet (first ++ second) ↔ Quiet first ∧ Quiet second :=
  List.forall_mem_append

@[simp] theorem quiet_map_noted (notes : List LogEntry) : Quiet (notes.map .noted) := by
  intro entry hm
  obtain ⟨note, -, rfl⟩ := List.mem_map.1 hm
  rfl

@[simp] theorem quiet_call {notes : List LogEntry} {entry : Entry} :
    Quiet (Entry.call notes entry) ↔ entry.ofScan = false := by
  simp [Entry.call]

theorem Quiet.progressReports_eq (h : Quiet journal) : progressReports journal = [] := by
  refine shown_eq_nil_iff.2 fun entry hm => ?_
  have quiet := h entry hm
  cases entry with
  | progressed table rows => cases quiet
  | _ => rfl

theorem Quiet.rowTimes_eq (h : Quiet journal) : rowTimes journal = [] := by
  refine shown_eq_nil_iff.2 fun entry hm => ?_
  have quiet := h entry hm
  cases entry with
  | rowRead answer time => cases quiet
  | _ => rfl

theorem Quiet.unended (h : Quiet journal) : ∀ entry ∈ journal, entry.endsRows = false := by
  intro entry hm
  have quiet := h entry hm
  cases entry with
  | cancellationChecked | rowRead => cases quiet
  | _ => rfl

theorem Quiet.unopened (h : Quiet journal) (time : Nat) : .scanOpened (.ok ()) time ∉ journal := by
  intro hm
  cases h _ hm

end Quiet

inductive ScanInOnePiece (sv : Services σ) (task : ReadTask) : List Entry → Prop
  | unopened {journal} (quiet : Quiet journal) : ScanInOnePiece sv task journal
  | opened {before after width marks scan w value part state} (quiet_before : Quiet before)
      (quiet_after : Quiet after) (config : task.config.validate = .ok ()) (unread : scan.rows = 0)
      (rows : RowCourse sv task width marks scan
        (.start task.config.progressInterval (sv.clock w)) w ⟨value, part, state⟩) :
      ScanInOnePiece sv task (before ++ .scanOpened (.ok ()) (sv.clock w) :: (part ++ after))

namespace ScanInOnePiece

variable {sv : Services σ} {task : ReadTask} {first second journal : List Entry}

theorem before (quiet : Quiet first) (h : ScanInOnePiece sv task journal) :
    ScanInOnePiece sv task (first ++ journal) := by
  cases h with
  | unopened rest => exact .unopened (quiet_append.2 ⟨quiet, rest⟩)
  | opened quiet_before quiet_after config unread rows =>
      rw [← List.append_assoc]
      exact .opened (quiet_append.2 ⟨quiet, quiet_before⟩) quiet_after config unread rows

theorem after (h : ScanInOnePiece sv task journal) (quiet : Quiet second) :
    ScanInOnePiece sv task (journal ++ second) := by
  cases h with
  | unopened rest => exact .unopened (quiet_append.2 ⟨rest, quiet⟩)
  | opened quiet_before quiet_after config unread rows =>
      rw [List.append_assoc, List.cons_append, List.append_assoc]
      exact .opened quiet_before (quiet_append.2 ⟨quiet_after, quiet⟩) config unread rows

theorem progressReports_eq_nil (h : ScanInOnePiece sv task journal)
    (unopened : ∀ time, .scanOpened (.ok ()) time ∉ journal) : progressReports journal = [] := by
  cases h with
  | unopened quiet => exact quiet.progressReports_eq
  | opened quiet_before quiet_after config unread rows =>
      exact absurd (List.mem_append_right _ List.mem_cons_self) (unopened _)

theorem reportsUnended (h : ScanInOnePiece sv task journal) : Throughout ReportsUnended journal := by
  cases h with
  | unopened quiet => exact reportsUnended_of_quiet quiet.progressReports_eq
  | opened quiet_before quiet_after config unread rows =>
      refine reportsUnended_append (reportsUnended_of_quiet quiet_before.progressReports_eq)
        quiet_before.unended ?_
      rw [← List.singleton_append]
      refine reportsUnended_append (reportsUnended_of_quiet rfl) (by simp [Entry.endsRows]) ?_
      exact reportsUnended_append_quiet rows.reportsUnended quiet_after.progressReports_eq

theorem timedReports_eq (h : ScanInOnePiece sv task journal) {start : Nat}
    (opened : .scanOpened (.ok ()) start ∈ journal) :
    task.config.validate = .ok () ∧
    timedReports start journal =
      (ProgressTimer.start task.config.progressInterval start).reports 0 (rowTimes journal) ∧
    (sv.Forward → (start :: rowTimes journal).IsChain (· ≤ ·)) := by
  cases h with
  | unopened quiet => exact absurd opened (quiet.unopened start)
  | @opened before after width marks scan w value part state quiet_before quiet_after config unread
      rows =>
      obtain rfl : start = sv.clock w := by
        simp only [List.mem_append, List.mem_cons] at opened
        rcases opened with h | h | h | h
        · exact absurd h (quiet_before.unopened start)
        · cases h
          rfl
        · exact absurd h (rows.unopened (.ok ()) start)
        · exact absurd h (quiet_after.unopened start)
      have times : rowTimes (before ++ .scanOpened (.ok ()) (sv.clock w) :: (part ++ after)) =
          rowTimes part := by
        simp [quiet_before.rowTimes_eq, quiet_after.rowTimes_eq, Entry.rowTime?]
      refine ⟨config, ?_, fun forward => ?_⟩
      · have counted := rows.timedReports_eq (sv.clock w)
        rw [unread] at counted
        rw [times, ← counted, timedReports_append, quiet_before.rowTimes_eq,
          timedReports_of_quiet quiet_before.progressReports_eq, timedReports, timedReports_append,
          timedReports_of_quiet quiet_after.progressReports_eq]
        simp [Entry.progress?, Entry.rowTime?]
      · rw [times]
        exact rows.forward forward (Nat.le_refl _)

end ScanInOnePiece

namespace ReadTask

theorem quiet_closingEntries (task : ReadTask) (notes : List LogEntry)
    (closing : Except ReadError Unit) (rows : Nat) : Quiet (task.closingEntries notes closing rows) := by
  cases closing <;> simp [closingEntries, closingNotes, Entry.ofScan]

theorem quiet_scanPrelude (task : ReadTask) (schema : TableSchema) (low : Lsn)
    (notes more last : List LogEntry) : Quiet (task.scanPrelude schema low notes more last) := by
  simp [scanPrelude, lowEntries, positionEntries, Entry.ofScan]

end ReadTask

section

variable {sv : Services σ} {task : ReadTask} {marks : Watermarks} {w : σ}

theorem WindowCourse.quiet {low : Lsn} {scan : ScanContext} {r : StageResult σ OffsetContext}
    (h : WindowCourse sv task low scan marks w r) : Quiet r.journal := by
  cases h <;> simp [highEntries, positionEntries, Entry.ofScan]

theorem RowCourse.scanInOnePiece {width : Nat} {scan : ScanContext}
    {value : Except Stop (ScanContext × Except ReadError Unit)} {part : List Entry}
    {state : ReadState σ} (h : RowCourse sv task width marks scan
      (.start task.config.progressInterval (sv.clock w)) w ⟨value, part, state⟩)
    (config : task.config.validate = .ok ()) (unread : scan.rows = 0) (notes : List LogEntry) :
    ScanInOnePiece sv task (Entry.call notes (.scanOpened (.ok ()) (sv.clock w)) ++ part) := by
  have opened : ScanInOnePiece sv task
      (notes.map .noted ++ .scanOpened (.ok ()) (sv.clock w) :: (part ++ [])) :=
    .opened (quiet_map_noted notes) quiet_nil config unread h
  simpa [Entry.call] using opened

theorem ScanCourse.scanInOnePiece {schema : TableSchema} {scan : ScanContext}
    {r : StageResult σ ScanContext} (h : ScanCourse sv task schema marks scan w r)
    (config : task.config.validate = .ok ()) (unread : scan.rows = 0) :
    ScanInOnePiece sv task r.journal := by
  cases h with
  | unopened opened => exact .unopened (by simp [Entry.ofScan])
  | unfinished opened rows => exact rows.scanInOnePiece config unread _
  | broken opened rows closed =>
      exact (rows.scanInOnePiece config unread _).after (task.quiet_closingEntries _ _ _)
  | exported opened rows closed =>
      refine (rows.scanInOnePiece config unread _).after ?_
      simp [quiet_closingEntries, Entry.ofScan]

theorem ReadCourse.scanInOnePiece {r : StageResult σ OffsetContext}
    (h : ReadCourse sv task marks w r) : ScanInOnePiece sv task r.journal := by
  cases h with
  | @stopped schema notes _ low more _ last _ _ _ _ config split asked read sent scanning =>
      have piece := (scanning.scanInOnePiece config rfl).before
        (task.quiet_scanPrelude schema low notes more last)
      simpa [scanPrelude] using piece
  | @scanned schema notes _ low more _ last _ _ _ _ _ config split asked read sent scanning closing =>
      have piece := ((scanning.scanInOnePiece config rfl).before
        (task.quiet_scanPrelude schema low notes more last)).after closing.quiet
      simpa [scanPrelude, StageResult.after] using piece
  | _ => exact .unopened (by simp [lowEntries, positionEntries, Entry.ofScan])

theorem ReadTask.scanInOnePiece (sv : Services σ) (task : ReadTask) (limit : Nat)
    (marks : Watermarks) (w : σ) :
    ScanInOnePiece sv task (task.execute sv limit marks w).journal := by
  have ending (elapsed : Duration) (outcome : Option Outcome) :
      Quiet ((outcome.map (task.closing elapsed)).getD []) := by
    rcases outcome with _ | (_ | _ | _) <;> simp [closing, Entry.ofScan]
  have start : Quiet [.counted .started] := by
    simp [Entry.ofScan]
  exact ((readCourse_stages sv task marks limit w).scanInOnePiece.before start).after (ending _ _)

end

def Entry.openedAt? : Entry → Option Nat
  | scanOpened (.ok _) time => some time
  | _ => none

theorem mem_of_openedAt? {journal : List Entry} {time : Nat}
    (h : time ∈ journal.filterMap Entry.openedAt?) : .scanOpened (.ok ()) time ∈ journal := by
  obtain ⟨entry, hm, ht⟩ := List.mem_filterMap.1 h
  unfold Entry.openedAt? at ht
  split at ht
  · cases ht
    exact hm
  · cases ht

theorem Config.interval_pos_of_validate {c : Config} (h : c.validate = .ok ()) :
    0 < c.progressInterval.nanos := by
  unfold Config.validate at h
  split at h
  · cases h
  · split at h
    · cases h
    · omega

namespace ReadTask

structure ReportsOnTime (sv : Services σ) (task : ReadTask) (begun : Nat) (journal : List Entry) :
    Prop where
  numbers : progressReports journal =
    (timedReports begun journal).map fun report => (task.split.table, report.1)
  greedily : ReportsGreedily task.config.progressInterval.nanos begun (rowTimes journal)
    (timedReports begun journal)
  rate : sv.Forward → (progressReports journal).length ≤
    ((rowTimes journal).getLastD begun - begun) / task.config.progressInterval.nanos

theorem reportsOnTime {sv : Services σ} {task : ReadTask} {begun : Nat} {journal : List Entry}
    (piece : ScanInOnePiece sv task journal) (read : Throughout task.ReportsRead journal)
    (opened : .scanOpened (.ok ()) begun ∈ journal) : ReportsOnTime sv task begun journal := by
  obtain ⟨config, timed, forward⟩ := piece.timedReports_eq opened
  have table : ∀ report ∈ progressReports journal, report.1 = task.split.table := by
    intro report hm
    obtain ⟨entry, he, hp⟩ := List.mem_filterMap.1 hm
    obtain ⟨before, after, rfl⟩ := List.append_of_mem he
    have law := read before entry after rfl
    cases entry with
    | progressed table rows =>
        cases hp
        exact law.1
    | _ => cases hp
  have numbers := progressReports_eq_map table begun
  refine ⟨numbers, ?_, fun hf => ?_⟩
  · rw [timed]
    exact ProgressTimer.reportsGreedily task.config.progressInterval begun (rowTimes journal)
  · rw [numbers, List.length_map, timed]
    exact ProgressTimer.length_reports_le (Config.interval_pos_of_validate config) (forward hf)

/-- A read reports its progress only while it reads rows, and each time it reports the rows read so far. A
report is made at a row just where the interval has passed since the report before, or since the scan was
opened; so no two of them are nearer than the interval, and there are no more of them than whole
intervals up to the last row. -/
theorem execute_reportsGreedily (sv : Services σ) (task : ReadTask) (limit : Nat)
    (marks : Watermarks) (w : σ) :
    (task.execute sv limit marks w).Replays sv task w ∧
    Throughout task.ReportsRead (task.execute sv limit marks w).journal ∧
    Throughout ReportsUnended (task.execute sv limit marks w).journal ∧
    ((∀ time, .scanOpened (.ok ()) time ∉ (task.execute sv limit marks w).journal) →
      progressReports (task.execute sv limit marks w).journal = []) ∧
    ∀ begun, .scanOpened (.ok ()) begun ∈ (task.execute sv limit marks w).journal →
      ReportsOnTime sv task begun (task.execute sv limit marks w).journal := by
  have piece := scanInOnePiece sv task limit marks w
  have read := task.reports_execute sv limit marks w
  exact ⟨task.execute_replays sv limit marks w, read, piece.reportsUnended,
    piece.progressReports_eq_nil, fun begun opened => reportsOnTime piece read opened⟩

def steadyRows (rows delay : Nat) : Services Nat :=
  { emptyTable 0 with
    nextRow := fun w => ⟨.ok (if w < rows then some ⟨[.int w]⟩ else none), [], w + 1⟩
    send := fun _ w => ⟨.ok (), [], w⟩
    clock := fun w => w * delay }

theorem forward_steadyRows (rows delay : Nat) : (steadyRows rows delay).Forward where
  nextRow w := Nat.mul_le_mul_right delay (Nat.le_succ w)
  send _ w := Nat.le_refl (w * delay)

def steadyJournal : List Entry :=
  (ordersTask.execute (steadyRows 5 9000000000) 9 .none 0).journal

theorem journal_steadyRows :
    (ordersTask.execute (steadyRows 5 9000000000) 9 .none 0).journal = steadyJournal := rfl

theorem opened_steadyJournal : .scanOpened (.ok ()) 0 ∈ steadyJournal :=
  mem_of_openedAt? (by decide +kernel)

theorem rowTimes_steadyJournal : rowTimes steadyJournal =
    [9000000000, 18000000000, 27000000000, 36000000000, 45000000000] := by
  decide +kernel

theorem progressReports_steadyJournal :
    progressReports steadyJournal = [(ordersTask.split.table, 2), (ordersTask.split.table, 4)] := by
  decide +kernel

theorem execute_reportsGreedily_steadyRows :
    .scanOpened (.ok ()) 0 ∈ steadyJournal ∧ (steadyRows 5 9000000000).Forward ∧
    ReportsGreedily 10000000000 0
      [9000000000, 18000000000, 27000000000, 36000000000, 45000000000]
      (timedReports 0 steadyJournal) ∧
    [(ordersTask.split.table, 2), (ordersTask.split.table, 4)].length ≤
      45000000000 / 10000000000 := by
  obtain ⟨-, -, -, -, onTime⟩ := ordersTask.execute_reportsGreedily (steadyRows 5 9000000000) 9 .none 0
  obtain ⟨-, greedily, rate⟩ := onTime 0 opened_steadyJournal
  have rate := rate (forward_steadyRows 5 9000000000)
  rw [journal_steadyRows, rowTimes_steadyJournal] at greedily rate
  rw [progressReports_steadyJournal] at rate
  exact ⟨opened_steadyJournal, forward_steadyRows 5 9000000000, greedily, rate⟩

end ReadTask

end SplitSnapshot
