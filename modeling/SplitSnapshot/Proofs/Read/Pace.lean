import SplitSnapshot.Proofs.Read.Reports

namespace SplitSnapshot

variable {σ : Type}

def rowsElapsed (begun : Nat) (journal : List Entry) : Nat :=
  (rowTimes journal).getLastD begun - begun

def reportLateness (interval begun : Nat) (journal : List Entry) : List Nat :=
  lateness interval begun ((timedReports begun journal).map Prod.snd)

def RowsWithin (gap begun : Nat) (journal : List Entry) : Prop :=
  (begun :: rowTimes journal).IsChain fun t later => t ≤ later ∧ later ≤ t + gap

def KeepsPace (interval begun : Nat) (journal : List Entry) : Prop :=
  (progressReports journal).length ≤ rowsElapsed begun journal / interval + 1 ∧
    rowsElapsed begun journal / interval ≤ (progressReports journal).length + 1

namespace ReadTask

/-- Where no row comes later than an interval after the one before, no report is late by an interval, and
the reports are as many as the whole intervals without their lateness. So they are no more than the whole
intervals and at least half of them, and short of them by one at most where they are late by no more than
an interval in all. -/
theorem execute_keepsPaceButLate (sv : Services σ) (task : ReadTask) (limit : Nat)
    (marks : Watermarks) (w : σ) {begun : Nat}
    (opened : .scanOpened (.ok ()) begun ∈ (task.execute sv limit marks w).journal)
    (within : RowsWithin task.config.progressInterval.nanos begun
      (task.execute sv limit marks w).journal) :
    KeepsPaceButLate task.config.progressInterval.nanos
      (rowsElapsed begun (task.execute sv limit marks w).journal)
      (progressReports (task.execute sv limit marks w).journal).length
      (reportLateness task.config.progressInterval.nanos begun
        (task.execute sv limit marks w).journal) := by
  have piece := scanInOnePiece sv task limit marks w
  obtain ⟨config, timed, -⟩ := piece.timedReports_eq opened
  have numbers := (reportsOnTime piece (task.reports_execute sv limit marks w) opened).numbers
  rw [rowsElapsed, reportLateness, numbers, List.length_map, timed]
  exact ProgressTimer.keepsPaceButLate (Config.interval_pos_of_validate config) within

theorem within_steadyJournal : RowsWithin 10000000000 0 steadyJournal := by
  rw [RowsWithin, rowTimes_steadyJournal]
  decide

theorem execute_keepsPaceButLate_steadyRows :
    RowsWithin 10000000000 0 steadyJournal ∧
    reportLateness 10000000000 0 steadyJournal = [8000000000, 8000000000] ∧
    (progressReports steadyJournal).length = (45000000000 - 16000000000) / 10000000000 := by
  have late : reportLateness 10000000000 0 steadyJournal = [8000000000, 8000000000] := by
    decide +kernel
  have count := (ordersTask.execute_keepsPaceButLate (steadyRows 5 9000000000) 9 .none 0
    opened_steadyJournal within_steadyJournal).count_eq
  have interval : ordersTask.config.progressInterval.nanos = 10000000000 := rfl
  rw [journal_steadyRows, interval, late, rowsElapsed, rowTimes_steadyJournal] at count
  exact ⟨within_steadyJournal, late, count⟩

theorem not_keepsPace_steadyRows :
    (ordersTask.execute (steadyRows 5 9000000000) 9 .none 0).outcome.map Outcome.name =
      some "completed" ∧
    (∀ event w, (steadyRows 5 9000000000).clock ((steadyRows 5 9000000000).send event w).world =
      (steadyRows 5 9000000000).clock w) ∧
    .scanOpened (.ok ()) 0 ∈ (ordersTask.execute (steadyRows 5 9000000000) 9 .none 0).journal ∧
    RowsWithin ordersTask.config.progressInterval.nanos 0
      (ordersTask.execute (steadyRows 5 9000000000) 9 .none 0).journal ∧
    ¬ KeepsPace ordersTask.config.progressInterval.nanos 0
      (ordersTask.execute (steadyRows 5 9000000000) 9 .none 0).journal := by
  refine ⟨by decide +kernel, fun _ _ => rfl, opened_steadyJournal, within_steadyJournal, ?_⟩
  rw [journal_steadyRows, KeepsPace, rowsElapsed, rowTimes_steadyJournal, progressReports_steadyJournal]
  decide

end ReadTask

end SplitSnapshot
