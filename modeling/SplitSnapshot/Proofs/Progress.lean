import Mathlib.Algebra.GroupWithZero.Nat
import Mathlib.Algebra.Order.BigOperators.Group.List
import Mathlib.Algebra.Order.Group.Nat
import SplitSnapshot.Progress

namespace SplitSnapshot

namespace ProgressTimer

def reports : ProgressTimer → Nat → List Nat → List (Nat × Nat)
  | _, _, [] => []
  | t, rows, time :: times =>
      if t.expired time then (rows + 1, time) :: (t.reset time).reports (rows + 1) times
      else t.reports (rows + 1) times

variable {interval : Duration} {last rows time : Nat} {times : List Nat}

theorem reports_due (due : last + interval.nanos ≤ time) (rows : Nat) (times : List Nat) :
    (start interval last).reports rows (time :: times) =
      (rows + 1, time) :: (start interval time).reports (rows + 1) times := by
  rw [reports, expired, start, if_pos (decide_eq_true due)]
  rfl

theorem reports_early (early : ¬ last + interval.nanos ≤ time) (rows : Nat) (times : List Nat) :
    (start interval last).reports rows (time :: times) =
      (start interval last).reports (rows + 1) times := by
  rw [reports, expired, start, if_neg (by simpa using early)]

end ProgressTimer

def reportBefore (start : Nat) (reports : List (Nat × Nat)) (row : Nat) : Nat :=
  ((reports.filter (·.1 < row)).map Prod.snd).getLastD start

theorem reportBefore_eq_start {start row : Nat} {reports : List (Nat × Nat)}
    (h : ∀ r ∈ reports, row ≤ r.1) : reportBefore start reports row = start := by
  have none : reports.filter (·.1 < row) = [] := by
    refine List.filter_eq_nil_iff.2 fun r hr => ?_
    have after := h r hr
    simpa using after
  rw [reportBefore, none]
  rfl

theorem reportBefore_cons {start row rows time : Nat} (h : rows < row) (reports : List (Nat × Nat)) :
    reportBefore start ((rows, time) :: reports) row = reportBefore time reports row := by
  rw [reportBefore, List.filter_cons_of_pos (by simpa using h), List.map_cons, List.getLastD_cons]
  rfl

structure ReportsGreedily (interval start : Nat) (times : List Nat) (reports : List (Nat × Nat)) :
    Prop where
  at_row : ∀ r ∈ reports, ∃ i, times[i]? = some r.2 ∧ r.1 = i + 1
  due_iff : ∀ i time, times[i]? = some time →
    ((i + 1, time) ∈ reports ↔ reportBefore start reports (i + 1) + interval ≤ time)
  rising : reports.Pairwise fun r later => r.1 < later.1
  apart : (start :: reports.map Prod.snd).Pairwise fun t later => t + interval ≤ later

namespace ProgressTimer

variable {interval : Duration} {last rows : Nat} {times : List Nat}

theorem at_row_reports {r : Nat × Nat} (hr : r ∈ (start interval last).reports rows times) :
    ∃ i, times[i]? = some r.2 ∧ r.1 = rows + i + 1 := by
  induction times generalizing last rows with
  | nil => cases hr
  | cons time times ih =>
      by_cases due : last + interval.nanos ≤ time
      · rw [reports_due due] at hr
        rcases List.mem_cons.1 hr with rfl | hr
        · exact ⟨0, rfl, rfl⟩
        · obtain ⟨i, ht, hn⟩ := ih hr
          exact ⟨i + 1, ht, by omega⟩
      · rw [reports_early due] at hr
        obtain ⟨i, ht, hn⟩ := ih hr
        exact ⟨i + 1, ht, by omega⟩

theorem lt_of_mem_reports {r : Nat × Nat} (hr : r ∈ (start interval last).reports rows times) :
    rows < r.1 := by
  obtain ⟨i, -, hn⟩ := at_row_reports hr
  omega

theorem mem_reports_iff (interval : Duration) (last rows : Nat) {i time : Nat}
    (at_row : times[i]? = some time) :
    (rows + i + 1, time) ∈ (start interval last).reports rows times ↔
      reportBefore last ((start interval last).reports rows times) (rows + i + 1) + interval.nanos ≤
        time := by
  -- the rows are counted from `rows` on, so what is reported later has a higher number
  induction times generalizing last rows i with
  | nil => cases at_row
  | cons first times ih =>
      have later (last : Nat) : ∀ r ∈ (start interval last).reports (rows + 1) times,
          rows + 1 < r.1 := fun r hr => lt_of_mem_reports hr
      have number (i : Nat) : rows + 1 + i + 1 = rows + (i + 1) + 1 := by omega
      by_cases due : last + interval.nanos ≤ first
      · rw [reports_due due]
        cases i with
        | zero =>
            cases at_row
            rw [reportBefore_eq_start]
            · exact iff_of_true List.mem_cons_self due
            · simpa using fun r time hr => Nat.le_of_lt (later _ (r, time) hr)
        | succ i =>
            rw [reportBefore_cons (by omega), ← number, ← ih first (rows + 1) at_row, List.mem_cons,
              or_iff_right]
            intro same
            have same := congrArg Prod.fst same
            dsimp only at same
            omega
      · rw [reports_early due]
        cases i with
        | zero =>
            cases at_row
            rw [reportBefore_eq_start fun r hr => Nat.le_of_lt (later last r hr)]
            exact iff_of_false (fun hm => Nat.lt_irrefl _ (later last _ hm)) due
        | succ i => rw [← number, ih last (rows + 1) at_row]

theorem rising_reports :
    ((start interval last).reports rows times).Pairwise fun r later => r.1 < later.1 := by
  induction times generalizing last rows with
  | nil => exact .nil
  | cons time times ih =>
      by_cases due : last + interval.nanos ≤ time
      · rw [reports_due due]
        exact .cons (fun r hr => lt_of_mem_reports hr) ih
      · rw [reports_early due]
        exact ih

theorem apart_reports (interval : Duration) (last rows : Nat) (times : List Nat) :
    (last :: ((start interval last).reports rows times).map Prod.snd).Pairwise
      fun t later => t + interval.nanos ≤ later := by
  induction times generalizing last rows with
  | nil => exact List.pairwise_singleton _ _
  | cons time times ih =>
      by_cases due : last + interval.nanos ≤ time
      · rw [reports_due due, List.map_cons]
        refine .cons (fun later hl => ?_) (ih time (rows + 1))
        rcases List.mem_cons.1 hl with rfl | hl
        · exact due
        · have apart := (List.pairwise_cons.1 (ih time (rows + 1))).1 later hl
          omega
      · rw [reports_early due]
        exact ih last (rows + 1)

theorem reportsGreedily (interval : Duration) (begun : Nat) (times : List Nat) :
    ReportsGreedily interval.nanos begun times ((start interval begun).reports 0 times) where
  at_row r hr := by
    obtain ⟨i, ht, hn⟩ := at_row_reports hr
    exact ⟨i, ht, by omega⟩
  due_iff i time ht := by
    have due := mem_reports_iff interval begun 0 ht
    rwa [Nat.zero_add] at due
  rising := rising_reports
  apart := apart_reports interval begun 0 times

theorem getLastD_reports_le (interval : Duration) (rows : Nat) {now : Nat}
    (forward : (now :: times).IsChain (· ≤ ·)) (begun : last ≤ now) :
    (((start interval last).reports rows times).map Prod.snd).getLastD last ≤
      times.getLastD now := by
  induction times generalizing last rows now with
  | nil => exact begun
  | cons time times ih =>
      obtain ⟨passed, forward⟩ := List.isChain_cons_cons.1 forward
      rw [List.getLastD_cons]
      by_cases due : last + interval.nanos ≤ time
      · rw [reports_due due, List.map_cons, List.getLastD_cons]
        exact ih (rows + 1) forward (Nat.le_refl time)
      · rw [reports_early due]
        exact ih (rows + 1) forward (Nat.le_trans begun passed)

end ProgressTimer

def lateness (interval : Nat) : Nat → List Nat → List Nat
  | _, [] => []
  | last, time :: times => (time - (last + interval)) :: lateness interval time times

@[simp] theorem length_lateness (interval last : Nat) (times : List Nat) :
    (lateness interval last times).length = times.length := by
  induction times generalizing last with
  | nil => rfl
  | cons time times ih => rw [lateness, List.length_cons, List.length_cons, ih]

theorem getLastD_eq_add_sum_lateness {interval start : Nat} {times : List Nat}
    (apart : (start :: times).Pairwise fun t later => t + interval ≤ later) :
    times.getLastD start =
      start + times.length * interval + (lateness interval start times).sum := by
  induction times generalizing start with
  | nil => simp [lateness]
  | cons time times ih =>
      obtain ⟨first, rest⟩ := List.pairwise_cons.1 apart
      have due := first time List.mem_cons_self
      rw [List.getLastD_cons, ih rest, lateness, List.sum_cons, List.length_cons, Nat.succ_mul]
      omega

/-- Reports over rows that took this time, with what each was late: the whole intervals of the time
without the lateness are as many as the reports. -/
structure KeepsPaceButLate (interval elapsed count : Nat) (late : List Nat) : Prop where
  late_lt : ∀ l ∈ late, l < interval
  late_le : late.sum ≤ elapsed
  count_eq : count = (elapsed - late.sum) / interval
  count_le : count ≤ elapsed / interval
  intervals_le : elapsed / interval ≤ 2 * count
  within_one : late.sum ≤ interval → elapsed / interval ≤ count + 1

theorem keepsPaceButLate_of_bounds {interval elapsed count : Nat} {late : List Nat}
    (pos : 0 < interval) (late_lt : ∀ l ∈ late, l < interval) (many : late.length = count)
    (le : count * interval + late.sum ≤ elapsed)
    (lt : elapsed < count * interval + late.sum + interval) :
    KeepsPaceButLate interval elapsed count late := by
  have sum_le : late.sum ≤ count * interval := by
    rw [← many]
    exact List.sum_le_card_nsmul late interval fun l hl => Nat.le_of_lt (late_lt l hl)
  refine ⟨late_lt, by omega, ?_, ?_, ?_, fun little => ?_⟩
  · refine (Nat.div_eq_of_lt_le (by omega) ?_).symm
    rw [Nat.succ_mul]
    omega
  · exact (Nat.le_div_iff_mul_le pos).2 (by omega)
  · refine Nat.le_of_lt_succ ((Nat.div_lt_iff_lt_mul pos).2 ?_)
    rw [Nat.succ_mul, Nat.mul_assoc]
    omega
  · refine Nat.le_of_lt_succ ((Nat.div_lt_iff_lt_mul pos).2 ?_)
    rw [Nat.succ_mul, Nat.succ_mul]
    omega

namespace ProgressTimer

variable {interval : Duration} {last now begun : Nat} {times : List Nat}

theorem lateness_reports_lt (rows : Nat) (pos : 0 < interval.nanos)
    (within : (now :: times).IsChain fun t later => t ≤ later ∧ later ≤ t + interval.nanos)
    (begun : last ≤ now) (early : now < last + interval.nanos) :
    (∀ l ∈ lateness interval.nanos last (((start interval last).reports rows times).map Prod.snd),
      l < interval.nanos) ∧
    times.getLastD now <
      (((start interval last).reports rows times).map Prod.snd).getLastD last + interval.nanos := by
  -- the row before is always within an interval of the last report
  induction times generalizing last rows now with
  | nil => exact ⟨nofun, early⟩
  | cons time times ih =>
      obtain ⟨⟨passed, soon⟩, within⟩ := List.isChain_cons_cons.1 within
      rw [List.getLastD_cons]
      by_cases due : last + interval.nanos ≤ time
      · rw [reports_due due, List.map_cons, List.getLastD_cons, lateness]
        obtain ⟨late, ended⟩ := ih (rows + 1) within (Nat.le_refl time)
          (Nat.lt_add_of_pos_right pos)
        refine ⟨fun l hl => ?_, ended⟩
        rcases List.mem_cons.1 hl with rfl | hl
        · omega
        · exact late l hl
      · rw [reports_early due]
        exact ih (rows + 1) within (Nat.le_trans begun passed) (by omega)

theorem getLastD_reports_eq (interval : Duration) (begun : Nat) (times : List Nat) :
    (((start interval begun).reports 0 times).map Prod.snd).getLastD begun =
      begun + ((start interval begun).reports 0 times).length * interval.nanos +
        (lateness interval.nanos begun (((start interval begun).reports 0 times).map Prod.snd)).sum := by
  have last := getLastD_eq_add_sum_lateness (apart_reports interval begun 0 times)
  rwa [List.length_map] at last

theorem length_reports_le (pos : 0 < interval.nanos) (forward : (begun :: times).IsChain (· ≤ ·)) :
    ((start interval begun).reports 0 times).length ≤
      (times.getLastD begun - begun) / interval.nanos := by
  have reported := getLastD_reports_le interval 0 forward (Nat.le_refl begun)
  rw [getLastD_reports_eq] at reported
  rw [Nat.le_div_iff_mul_le pos]
  omega

theorem keepsPaceButLate (pos : 0 < interval.nanos)
    (within : (begun :: times).IsChain fun t later => t ≤ later ∧ later ≤ t + interval.nanos) :
    KeepsPaceButLate interval.nanos (times.getLastD begun - begun)
      ((start interval begun).reports 0 times).length
      (lateness interval.nanos begun (((start interval begun).reports 0 times).map Prod.snd)) := by
  obtain ⟨late, ended⟩ :=
    lateness_reports_lt 0 pos within (Nat.le_refl begun) (Nat.lt_add_of_pos_right pos)
  have reported := getLastD_reports_le interval 0 (within.imp fun t later h => h.1)
    (Nat.le_refl begun)
  rw [getLastD_reports_eq] at reported ended
  refine keepsPaceButLate_of_bounds pos late ?_ (by omega) (by omega)
  rw [length_lateness, List.length_map]

end ProgressTimer

end SplitSnapshot
