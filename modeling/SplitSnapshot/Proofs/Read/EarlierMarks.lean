import SplitSnapshot.Proofs.Read.Marks
import SplitSnapshot.Proofs.Read.Parts

namespace SplitSnapshot

variable {σ α β : Type}

namespace Watermarks

def withEarlier (marks earlier : Watermarks) : Watermarks :=
  ⟨marks.low <|> earlier.low, marks.high <|> earlier.high⟩

theorem none_withEarlier (earlier : Watermarks) : none.withEarlier earlier = earlier := rfl

theorem withEarlier_eq_self {marks : Watermarks} (h : ∀ kind, marks.of kind ≠ .none)
    (earlier : Watermarks) : marks.withEarlier earlier = marks := by
  obtain ⟨low, hlow⟩ := Option.ne_none_iff_exists'.1 (h .low)
  obtain ⟨high, hhigh⟩ := Option.ne_none_iff_exists'.1 (h .high)
  obtain ⟨markedLow, markedHigh⟩ := marks
  cases hlow
  cases hhigh
  rfl

end Watermarks

def StageResult.withEarlier (r : StageResult σ α) (earlier : Watermarks) : StageResult σ α :=
  { r with state := ⟨r.state.world, r.state.marks.withEarlier earlier⟩ }

namespace Stage

/-- A stage over earlier watermarks does the same as without them and leaves its own over them. -/
def IgnoresRecord (m : Stage σ α) : Prop :=
  ∀ earlier w marks, m ⟨w, marks.withEarlier earlier⟩ = (m ⟨w, marks⟩).withEarlier earlier

namespace IgnoresRecord

theorem bind {m : Stage σ α} {f : α → Stage σ β} (hm : IgnoresRecord m)
    (hf : ∀ a, IgnoresRecord (f a)) : IgnoresRecord (m >>= f) := by
  intro earlier w marks
  rw [bind_apply, bind_apply, hm]
  rcases m ⟨w, marks⟩ with ⟨stop | a, journal, ⟨w', marks'⟩⟩
  · rfl
  · have rest := hf a earlier w' marks'
    dsimp only [StageResult.withEarlier]
    rw [rest]
    rfl

theorem pure (a : α) : IgnoresRecord (pure a : Stage σ α) := fun _ _ _ => rfl

theorem fail (e : ReadError) : IgnoresRecord (fail e : Stage σ α) := fun _ _ _ => rfl

theorem arm (timer : ProgressTimer) :
    IgnoresRecord (ReadTask.arm timer : Stage σ ProgressTimer) := by
  unfold ReadTask.arm
  split
  · exact .pure timer
  · exact fun _ _ _ => rfl

theorem stopAtLimit : IgnoresRecord (stopAtLimit : Stage σ α) := fun _ _ _ => rfl

theorem look (view : σ → α) : IgnoresRecord (look view) := fun _ _ _ => rfl

theorem write (entry : Entry) : IgnoresRecord (write entry : Stage σ Unit) := fun _ _ _ => rfl

theorem ask (call : σ → Answer σ α) (entry : Answer σ α → Entry) :
    IgnoresRecord (ask call entry) := fun _ _ _ => rfl

theorem recordLow (p : Lsn) : IgnoresRecord (recordLow p : Stage σ Unit) := fun _ _ _ => rfl

theorem recordHigh (p : Lsn) : IgnoresRecord (recordHigh p : Stage σ Unit) := fun _ _ _ => rfl

end IgnoresRecord

end Stage

namespace ReadTask

open Stage

theorem ignoresRecord_reportProgress (sv : Services σ) (task : ReadTask) (scan : ScanContext)
    (timer : ProgressTimer) : IgnoresRecord (reportProgress sv task scan timer) := by
  refine .bind (.look _) fun now => ?_
  split
  · exact .bind (.write _) fun _ => .bind (.write _) fun _ => .arm _
  · exact .pure _

theorem ignoresRecord_exportRows (sv : Services σ) (task : ReadTask) (width limit : Nat)
    (scan : ScanContext) (timer : ProgressTimer) :
    IgnoresRecord (exportRows sv task width limit scan timer) := by
  induction limit generalizing scan timer with
  | zero => exact .stopAtLimit
  | succ limit ih =>
      refine .bind (.look _) fun cancelled => .bind (.write _) fun _ => ?_
      split
      · exact .bind (.write _) fun _ => .pure _
      · refine .bind (.ask _ _) fun read => ?_
        rcases read with e | _ | row
        · exact .pure _
        · exact .pure _
        · refine .bind (ignoresRecord_reportProgress _ _ _ _) fun timer =>
            .bind (.look _) fun millis => .bind (.ask _ _) fun sent => ?_
          cases sent with
          | error e => exact .pure _
          | ok u => exact ih _ _

theorem partsRelated_ignoresRecord (sv : Services σ) (task : ReadTask) (limit : Nat) :
    PartsRelated (fun m _ => IgnoresRecord m) sv sv task limit where
  bind hm hf := .bind hm hf
  pure a := .pure a
  fail e := .fail e
  arm timer := .arm timer
  note _ _ _ := .write _
  count _ := .write _
  recordLow p := .recordLow p
  recordHigh p := .recordHigh p
  clock := .look _
  schema _ := .ask _ _
  position := .ask _ _
  openScan _ := .ask _ _
  rows width scan timer := ignoresRecord_exportRows sv task width limit scan timer
  closeScan := .ask _ _
  send _ := .ask _ _

theorem ignoresRecord_stages (sv : Services σ) (task : ReadTask) (limit : Nat) :
    IgnoresRecord (stages sv task limit) :=
  (partsRelated_ignoresRecord sv task limit).stages

end ReadTask

def Run.withEarlier (run : Run σ) (earlier : Watermarks) : Run σ :=
  { run with marks := run.marks.withEarlier earlier }

namespace Story

variable {task : ReadTask} {story : Story}

theorem low_recorded_of_high (h : (story.marks .none).high ≠ none) :
    (story.marks .none).low ≠ none := by
  cases story with
  | exported schema low time ds finish closing window =>
      cases window <;> simp [marks, WindowEnd.marks]
  | _ => simp [marks, Watermarks.none] at h

theorem high_recorded_iff : (story.marks .none).high ≠ none ↔
    ∃ high answer, .sent (task.watermark .high high) answer ∈ story.calls task := by
  rw [Option.ne_none_iff_exists']
  exact exists_congr fun high => (@recorded_iff task story .high high).trans sent_iff.symm

end Story

namespace ReadTask

def IndependentOfRecord (sv : Services σ) (task : ReadTask) (limit : Nat) (w : σ) : Prop :=
  ∀ earlier earlier',
    acceptedEvents (task.execute sv limit earlier w).journal =
        acceptedEvents (task.execute sv limit earlier' w).journal ∧
      (task.execute sv limit earlier w).outcome = (task.execute sv limit earlier' w).outcome ∧
      (task.execute sv limit earlier w).marks = (task.execute sv limit earlier' w).marks

/-- A read over earlier watermarks goes as one that begins with none: outcome, journal and world are
the same, and its watermarks are left over the earlier ones. So earlier watermarks are gone from the
record just where the read handed its high watermark to the sink. -/
theorem execute_overEarlier (sv : Services σ) (task : ReadTask) (limit : Nat) (w : σ) :
    (∀ earlier,
      task.execute sv limit earlier w = (task.execute sv limit .none w).withEarlier earlier) ∧
    (task.IndependentOfRecord sv limit w ↔ ∃ high answer,
      .sent (task.watermark .high high) answer ∈ (task.execute sv limit .none w).journal) := by
  have overEarlier (earlier : Watermarks) :
      task.execute sv limit earlier w = (task.execute sv limit .none w).withEarlier earlier := by
    have stages := ignoresRecord_stages sv task limit earlier w .none
    rw [Watermarks.none_withEarlier] at stages
    simp only [execute, stages]
    rfl
  refine ⟨overEarlier, ?_⟩
  obtain ⟨story, hcalls, hm⟩ := task.execute_story_marks sv limit .none w
  have sent_iff : (∃ high answer, .sent (task.watermark .high high) answer ∈
      (task.execute sv limit .none w).journal) ↔ (story.marks .none).high ≠ none := by
    rw [Story.high_recorded_iff, ← hcalls]
    simp only [mem_calls_iff, Entry.isCall, and_true]
  rw [sent_iff]
  constructor
  · intro independent unrecorded
    -- an earlier high watermark would be left on record by one of the reads and not by the other
    have same := (independent .none ⟨none, some ⟨0⟩⟩).2.2
    rw [overEarlier ⟨none, some ⟨0⟩⟩] at same
    have high := congrArg Watermarks.high same
    simp [Run.withEarlier, Watermarks.withEarlier, hm, unrecorded] at high
  · intro recorded earlier earlier'
    have left (earlier : Watermarks) :
        (story.marks .none).withEarlier earlier = story.marks .none := by
      refine Watermarks.withEarlier_eq_self (fun kind => ?_) earlier
      cases kind with
      | low => exact Story.low_recorded_of_high recorded
      | high => exact recorded
    rw [overEarlier earlier, overEarlier earlier']
    refine ⟨rfl, rfl, ?_⟩
    simp only [Run.withEarlier, hm, left]

theorem independentOfRecord_lowRefused :
    ¬ ordersTask.IndependentOfRecord (emptyTable 0) 1 0 := by
  intro independent
  have completed : (ordersTask.execute (emptyTable 3) 1 .none 0).marks = ⟨some ⟨0x10⟩, some ⟨0x10⟩⟩ :=
    rfl
  have same := (independent .none (ordersTask.execute (emptyTable 3) 1 .none 0).marks).2.2
  rw [completed] at same
  have high := congrArg Watermarks.high same
  cases high

end ReadTask

end SplitSnapshot
