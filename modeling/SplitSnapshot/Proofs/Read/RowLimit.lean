import SplitSnapshot.Proofs.Read.Calls
import SplitSnapshot.Proofs.Read.Parts

namespace SplitSnapshot

variable {σ α β : Type} {n : Nat}

namespace Stage

def CutAfter (n : Nat) (m : Stage σ α) : Prop :=
  ∀ s, (m s).value = .error .rowLimit → n ≤ (rowsRead (m s).journal).length

namespace CutAfter

theorem bind {m : Stage σ α} {f : α → Stage σ β} (hm : CutAfter n m)
    (hf : ∀ a, CutAfter n (f a)) : CutAfter n (m >>= f) := by
  intro s cut
  rw [bind_apply] at cut ⊢
  cases hv : (m s).value with
  | error stop =>
      simp only [hv] at cut ⊢
      exact hm s (by rw [hv, Except.error.inj cut])
  | ok a =>
      simp only [hv] at cut ⊢
      rw [StageResult.after, rowsRead, shown_append, List.length_append]
      exact Nat.le_add_left_of_le (hf a _ cut)

theorem of_uncut {m : Stage σ α} (h : ∀ s, (m s).value ≠ .error .rowLimit) : CutAfter n m :=
  fun s cut => absurd cut (h s)

theorem pure (a : α) : CutAfter n (pure a : Stage σ α) := of_uncut fun _ => nofun

theorem fail (e : ReadError) : CutAfter n (fail e : Stage σ α) := of_uncut fun _ => nofun

theorem look (view : σ → α) : CutAfter n (look view) := of_uncut fun _ => nofun

theorem write (entry : Entry) : CutAfter n (write entry : Stage σ Unit) := of_uncut fun _ => nofun

theorem ask (call : σ → Answer σ α) (entry : Answer σ α → Entry) : CutAfter n (ask call entry) :=
  of_uncut fun _ => nofun

theorem recordLow (p : Lsn) : CutAfter n (recordLow p : Stage σ Unit) := of_uncut fun _ => nofun

theorem recordHigh (p : Lsn) : CutAfter n (recordHigh p : Stage σ Unit) := of_uncut fun _ => nofun

theorem arm (timer : ProgressTimer) : CutAfter n (ReadTask.arm timer : Stage σ ProgressTimer) := by
  unfold ReadTask.arm
  split
  · exact .pure timer
  · exact of_uncut fun _ => nofun

theorem stopAtLimit : CutAfter 0 (stopAtLimit : Stage σ α) := fun _ _ => Nat.zero_le _

theorem nextRow (sv : Services σ) {f : Except ReadError (Option Row) → Stage σ α}
    (failed : ∀ e, CutAfter (n + 1) (f (.error e))) (ended : CutAfter (n + 1) (f (.ok none)))
    (more : ∀ row, CutAfter n (f (.ok (some row)))) :
    CutAfter (n + 1)
      (Stage.ask sv.nextRow (fun a => .rowRead a.result (sv.clock a.world)) >>= f) := by
  intro s cut
  rcases read : sv.nextRow s.world with ⟨answer, notes, w⟩
  rw [ask_bind read] at cut ⊢
  rw [StageResult.after, rowsRead, shown_append, List.length_append]
  rcases answer with e | _ | row
  · exact Nat.le_add_left_of_le (failed e _ cut)
  · exact Nat.le_add_left_of_le (ended _ cut)
  · have returned : (shown Entry.row? (notes.map .noted ++
        [.rowRead (.ok (some row)) (sv.clock w)])).length = 1 := by
      simp [Entry.row?]
    rw [returned, Nat.add_comm]
    exact Nat.add_le_add_left (more row _ cut) 1

end CutAfter

end Stage

namespace ReadTask

open Stage

variable (sv : Services σ) (task : ReadTask)

theorem cutAfter_reportProgress (scan : ScanContext) (timer : ProgressTimer) :
    CutAfter n (reportProgress sv task scan timer) := by
  refine .bind (.look _) fun now => ?_
  split
  · exact .bind (.write _) fun _ => .bind (.write _) fun _ => .arm _
  · exact .pure _

theorem cutAfter_exportRows (width limit : Nat) (scan : ScanContext) (timer : ProgressTimer) :
    CutAfter limit (exportRows sv task width limit scan timer) := by
  induction limit generalizing scan timer with
  | zero => exact .stopAtLimit
  | succ limit ih =>
      refine .bind (.look _) fun cancelled => .bind (.write _) fun _ => ?_
      split
      · exact .bind (.write _) fun _ => .pure _
      · refine .nextRow sv (fun e => .pure _) (.pure _) fun row => ?_
        refine .bind (cutAfter_reportProgress _ _ _ _) fun timer =>
          .bind (.look _) fun millis => .bind (.ask _ _) fun sent => ?_
        cases sent with
        | error e => exact .pure _
        | ok u => exact ih _ _

theorem partsRelated_cutAfter (limit : Nat) :
    PartsRelated (fun m _ => CutAfter limit m) sv sv task limit where
  bind hm hf := .bind hm hf
  pure a := .pure a
  fail e := .fail e
  arm timer := .arm timer
  note _ _ _ := .write _
  count _ := .write _
  recordLow p := .recordLow p
  recordHigh p := .recordHigh p
  clock := .look _
  schema _ := .ask _ _
  position := .ask _ _
  openScan _ := .ask _ _
  rows width scan timer := cutAfter_exportRows sv task width limit scan timer
  closeScan := .ask _ _
  send _ := .ask _ _

theorem limit_le_rowsRead (limit : Nat) (marks : Watermarks) (w : σ)
    (cut : (task.execute sv limit marks w).ending = .unfinished) :
    limit ≤ (rowsRead (task.execute sv limit marks w).journal).length := by
  have stages := (partsRelated_cutAfter sv task limit).stages ⟨w, marks⟩
    (endingOf_eq_unfinished_iff.1 cut)
  rwa [← rowsRead_calls, calls_execute, rowsRead_calls]

end ReadTask

end SplitSnapshot
