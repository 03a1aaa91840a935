import SplitSnapshot.Proofs.Read.Failures

namespace SplitSnapshot

variable {σ : Type}

namespace ReadError

def innermost : ReadError → ReadError
  | snapshottingFailed _ source | watermarkFailed _ source => source.innermost
  | e => e

def isWrapping : ReadError → Bool
  | snapshottingFailed _ _ | watermarkFailed _ _ => true
  | _ => false

theorem isWrapping_innermost (e : ReadError) : e.innermost.isWrapping = false := by
  induction e with
  | snapshottingFailed table source ih | watermarkFailed kind source ih => exact ih
  | _ => rfl

theorem isRetriable_innermost (e : ReadError) : e.innermost.isRetriable = e.isRetriable := by
  induction e with
  | snapshottingFailed table source ih | watermarkFailed kind source ih => exact ih
  | _ => rfl

theorem innermost_ofTable (table : TableId) (e : ReadError) :
    (ofTable table e).innermost = e.innermost := by
  cases e <;> rfl

theorem ofTable_eq_interrupted_iff {table : TableId} {e : ReadError} :
    ofTable table e = interrupted ↔ e = interrupted := by
  cases e <;> simp [ofTable]

structure KeepsRetriability (e : ReadError) : Prop where
  table : ∀ table, (ofTable table e).isRetriable = e.isRetriable
  watermark : ∀ kind, (watermarkFailed kind e).isRetriable = e.isRetriable
  innermost : e.innermost.isRetriable = e.isRetriable
  unwrapped : e.innermost.isWrapping = false
  once : ∀ first second, ofTable second (ofTable first e) = ofTable first e

theorem keepsRetriability (e : ReadError) : e.KeepsRetriability where
  table table := isRetriable_ofTable table e
  watermark _ := rfl
  innermost := e.isRetriable_innermost
  unwrapped := e.isWrapping_innermost
  once first second := ofTable_ofTable first second e

end ReadError

def Entry.failure? : Entry → Option ReadError
  | scanClosed _ => none
  | entry => entry.error?

@[simp] abbrev callErrors (journal : List Entry) : List ReadError :=
  shown Entry.failure? journal

theorem callErrors_calls (journal : List Entry) : callErrors (calls journal) = callErrors journal :=
  shown_calls (fun entry h => by
    cases entry <;> simp_all [Entry.isCall, Entry.failure?, Entry.error?]) journal

@[simp] theorem Delivery.shown_failure? (ds : List Delivery) :
    shown Entry.failure? (ds.flatMap calls) = [] := by
  induction ds with
  | nil => rfl
  | cons d ds ih => exact ih

def RowsEnd.callErrors : RowsEnd → List ReadError
  | failed e _ | refused _ e => [e]
  | _ => []

@[simp] theorem RowsEnd.shown_failure? (ending : RowsEnd) :
    shown Entry.failure? ending.calls = ending.callErrors := by
  cases ending <;> rfl

def WindowEnd.callErrors : WindowEnd → List ReadError
  | unread e | refused _ e | uncompleted _ e => [e]
  | _ => []

@[simp] theorem WindowEnd.shown_failure? (task : ReadTask) (window : WindowEnd) :
    shown Entry.failure? (window.calls task) = window.callErrors := by
  cases window <;> rfl

namespace Story

variable {task : ReadTask} {story : Story} {e : ReadError}

def callErrors : Story → List ReadError
  | schemaUnread e | lowUnread _ e | lowRefused _ _ e | unopened _ _ e _ => [e]
  | broken _ _ _ _ ending _ => ending.callErrors
  | exported _ _ _ _ _ _ window => window.callErrors
  | _ => []

theorem callErrors_calls (task : ReadTask) (story : Story) :
    SplitSnapshot.callErrors (story.calls task) = story.callErrors := by
  cases story with
  | broken schema low time ds ending closing =>
      cases closing <;> simp [calls, callErrors,
        Entry.failure?, Entry.error?]
  | exported schema low time ds finish closing window =>
      simp [calls, callErrors, Entry.failure?,
        Entry.error?, RowsEnd.callErrors]
  | _ => rfl

theorem stop?_of_mem_callErrors (task : ReadTask) (he : e ∈ story.callErrors)
    (uninterrupted : e ≠ .interrupted) :
    ∃ x, story.stop? task = some (.failed x) ∧ x ≠ .interrupted ∧ x.innermost = e.innermost := by
  have table : task.ofTable e ≠ .interrupted ∧ (task.ofTable e).innermost = e.innermost :=
    ⟨mt ReadError.ofTable_eq_interrupted_iff.1 uninterrupted,
      e.innermost_ofTable task.split.table⟩
  cases story with
  | invalid => cases he
  | schemaUnread | lowRefused =>
      obtain rfl := List.mem_singleton.1 he
      exact ⟨_, rfl, table⟩
  | lowUnread =>
      obtain rfl := List.mem_singleton.1 he
      exact ⟨_, rfl, nofun, rfl⟩
  | unopened =>
      obtain rfl := List.mem_singleton.1 he
      refine ⟨_, rfl, ?_⟩
      by_cases query : ∃ fault, e = .queryConstruction fault
      · obtain ⟨fault, rfl⟩ := query
        exact ⟨nofun, rfl⟩
      · rw [ReadTask.openFailure_of_ne (not_exists.1 query)]
        exact table
  | broken schema low time ds ending closing =>
      cases ending with
      | failed | refused =>
          obtain rfl := List.mem_singleton.1 he
          exact ⟨_, rfl, table⟩
      | _ => cases he
  | exported schema low time ds finish closing window =>
      cases window with
      | unread =>
          obtain rfl := List.mem_singleton.1 he
          exact ⟨_, rfl, nofun, rfl⟩
      | refused | uncompleted =>
          obtain rfl := List.mem_singleton.1 he
          exact ⟨_, rfl, table⟩
      | _ => cases he

end Story

namespace ReadTask

theorem failed_of_mem_callErrors {sv : Services σ} {task : ReadTask} {limit : Nat} {marks : Watermarks}
    {w : σ} {e : ReadError} (he : e ∈ callErrors (task.execute sv limit marks w).journal)
    (uninterrupted : e ≠ .interrupted) :
    ∃ x, (task.execute sv limit marks w).outcome = some (.failed x) ∧
      x.innermost = e.innermost := by
  obtain ⟨story, hcalls, hstop, -⟩ := task.execute_story sv limit marks w
  rw [← callErrors_calls, hcalls, Story.callErrors_calls] at he
  obtain ⟨x, hx, returned, same⟩ := story.stop?_of_mem_callErrors task he uninterrupted
  rw [hx, Stop.of?_eq_some] at hstop
  exact ⟨x, outcomeOf_eq_failed_iff.2 ⟨hstop, returned⟩, same⟩

/-- Wrapping keeps what may be tried again, an interruption is not wrapped as the failure of a table, and
a read in which a call failed, whatever came of closing its scan, fails and may be tried again just where
the error of that call says so. -/
theorem execute_keepsRetriability (sv : Services σ) (task : ReadTask) (limit : Nat)
    (marks : Watermarks) (w : σ) :
    (task.execute sv limit marks w).Replays sv task w ∧
    (∀ e : ReadError, e.KeepsRetriability) ∧
    (∀ table, ReadError.ofTable table .interrupted = .interrupted) ∧
    ∀ e ∈ callErrors (task.execute sv limit marks w).journal, e ≠ .interrupted →
      ∃ x, (task.execute sv limit marks w).outcome = some (.failed x) ∧
        x.innermost = e.innermost ∧ x.isRetriable = e.isRetriable := by
  refine ⟨task.execute_replays sv limit marks w, ReadError.keepsRetriability, fun _ => rfl,
    fun e he uninterrupted => ?_⟩
  obtain ⟨x, failed, same⟩ := failed_of_mem_callErrors he uninterrupted
  have retriable : x.isRetriable = e.isRetriable := by
    rw [← x.isRetriable_innermost, same, e.isRetriable_innermost]
  exact ⟨x, failed, same, retriable⟩

def unopenable : Services Nat :=
  { emptyTable 9 with
    openScan := fun _ _ _ w => ⟨.error (.watermarkFailed .high (.snapshottingFailed
      (.ofNames "public" "lines") (.client .closed))), [], w⟩ }

theorem execute_keepsRetriability_unopenable :
    callErrors (ordersTask.execute unopenable 5 .none 0).journal =
        [.watermarkFailed .high
          (.snapshottingFailed (.ofNames "public" "lines") (.client .closed))] ∧
      ∃ x, (ordersTask.execute unopenable 5 .none 0).outcome = some (.failed x) ∧
        x.innermost = .client .closed ∧ x.isRetriable = true := by
  have errors : callErrors (ordersTask.execute unopenable 5 .none 0).journal =
      [.watermarkFailed .high
        (.snapshottingFailed (.ofNames "public" "lines") (.client .closed))] := rfl
  have found : .watermarkFailed .high (.snapshottingFailed (.ofNames "public" "lines")
      (.client .closed)) ∈ callErrors (ordersTask.execute unopenable 5 .none 0).journal := by
    rw [errors]
    exact List.mem_singleton_self _
  obtain ⟨-, -, -, failed⟩ := ordersTask.execute_keepsRetriability unopenable 5 .none 0
  exact ⟨errors, failed _ found nofun⟩

end ReadTask

end SplitSnapshot
