import Mathlib.Data.List.Basic
import SplitSnapshot.Proofs.Read.Course

namespace SplitSnapshot

variable {σ : Type}

namespace Entry

def isCall : Entry → Bool
  | counted _ | progressed _ _ | noted _ => false
  | _ => true

def position? : Entry → Option (Except ReadError Lsn)
  | positionRead answer => some answer
  | _ => none

def sending? : Entry → Option (SplitEvent × Except ReadError Unit)
  | sent event answer => some (event, answer)
  | _ => none

def row? : Entry → Option Row
  | rowRead (.ok (some row)) _ => some row
  | _ => none

end Entry

def calls (journal : List Entry) : List Entry :=
  journal.filter Entry.isCall

@[simp] abbrev positionAnswers (journal : List Entry) : List (Except ReadError Lsn) :=
  shown Entry.position? journal

@[simp] abbrev sendings (journal : List Entry) : List (SplitEvent × Except ReadError Unit) :=
  shown Entry.sending? journal

@[simp] abbrev rowsRead (journal : List Entry) : List Row :=
  shown Entry.row? journal

@[simp] theorem calls_append (first second : List Entry) :
    calls (first ++ second) = calls first ++ calls second :=
  List.filter_append ..

@[simp] theorem calls_cons (entry : Entry) (journal : List Entry) :
    calls (entry :: journal) = if entry.isCall then entry :: calls journal else calls journal :=
  List.filter_cons

@[simp] theorem calls_nil : calls [] = [] := rfl

section

variable {β : Type} {view : Entry → Option β}

@[simp] theorem shown_nil : shown view [] = [] := rfl

@[simp] theorem shown_cons (entry : Entry) (journal : List Entry) :
    shown view (entry :: journal) = (view entry).toList ++ shown view journal := by
  cases h : view entry <;> simp [shown, h]

@[simp] theorem shown_append (first second : List Entry) :
    shown view (first ++ second) = shown view first ++ shown view second :=
  List.filterMap_append

theorem shown_eq_nil_iff {journal : List Entry} :
    shown view journal = [] ↔ ∀ entry ∈ journal, view entry = none :=
  List.filterMap_eq_nil_iff

attribute [simp] List.filterMap_none

@[simp] theorem shown_map_noted (notes : List LogEntry) :
    shown view (notes.map .noted) = notes.filterMap fun note => view (.noted note) :=
  List.filterMap_map

@[simp] theorem shown_call (notes : List LogEntry) (entry : Entry) :
    shown view (Entry.call notes entry) =
      (notes.filterMap fun note => view (.noted note)) ++ (view entry).toList := by
  rw [Entry.call, shown_append, shown_map_noted, shown_cons, shown_nil, List.append_nil]

theorem shown_calls (h : ∀ entry, entry.isCall = false → view entry = none) (journal : List Entry) :
    shown view (calls journal) = shown view journal := by
  induction journal with
  | nil => rfl
  | cons entry journal ih =>
      cases hc : entry.isCall with
      | true => simp [hc, ih]
      | false => simp [hc, ih, h entry hc]

end

theorem mem_sendings {journal : List Entry} {event : SplitEvent} {answer : Except ReadError Unit} :
    (event, answer) ∈ sendings journal ↔ .sent event answer ∈ journal := by
  constructor
  · intro h
    obtain ⟨entry, hm, hs⟩ := List.mem_filterMap.1 h
    cases entry <;> cases hs
    exact hm
  · intro h
    exact List.mem_filterMap.2 ⟨_, h, rfl⟩

theorem mem_acceptedEvents {journal : List Entry} {event : SplitEvent} :
    event ∈ acceptedEvents journal ↔ .sent event (.ok ()) ∈ journal := by
  constructor
  · intro h
    obtain ⟨entry, hm, ha⟩ := List.mem_filterMap.1 h
    unfold Entry.accepted? at ha
    split at ha
    · cases ha
      exact hm
    · cases ha
  · intro h
    exact List.mem_filterMap.2 ⟨_, h, rfl⟩

theorem calls_append_cons {before after : List Entry} {entry : Entry} (h : entry.isCall = true) :
    calls (before ++ entry :: after) = calls before ++ entry :: calls after := by
  rw [calls_append, calls_cons, if_pos h]

theorem mem_calls_iff {journal : List Entry} {entry : Entry} :
    entry ∈ calls journal ↔ entry ∈ journal ∧ entry.isCall = true :=
  List.mem_filter

theorem mem_calls {journal : List Entry} {entry : Entry} (h : entry.isCall = true) :
    entry ∈ calls journal ↔ entry ∈ journal := by
  rw [mem_calls_iff, and_iff_left h]

theorem acceptedEvents_calls (journal : List Entry) :
    acceptedEvents (calls journal) = acceptedEvents journal :=
  shown_calls (fun entry h => by cases entry <;> simp_all [Entry.isCall, Entry.accepted?]) journal

theorem positionAnswers_calls (journal : List Entry) :
    positionAnswers (calls journal) = positionAnswers journal :=
  shown_calls (fun entry h => by cases entry <;> simp_all [Entry.isCall, Entry.position?]) journal

theorem sendings_calls (journal : List Entry) : sendings (calls journal) = sendings journal :=
  shown_calls (fun entry h => by cases entry <;> simp_all [Entry.isCall, Entry.sending?]) journal

theorem rowsRead_calls (journal : List Entry) : rowsRead (calls journal) = rowsRead journal :=
  shown_calls (fun entry h => by cases entry <;> simp_all [Entry.isCall, Entry.row?]) journal

@[simp] theorem calls_map_noted (notes : List LogEntry) : calls (notes.map .noted) = [] := by
  simp [calls, List.filter_eq_nil_iff, Entry.isCall]

@[simp] theorem calls_call (notes : List LogEntry) (entry : Entry) :
    calls (Entry.call notes entry) = if entry.isCall then [entry] else [] := by
  simp [Entry.call]

namespace ReadTask

@[simp] theorem calls_progressEntries (task : ReadTask) (scan : ScanContext) (timer : ProgressTimer)
    (now : Nat) : calls (task.progressEntries scan timer now) = [] := by
  unfold progressEntries
  split
  · rfl
  · rfl

@[simp] theorem calls_rowEntries (task : ReadTask) (scan : ScanContext) (timer : ProgressTimer)
    (notes : List LogEntry) (row : Row) (now : Nat) :
    calls (task.rowEntries scan timer notes row now) =
      [.cancellationChecked false, .rowRead (.ok (some row)) now] := by
  simp [rowEntries, Entry.isCall]

@[simp] theorem calls_closingEntries (task : ReadTask) (notes : List LogEntry)
    (closing : Except ReadError Unit) (rows : Nat) :
    calls (task.closingEntries notes closing rows) = [.scanClosed closing] := by
  simp [closingEntries, Entry.isCall]

@[simp] theorem calls_lowEntries (task : ReadTask) (notes : List LogEntry) (low : Lsn) :
    calls (task.lowEntries notes low) = [.positionRead (.ok low)] := by
  simp [lowEntries, positionEntries, Entry.isCall]

@[simp] theorem calls_highEntries (task : ReadTask) (notes : List LogEntry) (high : Lsn) :
    calls (task.highEntries notes high) = [.positionRead (.ok high)] := by
  simp [highEntries, positionEntries, Entry.isCall]

theorem calls_execute (sv : Services σ) (task : ReadTask) (limit : Nat) (marks : Watermarks) (w : σ) :
    calls (task.execute sv limit marks w).journal = calls (task.stages sv limit ⟨w, marks⟩).journal := by
  have h : ∀ elapsed (outcome : Option Outcome),
      calls ((outcome.map (task.closing elapsed)).getD []) = [] := by
    intro elapsed outcome
    rcases outcome with _ | (_ | _ | _) <;> rfl
  simp [execute, h, Entry.isCall]

end ReadTask

end SplitSnapshot
