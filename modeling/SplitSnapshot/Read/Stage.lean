import SplitSnapshot.Read.Journal

namespace SplitSnapshot

structure Watermarks where
  low : Option Lsn
  high : Option Lsn
  deriving DecidableEq, Repr

def Watermarks.none : Watermarks := ⟨.none, .none⟩

structure ReadState (σ : Type) where
  world : σ
  marks : Watermarks

inductive Stop where
  | failed (e : ReadError)
  | overflow
  | rowLimit

def Stop.isCut : Stop → Bool
  | failed _ => false
  | overflow | rowLimit => true

structure StageResult (σ α : Type) where
  value : Except Stop α
  journal : List Entry
  state : ReadState σ

def Stage (σ α : Type) : Type :=
  ReadState σ → StageResult σ α

variable {σ α β : Type}

namespace Stage

protected def pure (a : α) : Stage σ α :=
  fun s => ⟨.ok a, [], s⟩

protected def bind (m : Stage σ α) (f : α → Stage σ β) : Stage σ β :=
  fun s =>
    let r := m s
    match r.value with
    | .ok a =>
        let t := f a r.state
        ⟨t.value, r.journal ++ t.journal, t.state⟩
    | .error stop => ⟨.error stop, r.journal, r.state⟩

instance : Monad (Stage σ) where
  pure := Stage.pure
  bind := Stage.bind

def ask (call : σ → Answer σ α) (entry : Answer σ α → Entry) : Stage σ (Except ReadError α) :=
  fun s =>
    let a := call s.world
    ⟨.ok a.result, a.notes.map .noted ++ [entry a], { s with world := a.world }⟩

def write (entry : Entry) : Stage σ Unit :=
  fun s => ⟨.ok (), [entry], s⟩

def note (level : LogLevel) (message : String) (fields : List (String × String)) : Stage σ Unit :=
  write (.noted ⟨level, message, fields⟩)

def look (view : σ → α) : Stage σ α :=
  fun s => ⟨.ok (view s.world), [], s⟩

def recordLow (p : Lsn) : Stage σ Unit :=
  fun s => ⟨.ok (), [], { s with marks := { s.marks with low := some p } }⟩

def recordHigh (p : Lsn) : Stage σ Unit :=
  fun s => ⟨.ok (), [], { s with marks := { s.marks with high := some p } }⟩

def fail (e : ReadError) : Stage σ α :=
  fun s => ⟨.error (.failed e), [], s⟩

def overflow : Stage σ α :=
  fun s => ⟨.error .overflow, [], s⟩

def stopAtLimit : Stage σ α :=
  fun s => ⟨.error .rowLimit, [], s⟩

def orFail (wrap : ReadError → ReadError) : Except ReadError α → Stage σ α
  | .ok a => Stage.pure a
  | .error e => fail (wrap e)

end Stage

def StageResult.after (entries : List Entry) (r : StageResult σ α) : StageResult σ α :=
  { r with journal := entries ++ r.journal }

theorem StageResult.after_mk (entries : List Entry) (value : Except Stop α) (journal : List Entry)
    (s : ReadState σ) :
    (StageResult.mk value journal s).after entries = ⟨value, entries ++ journal, s⟩ := rfl

theorem StageResult.after_after (first second : List Entry) (r : StageResult σ α) :
    (r.after second).after first = r.after (first ++ second) := by
  simp [after]

namespace Stage

theorem bind_apply (m : Stage σ α) (f : α → Stage σ β) (s : ReadState σ) :
    (m >>= f) s = match (m s).value with
      | .ok a => (f a (m s).state).after (m s).journal
      | .error stop => ⟨.error stop, (m s).journal, (m s).state⟩ := rfl

theorem pure_apply (a : α) (s : ReadState σ) : (pure a : Stage σ α) s = ⟨.ok a, [], s⟩ := rfl

theorem ask_bind {call : σ → Answer σ α} {s : ReadState σ} {result : Except ReadError α}
    {notes : List LogEntry} {w : σ} (h : call s.world = ⟨result, notes, w⟩)
    (entry : Answer σ α → Entry) (f : Except ReadError α → Stage σ β) :
    (ask call entry >>= f) s = (f result ⟨w, s.marks⟩).after
      (notes.map .noted ++ [entry ⟨result, notes, w⟩]) := by
  simp only [bind_apply, ask, h]

theorem write_bind (entry : Entry) (f : Unit → Stage σ β) (s : ReadState σ) :
    (write entry >>= f) s = (f () s).after [entry] := rfl

theorem look_bind (view : σ → α) (f : α → Stage σ β) (s : ReadState σ) :
    (look view >>= f) s = f (view s.world) s := rfl

theorem recordLow_bind (p : Lsn) (f : Unit → Stage σ β) (s : ReadState σ) :
    (recordLow p >>= f) s = f () ⟨s.world, ⟨some p, s.marks.high⟩⟩ := rfl

theorem recordHigh_bind (p : Lsn) (f : Unit → Stage σ β) (s : ReadState σ) :
    (recordHigh p >>= f) s = f () ⟨s.world, ⟨s.marks.low, some p⟩⟩ := rfl

theorem orFail_ok_bind (wrap : ReadError → ReadError) (a : α) (f : α → Stage σ β)
    (s : ReadState σ) : (orFail wrap (.ok a) >>= f) s = f a s := rfl

theorem orFail_error_bind (wrap : ReadError → ReadError) (e : ReadError) (f : α → Stage σ β)
    (s : ReadState σ) : (orFail wrap (.error e) >>= f) s = ⟨.error (.failed (wrap e)), [], s⟩ := rfl

end Stage

end SplitSnapshot
