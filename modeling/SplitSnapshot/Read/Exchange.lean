import SplitSnapshot.Read.Services

namespace SplitSnapshot

def Exchange (σ α : Type) : Type :=
  σ → Answer σ α

namespace Exchange

variable {σ α β : Type}

protected def pure (a : α) : Exchange σ α :=
  fun w => ⟨.ok a, [], w⟩

protected def bind (m : Exchange σ α) (f : α → Exchange σ β) : Exchange σ β :=
  fun w =>
    let r := m w
    match r.result with
    | .ok a =>
        let t := f a r.world
        ⟨t.result, r.notes ++ t.notes, t.world⟩
    | .error e => ⟨.error e, r.notes, r.world⟩

instance : Monad (Exchange σ) where
  pure := Exchange.pure
  bind := Exchange.bind

theorem bind_of_ok {m : Exchange σ α} {w : σ} {a : α} (h : (m w).result = .ok a)
    (f : α → Exchange σ β) :
    (m >>= f) w = ⟨(f a (m w).world).result, (m w).notes ++ (f a (m w).world).notes,
      (f a (m w).world).world⟩ := by
  change Exchange.bind m f w = _
  simp only [Exchange.bind, h]

theorem bind_of_error {m : Exchange σ α} {w : σ} {e : ReadError} (h : (m w).result = .error e)
    (f : α → Exchange σ β) :
    (m >>= f) w = ⟨.error e, (m w).notes, (m w).world⟩ := by
  change Exchange.bind m f w = _
  simp only [Exchange.bind, h]

def fail (e : ReadError) : Exchange σ α :=
  fun w => ⟨.error e, [], w⟩

def ofExcept : Except ReadError α → Exchange σ α
  | .ok a => Exchange.pure a
  | .error e => fail e

def attempt (m : Exchange σ α) : Exchange σ (Except ReadError α) :=
  fun w =>
    let r := m w
    ⟨.ok r.result, r.notes, r.world⟩

def look (view : σ → α) : Exchange σ α :=
  fun w => ⟨.ok (view w), [], w⟩

def change (f : σ → σ) : Exchange σ Unit :=
  fun w => ⟨.ok (), [], f w⟩

def noteAll (notes : List LogEntry) : Exchange σ Unit :=
  fun w => ⟨.ok (), notes, w⟩

def note (level : LogLevel) (message : String) (fields : List (String × String)) :
    Exchange σ Unit :=
  noteAll [⟨level, message, fields⟩]

end Exchange

end SplitSnapshot
