import SplitSnapshot.Event
import SplitSnapshot.ReadError
import SplitSnapshot.Split

namespace SplitSnapshot

structure Answer (σ α : Type) where
  result : Except ReadError α
  notes : List LogEntry
  world : σ

structure Services (σ : Type) where
  schema : TableId → σ → Answer σ TableSchema
  position : σ → Answer σ Lsn
  openScan : Split → TableSchema → Nat → σ → Answer σ Unit
  nextRow : σ → Answer σ (Option Row)
  closeScan : σ → Answer σ Unit
  send : SplitEvent → σ → Answer σ Unit
  cancelled : σ → Bool
  clock : σ → Nat
  wallMillis : σ → Int

end SplitSnapshot
