import SplitSnapshot.Duration
import SplitSnapshot.Power

namespace SplitSnapshot

/-- The first time that a clock cannot tell, for it counts seconds in a signed word of 64 bits. -/
def clockEnd : Nat := pow2 63 * 1000000000

structure ProgressTimer where
  interval : Duration
  deadline : Nat
  deriving DecidableEq, Repr

namespace ProgressTimer

def start (interval : Duration) (now : Nat) : ProgressTimer :=
  ⟨interval, now + interval.nanos⟩

def expired (t : ProgressTimer) (now : Nat) : Bool :=
  decide (t.deadline ≤ now)

def inRange (t : ProgressTimer) : Bool :=
  decide (t.deadline < clockEnd)

def reset (t : ProgressTimer) (now : Nat) : ProgressTimer :=
  start t.interval now

end ProgressTimer

end SplitSnapshot
