import SplitSnapshot.Event
import SplitSnapshot.ReadError
import SplitSnapshot.Duration

namespace SplitSnapshot

structure Host where
  clock : Nat
  epoch : Int
  cancelled : Bool
  heeded : Bool
  sends : Nat
  receiverGoneAt : Option Nat
  receiving : Bool
  deriving Repr

namespace Host

def cancellation (h : Host) : Bool :=
  h.heeded && h.cancelled

def wallMillis (h : Host) : Int :=
  h.epoch + (h.clock / 1000000 : Nat)

def cancel (h : Host) : Host :=
  { h with cancelled := true }

def sleep (h : Host) (d : Duration) : Host :=
  { h with clock := h.clock + d.nanos }

def send (h : Host) (_ : SplitEvent) : Except ReadError Unit × Host :=
  let sends := h.sends + 1
  let receiving := h.receiving && h.receiverGoneAt != some sends
  (if receiving then .ok () else .error (.sinkClosed .receiverDropped),
    { h with sends := sends, receiving := receiving })

end Host

end SplitSnapshot
