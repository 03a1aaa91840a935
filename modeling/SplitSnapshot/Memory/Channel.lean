import SplitSnapshot.Event
import SplitSnapshot.ReadError

namespace SplitSnapshot

structure Channel where
  capacity : Nat
  events : List SplitEvent
  sinks : Nat
  receiving : Bool
  events_le : events.length ≤ capacity
  deriving Repr

inductive SendResult where
  | sent
  | blocked
  | refused (e : ReadError)
  | noSink
  deriving Repr

inductive ReceiveResult where
  | event (e : SplitEvent)
  | empty
  | closed
  | noReceiver
  deriving Repr

namespace Channel

def ofCapacity (n : Nat) : Channel :=
  ⟨max n 1, [], 1, true, Nat.zero_le _⟩

def send (c : Channel) (e : SplitEvent) : SendResult × Channel :=
  if c.sinks = 0 then (.noSink, c)
  else if !c.receiving then (.refused (.sinkClosed .receiverDropped), c)
  else if h : c.events.length < c.capacity then
    (.sent, { c with
      events := c.events ++ [e]
      events_le := by
        rw [List.length_append, List.length_singleton]
        exact h })
  else (.blocked, c)

def receive (c : Channel) : ReceiveResult × Channel :=
  if !c.receiving then (.noReceiver, c)
  else match h : c.events with
    | e :: events =>
        (.event e, { c with
          events := events
          events_le := by
            have := c.events_le
            simp only [h, List.length_cons] at this
            omega })
    | [] => (if c.sinks = 0 then .closed else .empty, c)

def cloneSink (c : Channel) : Channel :=
  if c.sinks = 0 then c else { c with sinks := c.sinks + 1 }

def dropSink (c : Channel) : Channel :=
  { c with sinks := c.sinks - 1 }

def dropReceiver (c : Channel) : Channel :=
  { c with receiving := false, events := [], events_le := Nat.zero_le _ }

theorem events_send (c : Channel) (e : SplitEvent) (h : (c.send e).1 = .sent) :
    (c.send e).2.events = c.events ++ [e] := by
  unfold send at h ⊢
  split at h
  · cases h
  · split at h
    · cases h
    · split at h
      · simp_all
      · cases h

theorem events_receive (c : Channel) (e : SplitEvent) (h : c.receive.1 = .event e) :
    c.events = e :: c.receive.2.events := by
  unfold receive at h ⊢
  split at h
  · cases h
  · rename_i hr
    split at h
    · rename_i he
      cases h
      simp [hr, he]
    · split at h <;> cases h

end Channel

end SplitSnapshot
