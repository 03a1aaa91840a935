import SplitSnapshot.Memory.Channel
import SplitSnapshot.Proofs.Read.Bracket
import SplitSnapshot.Proofs.Read.Failures
import SplitSnapshot.Proofs.Read.Owned
import SplitSnapshot.Proofs.Shared.Calls

namespace SplitSnapshot

abbrev Sending := SplitEvent × Except ReadError Unit

inductive ChannelAct (ι : Type) where
  | sends (i : ι) (sending : Sending)
  | receives (event : SplitEvent)
  | clones
  | drops
  | hangsUp

namespace ChannelAct

variable {ι : Type}

def sending? : ChannelAct ι → Option (ι × Sending)
  | sends i sending => some (i, sending)
  | _ => none

def received? : ChannelAct ι → Option SplitEvent
  | receives event => some event
  | _ => none

end ChannelAct

def SendResult.answer? : SendResult → Option (Except ReadError Unit)
  | sent => some (.ok ())
  | refused e => some (.error e)
  | blocked | noSink => none

namespace Channel

variable {ι : Type}

/-- The channel takes part in these acts, one after the other. Who finds it full or empty waits: the acts
of others come first. -/
inductive Carries : Channel → List (ChannelAct ι) → Channel → Prop
  | nil {c} : Carries c [] c
  | sends {c i event answer acts c'} (answered : (c.send event).1.answer? = some answer)
      (rest : Carries (c.send event).2 acts c') : Carries c (.sends i (event, answer) :: acts) c'
  | receives {c event acts c'} (taken : c.receive.1 = .event event)
      (rest : Carries c.receive.2 acts c') : Carries c (.receives event :: acts) c'
  | clones {c acts c'} (rest : Carries c.cloneSink acts c') : Carries c (.clones :: acts) c'
  | drops {c acts c'} (rest : Carries c.dropSink acts c') : Carries c (.drops :: acts) c'
  | hangsUp {c acts c'} (rest : Carries c.dropReceiver acts c') : Carries c (.hangsUp :: acts) c'

def sent (acts : List (ChannelAct ι)) : List (ι × Sending) :=
  acts.filterMap ChannelAct.sending?

def received (acts : List (ChannelAct ι)) : List SplitEvent :=
  acts.filterMap ChannelAct.received?

theorem receiving_send (c : Channel) (event : SplitEvent) :
    (c.send event).2.receiving = c.receiving := by
  unfold send
  split
  · rfl
  · split
    · rfl
    · split <;> rfl

theorem receiving_receive (c : Channel) : c.receive.2.receiving = c.receiving := by
  unfold receive
  split
  · rfl
  · split <;> rfl

theorem receiving_cloneSink (c : Channel) : c.cloneSink.receiving = c.receiving := by
  unfold cloneSink
  split <;> rfl

theorem sent_of_receiving {c : Channel} {event : SplitEvent} {answer : Except ReadError Unit}
    (receiving : c.receiving = true) (answered : (c.send event).1.answer? = some answer) :
    answer = .ok () ∧ (c.send event).1 = .sent := by
  unfold send at answered ⊢
  split at answered
  · cases answered
  · simp only [receiving, Bool.not_true, Bool.false_eq_true, if_false] at answered ⊢
    split at answered
    · cases answered
      simp_all
    · cases answered

theorem Carries.receiving {c c' : Channel} {acts : List (ChannelAct ι)} (h : c.Carries acts c')
    (receiving : c'.receiving = true) : c.receiving = true := by
  induction h with
  | nil => exact receiving
  | @sends c _ event _ _ _ _ _ ih => exact (c.receiving_send event).symm.trans (ih receiving)
  | @receives c _ _ _ _ _ ih => exact c.receiving_receive.symm.trans (ih receiving)
  | @clones c _ _ _ ih => exact c.receiving_cloneSink.symm.trans (ih receiving)
  | drops _ ih => exact ih receiving
  | hangsUp _ ih => cases ih receiving

theorem Carries.in_order {c c' : Channel} {acts : List (ChannelAct ι)} (h : c.Carries acts c')
    (receiving : c'.receiving = true) :
    c.events ++ (sent acts).map (fun s => s.2.1) = received acts ++ c'.events ∧
      ∀ s ∈ sent acts, s.2.2 = .ok () := by
  induction h with
  | nil => simp [sent, received]
  | @sends c i event answer acts c' answered rest ih =>
      obtain ⟨order, accepted⟩ := ih receiving
      have receiving := (c.receiving_send event).symm.trans (rest.receiving receiving)
      obtain ⟨rfl, hs⟩ := sent_of_receiving receiving answered
      rw [c.events_send event hs, List.append_assoc] at order
      exact ⟨order, by simpa [sent, ChannelAct.sending?] using accepted⟩
  | @receives c event acts c' taken rest ih =>
      obtain ⟨order, accepted⟩ := ih receiving
      rw [c.events_receive event taken, List.cons_append]
      exact ⟨congrArg (List.cons event) order, accepted⟩
  | @clones c acts c' rest ih =>
      have events : c.cloneSink.events = c.events := by
        unfold cloneSink
        split <;> rfl
      rw [← events]
      exact ih receiving
  | drops rest ih => exact ih receiving
  -- then the channel would not be received from in the end
  | hangsUp rest ih => cases rest.receiving receiving

end Channel

theorem Story.accepted_of_unstopped {task : ReadTask} {story : Story} (hc : story.Consistent task)
    (hs : story.stop? task = none) : ∃ low high changes width,
      sendings (story.calls task) = (task.bracket low high changes).map (·, .ok ()) ∧
        changes.map DataChange.row = (rowsRead (story.calls task)).map fun row => row.fitTo width := by
  cases story with
  | exported schema low time ds finish closing window =>
      cases window with
      | completed high =>
          refine ⟨low, high, ds.map Delivery.change, schema.width, ?_, ?_⟩
          · simp [sendings_calls, accepted, refusals, WindowEnd.accepted, WindowEnd.refusals,
              ReadTask.bracket, ReadTask.watermark]
          · rw [rowsRead_calls, rows, List.map_map, List.map_map]
            exact List.map_congr_left hc.2.2.1
      | _ => cases hs
  | broken schema low time ds ending closing =>
      obtain ⟨-, -, -, stopped, -⟩ := hc
      have hs : ending.stop? task = none := hs
      rw [hs] at stopped
      cases stopped
  | _ => cases hs

theorem ReadCall.sendings_of_completed {c : ReadCall} {offset : OffsetContext}
    (h : c.outcome = some (.completed offset)) : ∃ low high changes width,
      sendings c.journal = (c.task.bracket low high changes).map (·, .ok ()) ∧
        changes.map DataChange.row = (rowsRead c.journal).map fun row => row.fitTo width := by
  obtain ⟨story, hcalls, hstop, hc⟩ := c.task.execute_story c.services c.limit c.marks c.world
  have unstopped : story.stop? c.task = none := by
    rw [← hstop]
    exact (c.task.completed_iff c.services c.limit c.marks c.world).1 ⟨offset, h⟩
  have sent := Story.accepted_of_unstopped hc unstopped
  rw [← hcalls, sendings_calls, rowsRead_calls] at sent
  exact sent

namespace Channel

variable {ι : Type} [DecidableEq ι]

/-- As long as the channel is received from, it hands on the events of each read in the order in which
that read sent them, and no others among them. -/
theorem reads_keepOrder (calls : ι → ReadCall) (n : Nat) {acts : List (ChannelAct ι)} {c : Channel}
    (ids : Function.Injective fun i => (calls i).task.split.splitId)
    (tables : Function.Injective fun i => (calls i).task.split.table)
    (carries : (ofCapacity n).Carries acts c) (receiving : c.receiving = true)
    (reached : ∀ i, stepsOf i (sent acts) <+: sendings (calls i).journal) (i : ι) :
    (received acts ++ c.events).filter (calls i).task.owns =
        (stepsOf i (sent acts)).map Prod.fst ∧
      (∀ sending ∈ stepsOf i (sent acts), sending.2 = .ok ()) ∧
      (received acts).filter (calls i).task.owns <+: (sendings (calls i).journal).map Prod.fst ∧
      (stepsOf i (sent acts) = sendings (calls i).journal → c.events = [] →
        (received acts).filter (calls i).task.owns = (sendings (calls i).journal).map Prod.fst ∧
        ∀ offset, (calls i).outcome = some (.completed offset) → ∃ low high changes width,
          (received acts).filter (calls i).task.owns = (calls i).task.bracket low high changes ∧
            changes.map DataChange.row =
              (rowsRead (calls i).journal).map fun row => row.fitTo width) := by
  obtain ⟨order, accepted⟩ := carries.in_order receiving
  have own (s : ι × Sending) (hs : s ∈ sent acts) : (calls s.1).task.owns s.2.1 = true :=
    (calls s.1).task.execute_ownsSendings _ _ _ _ s.2 ((reached s.1).subset (mem_stepsOf hs))
  have apart (i j : ι) (event : SplitEvent) (hij : i ≠ j)
      (h : (calls j).task.owns event = true) : (calls i).task.owns event = false :=
    ReadTask.owns_eq_false (ids.ne hij) (tables.ne hij) h
  -- what has come out and what waits are what was sent, and each sending shows whose it is
  have mine : (received acts ++ c.events).filter (calls i).task.owns =
      (stepsOf i (sent acts)).map Prod.fst := by
    rw [← order]
    exact filter_map_steps own apart i
  refine ⟨mine, ?_, ?_, fun all drained => ?_⟩
  · intro sending hs
    obtain ⟨s, hm, rfl⟩ := List.mem_map.1 hs
    exact accepted s (List.mem_filter.1 hm).1
  · rw [List.filter_append] at mine
    exact (List.prefix_append _ _).trans (mine ▸ (reached i).map Prod.fst)
  · rw [drained, List.append_nil, all] at mine
    refine ⟨mine, fun offset completed => ?_⟩
    obtain ⟨low, high, changes, width, hs, hr⟩ := ReadCall.sendings_of_completed completed
    refine ⟨low, high, changes, width, ?_, hr⟩
    rw [mine, hs, List.map_map]
    exact List.map_id _

end Channel

def catalogTask : ReadTask :=
  ⟨.whole "S2" ⟨some "shop", "public", "orders"⟩ "id" .int64, .standard, .standard⟩

def twoReads (i : Fin 2) : ReadCall where
  World := Nat
  services := match i with
    | 0 => ReadTask.oneRow
    | 1 => ReadTask.emptyTable 9
  task := match i with
    | 0 => ReadTask.ordersTask
    | 1 => catalogTask
  limit := 5
  marks := .none
  world := 0

def twoMark (i : Fin 2) (kind : WatermarkKind) : SplitEvent :=
  (twoReads i).task.watermark kind ⟨0x10⟩

def twoChange : SplitEvent :=
  .dataChange ⟨ReadTask.ordersTask.split.table, ⟨⟨0x10⟩, true, 1, 0⟩, ⟨[]⟩⟩

def twoSends (i : Fin 2) (event : SplitEvent) : ChannelAct (Fin 2) :=
  .sends i (event, .ok ())

def twoActs : List (ChannelAct (Fin 2)) :=
  [.clones, twoSends 0 (twoMark 0 .low), twoSends 1 (twoMark 1 .low), .receives (twoMark 0 .low),
    twoSends 1 (twoMark 1 .high), .receives (twoMark 1 .low), twoSends 0 twoChange,
    .receives (twoMark 1 .high), twoSends 1 (.completed "S2"), .receives twoChange,
    twoSends 0 (twoMark 0 .high), .receives (.completed "S2"), .drops, .receives (twoMark 0 .high),
    twoSends 0 (.completed "S1"), .receives (.completed "S1")]

theorem stepsOf_twoActs (i : Fin 2) :
    stepsOf i (Channel.sent twoActs) = sendings (twoReads i).journal := by
  match i with
  | 0 => rfl
  | 1 => rfl

theorem carries_twoActs : (Channel.ofCapacity 2).Carries twoActs (Channel.ofCapacity 2) :=
  .clones <| .sends rfl <| .sends rfl <| .receives rfl <| .sends rfl <| .receives rfl <|
    .sends rfl <| .receives rfl <| .sends rfl <| .receives rfl <| .sends rfl <| .receives rfl <|
    .drops <| .receives rfl <| .sends rfl <| .receives rfl .nil

namespace Channel

theorem reads_keepOrder_two :
    (Function.Injective (fun i => (twoReads i).task.split.splitId) ∧
      Function.Injective (fun i => (twoReads i).task.split.table) ∧
      (ofCapacity 2).Carries twoActs (ofCapacity 2) ∧
      ∀ i, stepsOf i (sent twoActs) = sendings (twoReads i).journal) ∧
    (received twoActs).filter ReadTask.ordersTask.owns =
      [twoMark 0 .low, twoChange, twoMark 0 .high, .completed "S1"] ∧
    (received twoActs).filter catalogTask.owns =
      [twoMark 1 .low, twoMark 1 .high, .completed "S2"] := by
  have ids : Function.Injective (fun i => (twoReads i).task.split.splitId) := by decide
  have tables : Function.Injective (fun i => (twoReads i).task.split.table) := by decide
  have reached (i : Fin 2) : stepsOf i (sent twoActs) <+: sendings (twoReads i).journal := by
    rw [stepsOf_twoActs]
  have kept := reads_keepOrder twoReads 2 ids tables carries_twoActs rfl reached
  refine ⟨⟨ids, tables, carries_twoActs, stepsOf_twoActs⟩, ?_, ?_⟩
  · exact ((kept 0).2.2.2 (stepsOf_twoActs 0) rfl).1
  · exact ((kept 1).2.2.2 (stepsOf_twoActs 1) rfl).1

end Channel

end SplitSnapshot
