import SplitSnapshot.Postgres.Services
import SplitSnapshot.Proofs.Read.Replay

namespace SplitSnapshot

variable {ρ τ : Type} {sv : Server ρ} {env : Surroundings τ}

namespace Server

def replay (sv : Server ρ) : ρ → List Statement → List Trip × ρ
  | server, [] => ([], server)
  | server, s :: statements =>
      let answer := sv.respond s server
      let rest := replay sv answer.2 statements
      (⟨s, answer.1⟩ :: rest.1, rest.2)

def Replays (sv : Server ρ) (server : ρ) (trips : List Trip) (server' : ρ) : Prop :=
  sv.replay server (trips.map Trip.statement) = (trips, server')

variable {server server' server'' : ρ} {trips more : List Trip}

theorem replays_nil : sv.Replays server [] server := rfl

theorem replays_cons {s : Statement} {answer : Except ClientError s.Reply}
    (asked : sv.respond s server = (answer, server')) (rest : sv.Replays server' trips server'') :
    sv.Replays server (⟨s, answer⟩ :: trips) server'' := by
  unfold Replays at rest ⊢
  simp only [List.map_cons, replay, asked, rest]

theorem Replays.append (first : sv.Replays server trips server')
    (second : sv.Replays server' more server'') : sv.Replays server (trips ++ more) server'' := by
  induction trips generalizing server with
  | nil =>
      cases first
      exact second
  | cons trip trips ih =>
      obtain ⟨s, answer⟩ := trip
      simp only [Replays, List.map_cons, replay, Prod.mk.injEq, List.cons.injEq] at first
      obtain ⟨⟨made, rest⟩, world⟩ := first
      obtain ⟨-, rfl⟩ := Trip.mk.inj made
      exact replays_cons rfl (ih (Prod.ext rest world))

end Server

namespace Client

variable {α β : Type} {c c' c'' : Client ρ τ}

def Sent (sv : Server ρ) (c c' : Client ρ τ) : Prop :=
  ∃ trips, c'.trips = c.trips ++ trips ∧ sv.Replays c.server trips c'.server

theorem Sent.nothing (trips : c'.trips = c.trips) (server : c'.server = c.server) : Sent sv c c' := by
  refine ⟨[], by rw [trips, List.append_nil], ?_⟩
  rw [server]
  exact Server.replays_nil

theorem Sent.refl (c : Client ρ τ) : Sent sv c c := .nothing rfl rfl

theorem Sent.trans (first : Sent sv c c') (second : Sent sv c' c'') : Sent sv c c'' := by
  obtain ⟨trips, htrips, answered⟩ := first
  obtain ⟨more, hmore, more_answered⟩ := second
  exact ⟨trips ++ more, by rw [hmore, htrips, List.append_assoc], answered.append more_answered⟩

theorem Sent.replays {trips : List Trip} (h : Sent sv c c') (htrips : c'.trips = c.trips ++ trips) :
    sv.Replays c.server trips c'.server := by
  obtain ⟨sent, hsent, answered⟩ := h
  rw [hsent, List.append_cancel_left_eq] at htrips
  rwa [← htrips]

def OnRecord (sv : Server ρ) (m : Exchange (Client ρ τ) α) : Prop :=
  ∀ c, Sent sv c (m c).world

theorem onRecord_bind {m : Exchange (Client ρ τ) α} {f : α → Exchange (Client ρ τ) β}
    (first : OnRecord sv m) (rest : ∀ a, OnRecord sv (f a)) : OnRecord sv (m >>= f) := by
  intro c
  cases h : (m c).result with
  | ok a =>
      rw [Exchange.bind_of_ok h]
      exact (first c).trans (rest a _)
  | error e =>
      rw [Exchange.bind_of_error h]
      exact first c

theorem onRecord_pure (a : α) : OnRecord sv (pure a : Exchange (Client ρ τ) α) := Sent.refl

theorem onRecord_fail (e : ReadError) : OnRecord sv (Exchange.fail e : Exchange (Client ρ τ) α) :=
  Sent.refl

theorem onRecord_ofExcept (r : Except ReadError α) :
    OnRecord sv (Exchange.ofExcept r : Exchange (Client ρ τ) α) := by
  cases r with
  | ok a => exact onRecord_pure a
  | error e => exact onRecord_fail e

theorem onRecord_attempt {m : Exchange (Client ρ τ) α} (h : OnRecord sv m) :
    OnRecord sv (Exchange.attempt m) := h

theorem onRecord_look (view : Client ρ τ → α) : OnRecord sv (Exchange.look view) := Sent.refl

theorem onRecord_noteAll (notes : List LogEntry) :
    OnRecord sv (Exchange.noteAll notes : Exchange (Client ρ τ) Unit) := Sent.refl

theorem onRecord_note (level : LogLevel) (message : String) (fields : List (String × String)) :
    OnRecord sv (Exchange.note level message fields : Exchange (Client ρ τ) Unit) := Sent.refl

theorem onRecord_setScan (scan : CursorScan) :
    OnRecord sv (setScan scan : Exchange (Client ρ τ) Unit) :=
  fun _ => .nothing rfl rfl

theorem onRecord_freshCursor : OnRecord sv (freshCursor env : Exchange (Client ρ τ) String) :=
  fun _ => .nothing rfl rfl

theorem onRecord_issue (s : Statement) (wrap : ClientError → ReadError) :
    OnRecord sv (issue sv env s wrap) := by
  intro c
  unfold issue
  split
  · exact ⟨_, rfl, Server.replays_cons rfl Server.replays_nil⟩
  · exact .refl c

theorem onRecord_rollBack : OnRecord sv (rollBack sv env) := by
  refine onRecord_bind (onRecord_attempt (onRecord_issue _ _)) fun r => ?_
  split
  · exact onRecord_pure ()
  · exact onRecord_note _ _ _
  · exact onRecord_fail _

theorem onRecord_openScan (split : Split) (schema : TableSchema) (fetchSize : Nat) :
    OnRecord sv (openScan sv env split schema fetchSize) := by
  refine onRecord_bind (onRecord_ofExcept _) fun query => ?_
  split
  · exact onRecord_fail _
  refine onRecord_bind onRecord_freshCursor fun cursor => ?_
  refine onRecord_bind (onRecord_issue _ _) fun _ => ?_
  refine onRecord_bind (onRecord_attempt (onRecord_issue _ _)) fun declared => ?_
  cases declared with
  | error e => exact onRecord_bind onRecord_rollBack fun _ => onRecord_fail e
  | ok u => exact onRecord_bind (onRecord_note _ _ _) fun _ => onRecord_setScan _

theorem onRecord_fetch (scan : CursorScan) : OnRecord sv (fetch sv env scan) := by
  refine onRecord_bind (onRecord_issue _ _) fun result => ?_
  refine onRecord_bind (onRecord_noteAll _) fun _ => ?_
  refine onRecord_bind (onRecord_setScan _) fun _ => ?_
  refine onRecord_bind (onRecord_ofExcept _) fun _ => ?_
  exact onRecord_bind (onRecord_note _ _ _) fun _ => onRecord_pure _

theorem onRecord_refill (scan : CursorScan) : OnRecord sv (refill sv env scan) := by
  refine onRecord_bind (onRecord_fetch scan) fun scan => ?_
  split
  · exact onRecord_bind (onRecord_issue _ _) fun _ => onRecord_pure _
  · exact onRecord_pure scan

theorem onRecord_takeRow (scan : CursorScan) :
    OnRecord sv (takeRow scan : Exchange (Client ρ τ) (Option Row)) :=
  onRecord_bind (onRecord_setScan _) fun _ => onRecord_pure _

theorem onRecord_failScan (message : String) :
    OnRecord sv (failScan message : Exchange (Client ρ τ) Unit) :=
  fun _ => .nothing rfl rfl

theorem onRecord_nextRow : OnRecord sv (nextRow sv env) := by
  refine onRecord_bind (onRecord_look _) fun scan => ?_
  cases scan with
  | none => exact onRecord_pure none
  | some scan =>
      dsimp only [nextOf]
      split
      · exact onRecord_fail _
      · exact onRecord_pure none
      · exact onRecord_pure none
      split
      · refine onRecord_bind (onRecord_attempt (onRecord_refill scan)) fun refilled => ?_
        cases refilled with
        | ok scan => exact onRecord_takeRow scan
        | error e => exact onRecord_bind (onRecord_failScan _) fun _ => onRecord_fail e
      · exact onRecord_takeRow scan

theorem onRecord_closeScan : OnRecord sv (closeScan sv env) := by
  refine onRecord_bind (onRecord_look _) fun scan => ?_
  cases scan with
  | none => exact onRecord_pure ()
  | some scan =>
      refine onRecord_bind (onRecord_setScan _) fun _ => ?_
      split
      · exact onRecord_bind (onRecord_issue _ _) fun _ => onRecord_pure ()
      · exact onRecord_pure ()

theorem onRecord_dropScan (working : Bool) : OnRecord sv (dropScan sv env working) := by
  refine onRecord_bind (onRecord_look _) fun scan => ?_
  cases scan with
  | none => exact onRecord_pure ()
  | some scan =>
      have forget : OnRecord sv (Exchange.change fun c : Client ρ τ => { c with scan := none }) :=
        fun _ => .nothing rfl rfl
      refine onRecord_bind forget fun _ => ?_
      split
      · exact onRecord_pure ()
      split
      · exact onRecord_bind (onRecord_note _ _ _) fun _ => onRecord_rollBack
      · exact onRecord_note _ _ _

theorem onRecord_position : OnRecord sv (position sv env) := by
  refine onRecord_bind (onRecord_issue _ _) fun rows => ?_
  refine onRecord_bind (onRecord_ofExcept _) fun p => ?_
  exact onRecord_bind (onRecord_note _ _ _) fun _ => onRecord_pure p

theorem onRecord_tableSchema (table : TableId) : OnRecord sv (tableSchema sv env table) := by
  refine onRecord_bind (onRecord_issue _ _) fun rows => ?_
  split
  · exact onRecord_fail _
  · exact onRecord_bind (onRecord_note _ _ _) fun _ => onRecord_pure _

theorem sent_again (task : ReadTask) (schema : TableSchema) (c : Client ρ τ) (entry : Entry) :
    Sent sv c ((services sv env).again task schema c entry).2 := by
  cases entry with
  | schemaRead answer =>
      simp only [Services.again, services]
      exact onRecord_tableSchema _ c
  | positionRead answer => exact onRecord_position c
  | scanOpened answer time => exact onRecord_openScan _ _ _ c
  | rowRead answer time => exact onRecord_nextRow c
  | scanClosed answer => exact onRecord_closeScan c
  | sent event answer => exact .nothing rfl rfl
  | cancellationChecked _ | counted _ | progressed _ _ | noted _ => exact .refl c

end Client

theorem ReadTask.execute_sent (sv : Server ρ) (env : Surroundings τ) (task : ReadTask) (limit : Nat)
    (marks : Watermarks) (c : Client ρ τ) :
    Client.Sent sv c (task.execute (Client.services sv env) limit marks c).world := by
  obtain ⟨schema, -, replays⟩ := task.execute_replays (Client.services sv env) limit marks c
  exact replays.induction Client.Sent.refl Client.Sent.trans (Client.sent_again task schema)

end SplitSnapshot
