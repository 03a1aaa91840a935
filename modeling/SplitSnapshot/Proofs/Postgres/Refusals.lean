import SplitSnapshot.Proofs.Postgres.Replay
import SplitSnapshot.Proofs.Postgres.Transaction
import SplitSnapshot.Proofs.Read.Marks

namespace SplitSnapshot

def ReadError.source? : ReadError → Option ReadError
  | snapshottingFailed _ source | watermarkFailed _ source => some source
  | _ => none

theorem ReadError.isRetriable_of_source? {e source : ReadError} (h : e.source? = some source) :
    e.isRetriable = source.isRetriable := by
  cases e <;> cases h <;> rfl

inductive RefusedAs (cause : ClientError) : Statement → ReadError → Prop
  | columns (table : TableId) :
      RefusedAs cause (.columns table) (.schema (.columnsUnavailable table cause))
  | position : RefusedAs cause .position (.sourceUnavailable .queryFailed (some (.client cause)))
  | begin : RefusedAs cause .begin (.scanFailed .beginFailed (some (.client cause)))
  | declare (cursor : String) (query : ScanQuery) :
      RefusedAs cause (.declare cursor query) (.scanFailed .declareFailed (some (.client cause)))
  | fetch (cursor : String) (rows : Nat) :
      RefusedAs cause (.fetch cursor rows) (.scanFailed .fetchFailed (some (.client cause)))
  | finish (cursor : String) :
      RefusedAs cause (.finish cursor) (.scanFailed .finishFailed (some (.client cause)))

namespace RefusedAs

variable {cause : ClientError} {s : Statement} {e : ReadError}

theorem isRetriable_iff (h : RefusedAs cause s e) :
    e.isRetriable = true ↔ ∀ table, s ≠ .columns table := by
  cases h <;> simp [ReadError.isRetriable]

theorem ofTable_eq (h : RefusedAs cause s e) (task : ReadTask) :
    task.ofTable e = .snapshottingFailed task.split.table e := by
  cases h <;> rfl

theorem openFailure_eq (h : RefusedAs cause s e) (task : ReadTask) :
    task.openFailure e = task.ofTable e := by
  cases h <;> rfl

end RefusedAs

variable {ρ τ α β : Type} {sv : Server ρ} {env : Surroundings τ} {task : ReadTask}
  {before : List Trip} {c c' : Client ρ τ} {P Q : ClientError → Statement → Prop}

def RefusedSince (before : List Trip) (c : Client ρ τ) (P : ClientError → Statement → Prop) :
    Prop :=
  ∃ trips, c.trips = before ++ trips ∧
    ∀ s cause, ⟨s, .error cause⟩ ∈ trips → s ≠ .rollback → P cause s

namespace RefusedSince

theorem silent (h : c.trips = before) : RefusedSince before c P :=
  ⟨[], by simp [h], by simp⟩

theorem imp (h : RefusedSince before c P) (himp : ∀ cause s, P cause s → Q cause s) :
    RefusedSince before c Q := by
  obtain ⟨trips, htrips, refused⟩ := h
  exact ⟨trips, htrips, fun s cause hm hs => himp cause s (refused s cause hm hs)⟩

theorem trans (h : RefusedSince before c P) (h' : RefusedSince c.trips c' P) :
    RefusedSince before c' P := by
  obtain ⟨trips, htrips, refused⟩ := h
  obtain ⟨more, hmore, refused'⟩ := h'
  refine ⟨trips ++ more, by rw [hmore, htrips, List.append_assoc], fun s cause hm hs => ?_⟩
  rcases List.mem_append.1 hm with hm | hm
  · exact refused s cause hm hs
  · exact refused' s cause hm hs

theorem of_rollback {answer : Except ClientError Unit}
    (h : c.trips = before ++ [⟨.rollback, answer⟩]) : RefusedSince before c P := by
  refine ⟨_, h, fun s cause hm hs => ?_⟩
  cases List.mem_singleton.1 hm
  exact absurd rfl hs

theorem of_none (h : RefusedSince before c fun _ _ => False) : RefusedSince before c P :=
  h.imp fun _ _ => False.elim

theorem later (h : RefusedSince before c fun _ _ => False) (h' : RefusedSince c.trips c' P) :
    RefusedSince before c' P :=
  h.of_none.trans h'

end RefusedSince

def ReportedBy : Except ReadError α → ClientError → Statement → Prop
  | .ok _, _, _ => False
  | .error e, cause, s => RefusedAs cause s e

def Reports (m : Exchange (Client ρ τ) α) : Prop :=
  ∀ c, m.Ends c fun r c' => RefusedSince c.trips c' (ReportedBy r)

namespace Reports

theorem silent {m : Exchange (Client ρ τ) α} (h : ∀ c, (m c).world.trips = c.trips) : Reports m :=
  fun c => RefusedSince.silent (h c)

theorem ofExcept (r : Except ReadError α) :
    Reports (Exchange.ofExcept r : Exchange (Client ρ τ) α) := by
  cases r with
  | ok a => exact silent fun _ => rfl
  | error e => exact silent fun _ => rfl

theorem bind {m : Exchange (Client ρ τ) β} {f : β → Exchange (Client ρ τ) α} (hm : Reports m)
    (hf : ∀ b, Reports (f b)) : Reports (m >>= f) := by
  intro c
  rw [Exchange.ends_bind]
  refine (hm c).imp ?_
  rintro (e | b) c' h
  · exact h
  · exact (hf b c').imp fun _ _ => h.later

theorem attempt_bind {m : Exchange (Client ρ τ) β}
    {f : Except ReadError β → Exchange (Client ρ τ) α} (hm : Reports m)
    (answered : ∀ b, Reports (f (.ok b)))
    (refused : ∀ e c, (f (.error e)).Ends c fun r c' =>
      r = .error e ∧ RefusedSince c.trips c' fun _ _ => False) :
    Reports (Exchange.attempt m >>= f) := by
  intro c
  rw [Exchange.ends_bind, Exchange.ends_attempt]
  refine (hm c).imp ?_
  rintro (e | b) c' h
  · -- after a refusal there may still be rollbacks, but the error stays the same
    refine (refused e c').imp ?_
    rintro r c'' ⟨rfl, quiet⟩
    exact h.trans quiet.of_none
  · exact (answered b c').imp fun _ _ => h.later

end Reports

namespace Client

theorem reports_issue {s : Statement} {wrap : ClientError → ReadError}
    (h : ∀ cause, RefusedAs cause s (wrap cause)) : Reports (issue sv env s wrap) := by
  intro c
  by_cases encodable : s.isEncodable = true
  · rw [ends_issue encodable]
    rcases sv.respond s c.server with ⟨e | reply, server⟩
    · refine ⟨_, rfl, fun s' cause hm _ => ?_⟩
      cases List.mem_singleton.1 hm
      exact h e
    · refine ⟨_, rfl, fun s' cause hm _ => ?_⟩
      cases List.mem_singleton.1 hm
  · unfold Exchange.Ends issue
    rw [if_neg encodable]
    exact .silent rfl

theorem reports_tableSchema (table : TableId) : Reports (tableSchema sv env table) := by
  refine .bind (reports_issue fun _ => .columns table) fun rows => ?_
  split
  · exact .silent fun _ => rfl
  · exact .silent fun _ => rfl

theorem tableSchema_of_refused {table : TableId} {cause : ClientError} {server : ρ}
    (h : sv.respond (.columns table) c.server = (.error cause, server)) :
    tableSchema sv env table c = ⟨.error (.schema (.columnsUnavailable table cause)), [],
      ⟨server, c.trips ++ [⟨.columns table, .error cause⟩], c.scan, env.afterTrip c.around⟩⟩ := by
  have issued (wrap : ClientError → ReadError) : issue sv env (.columns table) wrap c =
      ⟨.error (wrap cause), [],
        ⟨server, c.trips ++ [⟨.columns table, .error cause⟩], c.scan, env.afterTrip c.around⟩⟩ := by
    rw [issue, if_pos (Statement.isEncodable_columns table), h]
    rfl
  rw [tableSchema, Exchange.bind_of_error (by rw [issued]), issued]

theorem reports_position : Reports (position sv env) :=
  .bind (reports_issue fun _ => .position) fun _ =>
    .bind (.ofExcept _) fun _ => .silent fun _ => rfl

theorem rollBack_quiet (c : Client ρ τ) : (rollBack sv env).Ends c fun r c' =>
    r = .ok () ∧ RefusedSince c.trips c' fun _ _ => False := by
  simp only [rollBack, Exchange.ends_bind, Exchange.ends_attempt,
    ends_issue Statement.isEncodable_rollback]
  rcases sv.respond .rollback c.server with ⟨e | reply, server⟩ <;>
    exact ⟨rfl, .of_rollback rfl⟩

theorem reports_openScan (split : Split) (schema : TableSchema) (fetchSize : Nat) :
    Reports (openScan sv env split schema fetchSize) := by
  refine .bind (.ofExcept _) fun query => ?_
  split
  · exact .silent fun _ => rfl
  refine .bind (.silent fun _ => rfl) fun cursor => ?_
  refine .bind (reports_issue fun _ => .begin) fun _ => ?_
  refine .attempt_bind (reports_issue fun _ => .declare cursor query) ?_ ?_
  · exact fun _ => .silent fun _ => rfl
  · intro e c
    simp only [Exchange.ends_bind]
    refine (rollBack_quiet c).imp ?_
    rintro _ c' ⟨rfl, quiet⟩
    exact ⟨rfl, quiet⟩

theorem reports_refill (scan : CursorScan) : Reports (refill sv env scan) := by
  refine .bind ?_ fun scan => ?_
  · refine .bind (reports_issue fun _ => .fetch _ _) fun result => ?_
    refine .bind (.silent fun _ => rfl) fun _ => .bind (.silent fun _ => rfl) fun _ => ?_
    exact .bind (.ofExcept _) fun _ => .silent fun _ => rfl
  · split
    · exact .bind (reports_issue fun _ => .finish _) fun _ => .silent fun _ => rfl
    · exact .silent fun _ => rfl

theorem reports_nextOf (scan : CursorScan) : Reports (nextOf sv env scan) := by
  unfold nextOf
  split
  · exact .silent fun _ => rfl
  · exact .silent fun _ => rfl
  · exact .silent fun _ => rfl
  · split
    · refine .attempt_bind (reports_refill scan) ?_ ?_
      · exact fun _ => .silent fun _ => rfl
      · exact fun e c => ⟨rfl, .silent rfl⟩
    · exact .silent fun _ => rfl

theorem reports_nextRow : Reports (nextRow sv env) := by
  refine .bind (.silent fun _ => rfl) fun scan => ?_
  cases scan with
  | none => exact .silent fun _ => rfl
  | some scan => exact reports_nextOf scan

theorem closeScan_quiet (c : Client ρ τ) :
    (closeScan sv env).Ends c fun _ c' => RefusedSince c.trips c' P := by
  simp only [closeScan, Exchange.ends_bind, Exchange.ends_look]
  cases c.scan with
  | none => exact .silent rfl
  | some scan =>
      dsimp only
      simp only [Exchange.ends_bind, ends_setScan]
      split
      · simp only [Exchange.ends_bind, ends_issue Statement.isEncodable_rollback]
        rcases sv.respond .rollback c.server with ⟨e | reply, server⟩ <;>
          exact .of_rollback rfl
      · exact .silent rfl

theorem refusedSince_of_sent {event : SplitEvent} {r : Except ReadError Unit}
    {notes : List LogEntry} (h : (services sv env).send event c = ⟨r, notes, c'⟩) :
    RefusedSince c.trips c' P :=
  .silent ((send_ends event).of_eq h).1

end Client

def FailsFrom (value : Except Stop α) (cause : ClientError) (s : Statement) : Prop :=
  ∃ e source, value = .error (.failed e) ∧ e.source? = some source ∧ RefusedAs cause s source

namespace RefusedAs

variable {cause : ClientError} {s : Statement} {e : ReadError}

theorem failsTable (h : RefusedAs cause s e) (task : ReadTask) :
    FailsFrom (.error (.failed (task.ofTable e)) : Except Stop α) cause s := by
  rw [h.ofTable_eq]
  exact ⟨_, e, rfl, rfl, h⟩

theorem failsWatermark (h : RefusedAs cause s e) (kind : WatermarkKind) :
    FailsFrom (.error (.failed (.watermarkFailed kind e)) : Except Stop α) cause s :=
  ⟨_, e, rfl, rfl, h⟩

end RefusedAs

theorem RowCourse.refusedSince {width : Nat} {marks : Watermarks} {scan : ScanContext}
    {timer : ProgressTimer} {r : StageResult (Client ρ τ) (ScanContext × Except ReadError Unit)}
    (h : RowCourse (Client.services sv env) task width marks scan timer c r) :
    RefusedSince c.trips r.state.world fun cause s =>
      ∃ e, rowsStop? r.value = some (.failed (task.ofTable e)) ∧ RefusedAs cause s e := by
  induction h with
  | limit | untimed => exact .silent rfl
  | cancelled stop => exact .silent rfl
  | failed go read =>
      exact ((Client.reports_nextRow _).of_eq read).imp fun _ _ refusal => ⟨_, rfl, refusal⟩
  | ended go read | overrun go read late =>
      exact ((Client.reports_nextRow _).of_eq read).of_none
  | refused go read sent =>
      exact ((Client.reports_nextRow _).of_eq read).later (Client.refusedSince_of_sent sent)
  | sent go read sent rest ih =>
      exact ((Client.reports_nextRow _).of_eq read).later
        ((Client.refusedSince_of_sent sent).later ih)

theorem ScanCourse.refusedSince {schema : TableSchema} {marks : Watermarks} {scan : ScanContext}
    {r : StageResult (Client ρ τ) ScanContext}
    (h : ScanCourse (Client.services sv env) task schema marks scan c r) :
    RefusedSince c.trips r.state.world (FailsFrom r.value) := by
  cases h with
  | unopened opened =>
      refine ((Client.reports_openScan _ _ _ _).of_eq opened).imp fun cause s refusal => ?_
      rw [refusal.openFailure_eq]
      exact refusal.failsTable task
  | unfinished opened rows =>
      refine ((Client.reports_openScan _ _ _ _).of_eq opened).later (rows.refusedSince.imp ?_)
      rintro cause s ⟨e, he, refusal⟩
      cases he
      exact refusal.failsTable task
  | broken opened rows closed =>
      refine ((Client.reports_openScan _ _ _ _).of_eq opened).later ?_
      refine (rows.refusedSince.imp ?_).trans ((Client.closeScan_quiet _).of_eq closed)
      rintro cause s ⟨e, he, refusal⟩
      cases he
      exact refusal.failsTable task
  | exported opened rows closed =>
      refine ((Client.reports_openScan _ _ _ _).of_eq opened).later ?_
      refine (rows.refusedSince.imp ?_).trans ((Client.closeScan_quiet _).of_eq closed)
      rintro cause s ⟨e, he, -⟩
      cases he

theorem WindowCourse.refusedSince {low : Lsn} {scan : ScanContext} {marks : Watermarks}
    {r : StageResult (Client ρ τ) OffsetContext}
    (h : WindowCourse (Client.services sv env) task low scan marks c r) :
    RefusedSince c.trips r.state.world (FailsFrom r.value) := by
  cases h with
  | unread read =>
      exact ((Client.reports_position _).of_eq read).imp fun _ _ refusal =>
        refusal.failsWatermark _
  | reversed read order =>
      exact ((Client.reports_position _).of_eq read).of_none
  | refused read order sent =>
      exact ((Client.reports_position _).of_eq read).later (Client.refusedSince_of_sent sent)
  | uncompleted read order sent completion | completed read order sent completion =>
      exact ((Client.reports_position _).of_eq read).later
        ((Client.refusedSince_of_sent sent).later (Client.refusedSince_of_sent completion))

theorem ReadCourse.refusedSince {marks : Watermarks} {r : StageResult (Client ρ τ) OffsetContext}
    (h : ReadCourse (Client.services sv env) task marks c r) :
    RefusedSince c.trips r.state.world (FailsFrom r.value) := by
  cases h with
  | configInvalid => exact .silent rfl
  | splitInvalid => exact .silent rfl
  | schemaUnread config split asked =>
      exact ((Client.reports_tableSchema _ _).of_eq asked).imp fun _ _ refusal =>
        refusal.failsTable task
  | lowUnread config split asked read =>
      refine ((Client.reports_tableSchema _ _).of_eq asked).later ?_
      exact ((Client.reports_position _).of_eq read).imp fun _ _ refusal =>
        refusal.failsWatermark _
  | lowRefused config split asked read sent =>
      refine ((Client.reports_tableSchema _ _).of_eq asked).later ?_
      exact ((Client.reports_position _).of_eq read).later (Client.refusedSince_of_sent sent)
  | stopped config split asked read sent scanning =>
      refine ((Client.reports_tableSchema _ _).of_eq asked).later ?_
      refine ((Client.reports_position _).of_eq read).later ?_
      refine (Client.refusedSince_of_sent sent).later (scanning.refusedSince.imp ?_)
      rintro cause s ⟨e, source, failed, made, refusal⟩
      cases failed
      exact ⟨e, source, rfl, made, refusal⟩
  | scanned config split asked read sent scanning closing =>
      refine ((Client.reports_tableSchema _ _).of_eq asked).later ?_
      refine ((Client.reports_position _).of_eq read).later ?_
      refine (Client.refusedSince_of_sent sent).later ?_
      refine RefusedSince.later ?_ closing.refusedSince
      refine scanning.refusedSince.imp ?_
      rintro cause s ⟨e, source, failed, -⟩
      cases failed

namespace ReadTask

/-- The refusal of any statement but a rollback, whatever it was refused for, is the failure of the
read. The read may be tried again unless it was refused the columns of its table. -/
theorem execute_reportsRefusal (sv : Server ρ) (env : Surroundings τ) (task : ReadTask)
    (limit : Nat) (marks : Watermarks) (c : Client ρ τ) :
    let run := task.execute (Client.services sv env) limit marks c
    ∃ trips, run.world.trips = c.trips ++ trips ∧ sv.Replays c.server trips run.world.server ∧
      ∀ s cause, ⟨s, .error cause⟩ ∈ trips → s ≠ .rollback → ∃ e source,
        run.outcome = some (.failed e) ∧ e.source? = some source ∧ RefusedAs cause s source ∧
          (e.isRetriable = true ↔ ∀ table, s ≠ .columns table) := by
  intro run
  obtain ⟨trips, htrips, refused⟩ :=
    (readCourse_stages (Client.services sv env) task marks limit c).refusedSince
  refine ⟨trips, htrips, (task.execute_sent sv env limit marks c).replays htrips,
    fun s cause hm hs => ?_⟩
  obtain ⟨e, source, failed, made, refusal⟩ := refused s cause hm hs
  have uninterrupted : e ≠ .interrupted := by
    rintro rfl
    cases made
  refine ⟨e, source, outcomeOf_eq_failed_iff.2 ⟨failed, uninterrupted⟩, made, refusal, ?_⟩
  rw [ReadError.isRetriable_of_source? made]
  exact refusal.isRetriable_iff

def LeavesRetriable (sv : Server ρ) (env : Surroundings τ) (task : ReadTask) (limit : Nat)
    (marks : Watermarks) (c : Client ρ τ) : Prop :=
  ∀ earlier s cause later, (task.execute (Client.services sv env) limit marks c).world.trips =
      c.trips ++ (earlier ++ ⟨s, .error cause⟩ :: later) →
    (∀ trip ∈ earlier, ∃ reply, trip.answer = .ok reply) → s ≠ .rollback →
      cause.isTransient = true →
        ∃ e, (task.execute (Client.services sv env) limit marks c).outcome = some (.failed e) ∧
          e.isRetriable = true

theorem stages_schemaUnread {σ : Type} {sv : Services σ} {limit : Nat} {marks : Watermarks}
    {w w₁ : σ} {e : ReadError} {notes : List LogEntry} (config : task.config.validate = .ok ())
    (split : task.split.validate = .ok ())
    (asked : sv.schema task.split.table.withoutCatalog w = ⟨.error e, notes, w₁⟩) :
    task.stages sv limit ⟨w, marks⟩ = ⟨.error (.failed (task.ofTable e)),
      Entry.call notes (.schemaRead (.error e)), ⟨w₁, marks⟩⟩ := by
  rw [stages, config, split]
  simp only [mapError_ok, Stage.orFail_ok_bind]
  rw [Stage.ask_bind asked]
  simp [Stage.orFail_error_bind, StageResult.after_mk, Entry.call]

def lostServer : Server Unit where
  respond _ w := (.error .closed, w)

def stillSurroundings : Surroundings Unit where
  send _ w := (.ok (), w)
  cancelled _ := false
  clock _ := 0
  wallMillis _ := 0
  afterTrip w := w
  cursorTag w := (⟨[], rfl⟩, w)

theorem leavesRetriable_lost :
    ordersTask.config.validate = .ok () ∧ ordersTask.split.validate = .ok () ∧
      ¬ ordersTask.LeavesRetriable lostServer stillSurroundings 1 .none (.start () ()) := by
  refine ⟨rfl, rfl, fun retriable => ?_⟩
  have asked := @Client.tableSchema_of_refused _ _ lostServer stillSurroundings (.start () ())
    ordersTask.split.table .closed () rfl
  have stages := @stages_schemaUnread ordersTask _ (Client.services lostServer stillSurroundings) 1
    .none _ _ _ _ rfl rfl asked
  rw [LeavesRetriable, execute, stages] at retriable
  obtain ⟨e, failed, again⟩ := retriable [] (.columns ordersTask.split.table) .closed [] rfl
    (List.forall_mem_nil _) (by rintro ⟨⟩) rfl
  cases failed
  cases again

end ReadTask

end SplitSnapshot
