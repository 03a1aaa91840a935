import SplitSnapshot.Read.Run

namespace SplitSnapshot

variable {σ σ' : Type}

/-- A relation that a stage inherits from its parts, and that holds of all parts of the reads of a task
that are followed for so many rows. -/
structure PartsRelated (R : ∀ {α : Type}, Stage σ α → Stage σ' α → Prop) (sv : Services σ)
    (sv' : Services σ') (task : ReadTask) (limit : Nat) : Prop where
  bind : ∀ {α β : Type} {m : Stage σ α} {m' : Stage σ' α} {f : α → Stage σ β} {f' : α → Stage σ' β},
    R m m' → (∀ a, R (f a) (f' a)) → R (m >>= f) (m' >>= f')
  pure : ∀ {α : Type} (a : α), R (pure a) (pure a)
  fail : ∀ {α : Type} (e : ReadError), R (Stage.fail e : Stage σ α) (Stage.fail e)
  arm : ∀ timer, R (ReadTask.arm timer) (ReadTask.arm timer)
  note : ∀ level message fields, R (Stage.note level message fields) (Stage.note level message fields)
  count : ∀ update, R (Stage.write (.counted update)) (Stage.write (.counted update))
  recordLow : ∀ p, R (Stage.recordLow p) (Stage.recordLow p)
  recordHigh : ∀ p, R (Stage.recordHigh p) (Stage.recordHigh p)
  clock : R (Stage.look sv.clock) (Stage.look sv'.clock)
  schema : ∀ table, R (Stage.ask (sv.schema table) fun a => .schemaRead a.result)
    (Stage.ask (sv'.schema table) fun a => .schemaRead a.result)
  position : R (Stage.ask sv.position fun a => .positionRead a.result)
    (Stage.ask sv'.position fun a => .positionRead a.result)
  openScan : ∀ schema,
    R (Stage.ask (sv.openScan task.split schema task.config.fetchSize) fun a =>
        .scanOpened a.result (sv.clock a.world))
      (Stage.ask (sv'.openScan task.split schema task.config.fetchSize) fun a =>
        .scanOpened a.result (sv'.clock a.world))
  rows : ∀ width scan timer, R (task.exportRows sv width limit scan timer)
    (task.exportRows sv' width limit scan timer)
  closeScan : R (Stage.ask sv.closeScan fun a => .scanClosed a.result)
    (Stage.ask sv'.closeScan fun a => .scanClosed a.result)
  send : ∀ event, R (Stage.ask (sv.send event) fun a => .sent event a.result)
    (Stage.ask (sv'.send event) fun a => .sent event a.result)

namespace PartsRelated

variable {R : ∀ {α : Type}, Stage σ α → Stage σ' α → Prop} {sv : Services σ} {sv' : Services σ'}
  {task : ReadTask} {limit : Nat}

theorem orFail (h : PartsRelated R sv sv' task limit) {α : Type} (wrap : ReadError → ReadError)
    (answer : Except ReadError α) : R (Stage.orFail wrap answer) (Stage.orFail wrap answer) := by
  cases answer with
  | ok a => exact h.pure a
  | error e => exact h.fail (wrap e)

theorem sendEvent (h : PartsRelated R sv sv' task limit) (event : SplitEvent) :
    R (task.sendEvent sv event) (task.sendEvent sv' event) :=
  h.bind (h.send event) fun sent => h.orFail task.ofTable sent

theorem readPosition (h : PartsRelated R sv sv' task limit) (kind : WatermarkKind) :
    R (ReadTask.readPosition sv kind) (ReadTask.readPosition sv' kind) :=
  h.bind h.position fun p => h.orFail (.watermarkFailed kind) p

theorem timedRows (h : PartsRelated R sv sv' task limit) (width : Nat) (context : ScanContext) :
    R (task.timedRows sv width limit context) (task.timedRows sv' width limit context) :=
  h.bind h.clock fun _ => h.bind (h.arm _) fun timer => h.rows width context timer

theorem scan (h : PartsRelated R sv sv' task limit) (schema : TableSchema) (context : ScanContext) :
    R (task.scan sv limit schema context) (task.scan sv' limit schema context) := by
  refine h.bind (h.openScan schema) fun opened => h.bind (h.orFail task.openFailure opened) fun _ =>
    h.bind (h.timedRows _ _) fun left => h.bind h.closeScan fun closed => ?_
  cases closed
  case' error e => refine h.bind (h.note _ _ _) fun _ => ?_
  all_goals
    exact h.bind (h.count _) fun _ => h.bind (h.orFail id left.2) fun _ => h.bind h.clock fun _ =>
      h.bind (h.note _ _ _) fun _ => h.pure _

theorem closeWindow (h : PartsRelated R sv sv' task limit) (low : Lsn) (context : ScanContext) :
    R (task.closeWindow sv low context) (task.closeWindow sv' low context) := by
  refine h.bind (h.readPosition .high) fun high => ?_
  split
  · exact h.fail _
  · exact h.bind (h.note _ _ _) fun _ => h.bind (h.recordHigh high) fun _ =>
      h.bind (h.sendEvent _) fun _ => h.bind (h.sendEvent _) fun _ => h.pure _

theorem stages (h : PartsRelated R sv sv' task limit) :
    R (task.stages sv limit) (task.stages sv' limit) :=
  h.bind (h.orFail id _) fun _ => h.bind (h.orFail id _) fun _ => h.bind (h.schema _) fun schema =>
    h.bind (h.orFail task.ofTable schema) fun _ => h.bind (h.readPosition .low) fun low =>
    h.bind (h.note _ _ _) fun _ => h.bind (h.recordLow low) fun _ => h.bind (h.sendEvent _) fun _ =>
    h.bind h.clock fun _ => h.bind (h.note _ _ _) fun _ => h.bind (h.scan _ _) fun context =>
    h.closeWindow low context

end PartsRelated

end SplitSnapshot
