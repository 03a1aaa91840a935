import SplitSnapshot.Postgres.Services
import SplitSnapshot.Proofs.Query.Statement

namespace SplitSnapshot

namespace Exchange

variable {σ α β : Type} {w : σ} {Q : Except ReadError α → σ → Prop}

def Ends (m : Exchange σ α) (w : σ) (Q : Except ReadError α → σ → Prop) : Prop :=
  Q (m w).result (m w).world

theorem Ends.imp {Q' : Except ReadError α → σ → Prop} {m : Exchange σ α} (h : m.Ends w Q)
    (himp : ∀ r w', Q r w' → Q' r w') : m.Ends w Q' :=
  himp _ _ h

theorem Ends.of_eq {m : Exchange σ α} {notes : List LogEntry} {r : Except ReadError α} {w' : σ}
    (h : m.Ends w Q) (he : m w = ⟨r, notes, w'⟩) : Q r w' := by
  unfold Ends at h
  rw [he] at h
  exact h

@[simp] theorem ends_bind {m : Exchange σ β} {f : β → Exchange σ α} :
    (m >>= f).Ends w Q ↔ m.Ends w fun r w' => match r with
      | .ok b => (f b).Ends w' Q
      | .error e => Q (.error e) w' := by
  unfold Ends
  cases h : (m w).result with
  | ok b => rw [bind_of_ok h]
  | error e => rw [bind_of_error h]

@[simp] theorem ends_pure {a : α} : (pure a : Exchange σ α).Ends w Q ↔ Q (.ok a) w := Iff.rfl

@[simp] theorem ends_fail {e : ReadError} : (fail e : Exchange σ α).Ends w Q ↔ Q (.error e) w :=
  Iff.rfl

@[simp] theorem ends_ofExcept {r : Except ReadError α} :
    (ofExcept r : Exchange σ α).Ends w Q ↔ Q r w := by
  cases r <;> rfl

@[simp] theorem ends_attempt {m : Exchange σ β} {Q : Except ReadError (Except ReadError β) → σ → Prop} :
    (attempt m).Ends w Q ↔ m.Ends w fun r w' => Q (.ok r) w' := Iff.rfl

@[simp] theorem ends_look {view : σ → α} : (look view).Ends w Q ↔ Q (.ok (view w)) w := Iff.rfl

@[simp] theorem ends_change {f : σ → σ} {Q : Except ReadError Unit → σ → Prop} :
    (change f).Ends w Q ↔ Q (.ok ()) (f w) := Iff.rfl

@[simp] theorem ends_noteAll {notes : List LogEntry} {Q : Except ReadError Unit → σ → Prop} :
    (noteAll notes).Ends w Q ↔ Q (.ok ()) w := Iff.rfl

@[simp] theorem ends_note {level : LogLevel} {message : String} {fields : List (String × String)}
    {Q : Except ReadError Unit → σ → Prop} : (note level message fields).Ends w Q ↔ Q (.ok ()) w :=
  Iff.rfl

end Exchange

namespace Statement

theorem isEncodable_columns (table : TableId) : (columns table).isEncodable = true := by
  have h : columnsText.toList.contains '\x00' = false := by
    unfold columnsText
    rw [String.toList_append, List.contains_eq_any_beq, List.any_append, Bool.or_eq_false_iff]
    constructor <;> decide +kernel
  unfold isEncodable sql
  rw [h]
  rfl

theorem isEncodable_position : position.isEncodable = true := by decide

theorem isEncodable_begin : begin.isEncodable = true := by decide

theorem isEncodable_rollback : rollback.isEncodable = true := by decide

theorem nul_not_mem_identifier {name : String} (h : '\x00' ∉ name.toList) :
    '\x00' ∉ (Quoting.identifier name).toList := by
  rwa [Quoting.identifier, String.toList_ofList, SqlToken.mem_enclosed (by decide)]

theorem nul_not_mem_name (tag : CursorTag) : '\x00' ∉ tag.name.toList := by
  intro hm
  have ha := List.all_eq_true.1 tag.alphanumeric '\x00'
  simp [CursorTag.name] at hm
  cases ha hm

theorem isEncodable_declare (tag : CursorTag) {query : ScanQuery} (h : '\x00' ∉ query.chars) :
    (declare tag.name query).isEncodable = true := by
  have hc := nul_not_mem_identifier (nul_not_mem_name tag)
  unfold isEncodable sql
  simp [hc, ScanQuery.sql, h]

theorem isEncodable_fetch (tag : CursorTag) (rows : Nat) :
    (fetch tag.name rows).isEncodable = true := by
  have hc := nul_not_mem_identifier (nul_not_mem_name tag)
  have hn : '\x00' ∉ Nat.toDigits 10 rows := by
    intro hm
    cases Nat.isDigit_of_mem_toDigits (by decide) (by decide) hm
  unfold isEncodable sql
  simp [hc, hn]

theorem isEncodable_finish (tag : CursorTag) : (finish tag.name).isEncodable = true := by
  have hc := nul_not_mem_identifier (nul_not_mem_name tag)
  unfold isEncodable sql
  simp [hc]

end Statement

theorem ScanQuery.nul_not_mem_chars {split : Split} {selection : Selection} {query : ScanQuery}
    (h : ofSplit split selection = .ok query) : '\x00' ∉ query.chars := by
  obtain ⟨-, _, _, -, -, -, free⟩ := ofSplit_eq_ok_iff.1 h
  exact free

namespace CursorScan

theorem mapping_settleMapping {s : CursorScan} {r : ResultSet} (h : r.rows ≠ []) :
    (s.settleMapping r).1.mapping ≠ none := by
  unfold settleMapping
  split
  · rename_i hs
    intro hn
    have hn : s.mapping = none := hn
    simp [hn, h] at hs
  · simp

theorem untilError_map {ε α β : Type} (f : α → Except ε β) (xs : List α) :
    (untilError (xs.map f)).2.map (fun _ => (untilError (xs.map f)).1) = xs.mapM f := by
  induction xs with
  | nil => rfl
  | cons x xs ih =>
      rw [List.mapM_cons, ← ih, List.map_cons]
      cases hx : f x with
      | error e => rfl
      | ok y =>
          rw [untilError]
          cases (untilError (xs.map f)).2 <;> rfl

def allRowsOf (s : CursorScan) (r : ResultSet) : Except ReadError (List Row) :=
  (s.rowsOf r).2.map fun _ => (s.rowsOf r).1

theorem allRowsOf_of_mapping {s : CursorScan} {r : ResultSet} {m : ColumnMapping}
    (h : s.mapping = some m) :
    s.allRowsOf r = r.rows.mapM fun row => (r.decodeRow row).map m.place := by
  rw [allRowsOf, rowsOf, h]
  exact untilError_map _ _

theorem allRowsOf_nil {s : CursorScan} {r : ResultSet} (h : r.rows = []) : s.allRowsOf r = .ok [] := by
  rw [allRowsOf, rowsOf, h]
  cases s.mapping <;> rfl

theorem allRowsOf_settleMapping {s : CursorScan} {r : ResultSet} {rows : List Row}
    (h : (s.settleMapping r).1.allRowsOf r = .ok rows) : rows = [] ↔ r.rows = [] := by
  cases hm : (s.settleMapping r).1.mapping with
  | none =>
      have hr : r.rows = [] := by
        refine Classical.byContradiction fun hr => ?_
        exact mapping_settleMapping hr hm
      rw [allRowsOf_nil hr] at h
      cases h
      exact iff_of_true rfl hr
  | some m =>
      rw [allRowsOf_of_mapping hm] at h
      rw [← List.length_eq_zero_iff, length_of_mapM_eq_ok h, List.length_eq_zero_iff]

theorem rows_ne_nil_of_allRowsOf {s : CursorScan} {r : ResultSet} {e : ReadError}
    (h : s.allRowsOf r = .error e) : r.rows ≠ [] := by
  intro hr
  rw [allRowsOf_nil hr] at h
  cases h

theorem settleMapping_eq (s : CursorScan) (r : ResultSet) :
    (s.settleMapping r).1 = { s with mapping := (s.settleMapping r).1.mapping } := by
  unfold settleMapping
  split <;> rfl

end CursorScan

namespace Client

variable {ρ τ : Type} {sv : Server ρ} {env : Surroundings τ} {c : Client ρ τ}

theorem ends_issue {s : Statement} (h : s.isEncodable = true) {wrap : ClientError → ReadError}
    {Q : Except ReadError s.Reply → Client ρ τ → Prop} :
    (issue sv env s wrap).Ends c Q ↔ match sv.respond s c.server with
      | (.ok reply, server) =>
          Q (.ok reply) ⟨server, c.trips ++ [⟨s, .ok reply⟩], c.scan, env.afterTrip c.around⟩
      | (.error e, server) =>
          Q (.error (wrap e))
            ⟨server, c.trips ++ [⟨s, .error e⟩], c.scan, env.afterTrip c.around⟩ := by
  unfold Exchange.Ends issue
  rw [h]
  rcases sv.respond s c.server with ⟨e | reply, server⟩ <;> rfl

@[simp] theorem ends_setScan {scan : CursorScan} {Q : Except ReadError Unit → Client ρ τ → Prop} :
    (setScan scan).Ends c Q ↔ Q (.ok ()) { c with scan := some scan } := Iff.rfl

@[simp] theorem ends_freshCursor {Q : Except ReadError String → Client ρ τ → Prop} :
    (freshCursor env).Ends c Q ↔
      Q (.ok (env.cursorTag c.around).1.name) { c with around := (env.cursorTag c.around).2 } :=
  Iff.rfl

theorem tableSchema_ends (table : TableId) :
    (tableSchema sv env table).Ends c fun _ c' =>
      ∃ answer, c'.trips = c.trips ++ [⟨.columns table, answer⟩] := by
  have h := Statement.isEncodable_columns table
  simp only [tableSchema, Exchange.ends_bind, ends_issue h]
  rcases sv.respond (.columns table) c.server with ⟨e | rows, server⟩
  · exact ⟨_, rfl⟩
  · dsimp only
    split <;> exact ⟨_, rfl⟩

theorem position_ends :
    (position sv env).Ends c fun _ c' => ∃ answer, c'.trips = c.trips ++ [⟨.position, answer⟩] := by
  simp only [position, Exchange.ends_bind, ends_issue Statement.isEncodable_position]
  rcases sv.respond .position c.server with ⟨e | rows, server⟩
  · exact ⟨_, rfl⟩
  · simp only [Exchange.ends_ofExcept]
    split <;> exact ⟨_, rfl⟩

theorem rollBack_ends :
    (rollBack sv env).Ends c fun _ c' =>
      ∃ answer, c'.trips = c.trips ++ [⟨.rollback, answer⟩] := by
  simp only [rollBack, Exchange.ends_bind, Exchange.ends_attempt,
    ends_issue Statement.isEncodable_rollback]
  rcases sv.respond .rollback c.server with ⟨e | reply, server⟩ <;> exact ⟨_, rfl⟩

def begun (cursor : String) (query : ScanQuery) : List Trip :=
  [⟨.begin, .ok ()⟩, ⟨.declare cursor query, .ok ()⟩]

inductive Unopened : List Trip → Prop
  | unqueried : Unopened []
  | unbegun (e : ClientError) : Unopened [⟨.begin, .error e⟩]
  | undeclared (cursor : String) (query : ScanQuery) (e : ClientError)
      (answer : Except ClientError Unit) :
      Unopened [⟨.begin, .ok ()⟩, ⟨.declare cursor query, .error e⟩, ⟨.rollback, answer⟩]

theorem openScan_ends (split : Split) (schema : TableSchema) (fetchSize : Nat) :
    (openScan sv env split schema fetchSize).Ends c fun r c' => match r with
      | .error _ => ∃ trips, Unopened trips ∧ c'.trips = c.trips ++ trips
      | .ok () => ∃ (tag : CursorTag) (query : ScanQuery),
          c'.trips = c.trips ++ begun tag.name query ∧
            c'.scan = some (.start tag.name fetchSize schema) := by
  simp only [openScan, Exchange.ends_bind, Exchange.ends_ofExcept]
  cases hq : ScanQuery.ofSplit split (.ofSchema schema ColumnDef.isReadAsText) with
  | error fault => exact ⟨[], .unqueried, (List.append_nil _).symm⟩
  | ok query =>
      simp only [mapError_ok]
      split
      · exact ⟨[], .unqueried, (List.append_nil _).symm⟩
      · simp only [Exchange.ends_bind, ends_freshCursor]
        rcases env.cursorTag c.around with ⟨tag, around⟩
        have hd := Statement.isEncodable_declare tag (ScanQuery.nul_not_mem_chars hq)
        simp only [ends_issue Statement.isEncodable_begin, ends_issue hd, Exchange.ends_attempt]
        rcases sv.respond .begin c.server with ⟨e | (⟨⟩ : Unit), server⟩
        · exact ⟨_, .unbegun e, rfl⟩
        dsimp only
        rcases sv.respond (.declare tag.name query) server with ⟨e | (⟨⟩ : Unit), server⟩
        · simp only [Exchange.ends_bind]
          refine rollBack_ends.imp ?_
          rintro (_ | _) c' ⟨answer, hc⟩
          · exact ⟨_, .undeclared tag.name query e answer, by simp [hc]⟩
          · refine ⟨_, .undeclared tag.name query e answer, ?_⟩
            change c'.trips = _
            simp [hc]
        · simp only [Exchange.ends_bind, Exchange.ends_note, ends_setScan]
          exact ⟨tag, query, by simp [Client.begun], rfl⟩

inductive Fetches (cursor : String) (rows : Nat) : ScanState → List Trip → Prop
  | start : Fetches cursor rows .open []
  | fetched {trips result} (before : Fetches cursor rows .open trips) (some : result.rows ≠ []) :
      Fetches cursor rows .open (trips ++ [⟨.fetch cursor rows, .ok result⟩])
  | unfetched {trips e message} (before : Fetches cursor rows .open trips) :
      Fetches cursor rows (.failed message) (trips ++ [⟨.fetch cursor rows, .error e⟩])
  | undecoded {trips result message} (before : Fetches cursor rows .open trips)
      (some : result.rows ≠ []) :
      Fetches cursor rows (.failed message) (trips ++ [⟨.fetch cursor rows, .ok result⟩])
  | unfinished {trips result e message} (before : Fetches cursor rows .open trips)
      (none : result.rows = []) :
      Fetches cursor rows (.failed message)
        (trips ++ [⟨.fetch cursor rows, .ok result⟩, ⟨.finish cursor, .error e⟩])
  | finished {trips result} (before : Fetches cursor rows .open trips) (none : result.rows = []) :
      Fetches cursor rows .exhausted
        (trips ++ [⟨.fetch cursor rows, .ok result⟩, ⟨.finish cursor, .ok ()⟩])

structure Scanning (base : List Trip) (tag : CursorTag) (rows : Nat) (state : ScanState)
    (c : Client ρ τ) : Prop where
  scan_eq : ∃ s, c.scan = some s ∧ s.cursor = tag.name ∧ max s.batch 1 = rows ∧ s.state = state
  trips_eq : ∃ trips, c.trips = base ++ trips ∧ Fetches tag.name rows state trips

def OnCursor (s : CursorScan) (c : Client ρ τ) : Prop :=
  ∃ s', c.scan = some s' ∧ s'.cursor = s.cursor ∧ s'.batch = s.batch

theorem fetch_ends {s : CursorScan} {tag : CursorTag} (hs : s.cursor = tag.name)
    (hscan : c.scan = some s) :
    (fetch sv env s).Ends c fun r c' => ∃ answer : Except ClientError ResultSet,
      c'.trips = c.trips ++ [⟨.fetch s.cursor (max s.batch 1), answer⟩] ∧ OnCursor s c' ∧
      match r with
        | .ok s' => s'.cursor = s.cursor ∧ s'.batch = s.batch ∧ s'.state = s.state ∧
            ∃ result rows, answer = .ok result ∧ s'.buffer = s.buffer ++ rows ∧
              (rows = [] ↔ result.rows = [])
        | .error _ => ∀ result, answer = .ok result → result.rows ≠ [] := by
  have h : (Statement.fetch s.cursor (max s.batch 1)).isEncodable = true := by
    rw [hs]
    exact Statement.isEncodable_fetch tag _
  simp only [fetch, Exchange.ends_bind, ends_issue h]
  rcases sv.respond (.fetch s.cursor (max s.batch 1)) c.server with ⟨e | (result : ResultSet), server⟩
  · exact ⟨.error e, rfl, ⟨s, hscan, rfl, rfl⟩, fun _ h => nomatch h⟩
  · have hm := s.settleMapping_eq result
    have hok : ∀ rows, (s.settleMapping result).1.allRowsOf result = .ok rows →
        (rows = [] ↔ result.rows = []) := fun _ => CursorScan.allRowsOf_settleMapping
    have herror : ∀ e, (s.settleMapping result).1.allRowsOf result = .error e →
        result.rows ≠ [] := fun _ => CursorScan.rows_ne_nil_of_allRowsOf
    simp only [Exchange.ends_noteAll, ends_setScan, Exchange.ends_ofExcept]
    generalize (s.settleMapping result).1 = settled at hm hok herror ⊢
    unfold CursorScan.allRowsOf at hok herror
    generalize settled.rowsOf result = added at hok herror ⊢
    obtain ⟨rows, e | u⟩ := added
    · refine ⟨.ok result, rfl, ⟨_, rfl, by rw [hm], by rw [hm]⟩, ?_⟩
      rintro _ ⟨⟩
      exact herror e rfl
    · rw [hm]
      exact ⟨.ok result, rfl, ⟨_, rfl, rfl, rfl⟩, rfl, rfl, rfl, result, rows, rfl, rfl, hok rows rfl⟩

inductive Refilled (cursor : String) (rows : Nat) : ScanState → List Trip → Prop
  | fetched {result} (some : result.rows ≠ []) :
      Refilled cursor rows .open [⟨.fetch cursor rows, .ok result⟩]
  | unfetched {e message} : Refilled cursor rows (.failed message) [⟨.fetch cursor rows, .error e⟩]
  | undecoded {result message} (some : result.rows ≠ []) :
      Refilled cursor rows (.failed message) [⟨.fetch cursor rows, .ok result⟩]
  | unfinished {result e message} (none : result.rows = []) :
      Refilled cursor rows (.failed message)
        [⟨.fetch cursor rows, .ok result⟩, ⟨.finish cursor, .error e⟩]
  | finished {result} (none : result.rows = []) :
      Refilled cursor rows .exhausted
        [⟨.fetch cursor rows, .ok result⟩, ⟨.finish cursor, .ok ()⟩]

theorem Fetches.append {cursor : String} {rows : Nat} {state : ScanState} {before more : List Trip}
    (h : Fetches cursor rows .open before) (refilled : Refilled cursor rows state more) :
    Fetches cursor rows state (before ++ more) := by
  cases refilled with
  | fetched some => exact h.fetched some
  | unfetched => exact h.unfetched
  | undecoded some => exact h.undecoded some
  | unfinished none => exact h.unfinished none
  | finished none => exact h.finished none

theorem refill_refilled {s : CursorScan} {tag : CursorTag} (hs : s.cursor = tag.name)
    (hscan : c.scan = some s) (hb : s.buffer = []) (ho : s.state = .open) :
    (refill sv env s).Ends c fun r c' => ∃ more, c'.trips = c.trips ++ more ∧ match r with
      | .ok s' => s'.cursor = s.cursor ∧ s'.batch = s.batch ∧
          Refilled s.cursor (max s.batch 1) s'.state more ∧
            s'.state = if s'.buffer = [] then .exhausted else .open
      | .error e => OnCursor s c' ∧ Refilled s.cursor (max s.batch 1) (.failed e.message) more := by
  simp only [refill, Exchange.ends_bind]
  refine (fetch_ends hs hscan).imp ?_
  rintro (e | s') c' ⟨answer, htrips, held, hr⟩
  · refine ⟨_, htrips, held, ?_⟩
    cases answer with
    | error e => exact .unfetched
    | ok result => exact .undecoded (hr result rfl)
  · obtain ⟨hcursor, hbatch, hstate, result, rows, rfl, hbuffer, hrows⟩ := hr
    rw [hb, List.nil_append] at hbuffer
    dsimp only
    split
    · rename_i he
      have hnone : result.rows = [] := hrows.1 (by simpa [hbuffer] using he)
      have hc : (Statement.finish s'.cursor).isEncodable = true := by
        rw [hcursor, hs]
        exact Statement.isEncodable_finish tag
      simp only [Exchange.ends_bind, ends_issue hc]
      rw [hcursor]
      rcases sv.respond (.finish s.cursor) c'.server with ⟨e | (⟨⟩ : Unit), server⟩
      · exact ⟨_, by rw [htrips, List.append_assoc]; rfl, held, .unfinished hnone⟩
      · have hnil : s'.buffer = [] := by simpa using he
        refine ⟨[⟨.fetch s.cursor _, .ok result⟩, ⟨.finish s.cursor, .ok ()⟩], ?_, rfl,
          hbatch, .finished hnone, by simp [hnil]⟩
        change c'.trips ++ _ = _
        rw [htrips, List.append_assoc]
        rfl
    · rename_i he
      have hsome : s'.buffer ≠ [] := by simpa using he
      refine ⟨_, htrips, hcursor, hbatch, ?_, ?_⟩
      · rw [hstate, ho]
        exact .fetched fun h => hsome (hbuffer.trans (hrows.2 h))
      · rw [hstate, ho, if_neg hsome]

def stateAfter : Except ReadError (Option Row) → ScanState → Prop
  | .ok (some _), state => state = .open
  | .ok none, state => state = .exhausted
  | .error _, state => ∃ message, state = .failed message

theorem nextRow_ends {base : List Trip} {tag : CursorTag} {rows : Nat}
    (h : Scanning base tag rows .open c) :
    (nextRow sv env).Ends c fun r c' =>
      ∃ state, Scanning base tag rows state c' ∧ stateAfter r state := by
  obtain ⟨⟨s, hscan, hcursor, hrows, hstate⟩, trips, htrips, hf⟩ := h
  simp only [nextRow, Exchange.ends_bind, Exchange.ends_look, hscan, nextOf, hstate]
  split
  · rename_i he
    have hb : s.buffer = [] := by simpa using he
    simp only [Exchange.ends_bind, Exchange.ends_attempt]
    subst hrows
    refine (refill_refilled hcursor hscan hb hstate).imp ?_
    have htrips' (c' : Client ρ τ) {more : List Trip} (hmore : c'.trips = c.trips ++ more) :
        c'.trips = base ++ (trips ++ more) := by
      rw [hmore, htrips, List.append_assoc]
    rintro (e | s') c' ⟨more, hmore, hr⟩
    · obtain ⟨⟨s', hscan', hcursor', hbatch⟩, refilled⟩ := hr
      rw [hcursor] at refilled
      have failed : (c'.scan.map fun scan => { scan with state := .failed e.message }) =
          some { s' with state := .failed e.message } := by rw [hscan', Option.map_some]
      exact ⟨_, ⟨⟨_, failed, hcursor'.trans hcursor, by rw [hbatch], rfl⟩, _, htrips' c' hmore,
        hf.append refilled⟩, _, rfl⟩
    · obtain ⟨hc, hbatch, refilled, hs'⟩ := hr
      rw [hcursor] at hc refilled
      have hscan' : Scanning base tag (max s.batch 1) s'.state
          { c' with scan := some { s' with buffer := s'.buffer.tail } } :=
        ⟨⟨_, rfl, hc, by rw [hbatch], rfl⟩, _, htrips' c' hmore, hf.append refilled⟩
      refine ⟨_, hscan', ?_⟩
      change stateAfter (.ok s'.buffer.head?) s'.state
      cases hbuffer : s'.buffer <;> simp [hs', hbuffer, stateAfter]
  · rename_i he
    refine ⟨_, ⟨⟨_, rfl, hcursor, hrows, hstate⟩, trips, htrips, hf⟩, ?_⟩
    change stateAfter (.ok s.buffer.head?) .open
    cases hb : s.buffer with
    | nil => simp [hb] at he
    | cons row rows => rfl

theorem Fetches.holdsTransaction_eq {s : CursorScan} {cursor : String} {rows : Nat}
    {trips : List Trip} (h : Fetches cursor rows s.state trips) :
    s.holdsTransaction = decide (s.state ≠ .exhausted) := by
  unfold CursorScan.holdsTransaction
  generalize s.state = state at h
  cases h <;> rfl

theorem closeScan_ends {base : List Trip} {tag : CursorTag} {rows : Nat} {state : ScanState}
    (h : Scanning base tag rows state c) :
    (closeScan sv env).Ends c fun _ c' => ∃ trips, Fetches tag.name rows state trips ∧
      if state = .exhausted then c'.trips = base ++ trips
      else ∃ answer, c'.trips = base ++ (trips ++ [⟨.rollback, answer⟩]) := by
  obtain ⟨⟨s, hscan, -, -, rfl⟩, trips, htrips, hf⟩ := h
  simp only [closeScan, Exchange.ends_bind, Exchange.ends_look, hscan, ends_setScan,
    hf.holdsTransaction_eq]
  by_cases he : s.state = .exhausted
  · simp only [he, ne_eq, not_true, decide_false, Bool.false_eq_true, if_false, if_true]
    exact ⟨trips, he ▸ hf, htrips⟩
  · simp only [he, ne_eq, not_false_iff, decide_true, if_true, if_false, Exchange.ends_bind,
      ends_issue Statement.isEncodable_rollback]
    have hissued (answer) :
        c.trips ++ [⟨.rollback, answer⟩] = base ++ (trips ++ [⟨.rollback, answer⟩]) := by
      rw [htrips, List.append_assoc]
    rcases sv.respond .rollback c.server with ⟨e | reply, server⟩ <;>
      exact ⟨trips, hf, _, hissued _⟩

theorem send_ends (event : SplitEvent) :
    Exchange.Ends (send env event) c fun _ c' => c'.trips = c.trips ∧ c'.scan = c.scan :=
  ⟨rfl, rfl⟩

theorem Scanning.of_eq {base : List Trip} {tag : CursorTag} {rows : Nat} {state : ScanState}
    {c' : Client ρ τ} (h : Scanning base tag rows state c)
    (he : c'.trips = c.trips ∧ c'.scan = c.scan) : Scanning base tag rows state c' := by
  obtain ⟨htrips, hscan⟩ := he
  refine ⟨?_, ?_⟩
  · rw [hscan]
    exact h.scan_eq
  · rw [htrips]
    exact h.trips_eq

end Client

end SplitSnapshot
