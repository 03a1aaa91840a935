import SplitSnapshot.Proofs.Postgres.Refusals
import SplitSnapshot.Proofs.Results

namespace SplitSnapshot

abbrev RowBatch := List (List (Option Bytes))

inductive BatchesEnd where
  | finished
  | unfinished (cause : ClientError)
  | refused (cause : ClientError)
  | undecoded (batch : RowBatch) (e : ReadError)

namespace BatchesEnd

def error? : BatchesEnd → Option ReadError
  | finished => none
  | unfinished cause => some (.scanFailed .finishFailed (some (.client cause)))
  | refused cause => some (.scanFailed .fetchFailed (some (.client cause)))
  | undecoded _ e => some e

end BatchesEnd

/-- The server, asked again and again for rows of the cursor, answers with these batches. The columns
are the same in all of them, and only the last one may be empty. -/
inductive Serves {ρ : Type} (sv : Server ρ) (cursor : String) (rows : Nat)
    (columns : List ResultColumn) : ρ → List RowBatch → BatchesEnd → Prop
  | batch {server server' batch batches ending} (nonempty : batch ≠ [])
      (fetched : sv.respond (.fetch cursor rows) server = (.ok ⟨columns, batch⟩, server'))
      (later : Serves sv cursor rows columns server' batches ending) :
      Serves sv cursor rows columns server (batch :: batches) ending
  | finished {server server' server'' result} (norows : result.rows = [])
      (fetched : sv.respond (.fetch cursor rows) server = (.ok result, server'))
      (closed : sv.respond (.finish cursor) server' = (.ok (), server'')) :
      Serves sv cursor rows columns server [] .finished
  | unfinished {server server' server'' result cause} (norows : result.rows = [])
      (fetched : sv.respond (.fetch cursor rows) server = (.ok result, server'))
      (closed : sv.respond (.finish cursor) server' = (.error cause, server'')) :
      Serves sv cursor rows columns server [] (.unfinished cause)
  | refused {server server' cause}
      (fetched : sv.respond (.fetch cursor rows) server = (.error cause, server')) :
      Serves sv cursor rows columns server [] (.refused cause)
  | undecoded {server server' batch e}
      (fetched : sv.respond (.fetch cursor rows) server = (.ok ⟨columns, batch⟩, server'))
      (undecoded : batch.mapM (ResultSet.decodeFrom 0 columns) = .error e) :
      Serves sv cursor rows columns server [] (.undecoded batch e)

namespace CursorScan

variable {s : CursorScan} {columns : List ResultColumn}

def mappingOf (columns : List ResultColumn) (schema : TableSchema) : ColumnMapping :=
  .ofColumns (columns.map ResultColumn.name) schema

def MapsTo (s : CursorScan) (columns : List ResultColumn) : Prop :=
  ∀ m ∈ s.mapping, m = mappingOf columns s.schema

def filled (s : CursorScan) (result : ResultSet) : Except ReadError CursorScan :=
  let settled := (s.settleMapping result).1
  (settled.allRowsOf result).map fun rows => { settled with buffer := settled.buffer ++ rows }

def filledWith (s : CursorScan) (columns : List ResultColumn) (values : List (List Json)) :
    CursorScan :=
  { s with
    mapping := some (mappingOf columns s.schema)
    buffer := s.buffer ++ values.map (mappingOf columns s.schema).place }

theorem mapsTo_filledWith {values : List (List Json)} :
    (s.filledWith columns values).MapsTo columns := by
  rintro m ⟨⟩
  rfl

theorem MapsTo.settled (h : s.MapsTo columns) {batch : RowBatch} (nonempty : batch ≠ []) :
    (s.settleMapping ⟨columns, batch⟩).1 =
      { s with mapping := .some (mappingOf columns s.schema) } := by
  cases hm : s.mapping with
  | none => simp [settleMapping, hm, nonempty, mappingOf, ResultSet.names]
  | some m =>
      have hs : { s with mapping := .some m } = s := by rw [← hm]
      rw [← h m hm, hs]
      simp [settleMapping, hm]

theorem MapsTo.filled_eq (h : s.MapsTo columns) {batch : RowBatch} (nonempty : batch ≠ []) :
    s.filled ⟨columns, batch⟩ =
      (batch.mapM (ResultSet.decodeFrom 0 columns)).map (s.filledWith columns) := by
  have rows : allRowsOf { s with mapping := .some (mappingOf columns s.schema) } ⟨columns, batch⟩ =
      (batch.mapM (ResultSet.decodeFrom 0 columns)).map
        (List.map (mappingOf columns s.schema).place) :=
    (allRowsOf_of_mapping rfl).trans (mapM_except_map _ _ batch)
  rw [filled, h.settled nonempty]
  dsimp only
  rw [rows]
  cases batch.mapM (ResultSet.decodeFrom 0 columns) <;> rfl

theorem filled_nil {result : ResultSet} (norows : result.rows = []) : s.filled result = .ok s := by
  have unsettled : (s.settleMapping result).1 = s := by simp [settleMapping, norows]
  simp [filled, unsettled, allRowsOf_nil norows, Except.map]

end CursorScan

namespace Client

variable {ρ τ : Type} {sv : Server ρ} {env : Surroundings τ} {c : Client ρ τ}

theorem isEncodable_fetch_of_tag {s : CursorScan} {tag : CursorTag} (hs : s.cursor = tag.name) :
    (Statement.fetch s.cursor (max s.batch 1)).isEncodable = true := by
  rw [hs]
  exact Statement.isEncodable_fetch tag _

theorem fetch_answered {s : CursorScan} {tag : CursorTag} (hs : s.cursor = tag.name)
    {result : ResultSet} {server : ρ}
    (fetched : sv.respond (.fetch s.cursor (max s.batch 1)) c.server = (.ok result, server)) :
    (fetch sv env s).Ends c fun r c' => c'.server = server ∧ c'.scan ≠ none ∧ r = s.filled result := by
  simp only [fetch, Exchange.ends_bind, ends_issue (isEncodable_fetch_of_tag hs), fetched,
    Exchange.ends_noteAll, ends_setScan, Exchange.ends_ofExcept, CursorScan.filled,
    CursorScan.allRowsOf]
  rcases (s.settleMapping result).1.rowsOf result with ⟨rows, e | u⟩
  · exact ⟨trivial, Option.some_ne_none _, rfl⟩
  · exact ⟨rfl, Option.some_ne_none _, rfl⟩

theorem fetch_refused {s : CursorScan} {tag : CursorTag} (hs : s.cursor = tag.name)
    (scan : c.scan = some s) {cause : ClientError} {server : ρ}
    (fetched : sv.respond (.fetch s.cursor (max s.batch 1)) c.server = (.error cause, server)) :
    (fetch sv env s).Ends c fun r c' =>
      c'.scan ≠ none ∧ r = .error (scanFailure .fetchFailed cause) := by
  simp only [fetch, Exchange.ends_bind, ends_issue (isEncodable_fetch_of_tag hs), fetched, scan]
  exact ⟨nofun, trivial⟩

def InState (state : ScanState) (c : Client ρ τ) : Prop :=
  ∃ s, c.scan = some s ∧ s.state = state

theorem inState_failed (message : String) (h : c.scan ≠ none) :
    InState (.failed message)
      { c with scan := c.scan.map fun scan => { scan with state := .failed message } } := by
  obtain ⟨s, scan⟩ := Option.ne_none_iff_exists'.1 h
  exact ⟨_, by rw [scan, Option.map_some], rfl⟩

theorem refill_batch {s : CursorScan} {tag : CursorTag} {columns : List ResultColumn}
    {batch : RowBatch} {server : ρ} (hs : s.cursor = tag.name) (maps : s.MapsTo columns)
    (nonempty : batch ≠ [])
    (fetched : sv.respond (.fetch s.cursor (max s.batch 1)) c.server =
      (.ok ⟨columns, batch⟩, server)) :
    (refill sv env s).Ends c fun r c' => c'.server = server ∧ c'.scan ≠ none ∧
      r = (batch.mapM (ResultSet.decodeFrom 0 columns)).map (s.filledWith columns) := by
  simp only [refill, Exchange.ends_bind]
  refine (fetch_answered hs fetched).imp ?_
  rintro r c' ⟨hserver, held, rfl⟩
  rw [maps.filled_eq nonempty]
  cases decoded : batch.mapM (ResultSet.decodeFrom 0 columns) with
  | error e => exact ⟨hserver, held, rfl⟩
  | ok values =>
      have filled : values ≠ [] := ne_nil_of_mapM_eq_ok decoded nonempty
      have buffered : (s.filledWith columns values).buffer.isEmpty = false := by
        simp [CursorScan.filledWith, filled]
      simp only [Except.map, buffered, Bool.false_eq_true, if_false, Exchange.ends_pure]
      exact ⟨hserver, held, trivial⟩

theorem refill_refused {s : CursorScan} {tag : CursorTag} {cause : ClientError} {server : ρ}
    (hs : s.cursor = tag.name) (scan : c.scan = some s)
    (fetched : sv.respond (.fetch s.cursor (max s.batch 1)) c.server = (.error cause, server)) :
    (refill sv env s).Ends c fun r c' =>
      c'.scan ≠ none ∧ r = .error (scanFailure .fetchFailed cause) := by
  simp only [refill, Exchange.ends_bind]
  refine (fetch_refused hs scan fetched).imp ?_
  rintro r c' ⟨held, rfl⟩
  exact ⟨held, rfl⟩

theorem refill_empty {s : CursorScan} {tag : CursorTag} {result : ResultSet} {server server' : ρ}
    {answer : Except ClientError Unit} (hs : s.cursor = tag.name) (norows : result.rows = [])
    (empty : s.buffer = [])
    (fetched : sv.respond (.fetch s.cursor (max s.batch 1)) c.server = (.ok result, server))
    (closed : sv.respond (.finish s.cursor) server = (answer, server')) :
    (refill sv env s).Ends c fun r c' => c'.scan ≠ none ∧
      r = (answer.mapError (scanFailure .finishFailed)).map fun _ =>
        { s with state := .exhausted } := by
  have encodable : (Statement.finish s.cursor).isEncodable = true := by
    rw [hs]
    exact Statement.isEncodable_finish tag
  simp only [refill, Exchange.ends_bind]
  refine (fetch_answered hs fetched).imp ?_
  rintro r c' ⟨rfl, held, rfl⟩
  rw [CursorScan.filled_nil norows]
  simp only [empty, List.isEmpty_nil, if_true, Exchange.ends_bind, ends_issue encodable, closed]
  cases answer
  · exact ⟨held, rfl⟩
  · exact ⟨held, rfl⟩

theorem ends_nextOf_refill {s : CursorScan} (state : s.state = .open) (empty : s.buffer = [])
    {Q : Except ReadError (Option Row) → Client ρ τ → Prop} :
    (nextOf sv env s).Ends c Q ↔ (refill sv env s).Ends c fun r c' => match r with
      | .ok s' => Q (.ok s'.buffer.head?) { c' with scan := some { s' with buffer := s'.buffer.tail } }
      | .error e => Q (.error e)
          { c' with scan := c'.scan.map fun scan => { scan with state := .failed e.message } } := by
  simp only [nextOf, state, empty, List.isEmpty_nil, if_true, Exchange.ends_bind,
    Exchange.ends_attempt]
  unfold Exchange.Ends
  cases (refill sv env s c).result <;> rfl

theorem ends_nextRow {s : CursorScan} (scan : c.scan = some s)
    {Q : Except ReadError (Option Row) → Client ρ τ → Prop} :
    (nextRow sv env).Ends c Q ↔ (nextOf sv env s).Ends c Q := by
  simp only [nextRow, Exchange.ends_bind, Exchange.ends_look, scan]

end Client

namespace BatchesEnd

def result (ending : BatchesEnd) : Except ReadError (Option Row) :=
  match ending.error? with
  | none => .ok none
  | some e => .error e

def stateAfter (ending : BatchesEnd) : ScanState :=
  match ending.error? with
  | none => .exhausted
  | some e => .failed e.message

theorem stateAfter_ne_open (ending : BatchesEnd) : ending.stateAfter ≠ .open := by
  unfold stateAfter
  split <;> exact ScanState.noConfusion

theorem result_congr {ending ending' : BatchesEnd} (h : ending'.error? = ending.error?) :
    ending'.result = ending.result := by
  rw [result, h, result]

theorem stateAfter_congr {ending ending' : BatchesEnd} (h : ending'.error? = ending.error?) :
    ending'.stateAfter = ending.stateAfter := by
  rw [stateAfter, h, stateAfter]

theorem row_result (ending : BatchesEnd) : ending.result.toOption.join = none := by
  unfold result
  split <;> rfl

end BatchesEnd

def ScanState.overResult : ScanState → Except ReadError (Option Row)
  | .failed message => .error (.scanFailed (.alreadyFailed message) none)
  | _ => .ok none

namespace Client

variable {ρ τ : Type} {sv : Server ρ} {env : Surroundings τ} {c : Client ρ τ}
  {columns : List ResultColumn} {schema : TableSchema} {ending : BatchesEnd}

structure OpenOn (sv : Server ρ) (columns : List ResultColumn) (ending : BatchesEnd) (s : CursorScan)
    (server : ρ) (more : List (List Json)) : Prop where
  state : s.state = .open
  cursor : ∃ tag : CursorTag, s.cursor = tag.name
  maps : s.MapsTo columns
  serves : ∃ batches, Serves sv s.cursor (max s.batch 1) columns server batches ending ∧
    batches.flatten.mapM (ResultSet.decodeFrom 0 columns) = .ok more

def Awaits (sv : Server ρ) (columns : List ResultColumn) (schema : TableSchema) (ending : BatchesEnd)
    (rows : List Row) (c : Client ρ τ) : Prop :=
  ∃ s more, c.scan = some s ∧ s.schema = schema ∧ OpenOn sv columns ending s c.server more ∧
    rows = s.buffer ++ more.map (CursorScan.mappingOf columns schema).place

def HandsOutNext (sv : Server ρ) (columns : List ResultColumn) (schema : TableSchema)
    (ending : BatchesEnd) : List Row → Except ReadError (Option Row) → Client ρ τ → Prop
  | row :: rows, r, c => r = .ok (some row) ∧ Awaits sv columns schema ending rows c
  | [], r, c => r = ending.result ∧ InState ending.stateAfter c

theorem OpenOn.take {s : CursorScan} {more : List (List Json)}
    (h : OpenOn sv columns ending s c.server more) (filled : s.buffer ≠ []) :
    HandsOutNext sv columns s.schema ending
      (s.buffer ++ more.map (CursorScan.mappingOf columns s.schema).place) (.ok s.buffer.head?)
      { c with scan := some { s with buffer := s.buffer.tail } } := by
  obtain ⟨row, buffer, hb⟩ := List.exists_cons_of_ne_nil filled
  rw [hb]
  exact ⟨rfl, _, more, rfl, rfl, ⟨h.state, h.cursor, h.maps, h.serves⟩, rfl⟩

theorem Awaits.next (env : Surroundings τ) {rows : List Row}
    (h : Awaits sv columns schema ending rows c) :
    (nextRow sv env).Ends c (HandsOutNext sv columns schema ending rows) := by
  obtain ⟨s, more, scan, rfl, hopen, rfl⟩ := h
  rw [ends_nextRow scan]
  by_cases hb : s.buffer = []
  · rw [ends_nextOf_refill hopen.state hb, hb, List.nil_append]
    obtain ⟨tag, cursor⟩ := hopen.cursor
    obtain ⟨batches, serves, decoded⟩ := hopen.serves
    cases serves with
    | @batch _ server batch batches _ nonempty fetched later =>
        obtain ⟨first, others, hfirst, hothers, rfl⟩ := mapM_append_eq_ok decoded
        refine (refill_batch cursor hopen.maps nonempty fetched).imp ?_
        rintro r c' ⟨rfl, -, rfl⟩
        have filled : first ≠ [] := ne_nil_of_mapM_eq_ok hfirst nonempty
        -- the batch moves from the server into the buffer, and the rows to come stay the same
        have opened : OpenOn sv columns ending (s.filledWith columns first) c'.server others :=
          ⟨hopen.state, hopen.cursor, CursorScan.mapsTo_filledWith, batches, later, hothers⟩
        have buffer : (s.filledWith columns first).buffer =
            first.map (CursorScan.mappingOf columns s.schema).place := by
          rw [CursorScan.filledWith, hb, List.nil_append]
        rw [hfirst, List.map_append, ← buffer]
        exact opened.take (by simpa [buffer] using filled)
    | finished norows fetched closed =>
        cases decoded
        refine (refill_empty cursor norows hb fetched closed).imp ?_
        rintro r c' ⟨-, rfl⟩
        exact ⟨congrArg (Except.ok ∘ List.head?) hb, _, rfl, rfl⟩
    | unfinished norows fetched closed =>
        cases decoded
        refine (refill_empty cursor norows hb fetched closed).imp ?_
        rintro r c' ⟨held, rfl⟩
        exact ⟨rfl, inState_failed _ held⟩
    | refused fetched =>
        cases decoded
        refine (refill_refused cursor scan fetched).imp ?_
        rintro r c' ⟨held, rfl⟩
        exact ⟨rfl, inState_failed _ held⟩
    | @undecoded _ server batch e fetched undecoded =>
        cases decoded
        -- an empty batch has no row that cannot be decoded
        have nonempty : batch ≠ [] := by
          rintro rfl
          cases undecoded
        refine (refill_batch cursor hopen.maps nonempty fetched).imp ?_
        rintro r c' ⟨-, held, rfl⟩
        rw [undecoded]
        exact ⟨rfl, inState_failed _ held⟩
  · have waiting : s.buffer.isEmpty = false := by simpa using hb
    simp only [nextOf, hopen.state, waiting, Bool.false_eq_true, if_false]
    exact hopen.take hb

theorem over_next (sv : Server ρ) (env : Surroundings τ) {state : ScanState} (h : InState state c)
    (ended : state ≠ .open) :
    (nextRow sv env).Ends c fun r c' => r = state.overResult ∧ InState state c' := by
  obtain ⟨s, scan, rfl⟩ := h
  rw [ends_nextRow scan, nextOf]
  cases hs : s.state with
  | «open» => exact absurd hs ended
  | exhausted | closed | failed message => exact ⟨rfl, s, scan, hs⟩

theorem closed_of_scan (h : c.scan ≠ none) :
    (closeScan sv env).Ends c fun _ c' => InState .closed c' := by
  obtain ⟨s, scan⟩ := Option.ne_none_iff_exists'.1 h
  simp only [closeScan, Exchange.ends_bind, Exchange.ends_look, scan, ends_setScan]
  split
  · simp only [Exchange.ends_bind, ends_issue Statement.isEncodable_rollback]
    rcases sv.respond .rollback c.server with ⟨e | reply, server⟩ <;> exact ⟨_, rfl, rfl⟩
  · exact ⟨_, rfl, rfl⟩

def afterRows (sv : Server ρ) (env : Surroundings τ) : Nat → Client ρ τ → Client ρ τ
  | 0, c => c
  | k + 1, c => afterRows sv env k (nextRow sv env c).world

def nthRow (sv : Server ρ) (env : Surroundings τ) (k : Nat) (c : Client ρ τ) :
    Except ReadError (Option Row) :=
  (nextRow sv env (afterRows sv env k c)).result

theorem nthRow_of_over {state : ScanState} (h : InState state c) (ended : state ≠ .open) (k : Nat) :
    nthRow sv env k c = state.overResult := by
  induction k generalizing c with
  | zero => exact (over_next sv env h ended).1
  | succ k ih => exact ih (over_next sv env h ended).2

theorem Awaits.nthRow_eq {rows : List Row} (h : Awaits sv columns schema ending rows c) (k : Nat) :
    nthRow sv env k c =
      if k < rows.length then .ok rows[k]?
      else if k = rows.length then ending.result else ending.stateAfter.overResult := by
  induction k generalizing rows c with
  | zero =>
      have next := h.next env
      cases rows with
      | nil => exact next.1
      | cons row rows => simpa [nthRow, afterRows] using next.1
  | succ k ih =>
      have next := h.next env
      change nthRow sv env k (nextRow sv env c).world = _
      cases rows with
      | nil => simpa using nthRow_of_over next.2 ending.stateAfter_ne_open k
      | cons row rows => simpa using ih next.2

theorem Awaits.nthRow_ended {rows : List Row} (h : Awaits sv columns schema ending rows c) :
    match ending.error? with
    | none => ∀ k ≥ rows.length, nthRow sv env k c = .ok none
    | some e => nthRow sv env rows.length c = .error e ∧ ∀ k > rows.length,
        nthRow sv env k c = .error (.scanFailed (.alreadyFailed e.message) none) := by
  have last : nthRow sv env rows.length c = ending.result := by
    rw [h.nthRow_eq, if_neg (Nat.lt_irrefl _), if_pos rfl]
  have past (k : Nat) (hk : k > rows.length) :
      nthRow sv env k c = ending.stateAfter.overResult := by
    rw [h.nthRow_eq, if_neg (by omega), if_neg (by omega)]
  unfold BatchesEnd.result at last
  unfold BatchesEnd.stateAfter at past
  cases he : ending.error? with
  | some e =>
      simp only [he] at last past
      exact ⟨last, past⟩
  | none =>
      simp only [he] at last past
      intro k hk
      rcases Nat.eq_or_lt_of_le hk with rfl | hk
      · exact last
      · exact past k hk

inductive ScanCall where
  | next
  | close

def handedOut (sv : Server ρ) (env : Surroundings τ) : List ScanCall → Client ρ τ → List Row
  | [], _ => []
  | .next :: calls, c =>
      let r := nextRow sv env c
      (r.result.toOption.join).toList ++ handedOut sv env calls r.world
  | .close :: calls, c => handedOut sv env calls (closeScan sv env c).world

theorem InState.scan_ne_none {state : ScanState} (h : InState state c) : c.scan ≠ none := by
  obtain ⟨s, scan, -⟩ := h
  simp [scan]

theorem handedOut_of_over {state : ScanState} (h : InState state c) (ended : state ≠ .open)
    (calls : List ScanCall) : handedOut sv env calls c = [] := by
  induction calls generalizing c state with
  | nil => rfl
  | cons call calls ih =>
      cases call with
      | next =>
          have next := over_next sv env h ended
          rw [handedOut, ih next.2 ended, next.1]
          cases state <;> rfl
      | close => exact ih (closed_of_scan h.scan_ne_none) ScanState.noConfusion

theorem Awaits.scan_ne_none {rows : List Row} (h : Awaits sv columns schema ending rows c) :
    c.scan ≠ none := by
  obtain ⟨s, -, scan, -⟩ := h
  simp [scan]

theorem Awaits.handedOut_prefix {rows : List Row} (h : Awaits sv columns schema ending rows c)
    (calls : List ScanCall) : handedOut sv env calls c <+: rows := by
  induction calls generalizing c rows with
  | nil => exact List.nil_prefix
  | cons call calls ih =>
      cases call with
      | next =>
          have next := h.next env
          rw [handedOut]
          cases rows with
          | nil =>
              rw [handedOut_of_over next.2 ending.stateAfter_ne_open, next.1, List.append_nil,
                ending.row_result]
              exact List.prefix_rfl
          | cons row rows =>
              rw [next.1]
              exact (List.prefix_cons_inj row).2 (ih next.2)
      | close =>
          rw [handedOut, handedOut_of_over (closed_of_scan h.scan_ne_none) ScanState.noConfusion]
          exact List.nil_prefix

structure OpenedOver (sv : Server ρ) (env : Surroundings τ) (schema : TableSchema) (fetchSize : Nat)
    (columns : List ResultColumn) (batches : List RowBatch) (ending : BatchesEnd)
    (c : Client ρ τ) : Prop where
  opened : ∃ split before notes,
    openScan sv env split schema fetchSize before = ⟨.ok (), notes, c⟩
  serves : ∀ s ∈ c.scan, Serves sv s.cursor (max fetchSize 1) columns c.server batches ending

variable {fetchSize : Nat} {batches : List RowBatch} {values : List (List Json)}

theorem OpenedOver.awaits (h : OpenedOver sv env schema fetchSize columns batches ending c)
    (decoded : batches.flatten.mapM (ResultSet.decodeFrom 0 columns) = .ok values) :
    Awaits sv columns schema ending
      (values.map (ColumnMapping.ofColumns (columns.map ResultColumn.name) schema).place) c := by
  obtain ⟨split, before, notes, opened⟩ := h.opened
  obtain ⟨tag, query, -, scan⟩ := (openScan_ends split schema fetchSize).of_eq opened
  exact ⟨_, values, scan, rfl, ⟨rfl, ⟨tag, rfl⟩, nofun, batches, h.serves _ scan, decoded⟩, rfl⟩

/-- The rows of all batches come out one by one, each at the places of its columns, and after them
nothing, or an error and no row ever again. How the rows fall into batches does not show. -/
theorem nextRow_acrossBatches (h : OpenedOver sv env schema fetchSize columns batches ending c)
    (decoded : batches.flatten.mapM (ResultSet.decodeFrom 0 columns) = .ok values) :
    let rows := values.map (ColumnMapping.ofColumns (columns.map ResultColumn.name) schema).place
    (∀ k < rows.length, nthRow sv env k c = .ok rows[k]?) ∧
    (match ending.error? with
      | none => ∀ k ≥ rows.length, nthRow sv env k c = .ok none
      | some e => nthRow sv env rows.length c = .error e ∧ ∀ k > rows.length,
          nthRow sv env k c = .error (.scanFailed (.alreadyFailed e.message) none)) ∧
    (∀ calls, handedOut sv env calls c <+: rows) ∧
    ∀ {ρ' τ' : Type} (sv' : Server ρ') (env' : Surroundings τ') (fetchSize' : Nat)
      (batches' : List RowBatch) (ending' : BatchesEnd) (c' : Client ρ' τ'),
      OpenedOver sv' env' schema fetchSize' columns batches' ending' c' →
      batches'.flatten = batches.flatten → ending'.error? = ending.error? →
        ∀ k, nthRow sv' env' k c' = nthRow sv env k c := by
  intro rows
  have awaits : Awaits sv columns schema ending rows c := h.awaits decoded
  refine ⟨fun k hk => ?_, awaits.nthRow_ended, awaits.handedOut_prefix, ?_⟩
  · rw [awaits.nthRow_eq, if_pos hk]
  · intro ρ' τ' sv' env' fetchSize' batches' ending' c' h' sameRows sameError k
    rw [awaits.nthRow_eq, (h'.awaits (sameRows ▸ decoded)).nthRow_eq,
      BatchesEnd.result_congr sameError, BatchesEnd.stateAfter_congr sameError]

def batchServer (columns : List ResultColumn) : Server (List RowBatch) where
  respond
    | .columns _, batches => (.ok [], batches)
    | .position, batches => (.ok [], batches)
    | .fetch _ _, batches => (.ok ⟨columns, batches.headD []⟩, batches.tail)
    | .begin, batches | .declare _ _, batches | .finish _, batches | .rollback, batches
    | .raw _, batches => (.ok (), batches)

theorem serves_batchServer {cursor : String} {rows : Nat} {columns : List ResultColumn}
    {batches : List RowBatch} (nonempty : ∀ batch ∈ batches, batch ≠ []) :
    Serves (batchServer columns) cursor rows columns batches batches .finished := by
  induction batches with
  | nil => exact .finished rfl rfl rfl
  | cons batch batches ih =>
      exact .batch (nonempty batch List.mem_cons_self) rfl
        (ih fun b hb => nonempty b (List.mem_cons_of_mem batch hb))

def numberBatches : List RowBatch :=
  [[[some [0, 0, 0, 1]], [some [0, 0, 0, 2]]], [[some [0, 0, 0, 3]]]]

def numberColumn : ResultColumn := ⟨"id", .builtin 23⟩

def numberSchema : TableSchema :=
  ⟨.ofNames "public" "orders", [⟨"name", 1, "text", true⟩, ⟨"id", 2, "integer", false⟩]⟩

theorem answer_eq_of_isOk {σ : Type} {r : Answer σ Unit} (h : r.result.isOk = true) :
    r = ⟨.ok (), r.notes, r.world⟩ := by
  obtain ⟨e | u, notes, w⟩ := r
  · cases h
  · rfl

def numberOpening : Answer (Client (List RowBatch) Unit) Unit :=
  openScan (batchServer [numberColumn]) ReadTask.stillSurroundings ReadTask.ordersTask.split
    numberSchema 2 (.start numberBatches ())

theorem numberOpening_ok :
    numberOpening.result.isOk = true ∧ numberOpening.world.server = numberBatches := by
  decide +kernel

theorem openedOver_numbers : OpenedOver (batchServer [numberColumn]) ReadTask.stillSurroundings
    numberSchema 2 [numberColumn] numberBatches .finished numberOpening.world where
  opened := ⟨_, _, _, answer_eq_of_isOk numberOpening_ok.1⟩
  serves s _ := by
    rw [numberOpening_ok.2]
    exact serves_batchServer (by decide)

theorem nextRow_acrossBatches_numbers :
    OpenedOver (batchServer [numberColumn]) ReadTask.stillSurroundings numberSchema 2 [numberColumn]
      numberBatches .finished numberOpening.world ∧
    numberBatches.flatten.mapM (ResultSet.decodeFrom 0 [numberColumn]) =
      .ok [[.int 1], [.int 2], [.int 3]] ∧
    nthRow (batchServer [numberColumn]) ReadTask.stillSurroundings 2 numberOpening.world =
      .ok (some ⟨[.null, .int 3]⟩) ∧
    ∀ k ≥ 3, nthRow (batchServer [numberColumn]) ReadTask.stillSurroundings k numberOpening.world =
      .ok none := by
  have decoded : numberBatches.flatten.mapM (ResultSet.decodeFrom 0 [numberColumn]) =
      .ok [[.int 1], [.int 2], [.int 3]] := rfl
  obtain ⟨rows, past, -⟩ := nextRow_acrossBatches openedOver_numbers decoded
  exact ⟨openedOver_numbers, decoded, rows 2 (by decide), past⟩

end Client
end SplitSnapshot
