import SplitSnapshot.Proofs.Postgres.Trips
import SplitSnapshot.Proofs.Read.Course

namespace SplitSnapshot

variable {ρ τ : Type} {sv : Server ρ} {env : Surroundings τ} {task : ReadTask} {base : List Trip}
  {tag : CursorTag} {rows : Nat}

def exportedState : Except Stop (ScanContext × Except ReadError Unit) → ScanState → Prop
  | .error _, state => state = .open
  | .ok (_, .ok ()), state => state = .exhausted
  | .ok (_, .error _), state => state ≠ .exhausted

theorem RowCourse.scanning {width : Nat} {marks : Watermarks} {scan : ScanContext}
    {timer : ProgressTimer} {c : Client ρ τ}
    {r : StageResult (Client ρ τ) (ScanContext × Except ReadError Unit)}
    (h : RowCourse (Client.services sv env) task width marks scan timer c r)
    (hs : Client.Scanning base tag rows .open c) :
    ∃ state, Client.Scanning base tag rows state r.state.world ∧ exportedState r.value state := by
  induction h with
  | limit | untimed => exact ⟨.open, hs, rfl⟩
  | cancelled stop => exact ⟨.open, hs, ScanState.noConfusion⟩
  | failed go read =>
      obtain ⟨state, hs', message, rfl⟩ := (Client.nextRow_ends hs).of_eq read
      exact ⟨_, hs', ScanState.noConfusion⟩
  | ended go read =>
      obtain ⟨state, hs', hstate⟩ := (Client.nextRow_ends hs).of_eq read
      exact ⟨state, hs', hstate⟩
  | overrun go read late =>
      obtain ⟨state, hs', rfl⟩ := (Client.nextRow_ends hs).of_eq read
      exact ⟨.open, hs', rfl⟩
  | refused go read sent =>
      obtain ⟨state, hs', rfl⟩ := (Client.nextRow_ends hs).of_eq read
      exact ⟨.open, hs'.of_eq ((Client.send_ends _).of_eq sent), ScanState.noConfusion⟩
  | sent go read sent rest ih =>
      obtain ⟨state, hs', rfl⟩ := (Client.nextRow_ends hs).of_eq read
      exact ih (hs'.of_eq ((Client.send_ends _).of_eq sent))

theorem Client.scanning_of_opened {split : Split} {schema : TableSchema} {fetchSize : Nat}
    {c c' : Client ρ τ} {notes : List LogEntry}
    (h : (Client.services sv env).openScan split schema fetchSize c = ⟨.ok (), notes, c'⟩) :
    ∃ (tag : CursorTag) (query : ScanQuery), Client.Scanning
      (c.trips ++ Client.begun tag.name query) tag (max fetchSize 1) .open c' := by
  obtain ⟨tag, query, htrips, hscan⟩ := (Client.openScan_ends split schema fetchSize).of_eq h
  exact ⟨tag, query, ⟨_, hscan, rfl, rfl, rfl⟩, [], htrips.trans (List.append_nil _).symm, .start⟩

def OnlyFetches (cursor : String) (rows : Nat) (trips : List Trip) : Prop :=
  ∀ trip ∈ trips, ∃ result, trip = ⟨.fetch cursor rows, result⟩

theorem OnlyFetches.concat {cursor : String} {trips : List Trip}
    (h : OnlyFetches cursor rows trips) (result : Except ClientError ResultSet) :
    OnlyFetches cursor rows (trips ++ [⟨.fetch cursor rows, result⟩]) := by
  intro trip hm
  rcases List.mem_append.1 hm with hm | hm
  · exact h trip hm
  · exact ⟨result, List.mem_singleton.1 hm⟩

namespace Client

theorem Fetches.only_of_open {cursor : String} {state : ScanState} {trips : List Trip}
    (h : Fetches cursor rows state trips) (ho : state = .open) : OnlyFetches cursor rows trips := by
  induction h with
  | start => exact List.forall_mem_nil _
  | fetched before some ih => exact (ih rfl).concat _
  | _ => cases ho

theorem Fetches.batches {cursor : String} {state : ScanState} {trips : List Trip}
    (h : Fetches cursor rows state trips) :
    ∃ batches, OnlyFetches cursor rows batches ∧ (trips = batches ∧ state ≠ .exhausted ∨
      ∃ (result : ResultSet) (answer : Except ClientError Unit), result.rows = [] ∧
        trips = batches ++ [⟨.fetch cursor rows, .ok result⟩, ⟨.finish cursor, answer⟩] ∧
          (state = .exhausted ↔ answer = .ok ())) := by
  cases h with
  | start => exact ⟨[], List.forall_mem_nil _, .inl ⟨rfl, ScanState.noConfusion⟩⟩
  | fetched before some | unfetched before | undecoded before some =>
      exact ⟨_, (before.only_of_open rfl).concat _, .inl ⟨rfl, ScanState.noConfusion⟩⟩
  | unfinished before none =>
      exact ⟨_, before.only_of_open rfl, .inr ⟨_, _, none, rfl, nofun, nofun⟩⟩
  | finished before none =>
      exact ⟨_, before.only_of_open rfl, .inr ⟨_, _, none, rfl, fun _ => rfl, fun _ => rfl⟩⟩

end Client

inductive ScanRecord : Except Stop ScanContext → List Trip → Prop
  | unopened {e trips} (h : Client.Unopened trips) : ScanRecord (.error (.failed e)) trips
  | unfinished {stop cursor query rows batches} (cut : stop.isCut = true)
      (only : OnlyFetches cursor rows batches) :
      ScanRecord (.error stop) (Client.begun cursor query ++ batches)
  | rolledBack {cursor query rows batches e answer} (only : OnlyFetches cursor rows batches) :
      ScanRecord (.error (.failed e))
        (Client.begun cursor query ++ (batches ++ [⟨.rollback, answer⟩]))
  | uncommitted {cursor query rows batches result refusal e answer}
      (only : OnlyFetches cursor rows batches) (none : result.rows = []) :
      ScanRecord (.error (.failed e)) (Client.begun cursor query ++ (batches ++
        [⟨.fetch cursor rows, .ok result⟩, ⟨.finish cursor, .error refusal⟩, ⟨.rollback, answer⟩]))
  | committed {cursor query rows batches result scan} (only : OnlyFetches cursor rows batches)
      (none : result.rows = []) : ScanRecord (.ok scan) (Client.begun cursor query ++ (batches ++
        [⟨.fetch cursor rows, .ok result⟩, ⟨.finish cursor, .ok ()⟩]))

theorem ScanCourse.record {schema : TableSchema} {marks : Watermarks} {scan : ScanContext}
    {c : Client ρ τ} {r : StageResult (Client ρ τ) ScanContext}
    (h : ScanCourse (Client.services sv env) task schema marks scan c r) :
    ∃ trips, r.state.world.trips = c.trips ++ trips ∧ ScanRecord r.value trips := by
  cases h with
  | unopened opened =>
      obtain ⟨trips, hu, htrips⟩ := (Client.openScan_ends _ _ _).of_eq opened
      exact ⟨trips, htrips, .unopened hu⟩
  | unfinished opened rows =>
      obtain ⟨tag, query, hscanning⟩ := Client.scanning_of_opened opened
      obtain ⟨state, ⟨-, trips, htrips, hf⟩, hstate⟩ := rows.scanning hscanning
      rw [List.append_assoc] at htrips
      exact ⟨_, htrips, .unfinished (rows.isCut rfl) (hf.only_of_open hstate)⟩
  | broken opened rows closed =>
      obtain ⟨tag, query, hscanning⟩ := Client.scanning_of_opened opened
      obtain ⟨state, hs, hstate⟩ := rows.scanning hscanning
      obtain ⟨trips, hf, htrips⟩ := (Client.closeScan_ends hs).of_eq closed
      rw [if_neg hstate] at htrips
      obtain ⟨answer, htrips⟩ := htrips
      rw [List.append_assoc] at htrips
      obtain ⟨batches, only, ⟨rfl, -⟩ | ⟨result, finish, none, rfl, hfinish⟩⟩ := hf.batches
      · exact ⟨_, htrips, .rolledBack only⟩
      · cases finish with
        | ok u => exact absurd (hfinish.2 rfl) hstate
        | error refusal =>
            rw [List.append_assoc] at htrips
            exact ⟨_, htrips, .uncommitted only none⟩
  | exported opened rows closed =>
      obtain ⟨tag, query, hscanning⟩ := Client.scanning_of_opened opened
      obtain ⟨state, hs, hstate⟩ := rows.scanning hscanning
      obtain ⟨trips, hf, htrips⟩ := (Client.closeScan_ends hs).of_eq closed
      have hstate : state = .exhausted := hstate
      rw [if_pos hstate, List.append_assoc] at htrips
      obtain ⟨batches, only, ⟨-, held⟩ | ⟨result, finish, none, rfl, hfinish⟩⟩ := hf.batches
      · exact absurd hstate held
      · obtain rfl := hfinish.1 hstate
        exact ⟨_, htrips, .committed only none⟩

def Client.HoldsScan (c : Client ρ τ) : Prop :=
  ∃ s, c.scan = some s ∧ s.holdsTransaction = true

theorem Client.Scanning.holdsScan {c : Client ρ τ} (h : Client.Scanning base tag rows .open c) :
    c.HoldsScan := by
  obtain ⟨s, scan, -, -, state⟩ := h.scan_eq
  exact ⟨s, scan, by rw [CursorScan.holdsTransaction, state]⟩

theorem ScanCourse.holdsScan {schema : TableSchema} {marks : Watermarks} {scan : ScanContext}
    {c : Client ρ τ} {r : StageResult (Client ρ τ) ScanContext}
    (h : ScanCourse (Client.services sv env) task schema marks scan c r)
    (cut : ∃ stop, r.value = .error stop ∧ stop.isCut = true) : r.state.world.HoldsScan := by
  obtain ⟨stop, value, cut⟩ := cut
  cases h with
  | unfinished opened rows =>
      obtain ⟨tag, query, hscanning⟩ := Client.scanning_of_opened opened
      obtain ⟨state, scanning, rfl⟩ := rows.scanning hscanning
      exact scanning.holdsScan
  | unopened | broken =>
      cases value
      cases cut
  | exported => cases value

theorem WindowCourse.record {low : Lsn} {scan : ScanContext} {marks : Watermarks} {c : Client ρ τ}
    {r : StageResult (Client ρ τ) OffsetContext}
    (h : WindowCourse (Client.services sv env) task low scan marks c r) :
    ReadTask.outcomeOf r.value ≠ none ∧
      ∃ answer, r.state.world.trips = c.trips ++ [⟨.position, answer⟩] := by
  have returned : ReadTask.outcomeOf r.value ≠ none := by
    rw [Ne, outcomeOf_eq_none_iff]
    rintro ⟨stop, hv, cut⟩
    cases h <;> cases hv <;> cases cut
  refine ⟨returned, ?_⟩
  cases h with
  | unread read => exact Client.position_ends.of_eq read
  | reversed read order => exact Client.position_ends.of_eq read
  | refused read order sent =>
      obtain ⟨answer, htrips⟩ := Client.position_ends.of_eq read
      exact ⟨answer, ((Client.send_ends _).of_eq sent).1.trans htrips⟩
  | uncompleted read order sent completion | completed read order sent completion =>
      obtain ⟨answer, htrips⟩ := Client.position_ends.of_eq read
      have hsent := ((Client.send_ends _).of_eq sent).1
      have hcompleted := ((Client.send_ends _).of_eq completion).1
      exact ⟨answer, hcompleted.trans (hsent.trans htrips)⟩

def opening (table : TableId) (columns : Except ClientError (List ColumnRow))
    (low : Except ClientError (List (Option String))) (cursor : String) (query : ScanQuery)
    (declared : Except ClientError Unit) : List Trip :=
  [⟨.columns table, columns⟩, ⟨.position, low⟩, ⟨.begin, .ok ()⟩, ⟨.declare cursor query, declared⟩]

inductive ReadRecord (table : TableId) : Except Stop OffsetContext → List Trip → Prop
  | nothing {e} : ReadRecord table (.error (.failed e)) []
  | columns {e columns} : ReadRecord table (.error (.failed e)) [⟨.columns table, columns⟩]
  | low {e columns low} :
      ReadRecord table (.error (.failed e)) [⟨.columns table, columns⟩, ⟨.position, low⟩]
  | unbegun {e columns low refusal} : ReadRecord table (.error (.failed e))
      [⟨.columns table, columns⟩, ⟨.position, low⟩, ⟨.begin, .error refusal⟩]
  | unfinished {stop columns low cursor query rows batches} (cut : stop.isCut = true)
      (only : OnlyFetches cursor rows batches) : ReadRecord table (.error stop)
        (opening table columns low cursor query (.ok ()) ++ batches)
  | rolledBack {e columns low cursor query declared rows batches answer}
      (only : OnlyFetches cursor rows batches) : ReadRecord table (.error (.failed e))
        (opening table columns low cursor query declared ++ (batches ++ [⟨.rollback, answer⟩]))
  | uncommitted {e columns low cursor query rows batches result refusal answer}
      (only : OnlyFetches cursor rows batches) (none : result.rows = []) :
      ReadRecord table (.error (.failed e))
        (opening table columns low cursor query (.ok ()) ++ (batches ++
          [⟨.fetch cursor rows, .ok result⟩, ⟨.finish cursor, .error refusal⟩, ⟨.rollback, answer⟩]))
  | committed {value columns low cursor query rows batches result high}
      (only : OnlyFetches cursor rows batches) (none : result.rows = [])
      (returned : ReadTask.outcomeOf value ≠ .none) : ReadRecord table value
        (opening table columns low cursor query (.ok ()) ++ (batches ++
          [⟨.fetch cursor rows, .ok result⟩, ⟨.finish cursor, .ok ()⟩, ⟨.position, high⟩]))

namespace ScanRecord

variable {table : TableId} {columns : Except ClientError (List ColumnRow)}
  {low : Except ClientError (List (Option String))} {trips : List Trip}

theorem stopped {stop : Stop} (h : ScanRecord (.error stop) trips) :
    ReadRecord table (.error stop) (⟨.columns table, columns⟩ :: ⟨.position, low⟩ :: trips) := by
  cases h with
  | unopened h =>
      cases h with
      | unqueried => exact .low
      | unbegun e => exact .unbegun
      | undeclared cursor query e answer =>
          exact @ReadRecord.rolledBack _ _ _ _ _ _ _ 0 [] _ (List.forall_mem_nil _)
  | unfinished cut only => exact .unfinished cut only
  | rolledBack only => exact .rolledBack only
  | uncommitted only none => exact .uncommitted only none

theorem closed {scan : ScanContext} {value : Except Stop OffsetContext}
    {high : Except ClientError (List (Option String))} (h : ScanRecord (.ok scan) trips)
    (returned : ReadTask.outcomeOf value ≠ .none) : ReadRecord table value
      (⟨.columns table, columns⟩ :: ⟨.position, low⟩ :: (trips ++ [⟨.position, high⟩])) := by
  cases h with
  | committed only none =>
      rw [List.append_assoc, List.append_assoc]
      exact .committed only none returned

end ScanRecord

theorem Client.low_trips {table : TableId} {c c₁ c₂ : Client ρ τ} {schema : TableSchema}
    {notes more : List LogEntry} {r : Except ReadError Lsn}
    (asked : (Client.services sv env).schema table c = ⟨.ok schema, notes, c₁⟩)
    (read : (Client.services sv env).position c₁ = ⟨r, more, c₂⟩) :
    ∃ columns low, c₂.trips = c.trips ++ [⟨.columns table, columns⟩, ⟨.position, low⟩] := by
  obtain ⟨columns, hasked⟩ := (Client.tableSchema_ends _).of_eq asked
  obtain ⟨low, hread⟩ := Client.position_ends.of_eq read
  rw [hasked, List.append_assoc] at hread
  exact ⟨columns, low, hread⟩

theorem ReadCourse.record {marks : Watermarks} {c : Client ρ τ}
    {r : StageResult (Client ρ τ) OffsetContext}
    (h : ReadCourse (Client.services sv env) task marks c r) :
    ∃ trips, r.state.world.trips = c.trips ++ trips ∧
      ReadRecord task.split.table.withoutCatalog r.value trips := by
  cases h with
  | configInvalid => exact ⟨[], (List.append_nil _).symm, .nothing⟩
  | splitInvalid => exact ⟨[], (List.append_nil _).symm, .nothing⟩
  | schemaUnread config split asked =>
      obtain ⟨columns, htrips⟩ := (Client.tableSchema_ends _).of_eq asked
      exact ⟨_, htrips, .columns⟩
  | lowUnread config split asked read =>
      obtain ⟨columns, low, htrips⟩ := Client.low_trips asked read
      exact ⟨_, htrips, .low⟩
  | lowRefused config split asked read sent =>
      obtain ⟨columns, low, htrips⟩ := Client.low_trips asked read
      exact ⟨_, ((Client.send_ends _).of_eq sent).1.trans htrips, .low⟩
  | stopped config split asked read sent scanning =>
      obtain ⟨columns, low, hlow⟩ := Client.low_trips asked read
      have hsent := ((Client.send_ends _).of_eq sent).1
      obtain ⟨trips, htrips, hr⟩ := scanning.record
      rw [hsent, hlow, List.append_assoc] at htrips
      exact ⟨_, htrips, hr.stopped⟩
  | scanned config split asked read sent scanning closing =>
      obtain ⟨columns, low, hlow⟩ := Client.low_trips asked read
      have hsent := ((Client.send_ends _).of_eq sent).1
      obtain ⟨trips, htrips, hr⟩ := scanning.record
      obtain ⟨returned, high, hhigh⟩ := closing.record
      dsimp only at htrips
      rw [htrips, hsent, hlow, List.append_assoc, List.append_assoc] at hhigh
      exact ⟨_, hhigh, hr.closed returned⟩

theorem ReadCourse.holdsScan {marks : Watermarks} {c : Client ρ τ}
    {r : StageResult (Client ρ τ) OffsetContext}
    (h : ReadCourse (Client.services sv env) task marks c r)
    (unfinished : ReadTask.outcomeOf r.value = none) : r.state.world.HoldsScan := by
  have cut := outcomeOf_eq_none_iff.1 unfinished
  cases h with
  | stopped config split asked read sent scanning =>
      obtain ⟨_, ⟨⟩, cut⟩ := cut
      exact scanning.holdsScan ⟨_, rfl, cut⟩
  | scanned config split asked read sent scanning closing =>
      obtain ⟨returned, -⟩ := closing.record
      exact absurd unfinished returned
  | _ =>
      obtain ⟨_, ⟨⟩, cut⟩ := cut
      cases cut

theorem Client.dropScan_ends {c : Client ρ τ} (h : c.HoldsScan) :
    (Client.dropScan sv env true).Ends c fun _ c' =>
      ∃ answer, c'.trips = c.trips ++ [⟨.rollback, answer⟩] := by
  obtain ⟨s, scan, holds⟩ := h
  simp only [Client.dropScan, Exchange.ends_bind, Exchange.ends_look, scan, Exchange.ends_change, holds,
    Bool.not_true, Bool.false_eq_true, if_false, if_true, Exchange.ends_note]
  exact Client.rollBack_ends

end SplitSnapshot
