import InsertScript.Proofs.Connections
import InsertScript.Proofs.Thresholds

/-!
# Executions of a source query

What a query asks of its client. `Query.Executing` says once what executing the query can come to,
and `Query.Describing` what asking for its columns can; whatever follows from an execution is
derived from these.

A script is one round of them: the columns are asked for, which executes the query, and the rows are
those of the same execution. So a script asks its client for a connection at most once, whatever
happens (`Query.Asked`).
-/

namespace InsertScript

open Step (Keeps Same)
open Client (Getting Idle)

/-- The state after the cursor was closed, if one is open. -/
def QueryState.stopped (state : QueryState) : QueryState :=
  match state.cursor? with
  | none => state
  | some n =>
      { state with
        client := state.client.noting [.closeCursor n (some Query.cursorName)], cursor? := none }

namespace Query

variable {q : Query} {state state' : QueryState} {s t : Logged QueryState} {c c' : Client} {n : Nat}

/-- The query as it is executed. -/
def execution (q : Query) (n : Nat) : DatabaseEvent :=
  .execute n (some cursorName) q.statement (some q.fetchSize)

/-- What is asked of the database to execute the query. -/
def executing (q : Query) (n : Nat) : List DatabaseEvent :=
  [.openCursor n (some cursorName), q.execution n]

/-- What executing the query comes to, unless its cursor is open. A connection is asked for
first. -/
inductive Executing (q : Query) (state : QueryState) : Except Failure Unit → QueryState → Prop where
  | running (n : Nat) (hcursor : state.cursor? = some n) : Executing q state (.ok ()) state
  | refused (c : Client) (failure : Failure) (hcursor : state.cursor? = none)
      (hgetting : Getting q.plan state.client (.error failure) c) :
      Executing q state (.error failure) { state with client := c }
  | failed (n : Nat) (c : Client) (failure : Failure) (hcursor : state.cursor? = none)
      (hgetting : Getting q.plan state.client (.ok n) c) (herror : c.database.queryError?.isSome) :
      Executing q state (.error failure)
        { state with client := c.noting (q.executing n ++ [.closeCursor n (some cursorName)]) }
  | executed (n : Nat) (c : Client) (hcursor : state.cursor? = none)
      (hgetting : Getting q.plan state.client (.ok n) c)
      (hanswered : c.database.queryError? = none) :
      Executing q state (.ok ())
        { state with client := c.noting (q.executing n), cursor? := some n }

/-- What was chosen as a query can be shown. -/
theorem display_ok (choice : Choice) : ∃ shown, choice.value.display = .ok shown := by
  cases choice with
  | unset => exact ⟨_, rfl⟩
  | blank => exact ⟨_, rfl⟩
  | text statement => exact ⟨_, rfl⟩

theorem ask_apply (event : DatabaseEvent) (log : Log) (state : QueryState) :
    onClient (Client.ask event) ⟨log, state⟩ =
      .ok () ⟨log, { state with client := state.client.noting [event] }⟩ :=
  rfl

/-- An execution opens the cursor and sends the query. If the database refuses it, the cursor is
closed before the failure. -/
theorem execute_apply (q : Query) (n : Nat) (log : Log) (state : QueryState) :
    ∃ log', q.execute n ⟨log, state⟩ = (match state.client.database.queryError? with
      | some e => do
          onClient (Client.ask (.closeCursor n (some cursorName)))
          throw (.queryFailed e.reason)
      | none => Step.change fun state => { state with cursor? := some n } : Step QueryState Unit)
      ⟨log', { state with client := state.client.noting (q.executing n) }⟩ := by
  obtain ⟨shown, hshown⟩ := display_ok q.statement
  have hshow (u : Logged QueryState) :
      (Step.ofExcept q.statement.value.display : Step QueryState String) u = .ok shown u := by
    rw [hshown, Step.ofExcept_ok]
  have hnoting : (state.client.noting [.openCursor n (some cursorName)]).noting [q.execution n]
      = state.client.noting (q.executing n) := Client.noting_noting _ _ _
  rw [execute, Step.bind_of_ok (ask_apply _ _ _), Step.bind_of_ok (hshow _),
    Step.bind_of_ok (Step.report_apply _ _ _ _), Step.bind_of_ok (ask_apply _ _ _),
    Step.bind_of_ok (Step.current_apply _), ← hnoting]
  exact ⟨_, rfl⟩

theorem execute_of_none (q : Query) (n : Nat) (log : Log) (state : QueryState)
    (h : state.client.database.queryError? = none) :
    ∃ log', q.execute n ⟨log, state⟩
      = .ok () ⟨log', { state with
        client := state.client.noting (q.executing n), cursor? := some n }⟩ := by
  obtain ⟨log', hexecute⟩ := execute_apply q n log state
  rw [h] at hexecute
  exact ⟨log', hexecute⟩

theorem execute_of_some (q : Query) (n : Nat) (log : Log) (state : QueryState) {e : DatabaseError}
    (h : state.client.database.queryError? = some e) :
    ∃ log', q.execute n ⟨log, state⟩
      = .error (.queryFailed e.reason) ⟨log', { state with
        client := state.client.noting (q.executing n ++ [.closeCursor n (some cursorName)]) }⟩ := by
  obtain ⟨log', hexecute⟩ := execute_apply q n log state
  rw [h] at hexecute
  refine ⟨log', (hexecute.trans (Step.bind_of_ok (ask_apply _ _ _))).trans ?_⟩
  rw [Step.throw_apply, Client.noting_noting]

theorem onClient_run {α : Type} (state : QueryState) {step : Step Client α} {log log' : Log}
    {outcome : Except Failure α} (h : step.run ⟨log, state.client⟩ = (outcome, ⟨log', c⟩)) :
    (onClient step).run ⟨log, state⟩ = (outcome, ⟨log', { state with client := c }⟩) :=
  Step.run_zoom (s := ⟨log, state⟩) h

/-- Making sure of the execution ends in one of the ways of `Executing`. -/
theorem ensureExecuted_executing (q : Query) (log : Log) (state : QueryState) :
    ∃ outcome log' state',
    q.ensureExecuted.run ⟨log, state⟩ = (outcome, ⟨log', state'⟩) ∧
    Executing q state outcome state' := by
  rw [ensureExecuted, Step.run, Step.bind_of_ok (Step.current_apply _)]
  cases hcursor : state.cursor? with
  | some n => exact ⟨_, log, state, rfl, .running n hcursor⟩
  | none =>
      obtain ⟨outcome, log₁, c, hrun, hgetting⟩ :=
        Client.getConnection_getting q.plan log state.client
      have hasked := onClient_run state hrun
      cases outcome with
      | error failure =>
          dsimp only
          rw [Step.bind_of_error (Step.error_of_run hasked)]
          exact ⟨_, _, _, rfl, .refused c failure hcursor hgetting⟩
      | ok n =>
          dsimp only
          rw [Step.bind_of_ok (Step.ok_of_run hasked)]
          cases herror : c.database.queryError? with
          | some e =>
              obtain ⟨log₂, hexecute⟩ := execute_of_some q n log₁ { state with client := c } herror
              rw [hexecute]
              exact ⟨_, log₂, _, rfl, .failed n c _ hcursor hgetting (by rw [herror]; rfl)⟩
          | none =>
              obtain ⟨log₂, hexecute⟩ := execute_of_none q n log₁ { state with client := c } herror
              rw [hexecute]
              exact ⟨_, log₂, _, rfl, .executed n c hcursor hgetting herror⟩

theorem Executing.isSome_cursor? (h : Executing q state (.ok ()) state') :
    state'.cursor?.isSome := by
  cases h with
  | running n hcursor => rw [hcursor]; rfl
  | executed n c _ _ => rfl

/-- What asking for the columns comes to: they are known, or the query is executed for them. -/
inductive Describing (q : Query) (state : QueryState) :
    Except Failure (List Column) → QueryState → Prop where
  | known (columns : List Column) (hknown : state.columns? = some columns) :
      Describing q state (.ok columns) state
  | refused (failure : Failure) (state' : QueryState) (hunknown : state.columns? = none)
      (hexecuting : Executing q state (.error failure) state') :
      Describing q state (.error failure) state'
  | undescribed (state' : QueryState) (hunknown : state.columns? = none)
      (hexecuting : Executing q state (.ok ()) state')
      (hresult : state'.client.database.description? = none) :
      Describing q state (.error .noResultColumns) state'
  | described (columns : List Column) (state' : QueryState) (hunknown : state.columns? = none)
      (hexecuting : Executing q state (.ok ()) state')
      (hresult : state'.client.database.description?.isSome) :
      Describing q state (.ok columns) { state' with columns? := some columns }

/-- A request for the columns ends in one of the ways of `Describing`. -/
theorem columns_describing (q : Query) (log : Log) (state : QueryState) : ∃ outcome log' state',
    q.columns.run ⟨log, state⟩ = (outcome, ⟨log', state'⟩) ∧ Describing q state outcome state' := by
  rw [columns, Step.run, Step.bind_of_ok (Step.current_apply _)]
  cases hcolumns : state.columns? with
  | some columns => exact ⟨_, log, state, rfl, .known columns hcolumns⟩
  | none =>
      obtain ⟨outcome, log', state', hrun, hexecuting⟩ := ensureExecuted_executing q log state
      cases outcome with
      | error failure =>
          dsimp only
          rw [Step.bind_of_error (Step.error_of_run hrun)]
          exact ⟨_, _, _, rfl, .refused failure state' hcolumns hexecuting⟩
      | ok _ =>
          dsimp only
          rw [Step.bind_of_ok (Step.ok_of_run hrun), Step.bind_of_ok (Step.current_apply _)]
          cases hresult : state'.client.database.description? with
          | none => exact ⟨_, _, _, rfl, .undescribed state' hcolumns hexecuting hresult⟩
          | some described =>
              exact ⟨_, _, _, rfl, .described _ state' hcolumns hexecuting (by rw [hresult]; rfl)⟩

theorem start_executing (q : Query) (log : Log) (state : QueryState) : ∃ outcome log' state',
    (q.start.run ⟨log, state⟩).2 = ⟨log', state'⟩ ∧ Executing q state outcome state' := by
  obtain ⟨outcome, log', state', hrun, hexecuting⟩ := ensureExecuted_executing q log state
  refine ⟨outcome, log', state', ?_, hexecuting⟩
  cases outcome with
  | error failure => rw [start, Step.run_of_error (Step.bind_of_error (Step.error_of_run hrun))]
  | ok _ => rw [start, Step.run, Step.bind_of_ok (Step.ok_of_run hrun)]; rfl

/-- With an open cursor nothing has to be asked. -/
theorem start_of_running (log : Log) (hcursor : state.cursor?.isSome) :
    ∃ deliveries, q.start ⟨log, state⟩ = .ok deliveries ⟨log, state⟩ := by
  obtain ⟨n, hn⟩ := Option.isSome_iff_exists.1 hcursor
  have hexecuted : q.ensureExecuted ⟨log, state⟩ = .ok () ⟨log, state⟩ := by
    rw [ensureExecuted, Step.bind_of_ok (Step.current_apply _)]
    simp only [hn, Step.pure_apply]
  exact ⟨_, Step.bind_of_ok hexecuted⟩

theorem stop_apply (log : Log) (state : QueryState) :
    stop ⟨log, state⟩ = .ok () ⟨log, state.stopped⟩ := by
  rw [stop, Step.bind_of_ok (Step.current_apply _), QueryState.stopped]
  cases hcursor : state.cursor? with
  | none => rfl
  | some n => rfl

/-! ### Whole scripts -/

/-- Has a client been asked for one connection, and for nothing afterwards that opens or closes
one? -/
def Asked (q : Query) (c c' : Client) : Prop :=
  ∃ outcome d asked, Getting q.plan c outcome d ∧ Idle asked ∧ c' = d.noting asked

theorem idle_closeCursor (n : Nat) (name? : Option String) : Idle [.closeCursor n name?] := by
  intro event hmem m
  cases List.mem_singleton.1 hmem
  exact ⟨nofun, nofun⟩

theorem idle_executing (q : Query) (n : Nat) : Idle (q.executing n) := by
  intro event hmem m
  simp only [executing, execution, List.mem_cons, List.not_mem_nil, or_false] at hmem
  rcases hmem with rfl | rfl
  · exact ⟨nofun, nofun⟩
  · exact ⟨nofun, nofun⟩

theorem Asked.noting {new : List DatabaseEvent} (h : q.Asked c c') (hidle : Idle new) :
    q.Asked c (c'.noting new) := by
  obtain ⟨outcome, d, asked, hgetting, hasked, rfl⟩ := h
  exact ⟨outcome, d, asked ++ new, hgetting, List.forall_mem_append.2 ⟨hasked, hidle⟩,
    Client.noting_noting d _ _⟩

theorem Executing.asked {outcome : Except Failure Unit} (h : Executing q state outcome state')
    (hcursor : state.cursor? = none) : q.Asked state.client state'.client := by
  cases h with
  | running n hrunning => exact absurd (hrunning.symm.trans hcursor) nofun
  | refused c failure _ hgetting => exact ⟨_, c, [], hgetting, nofun, (Client.noting_nil c).symm⟩
  | failed n c failure _ hgetting =>
      exact ⟨_, c, _, hgetting,
        List.forall_mem_append.2 ⟨idle_executing q n, idle_closeCursor n _⟩, rfl⟩
  | executed n c _ hgetting => exact ⟨_, c, _, hgetting, idle_executing q n, rfl⟩

theorem Asked.stopped (h : q.Asked c state.client) : q.Asked c state.stopped.client := by
  unfold QueryState.stopped
  cases state.cursor? with
  | none => exact h
  | some n => exact h.noting (idle_closeCursor n _)

theorem Describing.asked {outcome : Except Failure (List Column)}
    (h : Describing q state outcome state') (hcolumns : state.columns? = none)
    (hcursor : state.cursor? = none) :
    q.Asked state.client state'.client := by
  cases h with
  | known columns hknown => exact absurd (hknown.symm.trans hcolumns) nofun
  | refused failure _ _ hexecuting => exact hexecuting.asked hcursor
  | undescribed _ _ hexecuting => exact hexecuting.asked hcursor
  | described columns d _ hexecuting =>
      have hasked := hexecuting.asked hcursor
      exact hasked

theorem Describing.isSome_cursor? {columns : List Column}
    (h : Describing q state (.ok columns) state') (hcolumns : state.columns? = none) :
    state'.cursor?.isSome := by
  cases h with
  | known _ hknown => exact absurd (hknown.symm.trans hcolumns) nofun
  | described _ d _ hexecuting =>
      have hrunning := hexecuting.isSome_cursor?
      exact hrunning

end Query

namespace Exporter

open Query (Describing)

variable {σ α : Type} {e : Exporter} {q : Query}

/-- The export itself does not touch the source. -/
theorem onExport_keeps_source (step : Step ExportState α) :
    Keeps (Same Prod.snd) (onExport step : Step (Sourced σ) α) := by
  have hany : Keeps (fun _ _ => True) step := fun _ => trivial
  exact hany.zoom fun _ _ _ => rfl

theorem findTable_keeps_source (e : Exporter) (q : Query) :
    Keeps (Same Prod.snd) (onSource (e.findTable q.source) :
      Step (Sourced QueryState) (Option String)) := by
  have hsource : Keeps (Same id) (e.findTable q.source) := by
    unfold findTable
    cases e.userTable? with
    | some name => exact Keeps.pure none
    | none => exact Keeps.ofExcept _
  exact hsource.zoom fun _ _ h => h

theorem finish_keeps_source (tableName : String) :
    Keeps (Same Prod.snd) (e.finish tableName : Step (Sourced σ) ExportResult) :=
  (onExport_keeps_source _).bind fun _ => (onExport_keeps_source _).bind fun _ =>
      Keeps.current.bind fun _ =>
    (Keeps.note _).bind fun _ => Keeps.pure _

/-- Can an export of a query find its table? It is given, or the query can say whether it knows
one. -/
def FindsTable (e : Exporter) (q : Query) : Prop :=
  e.userTable?.isSome ∨ ∃ found?, q.findTableName e.settings.omitSchema = .ok found?

theorem FindsTable.findTable_ok (h : e.FindsTable q) (s : Logged QueryState) :
    ∃ found?, e.findTable q.source s = .ok found? s := by
  unfold findTable
  cases huser : e.userTable? with
  | some name => exact ⟨none, rfl⟩
  | none =>
      obtain hgiven | ⟨found?, hfound⟩ := h
      · rw [huser] at hgiven
        cases hgiven
      · refine ⟨found?, ?_⟩
        change Step.ofExcept (q.findTableName e.settings.omitSchema) s = _
        rw [hfound, Step.ofExcept_ok]

theorem findsTable_of_ok {found? : Option String} {s t : Logged QueryState}
    (h : e.findTable q.source s = .ok found? t) : e.FindsTable q := by
  unfold findTable at h
  cases huser : e.userTable? with
  | some name => exact .inl (by rw [huser]; rfl)
  | none =>
      rw [huser] at h
      change Step.ofExcept (q.findTableName e.settings.omitSchema) s = _ at h
      cases hfound : q.findTableName e.settings.omitSchema with
      | ok found? => exact .inr ⟨found?, hfound⟩
      | error failure =>
          rw [hfound] at h
          cases h

/-- What an export asks of a query before its rows is what asking for the columns comes to. The rows
are reached if there are columns and a table is found. -/
theorem prepare_describing (e : Exporter) (q : Query) (s : Logged (Sourced QueryState)) :
    ∃ outcome state', Describing q s.state.2 outcome state' ∧
      ((e.prepare q.source).run s).2.state.2 = state' ∧
      ((∃ name t, e.prepare q.source s = .ok name t) ↔ (∃ columns, outcome = .ok columns) ∧
        e.FindsTable q) := by
  have hremark := Step.noteAll_apply e.remark? s
  obtain ⟨outcome, log, state', hrun, hdescribing⟩ :=
    q.columns_describing (e.remark?.toList.foldl Log.add s.log) s.state.2
  refine ⟨outcome, state', hdescribing, ?_⟩
  cases outcome with
  | error failure =>
      have hcolumns : q.source.columns ⟨e.remark?.toList.foldl Log.add s.log, s.state.2⟩
          = .error failure ⟨log, state'⟩ := Step.bind_of_error (Step.error_of_run hrun)
      have hprepare : e.prepare q.source s = .error failure ⟨log, (s.state.1, state')⟩ := by
        rw [prepare, Step.bind_of_ok hremark]
        exact Step.bind_of_error
          (onSource_error (s := ⟨e.remark?.toList.foldl Log.add s.log, s.state⟩) hcolumns)
      refine ⟨by rw [Step.run_of_error hprepare], ?_, ?_⟩
      · rintro ⟨name, t, hprepared⟩
        cases hprepared.symm.trans hprepare
      · rintro ⟨⟨columns, hdescribed⟩, -⟩
        cases hdescribed
  | ok columns =>
      have hcolumns : q.source.columns ⟨e.remark?.toList.foldl Log.add s.log, s.state.2⟩
          = .ok (columns.map fun column => { column }) ⟨log, state'⟩ :=
            Step.bind_of_ok (Step.ok_of_run hrun)
      have hasked := onSource_ok (s := ⟨e.remark?.toList.foldl Log.add s.log, s.state⟩) hcolumns
      refine ⟨?_, ?_, ?_⟩
      · rw [prepare, Step.run_bind_of_ok hremark, Step.run_bind_of_ok hasked]
        exact (findTable_keeps_source e q).bind (fun _ => (onExport_keeps_source _).bind fun _ =>
          Keeps.current.bind fun _ => (Keeps.note _).bind fun _ => Keeps.pure _)
            ⟨log, (s.state.1, state')⟩
      · rintro ⟨name, t, hprepared⟩
        obtain ⟨_, _, _, _, _, -, hfind, -⟩ := prepare_inv hprepared
        exact ⟨⟨columns, rfl⟩, findsTable_of_ok hfind⟩
      · rintro ⟨-, hfinds⟩
        obtain ⟨found?, hfind⟩ := hfinds.findTable_ok ⟨log, state'⟩
        have hfound := onSource_ok (s := ⟨log, (s.state.1, state')⟩) hfind
        rw [prepare, Step.bind_of_ok hremark, Step.bind_of_ok hasked, Step.bind_of_ok hfound,
          Step.bind_of_ok (onExport_ok (header_ok _ found? _)),
            Step.bind_of_ok (Step.current_apply _),
          Step.bind_of_ok (Step.report_apply _ _ _ _), Step.pure_apply]
        exact ⟨_, _, rfl⟩

theorem rowsOf_stopped {s : Logged (Sourced QueryState)} (hcursor : s.state.2.cursor?.isSome) :
    ((e.rowsOf q.source).run s).2.state.2 = s.state.2.stopped := by
  have hstop (u : Logged (Sourced QueryState)) :
      ((onSource q.source.stop).run u).2.state.2 = u.state.2.stopped := by
    have hstopped : q.source.stop ⟨u.log, u.state.2⟩ = .ok () ⟨u.log, u.state.2.stopped⟩ :=
      Query.stop_apply _ _
    rw [Step.run_of_ok (onSource_ok hstopped)]
  obtain ⟨deliveries, hrunning⟩ := Query.start_of_running (q := q) s.log hcursor
  have hstart : q.source.start ⟨s.log, s.state.2⟩ = .ok deliveries ⟨s.log, s.state.2⟩ := hrunning
  rw [rowsOf, Step.run_bind_of_ok (onSource_ok hstart), Step.snd_run_ensuring, hstop]
  exact congrArg QueryState.stopped (onExport_keeps_source (e.rows deliveries) s)

/-- However the rows end, the query is stopped then. -/
theorem rows_stop (name : String) {s : Logged (Sourced QueryState)}
    (hcursor : s.state.2.cursor?.isSome) :
    ((e.rowsOf q.source >>= fun _ => e.finish name).run s).2.state.2 = s.state.2.stopped :=
  (Keeps.after_bind (fun _ => finish_keeps_source name) (e.rowsOf q.source) s).trans
    (rowsOf_stopped hcursor)

/-- A script asks for a connection once: the rows are those of the execution for the columns. -/
theorem script_asks (e : Exporter) (q : Query) (s : Logged (Sourced QueryState))
    (hcolumns : s.state.2.columns? = none) (hcursor : s.state.2.cursor? = none) :
    q.Asked s.state.2.client ((e.script q.source).run s).2.state.2.client := by
  obtain ⟨outcome, state', hdescribing, hstate, hreached⟩ := e.prepare_describing q s
  have hasked := hdescribing.asked hcolumns hcursor
  rw [script_eq]
  cases hprepare : e.prepare q.source s with
  | error failure t =>
      rw [Step.run_of_error hprepare] at hstate
      rwa [Step.run_bind_of_error hprepare, hstate]
  | ok name t =>
      obtain ⟨⟨columns, rfl⟩, -⟩ := hreached.1 ⟨name, t, hprepare⟩
      rw [Step.run_of_ok hprepare] at hstate
      rw [Step.run_bind_of_ok hprepare,
        rows_stop name (hstate ▸ hdescribing.isSome_cursor? hcolumns), hstate]
      exact hasked.stopped

end Exporter

end InsertScript
