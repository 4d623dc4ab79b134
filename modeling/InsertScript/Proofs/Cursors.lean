import InsertScript.Proofs.Executions

/-!
# The cursor of a source query

How an export of a query uses the cursor that the query has. Whatever the database answers, the
query is executed once at most, on that cursor and with its fetch size (`Query.Uses`):
`Query.Standing` says where a query stands while its export goes on, and asking for the columns and
ending the rows lead from one standing to the next.

A cursor that was opened is closed when executing fails, and when its rows end, in whatever way.
What happens in between has no such end: if the query has no result columns, or no table is found in
it, nobody closes the cursor (`Exporter.closesCursor_iff`).
-/

namespace InsertScript

namespace Client

variable {c c' : Client} {plan : ConnectionPlan}

/-! ### Asking for a connection -/

/-- Has an event to do with a connection and not with a query? Its cursor has no name then, and what
is executed restricts the connection to reading. -/
inductive Preliminary : DatabaseEvent → Prop where
  | prompt (question : String) : Preliminary (.prompt question)
  | connect (n : Nat) (parameters : ConnectionParameters) (password : String) :
      Preliminary (.connect n parameters password)
  | openCursor (n : Nat) : Preliminary (.openCursor n none)
  | restriction (n : Nat) : Preliminary (restriction n)
  | closeCursor (n : Nat) : Preliminary (.closeCursor n none)
  | close (n : Nat) : Preliminary (.close n)

/-- Are these the events of a client that asks for a connection? -/
def Preliminaries (events : List DatabaseEvent) : Prop := ∀ event ∈ events, Preliminary event

/-- Does the second client go on with the history of the first one by nothing but preliminaries? -/
def Prepares (c c' : Client) : Prop := ∃ front, Preliminaries front ∧ c'.events = c.events ++ front

instance : IsPreorder Client Prepares where
  refl c := ⟨[], List.forall_mem_nil _, (List.append_nil _).symm⟩
  trans c d c' := by
    rintro ⟨front, hfront, hd⟩ ⟨back, hback, hc'⟩
    exact ⟨front ++ back, List.forall_mem_append.2 ⟨hfront, hback⟩,
      by rw [hc', hd, List.append_assoc]⟩

theorem prepares_noting {front : List DatabaseEvent} (h : Preliminaries front) :
    c.Prepares (c.noting front) :=
  ⟨front, h, rfl⟩

theorem preliminaries_singleton {event : DatabaseEvent} (h : Preliminary event) :
    Preliminaries [event] :=
  List.forall_mem_singleton.2 h

theorem preliminaries_restricting (n : Nat) : Preliminaries (restricting n) :=
  List.forall_mem_cons.2 ⟨.openCursor n, List.forall_mem_cons.2 ⟨.restriction n,
    preliminaries_singleton (.closeCursor n)⟩⟩

theorem Prompts.preliminaries {prompts : List DatabaseEvent} (h : Prompts prompts) :
    Preliminaries prompts := by
  intro event hmem
  rw [h event hmem]
  exact .prompt _

theorem prepares_asking (c : Client) (plan : ConnectionPlan) {prompts : List DatabaseEvent}
    (hprompts : Prompts prompts) (password : String) :
    c.Prepares (c.asking plan prompts password) :=
  ⟨_, List.forall_mem_append.2 ⟨hprompts.preliminaries, preliminaries_singleton (.connect _ _ _)⟩,
    rfl⟩

theorem Opening.prepares {outcome : Except Failure Nat} (h : Opening plan c outcome c') :
    c.Prepares c' := by
  cases h with
  | refused prompts password e hprompts _ => exact prepares_asking c plan hprompts password
  | unrestricted prompts password e _ hprompts _ _ =>
      refine trans_of Prepares (prepares_asking c plan hprompts password) (prepares_noting ?_)
      exact List.forall_mem_append.2 ⟨preliminaries_restricting _,
        preliminaries_singleton (.close _)⟩
  | ready prompts password hprompts _ _ =>
      have hrestricted :=
        prepares_noting (c := c.asking plan prompts password) (preliminaries_restricting c.opened)
      exact trans_of Prepares (prepares_asking c plan hprompts password) hrestricted

theorem prepares_givenUp (c : Client) (n : Nat) : c.Prepares (c.givenUp n) :=
  ⟨_, preliminaries_singleton (.close n), rfl⟩

theorem Dropping.prepares {outcome : Except Failure Unit} (h : Dropping plan c outcome c') :
    c.Prepares c' := by
  cases h with
  | current _ => exact refl_of Prepares c
  | expired n _ _ _ => exact prepares_givenUp c n

/-- Whoever asks for a connection leaves the cursor of a query alone. -/
theorem Getting.prepares {outcome : Except Failure Nat} (h : Getting plan c outcome c') :
    c.Prepares c' := by
  cases h with
  | stuck n _ _ _ => exact prepares_givenUp c n
  | reused n _ _ => exact refl_of Prepares c
  | refused d _ _ hdropping _ hopening =>
      exact trans_of Prepares hdropping.prepares hopening.prepares
  | opened n d _ hdropping _ hopening =>
      exact trans_of Prepares hdropping.prepares hopening.prepares

end Client

namespace Query

open Client (Getting Preliminary Preliminaries)

variable {q : Query} {state state' : QueryState} {c c' : Client}
  {front new : List DatabaseEvent} {n : Nat}

/-! ### The uses of a cursor -/

/-- The ways in which the cursor of a query is used, if at all: the cursor is opened, and the query
is executed on it once, with its fetch size. In front of that stand preliminaries only. -/
inductive Uses (q : Query) : List DatabaseEvent → Prop where
  | unused (front : List DatabaseEvent) (hfront : Preliminaries front) : Uses q front
  | closed (front : List DatabaseEvent) (n : Nat) (hfront : Preliminaries front) :
      Uses q (front ++ q.executing n ++ [.closeCursor n (some cursorName)])
  | leftOpen (front : List DatabaseEvent) (n : Nat) (hfront : Preliminaries front) :
      Uses q (front ++ q.executing n)

/-- Is the cursor of a query closed once if it is opened? -/
def ClosesCursor (events : List DatabaseEvent) : Prop :=
  ∀ n, .openCursor n (some cursorName) ∈ events →
    events.count (.closeCursor n (some cursorName)) = 1

theorem not_preliminary_openCursor (n : Nat) (name : String) :
    ¬ Preliminary (.openCursor n (some name)) :=
  nofun

theorem not_preliminary_closeCursor (n : Nat) (name : String) :
    ¬ Preliminary (.closeCursor n (some name)) :=
  nofun

theorem not_preliminary_execution (q : Query) (n : Nat) : ¬ Preliminary (q.execution n) := nofun

theorem closesCursor_preliminaries (h : Preliminaries front) : ClosesCursor front :=
  fun n hmem => absurd (h _ hmem) (not_preliminary_openCursor n _)

theorem count_closeCursor_executing (q : Query) (h : Preliminaries front) (m n : Nat) :
    (front ++ q.executing m).count (.closeCursor n (some cursorName)) = 0 := by
  refine List.count_eq_zero_of_not_mem fun hmem => ?_
  rcases List.mem_append.1 hmem with hfront | hexecuting
  · exact not_preliminary_closeCursor n _ (h _ hfront)
  · simp [executing, execution] at hexecuting

theorem eq_of_openCursor_mem (h : Preliminaries front) {m : Nat}
    (hmem : .openCursor n (some cursorName) ∈ front ++ q.executing m) : n = m := by
  rcases List.mem_append.1 hmem with hfront | hexecuting
  · exact absurd (h _ hfront) (not_preliminary_openCursor n _)
  · simpa [executing, execution] using hexecuting

theorem closesCursor_closed (q : Query) (h : Preliminaries front) (n : Nat) :
    ClosesCursor (front ++ q.executing n ++ [.closeCursor n (some cursorName)]) := by
  intro m hmem
  have hopened : .openCursor m (some cursorName) ∈ front ++ q.executing n := by simpa using hmem
  rw [eq_of_openCursor_mem h hopened, List.count_append, count_closeCursor_executing q h]
  simp

theorem not_closesCursor_leftOpen (q : Query) (h : Preliminaries front) (n : Nat) :
    ¬ ClosesCursor (front ++ q.executing n) := by
  intro hcloses
  have hclosed := hcloses n (by simp [executing])
  rw [count_closeCursor_executing q h] at hclosed
  exact Nat.zero_ne_one hclosed

/-! ### Where a query stands -/

/-- Where a query stands whose client was `c` before anything was asked: what has been asked since,
and the connection of the open cursor. -/
inductive Standing (q : Query) (c c' : Client) (cursor? : Option Nat) : Prop where
  | unexecuted (front : List DatabaseEvent) (hfront : Preliminaries front)
      (hevents : c'.events = c.events ++ front) (hcursor : cursor? = none)
  | refused (front : List DatabaseEvent) (n : Nat) (hfront : Preliminaries front)
      (hevents : c'.events = c.events ++
      (front ++ q.executing n ++ [.closeCursor n (some cursorName)]))
      (hcursor : cursor? = none) (herror : c.database.queryError?.isSome)
  | running (front : List DatabaseEvent) (n : Nat) (hfront : Preliminaries front)
      (hevents : c'.events = c.events ++ (front ++ q.executing n)) (hcursor : cursor? = some n)
      (hanswered : c.database.queryError? = none)

/-- A first request for rows or columns leaves a query in one of the ways of `Standing`. -/
theorem Executing.standing {outcome : Except Failure Unit} (h : Executing q state outcome state')
    (hcursor : state.cursor? = none) : q.Standing state.client state'.client state'.cursor? := by
  cases h with
  | running n hrunning => exact absurd (hrunning.symm.trans hcursor) nofun
  | refused c failure _ hgetting =>
      obtain ⟨front, hfront, hevents⟩ := hgetting.prepares
      exact .unexecuted front hfront hevents hcursor
  | failed n c failure _ hgetting herror =>
      obtain ⟨front, hfront, hevents⟩ := hgetting.prepares
      refine .refused front n hfront ?_ hcursor (hgetting.follows.1 ▸ herror)
      simp only [Client.noting, hevents, List.append_assoc]
  | executed n c _ hgetting hanswered =>
      obtain ⟨front, hfront, hevents⟩ := hgetting.prepares
      refine .running front n hfront ?_ rfl (hgetting.follows.1 ▸ hanswered)
      simp only [Client.noting, hevents, List.append_assoc]

theorem Executing.database_eq {outcome : Except Failure Unit}
    (h : Executing q state outcome state') : state'.client.database = state.client.database := by
  cases h with
  | running n _ => rfl
  | refused c failure _ hgetting => exact hgetting.follows.1
  | failed n c failure _ hgetting _ => exact hgetting.follows.1
  | executed n c _ hgetting _ => exact hgetting.follows.1

theorem Executing.cursor?_eq_none {failure : Failure}
    (h : Executing q state (.error failure) state') : state'.cursor? = none := by
  cases h with
  | refused c _ hcursor _ => exact hcursor
  | failed n c _ hcursor _ _ => exact hcursor

theorem Describing.standing {outcome : Except Failure (List Column)}
    (h : Describing q state outcome state') (hcolumns : state.columns? = none)
    (hcursor : state.cursor? = none) :
    q.Standing state.client state'.client state'.cursor? := by
  cases h with
  | known columns hknown => exact absurd (hknown.symm.trans hcolumns) nofun
  | refused failure _ _ hexecuting => exact hexecuting.standing hcursor
  | undescribed _ _ hexecuting _ => exact hexecuting.standing hcursor
  | described columns d _ hexecuting _ =>
      have hstanding := hexecuting.standing hcursor
      exact hstanding

/-- A query whose cursor is open has told its columns if there are any. -/
theorem Describing.ok_iff {outcome : Except Failure (List Column)}
    (h : Describing q state outcome state') (hcolumns : state.columns? = none)
    (hopen : state'.cursor?.isSome) :
    (∃ columns, outcome = .ok columns) ↔ state.client.database.description?.isSome := by
  cases h with
  | known columns hknown => exact absurd (hknown.symm.trans hcolumns) nofun
  | refused failure _ _ hexecuting => exact absurd (hexecuting.cursor?_eq_none ▸ hopen) nofun
  | undescribed _ _ hexecuting hresult =>
      rw [hexecuting.database_eq] at hresult
      rw [hresult]
      exact iff_of_false nofun nofun
  | described columns d _ hexecuting hresult =>
      exact iff_of_true ⟨columns, rfl⟩ (hexecuting.database_eq ▸ hresult)

/-- What has been used of the cursor when the rows are not reached. -/
theorem Standing.uses {cursor? : Option Nat} {reached : Prop} (h : q.Standing c c' cursor?)
    (hreached : cursor?.isSome → ¬ reached) :
    ∃ new, c'.events = c.events ++ new ∧ q.Uses new ∧
      (ClosesCursor new ↔ (∀ n, q.execution n ∉ new) ∨
        c.database.queryError?.isSome ∨ reached) := by
  cases h with
  | unexecuted front hfront hevents _ =>
      refine ⟨front, hevents, .unused front hfront,
        iff_of_true (closesCursor_preliminaries hfront) (.inl ?_)⟩
      exact fun n hmem => not_preliminary_execution q n (hfront _ hmem)
  | refused front n hfront hevents _ herror =>
      exact ⟨_, hevents, .closed front n hfront,
        iff_of_true (closesCursor_closed q hfront n) (.inr (.inl herror))⟩
  | running front n hfront hevents hcursor hanswered =>
      refine ⟨_, hevents, .leftOpen front n hfront,
        iff_of_false (not_closesCursor_leftOpen q hfront n) ?_⟩
      rintro (hnone | herror | hrows)
      · exact hnone n (by simp [executing])
      · rw [hanswered] at herror
        cases herror
      · exact hreached (by rw [hcursor]; rfl) hrows

/-- What has been used of the cursor when the rows have ended. -/
theorem Standing.uses_stopped {reached : Prop} (h : q.Standing c state.client state.cursor?)
    (hopen : state.cursor?.isSome) (hreached : reached) :
      ∃ new, state.stopped.client.events = c.events ++ new ∧
      q.Uses new ∧ (ClosesCursor new ↔ (∀ n, q.execution n ∉ new) ∨
      c.database.queryError?.isSome ∨ reached) := by
  cases h with
  | unexecuted front _ _ hclosed => exact absurd (hclosed ▸ hopen) nofun
  | refused front n _ _ hclosed _ => exact absurd (hclosed ▸ hopen) nofun
  | running front n hfront hevents hcursor _ =>
      refine ⟨_, ?_, .closed front n hfront,
        iff_of_true (closesCursor_closed q hfront n) (.inr (.inr hreached))⟩
      simp only [QueryState.stopped, hcursor, Client.noting, hevents, List.append_assoc]

end Query

namespace Exporter

open Query (ClosesCursor)

/-- An export of a fresh query executes it once at most, and on its cursor. However it ends, the
cursor is closed just once, unless the query was executed and then either has no result columns or
no table is found for it. -/
theorem closesCursor_iff (e : Exporter) (q : Query) (s : Logged (Sourced QueryState))
    (hcolumns : s.state.2.columns? = none) (hcursor : s.state.2.cursor? = none) :
    let c := s.state.2.client
    let c' := ((e.script q.source).run s).2.state.2.client
    ∃ new, c'.events = c.events ++ new ∧ q.Uses new ∧
      (ClosesCursor new ↔ (∀ n, q.execution n ∉ new) ∨ c.database.queryError?.isSome ∨
        c.database.description?.isSome ∧ e.FindsTable q) := by
  intro c c'
  obtain ⟨outcome, state', hdescribing, hstate, hreached⟩ := e.prepare_describing q s
  have hstanding := hdescribing.standing hcolumns hcursor
  cases hprepare : e.prepare q.source s with
  | error failure t =>
      have hend : c' = state'.client := by
        change ((e.script q.source).run s).2.state.2.client = _
        rw [script_eq, Step.run_bind_of_error hprepare, ← hstate, Step.run_of_error hprepare]
      rw [hend]
      refine hstanding.uses fun hopen hrows => ?_
      obtain ⟨name, u, hprepared⟩ :=
        hreached.2 ⟨(hdescribing.ok_iff hcolumns hopen).2 hrows.1, hrows.2⟩
      cases hprepare.symm.trans hprepared
  | ok name t =>
      obtain ⟨⟨columns, rfl⟩, hfinds⟩ := hreached.1 ⟨name, t, hprepare⟩
      have hopen := hdescribing.isSome_cursor? hcolumns
      have hend : c' = state'.stopped.client := by
        rw [Step.run_of_ok hprepare] at hstate
        change ((e.script q.source).run s).2.state.2.client = _
        rw [script_eq, Step.run_bind_of_ok hprepare, rows_stop name (hstate ▸ hopen), hstate]
      rw [hend]
      exact hstanding.uses_stopped hopen
        ⟨(hdescribing.ok_iff hcolumns hopen).1 ⟨columns, rfl⟩, hfinds⟩

/-- The connection is lost behind the first row, and the cursor is closed all the same. -/
theorem closesCursor_iff_lost :
    let e := Exporter.make none {} (.empty #[])
    let q : Query :=
      { plan := { parameters :=
                    { host := "localhost", port := 5432, database := "shop", user := "reader" }
                  lifetime := { days := 0, seconds := 1800, microseconds := 0 } }
        statement := .text "SELECT id FROM t", fetchSize := 50 }
    let database : Database :=
      { description? := some [("id", 23)],
        rows := [.ok [.int 1], .error (.database "OperationalError" "lost")] }
    let s : Logged (Sourced QueryState) :=
      ⟨{}, { renderer := .literals { dialect := .generic } }, { client := { database } }⟩
    s.state.2.columns? = none ∧ s.state.2.cursor? = none ∧
      ((e.script q.source).run s).1.isOk = false ∧
      ∃ new, ((e.script q.source).run s).2.state.2.client.events = new ∧ q.Uses new ∧
        ClosesCursor new := by
  intro e q database s
  obtain ⟨new, hevents, huses, hiff⟩ := closesCursor_iff e q s rfl rfl
  have hfinds : e.FindsTable q := .inr ⟨some "t", by decide⟩
  exact ⟨rfl, rfl, by decide +kernel, new, hevents, huses, hiff.2 (.inr (.inr ⟨rfl, hfinds⟩))⟩

/-- A statement without a result leaves its cursor open. -/
theorem not_closesCursor_undescribed :
    let e := Exporter.make none {} (.empty #[])
    let q : Query :=
      { plan := { parameters :=
                    { host := "localhost", port := 5432, database := "shop", user := "reader" }
                  lifetime := { days := 0, seconds := 1800, microseconds := 0 } }
        statement := .text "SET x = 1" }
    let s : Logged (Sourced QueryState) :=
      ⟨{}, { renderer := .literals { dialect := .generic } },
        { client := { database := { description? := none } } }⟩
    let c' := ((e.script q.source).run s).2.state.2.client
    ((e.script q.source).run s).1 = .error .noResultColumns ∧
      c'.events = .prompt Client.passwordQuestion :: .connect 0 q.plan.parameters "" ::
        Client.restricting 0 ++ q.executing 0 ∧ ¬ ClosesCursor c'.events := by
  intro e q s c'
  have hfront : Client.Preliminaries
      (.prompt Client.passwordQuestion :: .connect 0 q.plan.parameters "" ::
        Client.restricting 0) :=
    List.forall_mem_cons.2 ⟨.prompt _,
      List.forall_mem_cons.2 ⟨.connect _ _ _, Client.preliminaries_restricting 0⟩⟩
  have hevents : c'.events = .prompt Client.passwordQuestion :: .connect 0 q.plan.parameters "" ::
      Client.restricting 0 ++ q.executing 0 := rfl
  have hopen := Query.not_closesCursor_leftOpen q hfront 0
  rw [← hevents] at hopen
  exact ⟨rfl, hevents, hopen⟩

end Exporter

end InsertScript
