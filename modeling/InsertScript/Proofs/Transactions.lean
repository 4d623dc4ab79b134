import Mathlib.Data.List.Induction
import InsertScript.Proofs.Executions

/-!
# Transactions of a connection

A connection is not in autocommit mode: the first statement that is executed on it begins a
transaction, which lasts until it is committed or rolled back or the connection is closed.
Restricting a connection to reading is itself a statement, and it applies to the transactions that
begin after it only.

Nothing is committed between the restriction and the query, so the query runs in the transaction
that the restriction began, which is not restricted (`Query.transaction_of_execution`). This holds
in whatever order a client is asked for its connection, or to close it, and the query for its
columns and rows: `Query.Sound` is kept by each of these.
-/

namespace InsertScript

open Client (Closing Dropping Getting Opening Prompts restricting restriction)

namespace DatabaseEvent

/-! ### Where a transaction began -/

/-- The statements that end a transaction. -/
def endings : List Choice := [.text "COMMIT", .text "ROLLBACK"]

/-- Is a statement executed on the connection? -/
def executesOn (n : Nat) : DatabaseEvent → Bool
  | .execute m _ _ _ => m == n
  | _ => false

/-- Does the event end a transaction of the connection? What is executed with a named cursor is a
query. -/
def endsOn (n : Nat) : DatabaseEvent → Bool
  | .connect m _ _ => m == n
  | .close m => m == n
  | .execute m none statement _ => m == n && endings.contains statement
  | _ => false

/-- Where the transaction of a connection began after an event at some place, if one is open. -/
def beginningAfter (n place : Nat) (begun? : Option Nat) (event : DatabaseEvent) : Option Nat :=
  if event.endsOn n then none
  else if event.executesOn n then some (begun?.getD place)
  else begun?

/-- Where the transaction of a connection began that is open after some more events, the first of
which is at this place. -/
def beginningFrom (n place : Nat) (begun? : Option Nat) : List DatabaseEvent → Option Nat
  | [] => begun?
  | event :: rest => beginningFrom n (place + 1) (beginningAfter n place begun? event) rest

/-- Where the transaction of a connection began that is open after a history. -/
def beginning? (n : Nat) (history : List DatabaseEvent) : Option Nat :=
  beginningFrom n 0 none history

variable {n place : Nat} {begun? : Option Nat} {event : DatabaseEvent}
  {history new : List DatabaseEvent}

theorem beginningFrom_append (n place : Nat) (begun? : Option Nat)
    (history new : List DatabaseEvent) :
    beginningFrom n place begun? (history ++ new)
      = beginningFrom n (place + history.length) (beginningFrom n place begun? history) new := by
  induction history generalizing place begun? with
  | nil => rfl
  | cons event history ih =>
      rw [List.cons_append, beginningFrom, beginningFrom, ih, List.length_cons,
        show place + 1 + history.length = place + (history.length + 1) by omega]

/-- Without a statement no transaction begins. -/
theorem beginningFrom_none (h : ∀ event ∈ history, event.executesOn n = false) :
    beginningFrom n place none history = none := by
  induction history generalizing place with
  | nil => rfl
  | cons event history ih =>
      have hafter : beginningAfter n place none event = none := by
        rw [beginningAfter, h event List.mem_cons_self]
        simp
      rw [beginningFrom, hafter]
      exact ih fun event hevent => h event (List.mem_cons_of_mem _ hevent)

/-- A transaction that nothing ends is still the same. -/
theorem beginningFrom_some {beginning : Nat} (h : ∀ event ∈ history, event.endsOn n = false) :
    beginningFrom n place (some beginning) history = some beginning := by
  induction history generalizing place with
  | nil => rfl
  | cons event history ih =>
      have hafter : beginningAfter n place (some beginning) event = some beginning := by
        rw [beginningAfter, h event List.mem_cons_self]
        simp
      rw [beginningFrom, hafter]
      exact ih fun event hevent => h event (List.mem_cons_of_mem _ hevent)

theorem executesOn_restriction (n : Nat) : (restriction n).executesOn n = true := beq_self_eq_true n

theorem endsOn_restriction (m n : Nat) : (restriction m).endsOn n = false := by
  have hother : endings.contains (.text Client.readOnlyStatement) = false := by decide
  simp only [restriction, endsOn, hother, Bool.and_false]

/-! ### Restricted connections -/

/-- Has a connection been restricted to reading before anything else was executed on it, and does
the transaction last that this began? -/
def Begun (database : Database) (n : Nat) (history : List DatabaseEvent) : Prop :=
  Database.errorAt? database.readOnlyErrors n = none ∧
    ∃ before after, history = before ++ restriction n :: after ∧
    (∀ event ∈ before, event.executesOn n = false) ∧ ∀ event ∈ after, event.endsOn n = false

variable {database : Database}

theorem Begun.append (h : Begun database n history) (hnew : ∀ event ∈ new, event.endsOn n = false) :
    Begun database n (history ++ new) := by
  obtain ⟨haccepted, before, after, rfl, hbefore, hafter⟩ := h
  refine ⟨haccepted, before, after ++ new, ?_, hbefore, List.forall_mem_append.2 ⟨hafter, hnew⟩⟩
  rw [List.append_assoc, List.cons_append]

theorem Begun.restriction_mem (h : Begun database n history) : restriction n ∈ history := by
  obtain ⟨-, before, after, rfl, -, -⟩ := h
  exact List.mem_append_right _ List.mem_cons_self

/-- The transaction began with the restriction, which was not executed before. -/
theorem Begun.beginning (h : Begun database n history) :
    ∃ place, beginning? n history = some place ∧
    history[place]? = some (restriction n) ∧
    ∀ earlier < place, history[earlier]? ≠ some (restriction n) := by
  obtain ⟨-, before, after, rfl, hbefore, hafter⟩ := h
  refine ⟨before.length, ?_, ?_, ?_⟩
  · have hrestricted : beginningAfter n (0 + before.length) none (restriction n) =
        some before.length := by
      rw [beginningAfter, endsOn_restriction, executesOn_restriction]
      simp
    rw [beginning?, beginningFrom_append, beginningFrom_none hbefore, beginningFrom, hrestricted,
      beginningFrom_some hafter]
  · rw [List.getElem?_append_right (Nat.le_refl _), Nat.sub_self, List.getElem?_cons_zero]
  · intro earlier hearlier hrestricted
    rw [List.getElem?_append_left hearlier] at hrestricted
    have hexecutes := hbefore _ (List.mem_of_getElem? hrestricted)
    exact absurd ((executesOn_restriction n).symm.trans hexecutes) nofun

end DatabaseEvent

open DatabaseEvent (Begun beginning?)

namespace Query

variable {q : Query} {c c' : Client} {n : Nat} {open? open'? : Option Nat}
  {new : List DatabaseEvent}

/-- Does every execution of the query take place in a transaction that is restricted to reading?
Such a transaction begins after the connection was restricted; if none is open the execution begins
one. -/
def ReadsOnly (q : Query) (c : Client) : Prop :=
  ∀ before n, before ++ [q.execution n] <+: c.events →
    ∃ place, before[place]? = some (restriction n) ∧
    Database.errorAt? c.database.readOnlyErrors n = none ∧
    place < (beginning? n before).getD before.length

/-! ### What every request keeps -/

/-- Are the numbers of new connections unused, and has the transaction of the open connection, and
that of every execution, begun with the restriction? -/
structure Sound (q : Query) (c : Client) (open? : Option Nat) : Prop where
  lt_opened : ∀ event ∈ c.events, ∀ n, event.executesOn n = true → n < c.opened
  begun : ∀ n, open? = some n → Begun c.database n c.events
  executed : ∀ before n, before ++ [q.execution n] <+: c.events → Begun c.database n before

/-- Are these events no executions of the query, and about connections that have been opened? -/
def Plain (q : Query) (opened : Nat) (new : List DatabaseEvent) : Prop :=
  ∀ event ∈ new, (∀ n, event.executesOn n = true → n < opened) ∧ ∀ n, event ≠ q.execution n

theorem prefix_of_append {before history : List DatabaseEvent} {event : DatabaseEvent}
    (h : before ++ [event] <+: history ++ new) (hnew : event ∉ new) :
    before ++ [event] <+: history := by
  induction new using List.reverseRecOn with
  | nil => rwa [List.append_nil] at h
  | append_singleton new last ih =>
      rw [← List.append_assoc] at h
      rcases List.prefix_concat_iff.1 h with heq | hreached
      · obtain ⟨-, hlast⟩ := List.append_inj' heq rfl
        exact absurd (List.mem_append_right _ (by simpa using hlast)) hnew
      · exact ih hreached fun hmem => hnew (List.mem_append_left _ hmem)

/-- Plain events keep a client sound if the transaction of the connection that is open then has
begun. -/
theorem Sound.append (h : Sound q c open?) (hdatabase : c'.database = c.database)
    (hevents : c'.events = c.events ++ new) (hopened : c.opened ≤ c'.opened)
    (hplain : q.Plain c'.opened new)
    (hbegun : ∀ n, open'? = some n → Begun c.database n (c.events ++ new)) : Sound q c' open'? := by
  refine ⟨?_, ?_, ?_⟩
  · intro event hevent n hexecutes
    rw [hevents] at hevent
    rcases List.mem_append.1 hevent with hold | hnew
    · exact Nat.lt_of_lt_of_le (h.lt_opened event hold n hexecutes) hopened
    · exact (hplain event hnew).1 n hexecutes
  · intro n hn
    rw [hdatabase, hevents]
    exact hbegun n hn
  · intro before n hreached
    rw [hevents] at hreached
    rw [hdatabase]
    exact h.executed before n (prefix_of_append hreached fun hmem => (hplain _ hmem).2 n rfl)

theorem Plain.append {opened : Nat} {more : List DatabaseEvent} (h : q.Plain opened new)
    (hmore : q.Plain opened more) :
    q.Plain opened (new ++ more) := List.forall_mem_append.2 ⟨h, hmore⟩

theorem plain_singleton {opened : Nat} {event : DatabaseEvent}
    (hexecutes : ∀ n, event.executesOn n = false) (hother : ∀ n, event ≠ q.execution n) :
    q.Plain opened [event] := by
  intro found hfound
  cases List.mem_singleton.1 hfound
  exact ⟨fun n hn => absurd (hn.symm.trans (hexecutes n)) nofun, hother⟩

theorem plain_restricting {opened : Nat} (h : n < opened) : q.Plain opened (restricting n) := by
  intro event hevent
  simp only [restricting, List.mem_cons, List.not_mem_nil, or_false] at hevent
  rcases hevent with rfl | rfl | rfl
  · refine ⟨fun m hm => ?_, fun m heq => ?_⟩
    · cases hm
    · cases heq
  · refine ⟨fun m hm => ?_, fun m heq => ?_⟩
    · rwa [← beq_iff_eq.1 (show (n == m) = true from hm)]
    · cases heq
  · refine ⟨fun m hm => ?_, fun m heq => ?_⟩
    · cases hm
    · cases heq

theorem plain_prompts {opened : Nat} {prompts : List DatabaseEvent} (h : Prompts prompts) :
    q.Plain opened prompts := by
  intro event hevent
  rw [h event hevent]
  exact ⟨nofun, nofun⟩

theorem plain_close (opened n : Nat) : q.Plain opened [.close n] :=
  plain_singleton (fun _ => rfl) nofun

theorem Sound.givenUp (h : Sound q c open?) (n : Nat) : Sound q (c.givenUp n) none :=
  h.append rfl rfl (Nat.le_refl _) (plain_close _ n) nofun

theorem Sound.dropping {plan : ConnectionPlan} {outcome : Except Failure Unit}
    (h : Sound q c c.held?) (hdropping : Dropping plan c outcome c') : Sound q c' c'.held? := by
  cases hdropping with
  | current _ => exact h
  | expired n _ _ _ => exact h.givenUp n

theorem Sound.closing {outcome : Except Failure Unit} (h : Sound q c c.held?)
    (hclosing : Closing c outcome c') : Sound q c' c'.held? := by
  cases hclosing with
  | idle _ => exact h
  | closed n _ _ => exact h.givenUp n
  | failed n e _ _ => exact h.givenUp n

/-- What is asked when a new connection is opened. -/
theorem Sound.asking (h : Sound q c open?) (plan : ConnectionPlan) {prompts : List DatabaseEvent}
    (hprompts : Prompts prompts) (password : String) :
    Sound q (c.asking plan prompts password) none :=
  h.append rfl rfl (Nat.le_succ _) ((plain_prompts hprompts).append
    (plain_singleton (fun _ => rfl) nofun)) nofun

/-- Nothing was executed before on a connection that has just been opened. -/
theorem Sound.begun_restricting {plan : ConnectionPlan} {prompts : List DatabaseEvent}
    {password : String} (h : Sound q c open?) (hprompts : Prompts prompts)
    (haccepted : Database.errorAt? c.database.readOnlyErrors c.opened = none) :
    Begun c.database c.opened ((c.asking plan prompts password).events ++
      restricting c.opened) := by
  refine ⟨haccepted, (c.asking plan prompts password).events ++ [.openCursor c.opened none],
    [.closeCursor c.opened none], ?_, ?_, ?_⟩
  · rw [List.append_assoc]
    rfl
  · intro event hevent
    rcases List.mem_append.1 hevent with hasked | hcursor
    · rcases List.mem_append.1 hasked with hold | hnew
      · exact Bool.eq_false_iff.2 fun hexecutes =>
          Nat.lt_irrefl _ (h.lt_opened event hold _ hexecutes)
      · rcases List.mem_append.1 hnew with hprompt | hconnect
        · rw [hprompts event hprompt]
          rfl
        · rw [List.mem_singleton.1 hconnect]
          rfl
    · rw [List.mem_singleton.1 hcursor]
      rfl
  · intro event hevent
    rw [List.mem_singleton.1 hevent]
    rfl

theorem Sound.opening {plan : ConnectionPlan} {outcome : Except Failure Nat} (h : Sound q c open?)
    (hopening : Opening plan c outcome c') : Sound q c' outcome.toOption := by
  cases hopening with
  | refused prompts password e hprompts _ => exact h.asking plan hprompts password
  | unrestricted prompts password e failure hprompts _ _ =>
      exact (h.asking plan hprompts password).append rfl rfl (Nat.le_refl _)
        ((plain_restricting (Nat.lt_succ_self _)).append (plain_close _ _)) nofun
  | ready prompts password hprompts _ hrestricted =>
      have hplain : q.Plain (c.opened + 1) (restricting c.opened) :=
        plain_restricting (Nat.lt_succ_self _)
      refine (h.asking plan hprompts password).append rfl rfl (Nat.le_refl _) hplain ?_
      rintro _ ⟨⟩
      exact h.begun_restricting hprompts hrestricted

/-- A request for a connection keeps a client sound, and returns the one that is held. -/
theorem Sound.getting {plan : ConnectionPlan} {outcome : Except Failure Nat} (h : Sound q c c.held?)
    (hgetting : Getting plan c outcome c') :
    Sound q c' c'.held? ∧ ∀ n, outcome = .ok n → c'.held? = some n := by
  cases hgetting with
  | stuck n failure _ _ => exact ⟨h.givenUp n, nofun⟩
  | reused n _ hheld =>
      rw [hheld] at h
      refine ⟨⟨h.lt_opened, h.begun, h.executed⟩, ?_⟩
      rintro _ ⟨⟩
      rfl
  | refused d _ failure hdropping hnone hopening =>
      obtain ⟨hlt, hbegun, hexecuted⟩ := h.dropping hdropping
      have hfailed := Sound.opening (c := d.elapsed) ⟨hlt, hbegun, hexecuted⟩ hopening
      have hheld : c'.held? = none := hopening.unchanged_of_error.1.trans hnone
      rw [hheld]
      exact ⟨hfailed, nofun⟩
  | opened n d c' hdropping hnone hopening =>
      obtain ⟨hlt, hbegun, hexecuted⟩ := h.dropping hdropping
      obtain ⟨hlt, hbegun, hexecuted⟩ :=
        Sound.opening (c := d.elapsed) ⟨hlt, hbegun, hexecuted⟩ hopening
      refine ⟨⟨hlt, hbegun, hexecuted⟩, ?_⟩
      rintro _ ⟨⟩
      rfl

/-- What is asked about a cursor changes nothing of it. -/
theorem Sound.cursor {event : DatabaseEvent} (h : Sound q c open?)
    (hexecutes : ∀ n, event.executesOn n = false) (hother : ∀ n, event ≠ q.execution n)
    (hends : ∀ n, event.endsOn n = false) :
    Sound q (c.noting [event]) open? := by
  refine h.append rfl rfl (Nat.le_refl _) (plain_singleton hexecutes hother) fun n hn =>
    (h.begun n hn).append ?_
  intro found hfound
  rw [List.mem_singleton.1 hfound]
  exact hends n

/-- The query is executed in the transaction of the open connection. -/
theorem Sound.execution (h : Sound q c (some n)) : Sound q (c.noting [q.execution n]) (some n) := by
  have hbegun := h.begun n rfl
  refine ⟨?_, ?_, ?_⟩
  · intro event hevent m hexecutes
    rcases List.mem_append.1 hevent with hold | hnew
    · exact h.lt_opened event hold m hexecutes
    · cases List.mem_singleton.1 hnew
      rw [← beq_iff_eq.1 (show (n == m) = true from hexecutes)]
      exact h.lt_opened _ hbegun.restriction_mem n (DatabaseEvent.executesOn_restriction n)
  · rintro _ ⟨⟩
    refine hbegun.append fun event hevent => ?_
    rw [List.mem_singleton.1 hevent]
    rfl
  · intro before m hreached
    rcases List.prefix_concat_iff.1 hreached with heq | hearlier
    · obtain ⟨rfl, hlast⟩ := List.append_inj' heq rfl
      cases hlast
      exact hbegun
    · exact h.executed before m hearlier

theorem Sound.executing (h : Sound q c (some n)) : Sound q (c.noting (q.executing n)) (some n) := by
  have hopened : Sound q (c.noting [.openCursor n (some cursorName)]) (some n) :=
    h.cursor (fun _ => rfl) nofun fun _ => rfl
  have hexecuted := hopened.execution
  rwa [Client.noting_noting] at hexecuted

theorem Sound.closeCursor (h : Sound q c open?) (n : Nat) :
    Sound q (c.noting [.closeCursor n (some cursorName)]) open? :=
  h.cursor (fun _ => rfl) nofun fun _ => rfl

variable {state state' : QueryState}

/-- Is the client of a query sound? -/
def IsSound (q : Query) (state : QueryState) : Prop := Sound q state.client state.client.held?

/-- Making sure of the execution keeps the client of a query sound. -/
theorem IsSound.executing {outcome : Except Failure Unit} (h : q.IsSound state)
    (hexecuting : Executing q state outcome state') : q.IsSound state' := by
  cases hexecuting with
  | running n _ => exact h
  | refused c failure _ hgetting => exact (Sound.getting h hgetting).1
  | failed n c failure _ hgetting =>
      obtain ⟨hsound, hheld⟩ := Sound.getting h hgetting
      rw [hheld n rfl] at hsound
      have hexecuted :
          Sound q ((c.noting (q.executing n)).noting [.closeCursor n (some cursorName)])
          c.held? := by
        rw [hheld n rfl]
        exact hsound.executing.closeCursor n
      rwa [Client.noting_noting] at hexecuted
  | executed n c _ hgetting =>
      obtain ⟨hsound, hheld⟩ := Sound.getting h hgetting
      rw [hheld n rfl] at hsound
      have hexecuted : Sound q (c.noting (q.executing n)) c.held? := by
        rw [hheld n rfl]
        exact hsound.executing
      exact hexecuted

theorem IsSound.describing {outcome : Except Failure (List Column)} (h : q.IsSound state)
    (hdescribing : Describing q state outcome state') : q.IsSound state' := by
  cases hdescribing with
  | known columns _ => exact h
  | refused failure _ _ hexecuting => exact h.executing hexecuting
  | undescribed _ _ hexecuting => exact h.executing hexecuting
  | described columns _ _ hexecuting =>
      have hexecuted := h.executing hexecuting
      exact hexecuted

theorem IsSound.stopped (h : q.IsSound state) : q.IsSound state.stopped := by
  unfold QueryState.stopped
  cases state.cursor? with
  | none => exact h
  | some n => exact Sound.closeCursor h n

/-! ### Runs of requests -/

/-- What may be asked of a query and of the client that it uses. -/
inductive Request where
  | connection | close | columns | start | stop
deriving DecidableEq, Repr

/-- Does what is asked. -/
def perform (q : Query) : Request → Step QueryState Unit
  | .connection => do let _ ← onClient (Client.getConnection q.plan)
  | .close => onClient Client.close
  | .columns => do let _ ← q.columns
  | .start => do let _ ← q.start
  | .stop => stop

/-- What requests leave, one after another. A request that fails does not keep the next one from
being made. -/
def serve (q : Query) (requests : List Request) (s : Logged QueryState) : Logged QueryState :=
  requests.foldl (fun s request => ((q.perform request).run s).2) s

/-- Every request to a query does. -/
theorem IsSound.performed {s : Logged QueryState} (h : q.IsSound s.state) (request : Request) :
    q.IsSound ((q.perform request).run s).2.state := by
  have hforget {α : Type} (step : Step QueryState α) :
      ((do let _ ← step : Step QueryState Unit).run s).2 = (step.run s).2 := by
    cases hs : step s with
    | ok a t => rw [Step.run_bind_of_ok hs, Step.run_of_ok hs]; rfl
    | error failure t => rw [Step.run_bind_of_error hs, Step.run_of_error hs]
  cases request with
  | connection =>
      obtain ⟨outcome, log, c, hrun, hgetting⟩ :=
        Client.getConnection_getting q.plan s.log s.state.client
      rw [perform, hforget, onClient_run s.state hrun]
      exact (Sound.getting h hgetting).1
  | close =>
      obtain ⟨outcome, c, hrun, hclosing⟩ := Client.close_closing s.log s.state.client
      rw [perform, onClient_run s.state hrun]
      exact Sound.closing h hclosing
  | columns =>
      obtain ⟨outcome, log, state', hrun, hdescribing⟩ := q.columns_describing s.log s.state
      rw [perform, hforget, hrun]
      exact h.describing hdescribing
  | start =>
      obtain ⟨outcome, log, state', hrun, hexecuting⟩ := q.start_executing s.log s.state
      rw [perform, hforget, hrun]
      exact h.executing hexecuting
  | stop =>
      rw [perform, Step.run_of_ok (stop_apply s.log s.state)]
      exact h.stopped

theorem IsSound.served {s : Logged QueryState} (h : q.IsSound s.state) (requests : List Request) :
    q.IsSound (q.serve requests s).state := by
  induction requests generalizing s with
  | nil => exact h
  | cons request requests ih => exact ih (h.performed request)

/-- Whatever is asked of a query and its client, in whatever order, whatever the database answers
and however the clock goes: every execution takes place in the transaction that restricting its
connection began. So no execution takes place in a transaction that is restricted to reading. -/
theorem transaction_of_execution (q : Query) (requests : List Request) (database : Database)
    (environment : Environment) (typedPassword : String) (password? : Option String) (clock : Int)
    (delays : List Int) (log : Log) :
    let c := (q.serve requests
      ⟨log, { client := { database, environment, typedPassword, password?, clock, delays }
        }⟩).state.client
    (∀ before n, before ++ [q.execution n] <+: c.events →
      ∃ place, beginning? n before = some place ∧
      before[place]? = some (restriction n) ∧
      Database.errorAt? c.database.readOnlyErrors n = none) ∧
    (q.ReadsOnly c ↔ ∀ n, q.execution n ∉ c.events) := by
  intro c
  have hstart :
      q.IsSound { client := { database, environment, typedPassword, password?, clock, delays } } :=
    ⟨nofun, nofun, fun before n hreached => absurd (List.prefix_nil.1 hreached) (by simp)⟩
  obtain ⟨-, -, hexecuted⟩ := hstart.served (s := ⟨log, _⟩) requests
  refine ⟨?_, ?_, ?_⟩
  · intro before n hreached
    have hbegun := hexecuted before n hreached
    obtain ⟨place, hplace, hrestricted, -⟩ := hbegun.beginning
    exact ⟨place, hplace, hrestricted, hbegun.1⟩
  · intro hreads n hmem
    obtain ⟨before, after, hsplit⟩ := List.append_of_mem hmem
    have hreached : before ++ [q.execution n] <+: c.events :=
      ⟨after, by rw [hsplit, List.append_assoc]; rfl⟩
    obtain ⟨place, hplace, -, hunique⟩ := (hexecuted before n hreached).beginning
    obtain ⟨earlier, hrestricted, -, hearlier⟩ := hreads before n hreached
    rw [hplace] at hearlier
    exact hunique earlier hearlier hrestricted
  · intro hnone before n hreached
    exact absurd (hreached.subset (List.mem_append_right _ (List.mem_singleton_self _))) (hnone n)

/-- A query whose columns are asked for is executed in the transaction that the restriction
began. -/
theorem not_readsOnly_columns :
    let q : Query :=
      { plan := { parameters :=
                    { host := "localhost", port := 5432, database := "shop", user := "reader" }
                  lifetime := { days := 0, seconds := 1800, microseconds := 0 } }
        statement := .text "SELECT id FROM t" }
    let state : QueryState :=
      { client :=
          { database := { description? := some [("id", 23)] }, password? := some "secret" } }
    ¬ q.ReadsOnly (q.serve [.columns] ⟨{}, state⟩).state.client := by
  intro q state hreads
  let before : List DatabaseEvent :=
    [.connect 0 q.plan.parameters "secret", .openCursor 0 none, restriction 0, .closeCursor 0 none,
      .openCursor 0 (some cursorName)]
  have hevents : (q.serve [.columns] ⟨{}, state⟩).state.client.events = before ++ [q.execution 0] :=
    rfl
  have hreached :
      before ++ [q.execution 0] <+: (q.serve [.columns] ⟨{}, state⟩).state.client.events :=
    hevents ▸ List.prefix_refl _
  obtain ⟨place, hrestricted, -, hplace⟩ := hreads before 0 hreached
  have hbeginning : beginning? 0 before = some 2 := rfl
  rw [hbeginning] at hplace
  match place, hplace with
  | 0, _ => cases hrestricted
  | 1, _ => cases hrestricted

end Query

end InsertScript
