import InsertScript.Database.Client
import InsertScript.Proofs.Steps

/-!
# Connections that are held and given up

A client holds at most one connection. What it did with connections is in its history: what was
asked of the database, event by event. `Client.Opening` and `Client.Getting` say once what opening a
connection and asking for one can come to. The invariant `Client.Kept` is derived from them: the
held connection is restricted to reading and was never closed, and every other one that was opened
was closed once.

A history only grows (`Client.Follows`), so a connection that has been closed never comes back.
`Client.serve_dependable` says what holds between the requests of any run, and what the next ones
are answered.
-/

namespace InsertScript

namespace Client

variable {c c' : Client} {plan : ConnectionPlan} {s t : Logged Client} {n : Nat}

/-! ### The history -/

/-- The client after more has been asked. -/
def noting (c : Client) (new : List DatabaseEvent) : Client := { c with events := c.events ++ new }

/-- Has a connection with the number been asked for? -/
def WasAsked (c : Client) (n : Nat) : Prop :=
  ∃ parameters password, DatabaseEvent.connect n parameters password ∈ c.events

/-- Has the database accepted the connection? -/
def WasOpened (c : Client) (n : Nat) : Prop :=
  c.WasAsked n ∧ Database.errorAt? c.database.connectErrors n = none

/-- The statement that restricts a connection to reading, as it is executed. -/
def restriction (n : Nat) : DatabaseEvent := .execute n none (.text readOnlyStatement) none

/-- Has the connection been restricted to reading? -/
def WasRestricted (c : Client) (n : Nat) : Prop :=
  restriction n ∈ c.events ∧ Database.errorAt? c.database.readOnlyErrors n = none

/-- How often the connection was closed. -/
def closings (c : Client) (n : Nat) : Nat := c.events.count (.close n)

/-- Does the second client go on with the history of the first one? -/
def Follows (c c' : Client) : Prop := c'.database = c.database ∧ c.events <+: c'.events

instance : IsPreorder Client Follows where
  refl c := ⟨rfl, List.prefix_refl c.events⟩
  trans _ _ _ h k := ⟨k.1.trans h.1, h.2.trans k.2⟩

theorem Follows.closings_le (h : c.Follows c') (n : Nat) : c.closings n ≤ c'.closings n :=
  h.2.sublist.count_le _

theorem follows_noting (c : Client) (new : List DatabaseEvent) : c.Follows (c.noting new) :=
  ⟨rfl, List.prefix_append c.events new⟩

theorem closings_noting (c : Client) (new : List DatabaseEvent) (n : Nat) :
    (c.noting new).closings n = c.closings n + new.count (.close n) := List.count_append

theorem wasAsked_noting {new : List DatabaseEvent} : (c.noting new).WasAsked n ↔
    c.WasAsked n ∨ ∃ parameters password, DatabaseEvent.connect n parameters password ∈ new := by
  simp only [WasAsked, noting, List.mem_append, exists_or]

/-! ### Opening a connection -/

/-- What is asked of the user to find a password. -/
def Prompts (events : List DatabaseEvent) : Prop :=
  ∀ event ∈ events, event = .prompt passwordQuestion

/-- What is asked of the database to restrict a connection. -/
def restricting (n : Nat) : List DatabaseEvent :=
  [.openCursor n none, restriction n, .closeCursor n none]

/-- The client after the database was asked for its next connection. -/
def asking (c : Client) (plan : ConnectionPlan) (prompts : List DatabaseEvent) (password : String) :
    Client :=
  { c.noting (prompts ++ [.connect c.opened plan.parameters password]) with
    opened := c.opened + 1, password? := some password }

/-- What opening a connection comes to. A password is found for it, perhaps by asking the user, and
it has the next number. One that cannot be restricted is closed. -/
inductive Opening (plan : ConnectionPlan) (c : Client) : Except Failure Nat → Client → Prop where
  | refused (prompts : List DatabaseEvent) (password : String) (e : DatabaseError)
      (hprompts : Prompts prompts)
      (herror : Database.errorAt? c.database.connectErrors c.opened = some e) :
      Opening plan c (.error (.connectionRefused e.reason)) (c.asking plan prompts password)
  | unrestricted (prompts : List DatabaseEvent) (password : String) (e : DatabaseError)
      (failure : Failure) (hprompts : Prompts prompts)
      (haccepted : Database.errorAt? c.database.connectErrors c.opened = none)
      (herror : Database.errorAt? c.database.readOnlyErrors c.opened = some e) :
      Opening plan c (.error failure)
        ((c.asking plan prompts password).noting (restricting c.opened ++ [.close c.opened]))
  | ready (prompts : List DatabaseEvent) (password : String)
      (hprompts : Prompts prompts)
      (haccepted : Database.errorAt? c.database.connectErrors c.opened = none)
      (hrestricted : Database.errorAt? c.database.readOnlyErrors c.opened = none) :
      Opening plan c (.ok c.opened)
        { (c.asking plan prompts password).noting (restricting c.opened) with isReadOnly := true }

theorem noting_nil (c : Client) : c.noting [] = c := by
  simp only [noting, List.append_nil]

theorem noting_noting (c : Client) (a b : List DatabaseEvent) :
    (c.noting a).noting b = c.noting (a ++ b) := by
  simp only [noting, List.append_assoc]

theorem ask_apply (event : DatabaseEvent) (log : Log) (c : Client) :
    ask event ⟨log, c⟩ = .ok () ⟨log, c.noting [event]⟩ := rfl

theorem findPassword_ok (log : Log) (c : Client) : ∃ password prompts,
    findPassword ⟨log, c⟩ = .ok password ⟨log, c.noting prompts⟩ ∧ Prompts prompts := by
  rw [findPassword, Step.bind_of_ok (Step.current_apply _)]
  cases (c.environment.lookup? passwordVariable).filter (· ≠ "") with
  | some password =>
      refine ⟨password, [], ?_, by simp [Prompts]⟩
      rw [noting_nil]
      rfl
  | none => exact ⟨c.typedPassword, [.prompt passwordQuestion], rfl, by simp [Prompts]⟩

/-- There is always a password: the one that is kept, the one in the environment, or the one that is
typed. -/
theorem getPassword_ok (log : Log) (c : Client) : ∃ password prompts,
    getPassword ⟨log, c⟩ = .ok password
      ⟨log, { c.noting prompts with password? := some password }⟩ ∧
      Prompts prompts := by
  cases hknown : c.password? with
  | some password =>
      refine ⟨password, [], ?_, by simp [Prompts]⟩
      have hsame : { c with password? := some password } = c := by rw [← hknown]
      rw [getPassword, Step.bind_of_ok (Step.current_apply _), hknown, noting_nil, hsame]
      rfl
  | none =>
      obtain ⟨password, prompts, hfound, hprompts⟩ := findPassword_ok log c
      refine ⟨password, prompts, ?_, hprompts⟩
      rw [getPassword, Step.bind_of_ok (Step.current_apply _), hknown]
      exact Step.bind_of_ok hfound

/-- Opening a connection asks for a password and then the database, which may refuse. -/
theorem openConnection_apply (plan : ConnectionPlan) (log : Log) (c : Client) : ∃ prompts password,
    Prompts prompts ∧
      openConnection plan.parameters ⟨log, c⟩ =
        match Database.errorAt? c.database.connectErrors c.opened with
        | some e => .error (.connectionRefused e.reason) ⟨log, c.asking plan prompts password⟩
        | none => .ok c.opened ⟨log, c.asking plan prompts password⟩ := by
  obtain ⟨password, prompts, hpassword, hprompts⟩ := getPassword_ok log c
  refine ⟨prompts, password, hprompts, ?_⟩
  rw [openConnection, Step.bind_of_ok hpassword, asking, ← noting_noting]
  change (match Database.errorAt? c.database.connectErrors c.opened with
    | some e => throw (.connectionRefused e.reason)
    | none => pure c.opened : Step Client Nat) _ = _
  cases Database.errorAt? c.database.connectErrors c.opened with
  | some e => rfl
  | none => rfl

theorem closeConnection_of_none (log : Log)
    (h : Database.errorAt? c.database.closeErrors n = none) :
    closeConnection n ⟨log, c⟩ = .ok () ⟨log, c.noting [.close n]⟩ := by
  rw [closeConnection, Step.bind_of_ok (ask_apply _ log c), Step.bind_of_ok (Step.current_apply _)]
  change refuse (Database.errorAt? c.database.closeErrors n) _ = _
  rw [h]
  rfl

theorem closeConnection_of_some {e : DatabaseError} (log : Log)
    (h : Database.errorAt? c.database.closeErrors n = some e) :
    closeConnection n ⟨log, c⟩ = .error e.failure ⟨log, c.noting [.close n]⟩ := by
  rw [closeConnection, Step.bind_of_ok (ask_apply _ log c), Step.bind_of_ok (Step.current_apply _)]
  change refuse (Database.errorAt? c.database.closeErrors n) _ = _
  rw [h]
  rfl

/-- A connection counts as closed whether or not the database reports an error. -/
theorem closeConnection_cases (n : Nat) (log : Log) (c : Client) :
    closeConnection n ⟨log, c⟩ = .ok () ⟨log, c.noting [.close n]⟩ ∨
      ∃ failure, closeConnection n ⟨log, c⟩ = .error failure ⟨log, c.noting [.close n]⟩ := by
  cases herror : Database.errorAt? c.database.closeErrors n with
  | none => exact .inl (closeConnection_of_none log herror)
  | some e => exact .inr ⟨e.failure, closeConnection_of_some log herror⟩

theorem noting_restricting (c : Client) (n : Nat) : c.noting (restricting n) =
    ((c.noting [.openCursor n none]).noting [restriction n]).noting [.closeCursor n none] := by
  rw [noting_noting, noting_noting]
  rfl

theorem restrict_apply (n : Nat) (log : Log) (c : Client) : restrict n ⟨log, c⟩ =
    (match Database.errorAt? c.database.readOnlyErrors n with
      | none => Step.change fun c => { c with isReadOnly := true }
      | some e => do closeConnection n; throw (.readOnlyRefused e.reason) : Step Client Unit)
      ⟨log, c.noting (restricting n)⟩ := by
  rw [restrict, Step.bind_of_ok (ask_apply _ _ _), Step.bind_of_ok (ask_apply _ _ _),
    Step.bind_of_ok (ask_apply _ _ _), noting_restricting]
  rfl

theorem restrict_of_none (log : Log) (h : Database.errorAt? c.database.readOnlyErrors n = none) :
    restrict n ⟨log, c⟩ = .ok () ⟨log, { c.noting (restricting n) with isReadOnly := true }⟩ := by
  rw [restrict_apply, h]
  rfl

theorem restrict_of_some {e : DatabaseError} (log : Log)
    (h : Database.errorAt? c.database.readOnlyErrors n = some e) :
    ∃ failure,
      restrict n ⟨log, c⟩ = .error failure ⟨log, c.noting (restricting n ++ [.close n])⟩ := by
  rw [restrict_apply, h, ← noting_noting]
  rcases closeConnection_cases n log (c.noting (restricting n)) with hclosed | ⟨failure, hclosed⟩
  · exact ⟨.readOnlyRefused e.reason, Step.bind_of_ok hclosed⟩
  · exact ⟨failure, Step.bind_of_error hclosed⟩

/-- Opening a connection and restricting it to reading ends in one of the ways of `Opening`. -/
theorem openRestricted_opening (plan : ConnectionPlan) (log : Log) (c : Client) :
    ∃ outcome c', Step.run (do
        let connection ← openConnection plan.parameters
        restrict connection
        return connection) ⟨log, c⟩ = (outcome, ⟨log, c'⟩) ∧ Opening plan c outcome c' := by
  obtain ⟨prompts, password, hprompts, hopened⟩ := openConnection_apply plan log c
  cases haccepted : Database.errorAt? c.database.connectErrors c.opened with
  | some e =>
      rw [haccepted] at hopened
      exact ⟨_, _, Step.run_of_error (Step.bind_of_error hopened),
        .refused prompts password e hprompts haccepted⟩
  | none =>
      rw [haccepted] at hopened
      cases hrestricted : Database.errorAt? c.database.readOnlyErrors c.opened with
      | some e =>
          obtain ⟨failure, hclosed⟩ :=
            restrict_of_some (c := c.asking plan prompts password) log hrestricted
          refine ⟨.error failure, _, Step.run_of_error ?_,
            .unrestricted prompts password e failure hprompts haccepted hrestricted⟩
          rw [Step.bind_of_ok hopened]
          exact Step.bind_of_error hclosed
      | none =>
          have hrestrict := restrict_of_none (c := c.asking plan prompts password) log hrestricted
          refine ⟨.ok c.opened, _, Step.run_of_ok ?_,
            .ready prompts password hprompts haccepted hrestricted⟩
          rw [Step.bind_of_ok hopened]
          exact Step.bind_of_ok hrestrict

theorem connect_opening (plan : ConnectionPlan) (log : Log) (c : Client) :
    ∃ outcome log' c', (connect plan).run ⟨log, c⟩ = (outcome, ⟨log', c'⟩) ∧
      Opening plan c outcome c' := by
  obtain ⟨outcome, c', hrun, hopening⟩ := openRestricted_opening plan (log.add _) c
  exact ⟨outcome, _, c', hrun, hopening⟩

/-! ### Giving up a connection -/

/-- The client after the connection that it held was closed. -/
def givenUp (c : Client) (n : Nat) : Client :=
  { c.noting [.close n] with held? := none, lastUsed? := none, isReadOnly := false }

theorem close_of_none (log : Log) (h : c.held? = none) : close ⟨log, c⟩ = .ok () ⟨log, c⟩ := by
  rw [close, Step.bind_of_ok (Step.current_apply _), h]
  rfl

/-- What giving up the held connection comes to. It is given up even if closing it fails. -/
inductive Closing (c : Client) : Except Failure Unit → Client → Prop where
  | idle (hheld : c.held? = none) : Closing c (.ok ()) c
  | closed (n : Nat) (hheld : c.held? = some n)
      (haccepted : Database.errorAt? c.database.closeErrors n = none) :
      Closing c (.ok ()) (c.givenUp n)
  | failed (n : Nat) (e : DatabaseError) (hheld : c.held? = some n)
      (herror : Database.errorAt? c.database.closeErrors n = some e) :
      Closing c (.error e.failure) (c.givenUp n)

/-- Closing ends in one of the ways of `Closing`. -/
theorem close_closing (log : Log) (c : Client) :
    ∃ outcome c', close.run ⟨log, c⟩ = (outcome, ⟨log, c'⟩) ∧ Closing c outcome c' := by
  cases hheld : c.held? with
  | none => exact ⟨_, _, Step.run_of_ok (close_of_none log hheld), .idle hheld⟩
  | some n =>
      have hclose : close ⟨log, c⟩ = Step.ensuring (closeConnection n) (Step.change fun c =>
          { c with held? := none, lastUsed? := none, isReadOnly := false }) ⟨log, c⟩ := by
        rw [close, Step.bind_of_ok (Step.current_apply _), hheld]
      cases herror : Database.errorAt? c.database.closeErrors n with
      | none =>
          have hclosed := closeConnection_of_none log herror
          exact ⟨_, _, Step.run_of_ok (hclose.trans (Step.ensuring_of_ok hclosed rfl)),
            .closed n hheld herror⟩
      | some e =>
          have hclosed := closeConnection_of_some log herror
          exact ⟨_, _, Step.run_of_error (hclose.trans (Step.ensuring_of_error hclosed rfl)),
            .failed n e hheld herror⟩

theorem close_cases (log : Log) (h : c.held? = some n) :
    close ⟨log, c⟩ = .ok () ⟨log, c.givenUp n⟩ ∨
      ∃ failure, close ⟨log, c⟩ = .error failure ⟨log, c.givenUp n⟩ := by
  obtain ⟨outcome, c', hrun, hclosing⟩ := close_closing log c
  cases hclosing with
  | idle hheld => exact absurd (h.symm.trans hheld) nofun
  | closed m hheld _ =>
      cases h.symm.trans hheld
      exact .inl (Step.ok_of_run hrun)
  | failed m e hheld _ =>
      cases h.symm.trans hheld
      exact .inr ⟨_, Step.error_of_run hrun⟩

theorem isExpired_eq_true : c.isExpired plan = true ↔ ∃ n lastUsed, c.held? = some n ∧
    c.lastUsed? = some lastUsed ∧ plan.lifetime.total < c.clock - lastUsed := by
  unfold isExpired
  cases c.held? with
  | none => simp
  | some n =>
      cases c.lastUsed? with
      | none => simp
      | some lastUsed => simp

/-- What giving up a connection that is expired comes to. -/
inductive Dropping (plan : ConnectionPlan) (c : Client) : Except Failure Unit → Client → Prop where
  | current (hcurrent : c.isExpired plan = false) : Dropping plan c (.ok ()) c
  | expired (n : Nat) (outcome : Except Failure Unit) (hexpired : c.isExpired plan = true)
      (hheld : c.held? = some n) : Dropping plan c outcome (c.givenUp n)

theorem Dropping.eq_of_none {outcome : Except Failure Unit} (hdropping : Dropping plan c outcome c')
    (hnone : c.held? = none) : c' = c := by
  cases hdropping with
  | current _ => rfl
  | expired n _ _ hheld => exact absurd (hheld.symm.trans hnone) nofun

/-- Giving up an expired connection ends in one of the ways of `Dropping`. -/
theorem dropExpired_dropping (plan : ConnectionPlan) (log : Log) (c : Client) :
    ∃ outcome log' c', (dropExpired plan).run ⟨log, c⟩ = (outcome, ⟨log', c'⟩) ∧
      Dropping plan c outcome c' := by
  rw [dropExpired, Step.run, Step.bind_of_ok (Step.current_apply _)]
  by_cases hexpired : c.isExpired plan = true
  · obtain ⟨n, lastUsed, hheld, -, -⟩ := isExpired_eq_true.1 hexpired
    rw [if_pos hexpired, Step.bind_of_ok (Step.report_apply _ _ _ _)]
    rcases close_cases (log.add _) hheld with hclosed | ⟨failure, hclosed⟩
    · rw [hclosed]
      exact ⟨_, _, _, rfl, .expired n (.ok ()) hexpired hheld⟩
    · rw [hclosed]
      exact ⟨_, _, _, rfl, .expired n (.error failure) hexpired hheld⟩
  · rw [if_neg hexpired]
    exact ⟨_, _, _, rfl, .current (Bool.eq_false_iff.2 hexpired)⟩

/-! ### Asking for a connection -/

/-- The client after the next look at the clock. -/
def elapsed (c : Client) : Client :=
  { c with clock := c.clock + c.delays.headD 0, delays := c.delays.tail }

/-- The client after the connection was handed out. -/
def handingOut (c : Client) (n : Nat) : Client :=
  { c with held? := some n, lastUsed? := some c.clock }.elapsed

/-- What asking for a connection comes to. -/
inductive Getting (plan : ConnectionPlan) (c : Client) : Except Failure Nat → Client → Prop where
  | stuck (n : Nat) (failure : Failure) (hexpired : c.isExpired plan = true)
      (hheld : c.held? = some n) : Getting plan c (.error failure) (c.givenUp n)
  | reused (n : Nat) (hcurrent : c.isExpired plan = false) (hheld : c.held? = some n) :
      Getting plan c (.ok n) (c.elapsed.handingOut n)
  | refused (d c' : Client) (failure : Failure) (hdropping : Dropping plan c (.ok ()) d)
      (hnone : d.held? = none) (hopening : Opening plan d.elapsed (.error failure) c') :
      Getting plan c (.error failure) c'
  | opened (n : Nat) (d c' : Client) (hdropping : Dropping plan c (.ok ()) d)
      (hnone : d.held? = none) (hopening : Opening plan d.elapsed (.ok n) c') :
      Getting plan c (.ok n) (c'.handingOut n)

theorem holdConnection_of_some (log : Log) (h : c.held? = some n) :
    holdConnection plan ⟨log, c⟩ = .ok n ⟨log, c⟩ := by
  rw [holdConnection, Step.bind_of_ok (Step.current_apply _), h]
  rfl

theorem holdConnection_of_none (plan : ConnectionPlan) (log : Log) (h : c.held? = none) :
    (∃ n log' c', holdConnection plan ⟨log, c⟩ = .ok n ⟨log', { c' with held? := some n }⟩ ∧
      Opening plan c (.ok n) c') ∨
    ∃ failure log' c', holdConnection plan ⟨log, c⟩ = .error failure ⟨log', c'⟩ ∧
      Opening plan c (.error failure) c' := by
  rw [holdConnection, Step.bind_of_ok (Step.current_apply _), h]
  obtain ⟨outcome, log', c', hrun, hopening⟩ := connect_opening plan log c
  cases outcome with
  | ok n => exact .inl ⟨n, log', c', Step.bind_of_ok (Step.ok_of_run hrun), hopening⟩
  | error failure =>
      exact .inr ⟨failure, log', c', Step.bind_of_error (Step.error_of_run hrun), hopening⟩

/-- A request for a connection ends in one of the ways of `Getting`. -/
theorem getConnection_getting (plan : ConnectionPlan) (log : Log) (c : Client) :
    ∃ outcome log' c', (getConnection plan).run ⟨log, c⟩ = (outcome, ⟨log', c'⟩) ∧
      Getting plan c outcome c' := by
  obtain ⟨dropped, log₁, d, hrun, hdropping⟩ := dropExpired_dropping plan log c
  cases dropped with
  | error failure =>
      cases hdropping with
      | expired n _ hexpired hheld =>
          exact ⟨_, _, _, Step.run_of_error (Step.bind_of_error (Step.error_of_run hrun)),
            .stuck n failure hexpired hheld⟩
  | ok _ =>
      rw [getConnection, Step.run, Step.bind_of_ok (Step.ok_of_run hrun),
        Step.bind_of_ok (show elapse ⟨log₁, d⟩ = .ok () ⟨log₁, d.elapsed⟩ from rfl)]
      cases hheld : d.held? with
      | some n =>
          rw [Step.bind_of_ok (holdConnection_of_some (c := d.elapsed) log₁ hheld)]
          cases hdropping with
          | current hcurrent =>
              refine ⟨_, _, _, rfl, ?_⟩
              -- the client keeps the connection that it hands out, and only the time of use changes
              have hhanded : c.elapsed.handingOut n =
                  ({ c.elapsed with lastUsed? := some c.elapsed.clock } : Client).elapsed := by
                rw [handingOut, ← hheld]
                rfl
              have hreused : Getting plan c (.ok n) _ := .reused n hcurrent hheld
              rw [hhanded] at hreused
              exact hreused
          | expired _ _ _ _ => cases hheld
      | none =>
          rcases holdConnection_of_none (c := d.elapsed) plan log₁ hheld with
            ⟨n, log', c', hheldNow, hopening⟩ | ⟨failure, log', c', hfailed, hopening⟩
          · rw [Step.bind_of_ok hheldNow]
            exact ⟨_, _, _, rfl, .opened n d c' hdropping hheld hopening⟩
          · rw [Step.bind_of_error hfailed]
            exact ⟨_, _, _, rfl, .refused d c' failure hdropping hheld hopening⟩

/-! ### What holds between two events -/

/-- Was every connection that was opened closed once, except for the one that is open? -/
structure Tidy (c : Client) (open? : Option Nat) : Prop where
  opened : ∀ n, open? = some n → c.WasOpened n
  closings_of_opened : ∀ n, c.WasOpened n → c.closings n = if open? = some n then 0 else 1
  closings_of_not_opened : ∀ n, ¬ c.WasOpened n → c.closings n = 0
  lt_opened : ∀ n, c.WasAsked n → n < c.opened

/-- The next number has not been used. -/
theorem Tidy.not_wasAsked {open? : Option Nat} (h : c.Tidy open?) : ¬ c.WasAsked c.opened :=
  fun hasked => Nat.lt_irrefl _ (h.lt_opened _ hasked)

/-- The connection that is open was not closed. -/
theorem Tidy.closings_eq_zero (h : c.Tidy (some n)) : c.closings n = 0 := by
  rw [h.closings_of_opened n (h.opened n rfl), if_pos rfl]

/-- Do the events neither open nor close a connection? -/
def Idle (events : List DatabaseEvent) : Prop :=
  ∀ event ∈ events, ∀ n, (∀ parameters password, event ≠ .connect n parameters password) ∧
    event ≠ .close n

theorem Prompts.idle {prompts : List DatabaseEvent} (h : Prompts prompts) : Idle prompts := by
  intro event hmem n
  rw [h event hmem]
  exact ⟨nofun, nofun⟩

theorem idle_restricting (n : Nat) : Idle (restricting n) := by
  intro event hmem m
  simp only [restricting, restriction, List.mem_cons, List.not_mem_nil, or_false] at hmem
  rcases hmem with rfl | rfl | rfl
  all_goals exact ⟨nofun, nofun⟩

theorem Idle.wasAsked_noting {new : List DatabaseEvent} (hidle : Idle new) (n : Nat) :
    (c.noting new).WasAsked n ↔ c.WasAsked n := by
  refine Client.wasAsked_noting.trans (or_iff_left ?_)
  rintro ⟨parameters, password, hmem⟩
  exact (hidle _ hmem n).1 parameters password rfl

theorem Idle.wasOpened_noting {new : List DatabaseEvent} (hidle : Idle new) (n : Nat) :
    (c.noting new).WasOpened n ↔ c.WasOpened n := and_congr_left fun _ => hidle.wasAsked_noting n

/-- Events that neither ask for a connection nor close one leave a client tidy. -/
theorem Tidy.idle {open? : Option Nat} {new : List DatabaseEvent} (h : c.Tidy open?)
    (hidle : Idle new) : (c.noting new).Tidy open? := by
  have hasked : ∀ n, (c.noting new).WasAsked n ↔ c.WasAsked n := hidle.wasAsked_noting
  have hopened : ∀ n, (c.noting new).WasOpened n ↔ c.WasOpened n := hidle.wasOpened_noting
  have hclosings : ∀ n, (c.noting new).closings n = c.closings n := by
    intro n
    rw [closings_noting, List.count_eq_zero_of_not_mem (fun hmem => (hidle _ hmem n).2 rfl),
      Nat.add_zero]
  refine ⟨?_, ?_, ?_, ?_⟩
  · intro n hn
    exact (hopened n).2 (h.opened n hn)
  · intro n hn
    rw [hclosings]
    exact h.closings_of_opened n ((hopened n).1 hn)
  · intro n hn
    rw [hclosings]
    exact h.closings_of_not_opened n (mt (hopened n).2 hn)
  · intro n hn
    exact h.lt_opened n ((hasked n).1 hn)

/-- Closing the connection that is open is the one closing of it. -/
theorem Tidy.close (h : c.Tidy (some n)) : (c.noting [.close n]).Tidy none := by
  have hasked : ∀ m, (c.noting [.close n]).WasAsked m ↔ c.WasAsked m := by
    intro m
    refine wasAsked_noting.trans (or_iff_left ?_)
    rintro ⟨parameters, password, hmem⟩
    cases List.mem_singleton.1 hmem
  have hopened : ∀ m, (c.noting [.close n]).WasOpened m ↔ c.WasOpened m :=
    fun m => and_congr_left fun _ => hasked m
  have hother : ∀ m, m ≠ n → (c.noting [.close n]).closings m = c.closings m := by
    intro m hmn
    rw [closings_noting, List.count_eq_zero_of_not_mem, Nat.add_zero]
    intro hmem
    cases List.mem_singleton.1 hmem
    exact hmn rfl
  refine ⟨nofun, ?_, ?_, ?_⟩
  · intro m hm
    by_cases hmn : m = n
    · rw [hmn, closings_noting, h.closings_eq_zero]
      simp
    · rw [hother m hmn, h.closings_of_opened m ((hopened m).1 hm),
        if_neg (fun heq => hmn (Option.some.inj heq).symm), if_neg nofun]
  · intro m hm
    have hmn : m ≠ n := by
      rintro rfl
      exact hm ((hopened m).2 (h.opened m rfl))
    rw [hother m hmn]
    exact h.closings_of_not_opened m (mt (hopened m).2 hm)
  · intro m hm
    exact h.lt_opened m ((hasked m).1 hm)

/-- The client after it asked for its next connection, which counts as open if the database accepts
it. -/
theorem Tidy.connect (h : c.Tidy none) (parameters : ConnectionParameters) (password : String) :
    { c.noting [.connect c.opened parameters password] with opened := c.opened + 1 }.Tidy
      (if Database.errorAt? c.database.connectErrors c.opened = none then some c.opened
        else none) := by
  generalize hafter :
    { c.noting [.connect c.opened parameters password] with opened := c.opened + 1 } = after
  have hasked : ∀ n, after.WasAsked n ↔ c.WasAsked n ∨ n = c.opened := by
    intro n
    subst hafter
    refine wasAsked_noting.trans (or_congr_right ⟨?_, ?_⟩)
    · rintro ⟨_, _, hmem⟩
      cases List.mem_singleton.1 hmem
      rfl
    · rintro rfl
      exact ⟨parameters, password, List.mem_singleton_self _⟩
  have hclosings : ∀ n, after.closings n = c.closings n := by
    intro n
    subst hafter
    refine (closings_noting c _ n).trans ?_
    rw [List.count_eq_zero_of_not_mem, Nat.add_zero]
    intro hmem
    cases List.mem_singleton.1 hmem
  have hopened : ∀ n, after.WasOpened n ↔
      (c.WasAsked n ∨ n = c.opened) ∧ Database.errorAt? c.database.connectErrors n = none := by
    intro n
    rw [WasOpened, hasked, ← hafter]
    rfl
  refine ⟨?_, ?_, ?_, ?_⟩
  · intro n hn
    obtain ⟨haccepted, hnumber⟩ := Option.ite_none_right_eq_some.1 hn
    rw [hopened, ← Option.some.inj hnumber]
    exact ⟨.inr rfl, haccepted⟩
  · intro n hn
    obtain ⟨hold | rfl, haccepted⟩ := (hopened n).1 hn
    · have hother : c.opened ≠ n := (Nat.ne_of_lt (h.lt_opened n hold)).symm
      rw [hclosings, h.closings_of_opened n ⟨hold, haccepted⟩, if_neg nofun, if_neg]
      intro hn
      exact hother (Option.some.inj (Option.ite_none_right_eq_some.1 hn).2)
    · rw [hclosings, h.closings_of_not_opened _ (fun hopened => h.not_wasAsked hopened.1),
        if_pos haccepted, if_pos rfl]
  · intro n hn
    rw [hclosings]
    exact h.closings_of_not_opened n fun hopenedBefore =>
      hn ((hopened n).2 ⟨.inl hopenedBefore.1, hopenedBefore.2⟩)
  · intro n hn
    rw [← hafter]
    rcases (hasked n).1 hn with hold | rfl
    · exact Nat.lt_succ_of_lt (h.lt_opened n hold)
    · exact Nat.lt_succ_self c.opened

theorem Tidy.asking (h : c.Tidy none) (plan : ConnectionPlan) {prompts : List DatabaseEvent}
    (hprompts : Prompts prompts) (password : String) :
    (c.asking plan prompts password).Tidy
      (if Database.errorAt? c.database.connectErrors c.opened =
        none then some c.opened else none) := by
  have hasked := (h.idle hprompts.idle).connect plan.parameters password
  rw [noting_noting] at hasked
  exact ⟨hasked.opened, hasked.closings_of_opened, hasked.closings_of_not_opened, hasked.lt_opened⟩

/-- An attempt to open a connection that fails leaves none open. -/
theorem Opening.tidy_of_error {failure : Failure} (hopening : Opening plan c (.error failure) c')
    (h : c.Tidy none) : c'.Tidy none := by
  cases hopening with
  | refused prompts password e hprompts herror =>
      have hasked := h.asking plan hprompts password
      rw [herror, if_neg nofun] at hasked
      exact hasked
  | unrestricted prompts password e _ hprompts haccepted herror =>
      have hasked := h.asking plan hprompts password
      rw [if_pos haccepted] at hasked
      rw [← noting_noting]
      exact (hasked.idle (idle_restricting c.opened)).close

theorem Opening.unchanged_of_error {failure : Failure}
    (hopening : Opening plan c (.error failure) c') :
    c'.held? = c.held? ∧ c'.lastUsed? = c.lastUsed? ∧ c'.isReadOnly = c.isReadOnly := by
  cases hopening with
  | refused prompts password e hprompts herror => exact ⟨rfl, rfl, rfl⟩
  | unrestricted prompts password e _ hprompts haccepted herror => exact ⟨rfl, rfl, rfl⟩

theorem Opening.tidy_of_ok (hopening : Opening plan c (.ok n) c') (h : c.Tidy none) :
    c'.Tidy (some n) ∧ c'.WasRestricted n ∧ c'.isReadOnly = true := by
  cases hopening with
  | ready prompts password hprompts haccepted hrestricted =>
      have hasked := h.asking plan hprompts password
      rw [if_pos haccepted] at hasked
      obtain ⟨hopened, hclosings, hunopened, hlt⟩ := hasked.idle (idle_restricting c.opened)
      refine ⟨⟨hopened, hclosings, hunopened, hlt⟩, ⟨?_, hrestricted⟩, rfl⟩
      exact List.mem_append_right _ (by simp [restricting])

/-- The history of an attempt: the next connection is asked for, and restricted if it is
accepted. -/
theorem Opening.history {outcome : Except Failure Nat} (hopening : Opening plan c outcome c') :
    ∃ new, c'.database = c.database ∧ c'.events = c.events ++ new ∧
      (∃ password, .connect c.opened plan.parameters password ∈ new) ∧
      (Database.errorAt? c.database.connectErrors c.opened = none → restriction c.opened ∈ new) ∧
      ∀ n, outcome = .ok n → n = c.opened := by
  cases hopening with
  | refused prompts password e hprompts herror =>
      exact ⟨_, rfl, rfl, ⟨password, by simp⟩,
        fun haccepted => absurd (herror.symm.trans haccepted) nofun, nofun⟩
  | unrestricted prompts password e _ hprompts haccepted herror =>
      refine ⟨_, rfl, List.append_assoc _ _ _, ⟨password, by simp⟩, fun _ => ?_, nofun⟩
      simp [restricting]
  | ready prompts password hprompts haccepted hrestricted =>
      refine ⟨_, rfl, List.append_assoc _ _ _, ⟨password, by simp⟩, fun _ => by
        simp [restricting], ?_⟩
      intro n hn
      exact (Except.ok.inj hn).symm

theorem Opening.follows {outcome : Except Failure Nat} (hopening : Opening plan c outcome c') :
    c.Follows c' := by
  obtain ⟨new, hdatabase, hevents, -⟩ := hopening.history
  exact ⟨hdatabase, new, hevents.symm⟩

/-! ### What holds between two requests -/

/-- Is what the client notes about its connection right, and is that the one connection that is
open? -/
structure Kept (c : Client) : Prop where
  lastUsed_isSome : c.lastUsed?.isSome = c.held?.isSome
  isReadOnly_eq : c.isReadOnly = c.held?.isSome
  wasRestricted : ∀ n, c.held? = some n → c.WasRestricted n
  tidy : c.Tidy c.held?

theorem Kept.unused (h : c.Kept) (hnone : c.held? = none) :
    c.Tidy none ∧ c.lastUsed? = none ∧ c.isReadOnly = false := by
  obtain ⟨hlast, hreadOnly, -, htidy⟩ := h
  rw [hnone] at hlast hreadOnly htidy
  exact ⟨htidy, Option.isSome_eq_false_iff.1 hlast |> Option.isNone_iff_eq_none.1, hreadOnly⟩

theorem Tidy.kept (h : c.Tidy none) (hnone : c.held? = none) (hlast : c.lastUsed? = none)
    (hreadOnly : c.isReadOnly = false) : c.Kept := by
  refine ⟨?_, ?_, ?_, ?_⟩
  · rw [hlast, hnone]
    rfl
  · rw [hreadOnly, hnone]
    rfl
  · intro n hn
    exact absurd (hn.symm.trans hnone) nofun
  · rw [hnone]
    exact h

/-- A client that has not been asked for anything. -/
theorem kept_of_fresh (hevents : c.events = []) (hheld : c.held? = none)
    (hlast : c.lastUsed? = none) (hreadOnly : c.isReadOnly = false) : c.Kept := by
  have hnone : ∀ n, ¬ c.WasAsked n := by
    rintro n ⟨parameters, password, hmem⟩
    rw [hevents] at hmem
    exact List.not_mem_nil hmem
  refine Tidy.kept ⟨nofun, fun n hn => absurd hn.1 (hnone n), fun n _ => ?_,
    fun n hn => absurd hn (hnone n)⟩ hheld hlast hreadOnly
  rw [closings, hevents, List.count_nil]

theorem Kept.elapsed (h : c.Kept) : c.elapsed.Kept :=
  ⟨h.lastUsed_isSome, h.isReadOnly_eq, h.wasRestricted,
    ⟨h.tidy.opened, h.tidy.closings_of_opened, h.tidy.closings_of_not_opened, h.tidy.lt_opened⟩⟩

theorem Kept.idle {new : List DatabaseEvent} (h : c.Kept) (hidle : Idle new) :
    (c.noting new).Kept := by
  refine ⟨h.lastUsed_isSome, h.isReadOnly_eq, fun n hn => ?_, h.tidy.idle hidle⟩
  obtain ⟨hrestricted, haccepted⟩ := h.wasRestricted n hn
  exact ⟨List.mem_append_left _ hrestricted, haccepted⟩

theorem Kept.givenUp (h : c.Kept) (hheld : c.held? = some n) : (c.givenUp n).Kept := by
  have hopen : c.Tidy (some n) := hheld ▸ h.tidy
  obtain ⟨-, hclosings, hunopened, hlt⟩ := hopen.close
  exact ⟨rfl, rfl, nofun, ⟨nofun, hclosings, hunopened, hlt⟩⟩

theorem Kept.dropping {outcome : Except Failure Unit} (h : c.Kept)
    (hdropping : Dropping plan c outcome c') : c'.Kept := by
  cases hdropping with
  | current _ => exact h
  | expired n _ _ hheld => exact h.givenUp hheld

theorem kept_handingOut (h : c.Tidy (some n)) (hrestricted : c.WasRestricted n)
    (hreadOnly : c.isReadOnly = true) : (c.handingOut n).Kept := by
  obtain ⟨hopened, hclosings, hunopened, hlt⟩ := h
  refine ⟨rfl, hreadOnly, ?_, ⟨hopened, hclosings, hunopened, hlt⟩⟩
  intro m hm
  cases hm
  exact hrestricted

/-- The client holds the connection that it hands out, and none if it fails. -/
theorem Kept.getting {outcome : Except Failure Nat} (h : c.Kept)
    (hgetting : Getting plan c outcome c') : c'.Kept ∧ c'.held? = outcome.toOption := by
  cases hgetting with
  | stuck n failure _ hheld => exact ⟨h.givenUp hheld, rfl⟩
  | reused n _ hheld =>
      have hkept := h.elapsed
      refine ⟨kept_handingOut (hheld ▸ hkept.tidy) (hkept.wasRestricted n hheld) ?_, rfl⟩
      exact hkept.isReadOnly_eq.trans (by rw [show c.elapsed.held? = some n from hheld]; rfl)
  | refused d _ failure hdropping hnone hopening =>
      obtain ⟨htidy, hlast, hreadOnly⟩ := (h.dropping hdropping).elapsed.unused hnone
      obtain ⟨hsame, hsameLast, hsameReadOnly⟩ := hopening.unchanged_of_error
      refine ⟨(hopening.tidy_of_error htidy).kept ?_ ?_ ?_, hsame.trans hnone⟩
      · exact hsame.trans hnone
      · exact hsameLast.trans hlast
      · exact hsameReadOnly.trans hreadOnly
  | opened n d c' hdropping hnone hopening =>
      obtain ⟨htidy, -, -⟩ := (h.dropping hdropping).elapsed.unused hnone
      obtain ⟨hopen, hrestricted, hreadOnly⟩ := hopening.tidy_of_ok htidy
      exact ⟨kept_handingOut hopen hrestricted hreadOnly, rfl⟩

theorem Dropping.follows {outcome : Except Failure Unit} (hdropping : Dropping plan c outcome c') :
    c.Follows c' := by
  cases hdropping with
  | current _ => exact refl_of Follows c
  | expired n _ _ _ => exact follows_noting c [.close n]

theorem Getting.follows {outcome : Except Failure Nat} (hgetting : Getting plan c outcome c') :
    c.Follows c' := by
  cases hgetting with
  | stuck n failure _ _ => exact follows_noting c [.close n]
  | reused n _ _ => exact ⟨rfl, List.prefix_refl c.events⟩
  | refused d _ failure hdropping _ hopening =>
      exact trans_of Follows hdropping.follows hopening.follows
  | opened n d c' hdropping _ hopening => exact trans_of Follows hdropping.follows hopening.follows

/-- An expired connection is closed before anything else. -/
theorem Getting.closings_pos {outcome : Except Failure Nat} (hgetting : Getting plan c outcome c')
    (hexpired : c.isExpired plan = true) (hheld : c.held? = some n) : 0 < c'.closings n := by
  have hgivenUp : 0 < (c.givenUp n).closings n := by
    refine Nat.lt_of_lt_of_eq ?_ (closings_noting c [.close n] n).symm
    simp
  have hdropped : ∀ d, Dropping plan c (.ok ()) d → 0 < d.closings n := by
    intro d hdropping
    cases hdropping with
    | current hcurrent => exact absurd (hexpired.symm.trans hcurrent) nofun
    | expired m _ _ hm => rwa [Option.some.inj (hm.symm.trans hheld)]
  cases hgetting with
  | stuck m failure _ hm => rwa [Option.some.inj (hm.symm.trans hheld)]
  | reused m hcurrent _ => exact absurd (hexpired.symm.trans hcurrent) nofun
  | refused d _ failure hdropping _ hopening =>
      exact Nat.lt_of_lt_of_le (hdropped d hdropping) (hopening.follows.closings_le n)
  | opened m d c' hdropping _ hopening =>
      exact Nat.lt_of_lt_of_le (hdropped d hdropping) (hopening.follows.closings_le n)

/-- Without a connection a new one is opened. -/
theorem Getting.opening {outcome : Except Failure Nat} (hgetting : Getting plan c outcome c')
    (hnone : c.held? = none) : ∃ d, Opening plan c.elapsed outcome d ∧ c'.events = d.events := by
  cases hgetting with
  | stuck n failure _ hheld => exact absurd (hheld.symm.trans hnone) nofun
  | reused n _ hheld => exact absurd (hheld.symm.trans hnone) nofun
  | refused d _ failure hdropping _ hopening =>
      exact ⟨c', hdropping.eq_of_none hnone ▸ hopening, rfl⟩
  | opened n d c' hdropping _ hopening => exact ⟨c', hdropping.eq_of_none hnone ▸ hopening, rfl⟩

/-! ### Runs of requests -/

/-- What may be asked of a client about its connection. -/
inductive Request where
  | connection | close
deriving DecidableEq, Repr

/-- Does what is asked; the answer to a request for a connection is its number. -/
def perform (plan : ConnectionPlan) : Request → Step Client (Option Nat)
  | .connection => do return some (← getConnection plan)
  | .close => do
      close
      return none

/-- The answers to requests, one after another, and what they leave. A request that fails does not
keep the next one from being made. -/
def serve (plan : ConnectionPlan) :
    List Request → Logged Client → List (Except Failure (Option Nat)) × Logged Client
  | [], s => ([], s)
  | request :: requests, s =>
      let (answer, t) := (perform plan request).run s
      let (answers, u) := serve plan requests t
      (answer :: answers, u)

/-- What one request comes to. -/
structure Served (c : Client) (answer : Except Failure (Option Nat)) (c' : Client) : Prop where
  kept : c'.Kept
  follows : c.Follows c'
  of_ok : ∀ n, answer = .ok (some n) → c'.held? = some n
  of_error : ∀ failure, answer = .error failure → c'.held? = none

theorem perform_connection (plan : ConnectionPlan) (log : Log) (c : Client) : ∃ outcome log' c',
    (perform plan .connection).run ⟨log, c⟩ = (outcome.map some, ⟨log', c'⟩) ∧
    Getting plan c outcome c' := by
  obtain ⟨outcome, log', c', hrun, hgetting⟩ := getConnection_getting plan log c
  refine ⟨outcome, log', c', ?_, hgetting⟩
  cases outcome with
  | ok n => exact Step.run_of_ok (Step.bind_of_ok (Step.ok_of_run hrun))
  | error failure => exact Step.run_of_error (Step.bind_of_error (Step.error_of_run hrun))

theorem perform_close (plan : ConnectionPlan) (log : Log) (c : Client) : ∃ answer c',
    (perform plan .close).run ⟨log, c⟩ = (answer, ⟨log, c'⟩) ∧ (∀ n, answer ≠ .ok (some n)) ∧
      ((c.held? = none ∧ c' = c) ∨ ∃ n, c.held? = some n ∧ c' = c.givenUp n) := by
  cases hheld : c.held? with
  | none =>
      exact ⟨_, c, Step.run_of_ok (Step.bind_of_ok (close_of_none log hheld)), nofun,
        .inl ⟨rfl, rfl⟩⟩
  | some n =>
      rcases close_cases log hheld with hclosed | ⟨failure, hclosed⟩
      · exact ⟨_, _, Step.run_of_ok (Step.bind_of_ok hclosed), nofun, .inr ⟨n, rfl, rfl⟩⟩
      · exact ⟨_, _, Step.run_of_error (Step.bind_of_error hclosed), nofun, .inr ⟨n, rfl, rfl⟩⟩

/-- Every request is answered in one of the ways of `Served`. -/
theorem Kept.served (h : c.Kept) (plan : ConnectionPlan) (request : Request) (log : Log) :
    ∃ answer log' c', (perform plan request).run ⟨log, c⟩ = (answer, ⟨log', c'⟩) ∧
      Served c answer c' := by
  cases request with
  | connection =>
      obtain ⟨outcome, log', c', hrun, hgetting⟩ := perform_connection plan log c
      obtain ⟨hkept, hheld⟩ := h.getting hgetting
      refine ⟨outcome.map some, log', c', hrun, hkept, hgetting.follows, ?_, ?_⟩
      · intro n hn
        cases outcome with
        | ok m => cases hn; exact hheld
        | error failure => cases hn
      · intro failure hfailure
        cases outcome with
        | ok m => cases hfailure
        | error _ => exact hheld
  | close =>
      obtain ⟨answer, c', hrun, hnone, ⟨hheld, rfl⟩ | ⟨n, hheld, rfl⟩⟩ := perform_close plan log c
      · exact ⟨answer, log, c', hrun, h, refl_of Follows c', fun n hn => absurd hn (hnone n),
          fun _ _ => hheld⟩
      · exact ⟨answer, log, _, hrun, h.givenUp hheld, follows_noting c [.close n],
          fun n hn => absurd hn (hnone n), fun _ _ => rfl⟩

theorem Kept.after (h : c.Kept) (plan : ConnectionPlan) (requests : List Request) (log : Log) :
    (serve plan requests ⟨log, c⟩).2.state.Kept := by
  induction requests generalizing c log with
  | nil => exact h
  | cons request requests ih =>
      obtain ⟨answer, log', c', hrun, hserved⟩ := h.served plan request log
      rw [serve, hrun]
      exact ih hserved.kept log'

/-- A connection that was closed is not handed out again. -/
theorem Kept.not_mem_serve (h : c.Kept) (plan : ConnectionPlan) (requests : List Request)
    (log : Log) (hclosed : 0 < c.closings n) : .ok (some n) ∉ (serve plan requests ⟨log, c⟩).1 := by
  induction requests generalizing c log with
  | nil => exact List.not_mem_nil
  | cons request requests ih =>
      obtain ⟨answer, log', c', hrun, hserved⟩ := h.served plan request log
      have hstill : 0 < c'.closings n := Nat.lt_of_lt_of_le hclosed (hserved.follows.closings_le n)
      rw [serve, hrun]
      intro hmem
      rcases List.mem_cons.1 hmem with hanswer | hlater
      · have hheld := hserved.of_ok n hanswer.symm
        have hopen : c'.Tidy (some n) := hheld ▸ hserved.kept.tidy
        exact Nat.ne_of_gt hstill hopen.closings_eq_zero
      · exact ih hserved.kept log' hstill hlater

/-- What can be relied on between two requests. -/
structure Dependable (plan : ConnectionPlan) (s : Logged Client) : Prop where
  held_iff_lastUsed : s.state.held?.isSome ↔ s.state.lastUsed?.isSome
  held_iff_readOnly : s.state.held?.isSome ↔ s.state.isReadOnly = true
  /-- The held connection is the one that was opened and not closed, and every other one was closed
  once. -/
  held_opened : ∀ n, s.state.held? = some n → s.state.WasOpened n
  closings : ∀ n, s.state.WasOpened n → s.state.closings n = if s.state.held? = some n then 0 else 1
  /-- A connection that is handed out was restricted to reading, and was not closed. -/
  handed_out : ∀ n t, (perform plan .connection).run s = (.ok (some n), t) →
    t.state.held? = some n ∧ t.state.WasOpened n ∧ t.state.WasRestricted n ∧ t.state.closings n = 0
  /-- A connection that has been idle for longer than its lifetime is not handed out, then or
  later. -/
  expired : ∀ n lastUsed, s.state.held? = some n → s.state.lastUsed? = some lastUsed →
    plan.lifetime.total < s.state.clock - lastUsed →
      ∀ later, .ok (some n) ∉ (serve plan (.connection :: later) s).1
  failed : ∀ request failure t, (perform plan request).run s = (.error failure, t) →
    t.state.held? = none
  /-- If no connection is held, a new one is asked for, and restricted to reading if it is
  accepted. -/
  anew : s.state.held? = none → ∀ answer t, (perform plan .connection).run s = (answer, t) →
    ∃ new, t.state.events = s.state.events ++ new ∧ ¬ s.state.WasAsked s.state.opened ∧
      (∃ password, .connect s.state.opened plan.parameters password ∈ new) ∧
      (Database.errorAt? s.state.database.connectErrors s.state.opened = none →
        restriction s.state.opened ∈ new) ∧
      ∀ n, answer = .ok (some n) → n = s.state.opened

/-- What every request keeps is enough for a client to be dependable. -/
theorem Kept.dependable (h : c.Kept) (plan : ConnectionPlan) (log : Log) :
    Dependable plan ⟨log, c⟩ := by
  refine ⟨?_, ?_, h.tidy.opened, h.tidy.closings_of_opened, ?_, ?_, ?_, ?_⟩
  · rw [h.lastUsed_isSome]
  · rw [h.isReadOnly_eq]
  · intro n t hn
    obtain ⟨answer, log', c', hrun, hserved⟩ := h.served plan .connection log
    cases hrun.symm.trans hn
    have hheld := hserved.of_ok n rfl
    have hopen : c'.Tidy (some n) := hheld ▸ hserved.kept.tidy
    exact ⟨hheld, hopen.opened n rfl, hserved.kept.wasRestricted n hheld, hopen.closings_eq_zero⟩
  · -- the connection was closed before anything else, and a closed one is not handed out
    intro n lastUsed hheld hlast hlong later
    have hexpired : c.isExpired plan = true :=
      isExpired_eq_true.2 ⟨n, lastUsed, hheld, hlast, hlong⟩
    obtain ⟨outcome, log', c', hrun, hgetting⟩ := perform_connection plan log c
    have hclosed := hgetting.closings_pos hexpired hheld
    obtain ⟨hkept, hheldNow⟩ := h.getting hgetting
    rw [serve, hrun]
    intro hmem
    rcases List.mem_cons.1 hmem with hanswer | hlater
    · cases outcome with
      | error failure => cases hanswer
      | ok m =>
          cases hanswer
          have hheldAgain : c'.held? = some n := hheldNow
          have hopen : c'.Tidy (some n) := hheldAgain ▸ hkept.tidy
          exact Nat.ne_of_gt hclosed hopen.closings_eq_zero
    · exact hkept.not_mem_serve plan later log' hclosed hlater
  · intro request failure t hfailed
    obtain ⟨answer, log', c', hrun, hserved⟩ := h.served plan request log
    cases hrun.symm.trans hfailed
    exact hserved.of_error failure rfl
  · intro hnone answer t hrun
    obtain ⟨outcome, log', c', hrun', hgetting⟩ := perform_connection plan log c
    cases hrun'.symm.trans hrun
    obtain ⟨d, hopening, hsame⟩ := hgetting.opening hnone
    obtain ⟨new, -, hevents, hasked, hrestricted, hnumber⟩ := hopening.history
    refine ⟨new, hsame.trans hevents, h.tidy.not_wasAsked, hasked, hrestricted, ?_⟩
    intro n hn
    cases outcome with
    | ok m => exact hnumber n (by cases hn; rfl)
    | error failure => cases hn

/-- Between any two requests to a client that begins without a connection, whatever the database
answers and however the clock goes. -/
theorem serve_dependable (plan : ConnectionPlan) (requests : List Request) (database : Database)
    (environment : Environment) (typedPassword : String) (password? : Option String) (clock : Int)
    (delays : List Int) (log : Log) :
    Dependable plan (serve plan requests
      ⟨log, { database, environment, typedPassword, password?, clock, delays }⟩).2 := by
  have hstart :
      ({ database, environment, typedPassword, password?, clock, delays } : Client).Kept :=
    kept_of_fresh rfl rfl rfl rfl
  exact (hstart.after plan requests log).dependable plan _

/-- The first connection is idle for too long and closing it fails; the next request is answered
with another. -/
example : (serve
    { parameters := { host := "h", port := 5432, database := "d", user := "u" }
      lifetime := ⟨0, 60, 0⟩ }
    [.connection, .connection, .connection, .connection]
    ⟨{}, { database := { closeErrors := [some ⟨"OperationalError", "gone"⟩] }
           delays := [0, 60000001, -5] }⟩).1 =
    [.ok (some 0), .error (.database "OperationalError" "gone"), .ok (some 1), .ok (some 1)] := by
  rfl

end Client

end InsertScript
