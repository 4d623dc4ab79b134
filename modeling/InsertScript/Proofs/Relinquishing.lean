import InsertScript.CommandLine.Program
import InsertScript.Proofs.Executions

/-!
# What a run leaves behind

A run uses a client of its own, which has not been asked for anything. It asks for at most one
connection, and however the export ends, closes the one that it holds and forgets the password. But
these are two steps: when the database reports an error of closing, the password is not forgotten
(`Program.run_relinquishes`).

`Client.Unclosed` is what holds of the client when the export has ended, and
`Client.Closing.relinquished` is what closing makes of it.
-/

namespace InsertScript

open Step (Keeps Same)

namespace Client

variable {c c' : Client} {plan : ConnectionPlan}

/-- The client after it has forgotten the password. -/
def forgotten (c : Client) : Client := { c with password? := none }

/-- Is the connection that is held the one that was opened and could be restricted, and is its
password known? -/
structure Unclosed (c : Client) : Prop where
  held_iff : ∀ n, c.held? = some n ↔ c.WasOpened n ∧
    Database.errorAt? c.database.readOnlyErrors n = none
  password : ∀ n, c.held? = some n → c.password? ≠ none

/-- Is no connection left, and was every one that was opened closed once? The password is forgotten
unless there is an error of closing a connection that could be opened and restricted. -/
structure Relinquished (database : Database) (c : Client) : Prop where
  database_eq : c.database = database
  held : c.held? = none
  closings : ∀ n, c.WasOpened n → c.closings n = 1
  password_iff : c.password? = none ↔ ∀ n, c.WasOpened n →
    Database.errorAt? database.readOnlyErrors n = none →
    Database.errorAt? database.closeErrors n = none

theorem wasAsked_asking {prompts : List DatabaseEvent} (hprompts : Prompts prompts)
    (password : String) (n : Nat) :
    (c.asking plan prompts password).WasAsked n ↔ c.WasAsked n ∨ n = c.opened := by
  have hasked : (c.asking plan prompts password).WasAsked n ↔
      (c.noting (prompts ++ [.connect c.opened plan.parameters password])).WasAsked n := Iff.rfl
  rw [hasked, ← noting_noting, wasAsked_noting, hprompts.idle.wasAsked_noting]
  refine or_congr_right ⟨?_, ?_⟩
  · rintro ⟨_, _, hmem⟩
    cases List.mem_singleton.1 hmem
    rfl
  · rintro rfl
    exact ⟨_, _, List.mem_singleton_self _⟩

/-- The connection that was opened first is held if it could be restricted. -/
theorem Opening.ok_iff {outcome : Except Failure Nat} (hopening : Opening plan c outcome c')
    (hnone : ∀ n, ¬ c.WasAsked n) (n : Nat) :
    outcome = .ok n ↔ c'.WasOpened n ∧ Database.errorAt? c'.database.readOnlyErrors n = none := by
  have hasked {prompts : List DatabaseEvent} (hprompts : Prompts prompts) (password : String) :
      (c.asking plan prompts password).WasAsked n ↔ n = c.opened :=
    (wasAsked_asking hprompts password n).trans (or_iff_right (hnone n))
  cases hopening with
  | refused prompts password e hprompts herror =>
      refine ⟨nofun, ?_⟩
      rintro ⟨⟨hwas, haccepted⟩, -⟩
      rw [(hasked hprompts password).1 hwas] at haccepted
      exact absurd (herror.symm.trans haccepted) nofun
  | unrestricted prompts password e failure hprompts _ herror =>
      refine ⟨nofun, ?_⟩
      rintro ⟨⟨hwas, -⟩, hrestricted⟩
      have hnew : (c.asking plan prompts password).WasAsked n := by
        rcases wasAsked_noting.1 hwas with hwas | ⟨parameters, found, hmem⟩
        · exact hwas
        · simp [restricting, restriction] at hmem
      rw [(hasked hprompts password).1 hnew] at hrestricted
      exact absurd (herror.symm.trans hrestricted) nofun
  | ready prompts password hprompts haccepted hrestricted =>
      have hwas : ((c.asking plan prompts password).noting (restricting c.opened)).WasAsked n ↔
          n = c.opened :=
        ((idle_restricting c.opened).wasAsked_noting n).trans (hasked hprompts password)
      constructor
      · rintro ⟨⟩
        exact ⟨⟨hwas.2 rfl, haccepted⟩, hrestricted⟩
      · rintro ⟨⟨hnew, -⟩, -⟩
        rw [hwas.1 hnew]

theorem Opening.password_ne_none {outcome : Except Failure Nat}
    (hopening : Opening plan c outcome c') : c'.password? ≠ none := by
  cases hopening with
  | refused prompts password e _ _ => exact nofun
  | unrestricted prompts password e failure _ _ _ => exact nofun
  | ready prompts password _ _ _ => exact nofun

/-- A client that was not asked before holds the connection that it hands out. -/
theorem Getting.unclosed {outcome : Except Failure Nat} (hgetting : Getting plan c outcome c')
    (hheld : c.held? = none) (hnone : ∀ n, ¬ c.WasAsked n) : c'.Unclosed := by
  cases hgetting with
  | stuck n failure _ hn => exact absurd (hn.symm.trans hheld) nofun
  | reused n _ hn => exact absurd (hn.symm.trans hheld) nofun
  | refused d _ failure hdropping hd hopening =>
      cases hdropping.eq_of_none hheld
      have hheld' : c'.held? = none := hopening.unchanged_of_error.1.trans hheld
      refine ⟨fun n => ?_, fun n hn => absurd (hn.symm.trans hheld') nofun⟩
      rw [← hopening.ok_iff hnone n, hheld']
      exact ⟨nofun, nofun⟩
  | opened m d c' hdropping hd hopening =>
      cases hdropping.eq_of_none hheld
      refine ⟨fun n => ?_, fun n _ => hopening.password_ne_none⟩
      have hok := hopening.ok_iff hnone n
      refine Iff.trans ?_ hok
      rw [Except.ok.injEq]
      exact Option.some_inj

theorem Unclosed.idle {new : List DatabaseEvent} (h : c.Unclosed) (hidle : Idle new) :
    (c.noting new).Unclosed := by
  refine ⟨fun n => (h.held_iff n).trans ?_, h.password⟩
  rw [hidle.wasOpened_noting]
  exact Iff.rfl

/-- A client that has not been asked for anything. -/
theorem unclosed_of_fresh (hevents : c.events = []) (hheld : c.held? = none) : c.Unclosed := by
  refine ⟨fun n => ⟨fun hn => absurd (hn.symm.trans hheld) nofun, ?_⟩,
    fun n hn => absurd (hn.symm.trans hheld) nofun⟩
  rintro ⟨⟨⟨parameters, password, hmem⟩, -⟩, -⟩
  rw [hevents] at hmem
  exact absurd hmem List.not_mem_nil

/-- The connection that was held counts as opened by the one that closed it. -/
theorem wasOpened_givenUp (m n : Nat) : (c.givenUp m).WasOpened n ↔ c.WasOpened n := by
  refine and_congr_left fun _ => ?_
  have hasked : (c.noting [.close m]).WasAsked n ↔ c.WasAsked n := by
    refine wasAsked_noting.trans (or_iff_left ?_)
    rintro ⟨parameters, password, hmem⟩
    cases List.mem_singleton.1 hmem
  exact hasked

theorem Kept.forgotten (h : c.Kept) : c.forgotten.Kept :=
  ⟨h.lastUsed_isSome, h.isReadOnly_eq, h.wasRestricted,
    ⟨h.tidy.opened, h.tidy.closings_of_opened, h.tidy.closings_of_not_opened, h.tidy.lt_opened⟩⟩

theorem Kept.relinquished (h : c.Kept) (hheld : c.held? = none)
    (hpassword : c.password? = none ↔ ∀ n, c.WasOpened n →
      Database.errorAt? c.database.readOnlyErrors n = none →
      Database.errorAt? c.database.closeErrors n = none) :
    Relinquished c.database c := by
  refine ⟨rfl, hheld, fun n hn => ?_, hpassword⟩
  have hclosings := h.tidy.closings_of_opened n hn
  rwa [hheld, if_neg nofun] at hclosings

/-- If closing the connection fails, the password is not forgotten. -/
theorem Closing.relinquished {outcome : Except Failure Unit}
    (hclosing : Closing c outcome c') (h : c.Kept) (hunclosed : c.Unclosed) :
    Relinquished c.database (match outcome with
      | .ok _ => c'.forgotten
      | .error _ => c') := by
  cases hclosing with
  | idle hheld =>
      refine h.forgotten.relinquished hheld ⟨fun _ n hn hrestricted => ?_, fun _ => rfl⟩
      exact absurd (((hunclosed.held_iff n).2 ⟨hn, hrestricted⟩).symm.trans hheld) nofun
  | closed m hheld haccepted =>
      refine (h.givenUp hheld).forgotten.relinquished rfl
        ⟨fun _ n hn hrestricted => ?_, fun _ => rfl⟩
      have hopened := (wasOpened_givenUp m n).1 hn
      cases hheld.symm.trans ((hunclosed.held_iff n).2 ⟨hopened, hrestricted⟩)
      exact haccepted
  | failed m e hheld herror =>
      refine (h.givenUp hheld).relinquished rfl ⟨fun hpassword => ?_, fun hclosed => ?_⟩
      · exact absurd hpassword (hunclosed.password m hheld)
      · obtain ⟨hopened, hrestricted⟩ := (hunclosed.held_iff m).1 hheld
        exact absurd
          (herror.symm.trans (hclosed m ((wasOpened_givenUp m m).2 hopened) hrestricted)) nofun

end Client

namespace Query

variable {q : Query} {c c' : Client}

theorem Asked.database_eq (h : q.Asked c c') : c'.database = c.database := by
  obtain ⟨outcome, d, asked, hgetting, -, rfl⟩ := h
  exact hgetting.follows.1

theorem Asked.kept (h : q.Asked c c') (hkept : c.Kept) : c'.Kept := by
  obtain ⟨outcome, d, asked, hgetting, hidle, rfl⟩ := h
  exact (hkept.getting hgetting).1.idle hidle

theorem Asked.unclosed (h : q.Asked c c') (hheld : c.held? = none) (hnone : ∀ n, ¬ c.WasAsked n) :
    c'.Unclosed := by
  obtain ⟨outcome, d, asked, hgetting, hidle, rfl⟩ := h
  exact (hgetting.unclosed hheld hnone).idle hidle

end Query

namespace Program

variable {σ α : Type} {q : Query} {c c' : Client}

/-! ### Exports -/

/-- Has a client been used for one round of requests at most? -/
def Used (q : Query) (desk desk' : Desk) : Prop :=
  desk'.client = desk.client ∨ q.Asked desk.client desk'.client

theorem onFiles_keeps_client (step : Step FileSystem α) :
    Keeps (Same Desk.client) (onFiles step) := by
  have hany : Keeps (fun _ _ => True) step := fun _ => trivial
  exact hany.zoom fun _ _ _ => rfl

theorem print_keeps_client (text : String) : Keeps (Same Desk.client) (print text) :=
  Keeps.change fun _ => rfl

theorem used_before {β : Type} {step : Step Desk α} {next : α → Step Desk β}
    (h : Keeps (Same Desk.client) step) (hnext : ∀ a, Keeps (Used q) (next a)) :
    Keeps (Used q) (step >>= next) := by
  refine h.seq hnext (fun a b hab => .inl hab) fun a b c hab hbc => ?_
  unfold Used at hbc ⊢
  rwa [show b.client = a.client from hab] at hbc

theorem used_after {β : Type} {step : Step Desk α} {next : α → Step Desk β}
    (h : Keeps (Used q) step) (hnext : ∀ a, Keeps (Same Desk.client) (next a)) :
    Keeps (Used q) (step >>= next) := by
  refine h.seq hnext (fun a b hab => hab) fun a b c hab hbc => ?_
  unfold Used at hab ⊢
  rwa [← show c.client = b.client from hbc] at hab

/-- An export before anything was written. -/
def begun (dialect : Dialect) : ExportState :=
  { sink := { monitor? := some {} }, renderer := .literals { dialect } }

/-- The result of an export is the text that its work has written and how the work ended. -/
theorem textOf_apply (dialect : Dialect) (enter : Desk → σ) (leave : σ → Desk → Desk)
    (work : Step (Exporter.Sourced σ) ExportResult) (s : Logged Desk)
    {outcome : Except Failure ExportResult} {t : Logged (Exporter.Sourced σ)}
    (h : work.run ⟨s.log, (begun dialect, enter s.state)⟩ = (outcome, t)) :
    textOf dialect enter leave work s
      = .ok (t.state.1.sink.output, outcome) ⟨t.log, leave t.state.2 s.state⟩ := by
  have hattempt : Step.attempt work ⟨s.log, (begun dialect, enter s.state)⟩ = .ok outcome t := by
    cases outcome with
    | ok result => exact Step.attempt_of_ok (Step.ok_of_run h)
    | error failure => exact Step.attempt_of_error (Step.error_of_run h)
  have hwork : (do
      let outcome ← Step.attempt work
      return ((← Step.current).1.sink.output, outcome) : Step (Exporter.Sourced σ) _)
        ⟨s.log, (begun dialect, enter s.state)⟩ = .ok (t.state.1.sink.output, outcome) t :=
          Step.bind_of_ok hattempt
  change Step.zoom (fun desk => (begun dialect, enter desk))
    (fun both desk => leave both.2 desk) _ s = _
  exact Step.zoom_of_ok hwork

theorem destination_keeps_client (a : Arguments) (config : Configuration) (chosen : Chosen) :
    Keeps (Same Desk.client) (destination a config chosen) := by
  unfold destination
  cases a.output.text? with
  | some output => exact Keeps.pure _
  | none =>
      cases a.save with
      | false => exact Keeps.pure _
      | true =>
          exact (Keeps.ofExcept _).bind fun table => Keeps.current.bind fun desk =>
            (onFiles_keeps_client _).bind fun path => Keeps.pure _

theorem script_keeps_client (config : Configuration) (dialect : Dialect) (file : CsvFile)
    (output? : Option Path) :
    Keeps (Same Desk.client) (script config dialect (.csv file) output?) := by
  refine Keeps.current.bind fun desk => fun s => ?_
  dsimp only
  rw [Step.run_of_ok (textOf_apply dialect _ _ _ s rfl)]
  exact rfl

theorem script_used (config : Configuration) (dialect : Dialect) (q : Query)
    (output? : Option Path) : Keeps (Used q) (script config dialect (.query q) output?) := by
  refine used_before Keeps.current fun desk => fun s => .inr ?_
  dsimp only
  rw [Step.run_of_ok (textOf_apply dialect _ _ _ s rfl)]
  exact Exporter.script_asks _ q ⟨s.log, (begun dialect, { client := s.state.client })⟩ rfl rfl

theorem exportChosen_keeps_client (a : Arguments) (config : Configuration) (dialect : Dialect)
    (file : CsvFile) : Keeps (Same Desk.client) (exportChosen a config dialect (.csv file)) := by
  refine (destination_keeps_client a config _).bind fun output? => ?_
  cases output? with
  | some output =>
      exact (onFiles_keeps_client _).bind fun _ =>
          (script_keeps_client config dialect file _).bind fun _ =>
        (onFiles_keeps_client _).bind fun _ => Keeps.change fun _ => rfl
  | none =>
      exact (Keeps.note _).bind fun _ => (script_keeps_client config dialect file _).bind fun _ =>
        (print_keeps_client _).bind fun _ => (Keeps.ofExcept _).bind fun _ => Keeps.pure ()

theorem exportChosen_used (a : Arguments) (config : Configuration) (dialect : Dialect) (q : Query) :
    Keeps (Used q) (exportChosen a config dialect (.query q)) := by
  refine used_before (destination_keeps_client a config _) fun output? => ?_
  cases output? with
  | some output =>
      exact used_before (onFiles_keeps_client _) fun _ =>
          used_after (script_used config dialect q _) fun _ =>
        (onFiles_keeps_client _).bind fun _ => Keeps.change fun _ => rfl
  | none =>
      exact used_before (Keeps.note _) fun _ => used_after (script_used config dialect q _) fun _ =>
        (print_keeps_client _).bind fun _ => (Keeps.ofExcept _).bind fun _ => Keeps.pure ()

/-! ### Runs -/

theorem closeSource_run {s : Logged Desk} {log : Log} {outcome : Except Failure Unit}
    (h : Client.close.run ⟨s.log, s.state.client⟩ = (outcome, ⟨log, c⟩)) :
    (closeSource (.query q)).run s = (outcome, ⟨log, { s.state with client := c }⟩) := by
  change (Step.zoom Desk.client (fun client desk => { desk with client }) Client.close).run s = _
  exact Step.run_zoom h

/-- Closing the connection may fail, and then the password is not cleared. -/
theorem relinquished_of_close {s : Logged Desk} (hkept : s.state.client.Kept)
    (hunclosed : s.state.client.Unclosed) :
    Client.Relinquished s.state.client.database ((do
      closeSource (.query q)
      onClient Client.clearPassword).run s).2.state.client := by
  obtain ⟨outcome, c, hrun, hclosing⟩ := Client.close_closing s.log s.state.client
  have hrelinquished := hclosing.relinquished hkept hunclosed
  have hclosed := closeSource_run (q := q) hrun
  cases outcome with
  | ok _ =>
      rw [Step.run_bind_of_ok (Step.ok_of_run hclosed)]
      exact hrelinquished
  | error failure =>
      rw [Step.run_bind_of_error (Step.error_of_run hclosed)]
      exact hrelinquished

theorem Used.database_eq {desk desk' : Desk} (h : Used q desk desk') :
    desk'.client.database = desk.client.database := by
  rcases h with hsame | hasked
  · rw [hsame]
  · exact hasked.database_eq

/-- A fresh client that was used for one round of requests at most. -/
theorem Used.kept_unclosed {desk desk' : Desk} (h : Used q desk desk') (hkept : desk.client.Kept)
    (hevents : desk.client.events = []) (hheld : desk.client.held? = none) :
    desk'.client.Kept ∧ desk'.client.Unclosed := by
  rcases h with hsame | hasked
  · rw [hsame]
    exact ⟨hkept, Client.unclosed_of_fresh hevents hheld⟩
  · refine ⟨hasked.kept hkept, hasked.unclosed hheld ?_⟩
    rintro n ⟨parameters, password, hmem⟩
    rw [hevents] at hmem
    exact List.not_mem_nil hmem

/-- However a run ends, whatever its source is and whatever the database answers: it holds no
connection, it has closed every one that was opened, and it has forgotten the password unless
closing the connection has failed. -/
theorem run_relinquishes (a : Arguments) (config : Configuration) (desk : Desk)
    (database : Database) (environment : Environment) (typedPassword : String) (clock : Int)
    (delays : List Int) (log : Log) :
    Client.Relinquished database ((run a config).run
      ⟨log, { desk with client := { database, environment, typedPassword, clock, delays }
        }⟩).2.state.client := by
  generalize hclient : ({ database, environment, typedPassword, clock, delays } : Client) = client
  generalize hs : (⟨log, { desk with client }⟩ : Logged Desk) = s
  have hstate : s.state.client = client := by rw [← hs]
  have hfresh : client.Kept ∧ client.events = [] ∧ client.held? = none ∧ client.forgotten = client ∧
      client.database = database := by
    subst hclient
    exact ⟨Client.kept_of_fresh rfl rfl rfl rfl, rfl, rfl, rfl, rfl⟩
  obtain ⟨hkept, hevents, hheld, hforgets, rfl⟩ := hfresh
  -- nothing was asked, so nothing has to be closed
  have hforgotten : Client.Relinquished client.database client.forgotten :=
    (Client.Closing.idle hheld).relinquished hkept (Client.unclosed_of_fresh hevents hheld)
  cases hdialect : Dialect.ofName (some config.dialect) with
  | error failure =>
      have hrun : run a config s = .error failure s := by
        rw [run, hdialect]
        rfl
      rw [Step.run_of_error hrun, hstate]
      rwa [hforgets] at hforgotten
  | ok dialect =>
      rw [run, hdialect, Step.run_bind_of_ok (Step.ofExcept_ok dialect s)]
      cases chooseSource a config with
      | error failure =>
          have hcleared : onClient Client.clearPassword s
              = .ok () ⟨s.log, { s.state with client := s.state.client.forgotten }⟩ := rfl
          dsimp only
          rw [Step.run_bind_of_ok hcleared, Step.run_of_error (Step.throw_apply failure _)]
          dsimp only
          rw [hstate]
          exact hforgotten
      | ok chosen =>
          dsimp only
          rw [Step.snd_run_ensuring]
          cases chosen with
          | csv file =>
              have hexport :
                  ((exportChosen a config dialect (.csv file)).run s).2.state.client = client :=
                (exportChosen_keeps_client a config dialect file s).trans hstate
              generalize ((exportChosen a config dialect (.csv file)).run s).2 = t at hexport ⊢
              have hforgot : ((do
                  closeSource (.csv file)
                  onClient Client.clearPassword : Step Desk Unit).run t).2.state.client
                  = t.state.client.forgotten := rfl
              rw [hforgot, hexport]
              exact hforgotten
          | query q =>
              have hused := exportChosen_used a config dialect q s
              generalize ((exportChosen a config dialect (.query q)).run s).2 = t at hused ⊢
              rw [← hstate] at hkept hevents hheld ⊢
              obtain ⟨hkept, hunclosed⟩ := hused.kept_unclosed hkept hevents hheld
              rw [← hused.database_eq]
              exact relinquished_of_close hkept hunclosed

/-- Closing the connection fails after an export, and the password is not forgotten. -/
theorem not_forgotten_after_failed_close :
    let database : Database :=
      { closeErrors := [some { kind := "OperationalError", reason := "gone" }]
        description? := some [("id", 23)], rows := [.ok [.int 1]] }
    let desk : Desk :=
      { files := .empty #["work"], client := { database, environment := [("PGPASSWORD", "secret")] }
        now := { date := { year := 2024, month := 3, day := 15 } } }
    let a : Arguments := { query := .text "SELECT id FROM t" }
    let config : Configuration :=
      { database := { host := "localhost", port := 5432, database := "shop", user := "reader" }
        outputDirectory := { names := ["exports"] } }
    ((run a config).run ⟨{}, desk⟩).2.state.client.password? = some "secret" := by
  decide +kernel

end Program

end InsertScript
