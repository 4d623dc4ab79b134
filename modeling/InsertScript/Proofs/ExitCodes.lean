import InsertScript.Proofs.OutputFiles

/-!
# Exit codes and output files

A run first finds out what it has to export (`Program.settle`). If the command line and the
variables do not say that, it ends without having touched a file or a connection. Otherwise the exit
code tells what the output file holds: after the exit code zero it is the whole script, behind the
earlier bytes of the file if they are kept, and no other file is changed. Whatever the exit code is,
a run that keeps the earlier bytes has only added a beginning of the script to them
(`Program.start_delivers`).

The output file may not be one that the export reads. Whether it is one shows when the directories
above it have been made, so it is asked of the files that the run leaves.
-/

namespace InsertScript.Program

open Step (Keeps Same Respects)
open FileSystem (AddsDirectories Stores)

variable {a : Arguments} {desk : Desk} {files : FileSystem} {job : Job}
  {outcome : Except Failure Unit} {name : String}

/-! ### Configurations -/

/-- What a run exports, or why its configuration is invalid. -/
def settle (a : Arguments) (desk : Desk) : Except Failure Job := do
  let configuration ← ((loadConfiguration a).run ⟨{}, desk⟩).1
  let dialect ← Dialect.ofName (some configuration.dialect)
  let chosen ← chooseSource a configuration
  return { configuration, dialect, chosen }

/-- The variables that hold numbers, with their defaults. -/
def numbers : List (String × String) :=
  [("DB_PORT", "5432"), ("CONNECTION_TTL_MINUTES", "30"), ("SQLEXPORT_LOB_THRESHOLD", "4000")]

/-- Is a number not readable, the dialect unknown, or something missing that a connection needs? -/
inductive Misconfigured (a : Arguments) (env : Environment) : Prop where
  | number (name default : String) (failure : Failure) (hname : (name, default) ∈ numbers)
      (h : Configuration.readNumber env name default = .error failure) : Misconfigured a env
  | dialect (failure : Failure)
      (h : Dialect.ofName (some (a.dialect.getD (env.lookup "SQL_DIALECT" "generic"))) =
        .error failure) : Misconfigured a env
  | parameters (hcsv : a.csv.text? = none)
      (h : a.host.getD (env.lookup "DB_HOST" "localhost") = "" ∨
        a.user.getD (env.lookup "DB_USER" "") = "" ∨
        a.database.getD (env.lookup "DB_NAME" "") = "") : Misconfigured a env

/-- A configuration that was loaded has readable numbers, and the command line goes before the
environment in it. -/
theorem loadConfiguration_inv {s t : Logged Desk} {c : Configuration}
    (h : loadConfiguration a s = .ok c t) :
    (∀ name default, (name, default) ∈ numbers →
      ∃ n, Configuration.readNumber s.state.client.environment name default = .ok n) ∧
    c.dialect = a.dialect.getD (s.state.client.environment.lookup "SQL_DIALECT" "generic") ∧
    c.database.host = a.host.getD (s.state.client.environment.lookup "DB_HOST" "localhost") ∧
    c.database.user = a.user.getD (s.state.client.environment.lookup "DB_USER" "") ∧
    c.database.database = a.database.getD (s.state.client.environment.lookup "DB_NAME" "") := by
  obtain ⟨desk, _, hcurrent, h⟩ := Step.ok_of_bind h
  cases hcurrent
  obtain ⟨loaded, _, hload, h⟩ := Step.ok_of_bind h
  obtain ⟨⟨settings, remark?⟩, _, -, h⟩ := Step.ok_of_bind h
  obtain ⟨_, _, -, h⟩ := Step.ok_of_bind h
  cases h
  obtain ⟨database, _, hdatabase, hload⟩ := Step.ok_of_bind hload
  obtain ⟨port, hport, hdatabase⟩ := Step.ok_of_bind_except (Step.ok_of_ofExcept hdatabase).1
  cases hdatabase
  obtain ⟨standard, _, -, hload⟩ := Step.ok_of_bind hload
  obtain ⟨settings, _, -, hload⟩ := Step.ok_of_bind hload
  obtain ⟨lifetime, _, hlifetime, hload⟩ := Step.ok_of_bind hload
  obtain ⟨threshold, _, hthreshold, hload⟩ := Step.ok_of_bind hload
  cases hload
  refine ⟨?_, rfl, rfl, rfl, rfl⟩
  intro name default hname
  simp only [numbers, List.mem_cons, Prod.mk.injEq, List.not_mem_nil, or_false] at hname
  rcases hname with ⟨rfl, rfl⟩ | ⟨rfl, rfl⟩ | ⟨rfl, rfl⟩
  · exact ⟨port, hport⟩
  · exact ⟨lifetime, (Step.ok_of_ofExcept hlifetime).1⟩
  · exact ⟨threshold, (Step.ok_of_ofExcept hthreshold).1⟩

/-- There is no job with a misconfiguration. -/
theorem settle_of_misconfigured (h : Misconfigured a desk.client.environment) :
    ∃ failure, settle a desk = .error failure := by
  cases hsettle : settle a desk with
  | error failure => exact ⟨failure, rfl⟩
  | ok job =>
      obtain ⟨c, hload, hsettle⟩ := Step.ok_of_bind_except hsettle
      have hloaded := Step.ok_of_run (Prod.ext hload rfl)
      obtain ⟨hnumbers, hdialect, hhost, huser, hdatabase⟩ := loadConfiguration_inv hloaded
      obtain ⟨dialect, hknown, hsettle⟩ := Step.ok_of_bind_except hsettle
      obtain ⟨chosen, hchosen, -⟩ := Step.ok_of_bind_except hsettle
      cases h with
      | number name default failure hname hnumber =>
          obtain ⟨n, hn⟩ := hnumbers name default hname
          cases hnumber.symm.trans hn
      | dialect failure hunknown =>
          rw [← hdialect] at hunknown
          cases hunknown.symm.trans hknown
      | parameters hcsv hmissing =>
          rw [← hhost, ← huser, ← hdatabase] at hmissing
          simp only [chooseSource, hcsv, if_pos hmissing] at hchosen
          cases hchosen

/-! ### Runs -/

theorem load_respects_eq (env : Environment) :
    Respects Eq (Configuration.load env : Step Desk Configuration) := by
  have hsettings : Respects Eq (Configuration.loadSettings env : Step Desk Settings) :=
    (Respects.ofExcept _).bind fun _ => (Respects.noteAll _).bind fun _ => Respects.pure _
  exact (Respects.ofExcept _).bind fun _ => (Respects.ofExcept _).bind fun _ =>
      hsettings.bind fun _ =>
    (Respects.ofExcept _).bind fun _ => (Respects.ofExcept _).bind fun _ => Respects.pure _

theorem load_keeps (env : Environment) :
    Keeps (Same id) (Configuration.load env : Step Desk Configuration) := by
  have hsettings : Keeps (Same id) (Configuration.loadSettings env : Step Desk Settings) :=
    (Keeps.ofExcept _).bind fun _ => (Keeps.noteAll _).bind fun _ => Keeps.pure _
  exact (Keeps.ofExcept _).bind fun _ => (Keeps.ofExcept _).bind fun _ => hsettings.bind fun _ =>
    (Keeps.ofExcept _).bind fun _ => (Keeps.ofExcept _).bind fun _ => Keeps.pure _

/-- Loading the configuration only looks at the desk, and what it finds does not depend on the
log. -/
theorem loadConfiguration_run (a : Arguments) (log : Log) (desk : Desk) : ∃ log',
    (loadConfiguration a).run ⟨log, desk⟩ =
      (((loadConfiguration a).run ⟨{}, desk⟩).1, ⟨log', desk⟩) := by
  have hrespects : Respects Eq (loadConfiguration a) := Respects.eq_current_bind fun desk =>
    (load_respects_eq _).bind fun _ => (Respects.ofExcept _).bind fun _ =>
        (Respects.noteAll _).bind fun _ =>
      Respects.pure _
  have hkeeps : Keeps (Same id) (loadConfiguration a) := Keeps.current.bind fun desk =>
    (load_keeps _).bind fun _ => (Keeps.ofExcept _).bind fun _ =>
      (Keeps.noteAll _).bind fun _ => Keeps.pure _
  have houtcome := (hrespects ⟨log, desk⟩ ⟨{}, desk⟩ rfl).1
  have hstate := hkeeps ⟨log, desk⟩
  generalize (loadConfiguration a).run ⟨log, desk⟩ = r at houtcome hstate
  obtain ⟨outcome, log', desk'⟩ := r
  cases hstate
  exact ⟨log', Prod.ext houtcome rfl⟩

/-- A run with an invalid configuration forgets the password at most. -/
theorem run_of_settle_error {failure : Failure} (h : settle a desk = .error failure) (log : Log) :
    ∃ t, (loadConfiguration a >>= run a).run ⟨log, desk⟩ = (.error failure, t) ∧
      t.state.files = desk.files ∧ t.state.client.events = desk.client.events := by
  obtain ⟨log', hload⟩ := loadConfiguration_run a log desk
  rcases Step.error_of_bind_except h with hloaded | ⟨c, hloaded, h⟩
  · rw [hloaded] at hload
    rw [Step.run_bind_of_error (Step.error_of_run hload)]
    exact ⟨_, rfl, rfl, rfl⟩
  · rw [hloaded] at hload
    rw [Step.run_bind_of_ok (Step.ok_of_run hload), run]
    rcases Step.error_of_bind_except h with hdialect | ⟨dialect, hdialect, h⟩
    · rw [hdialect, Step.run_bind_of_error (Step.ofExcept_error _ _)]
      exact ⟨_, rfl, rfl, rfl⟩
    · rw [hdialect, Step.run_bind_of_ok (Step.ofExcept_ok _ _)]
      rcases Step.error_of_bind_except h with hchosen | ⟨chosen, hchosen, h⟩
      · rw [hchosen]
        exact ⟨_, rfl, rfl, rfl⟩
      · cases h

theorem closing_keeps_files (chosen : Chosen) : Keeps (Same Desk.files) (do
    closeSource chosen
    onClient Client.clearPassword) := by
  have hclient {α : Type} (step : Step Client α) : Keeps (Same Desk.files) (onClient step) := by
    have hany : Keeps (fun _ _ => True) step := fun _ => trivial
    exact hany.zoom fun _ _ _ => rfl
  refine Keeps.bind ?_ fun _ => hclient _
  cases chosen with
  | csv file => exact Keeps.pure ()
  | query q => exact hclient _

/-- Closing the connection may still fail after an export. -/
theorem run_of_settle_ok (hsound : desk.files.IsSound) (h : settle a desk = .ok job) (log : Log) :
    ∃ outcome exported t, (loadConfiguration a >>= run a).run ⟨log, desk⟩ = (outcome, t) ∧
      Exporting a job desk exported t.state.files ∧ (outcome = .ok () → exported = .ok ()) := by
  obtain ⟨log', hload⟩ := loadConfiguration_run a log desk
  obtain ⟨c, hloaded, h⟩ := Step.ok_of_bind_except h
  obtain ⟨dialect, hdialect, h⟩ := Step.ok_of_bind_except h
  obtain ⟨chosen, hchosen, h⟩ := Step.ok_of_bind_except h
  cases h
  rw [hloaded] at hload
  rw [Step.run_bind_of_ok (Step.ok_of_run hload), run, hdialect,
    Step.run_bind_of_ok (Step.ofExcept_ok _ _), hchosen]
  dsimp only
  obtain ⟨exported, t, hrun, hexporting⟩ := exportChosen_exporting a
    { configuration := c, dialect, chosen } (s := ⟨log', desk⟩) hsound
  obtain ⟨outcome, u, hclosed⟩ : ∃ outcome u, (Step.ensuring (exportChosen a c dialect chosen) do
    closeSource chosen
    onClient Client.clearPassword).run ⟨log', desk⟩ = (outcome, u) := ⟨_, _, rfl⟩
  have hleft := Step.snd_run_ensuring (exportChosen a c dialect chosen) (do
    closeSource chosen
    onClient Client.clearPassword) ⟨log', desk⟩
  rw [hrun, hclosed] at hleft
  have hfiles : u.state.files = t.state.files := by
    have hkept := closing_keeps_files chosen t
    rwa [← show u = _ from hleft] at hkept
  have hexported : outcome = .ok () → exported = .ok () := by
    intro hok
    rw [hok] at hclosed
    obtain ⟨v, hran, -⟩ := Step.ok_of_ensuring (Step.ok_of_run hclosed)
    rw [Step.run_of_ok hran] at hrun
    cases hrun
    rfl
  exact ⟨outcome, exported, u, hclosed, hfiles ▸ hexporting, hexported⟩

theorem conclude_apply (identity : Identity) (outcome : Except Failure Unit) (s : Logged Desk) :
    ∃ code log, conclude identity outcome s = .ok code ⟨log, s.state⟩ ∧
      (code = 0 ↔ outcome = .ok ()) := by
  cases outcome with
  | ok _ => exact ⟨0, s.log, rfl, by simp⟩
  | error failure =>
      unfold conclude
      dsimp only
      split
      · exact ⟨interrupted, _, rfl, by simp [interrupted]⟩
      · split
        · exact ⟨1, _, rfl, by simp⟩
        · exact ⟨1, _, rfl, by simp⟩

/-- The exit code is zero if nothing has failed. -/
theorem start_inv {identity : Identity} {words : List String} {finish : Finish}
    (hwords : Arguments.read words = .arguments a) (h : start identity words desk = .ok finish) :
    ∃ log outcome t, (loadConfiguration a >>= run a).run ⟨log, desk⟩ = (outcome, t) ∧
      finish.desk = t.state ∧ (finish.exitCode = 0 ↔ outcome = .ok ()) := by
  unfold start at h
  rw [hwords] at h
  obtain ⟨level, -, h⟩ := Step.ok_of_bind_except h
  obtain ⟨outcome, t, hrun⟩ : ∃ outcome t,
      (loadConfiguration a >>= run a).run ⟨{ threshold := level }, desk⟩ = (outcome, t) :=
        ⟨_, _, rfl⟩
  obtain ⟨code, log, hconclude, hcode⟩ := conclude_apply identity outcome t
  have hattempt : Step.attempt (loadConfiguration a >>= run a) ⟨{ threshold := level }, desk⟩ =
      .ok outcome t := by
    cases outcome with
    | ok _ => exact Step.attempt_of_ok (Step.ok_of_run hrun)
    | error failure => exact Step.attempt_of_error (Step.error_of_run hrun)
  have hperform : (perform identity a).run ⟨{ threshold := level }, desk⟩ =
      (.ok code, ⟨log, t.state⟩) := by
    change (Step.attempt (loadConfiguration a >>= run a) >>= conclude identity).run _ = _
    rw [Step.run_bind_of_ok hattempt, Step.run_of_ok hconclude]
  dsimp only at h
  rw [hperform] at h
  cases h
  exact ⟨_, outcome, t, hrun, rfl, hcode⟩

/-! ### What an export leaves -/

/-- A run that keeps what the files hold takes nothing away from any of them. -/
theorem Exporting.content_prefix (h : Exporting a job desk outcome files)
    (happend : a.append = true) (number : Nat) :
    desk.files.content number <+: files.content number := by
  cases h with
  | refused failure _ hadds => exact hadds.content number ▸ List.prefix_refl _
  | console _ _ hadds _ => exact hadds.content number ▸ List.prefix_refl _
  | stored name own opened text result t _ _ hopens _ =>
      have hstores := hopens.append (Utf8.encode text.toList)
      by_cases hown : number = own
      · rw [hown, hstores.content, if_pos happend]
        exact List.prefix_append _ _
      · exact hstores.changes.content number hown ▸ List.prefix_refl _

/-- Is the output no file that the job reads? -/
def Job.Apart (job : Job) (files : FileSystem) (database : Database) (name : String) : Prop :=
  ∀ path number, job.chosen.Reads database path →
    files.fileNumber (Path.ofString name) = .ok number → files.fileNumber path ≠ .ok number

/-- The rows of a database come with no files, so a query reads none. -/
theorem Job.apart_of_query {database : Database} {q : Query} (h : job.chosen = .query q)
    (hplain : ∀ row content path, .ok row ∈ database.rows → .content content ∈ row →
      content.payload ≠ .file path) :
    job.Apart files database name := by
  intro path number hreads
  rw [h] at hreads
  obtain ⟨row, content, hrow, hcontent, hpayload⟩ := hreads
  exact absurd hpayload (hplain row content path hrow hcontent)

/-- An export fails before its output is open, or the output holds what the export writes in
memory. -/
theorem Exporting.stores (h : Exporting a job desk outcome files)
    (hname : job.outputName? a desk.now = .ok (some name))
    (hapart : job.Apart files desk.client.database name) :
    ((∃ failure, outcome = .error failure) ∧ desk.files.AddsDirectories files) ∨
      ∃ number, outcome = (job.exported files desk.client).2.map (fun _ => ()) ∧
        desk.files.Stores (Path.ofString name) a.append
          (Utf8.encode (job.exported files desk.client).1.toList) files number := by
  cases h with
  | refused failure _ hadds => exact .inl ⟨⟨failure, rfl⟩, hadds⟩
  | console _ _ hadds hconsole => cases hname.symm.trans hconsole
  | stored found number opened text result t hfound hclient hopens hscript =>
      cases hname.symm.trans hfound
      have hstores := hopens.append (Utf8.encode text.toList)
      have hreads (other : Path) (hother : job.chosen.Reads opened.state.client.database other) :
          opened.state.files.Shares (opened.state.files.append (Path.ofString name)
            (Utf8.encode text.toList)) other ∧
            opened.state.files.fileNumber other ≠ .ok number := by
        have hne := hapart other number (hclient ▸ hother) hstores.fileNumber
        rw [FileSystem.fileNumber_append] at hne
        exact ⟨FileSystem.shares_append hopens.fileNumber hne _, hne⟩
      obtain ⟨t', hexported⟩ :=
        script_exported job hopens.fileNumber (FileSystem.working_append _ _ _) hreads
      have htext : (text, result) = job.exported
          (opened.state.files.append (Path.ofString name) (Utf8.encode text.toList))
            desk.client := by
        rw [hscript, hclient] at hexported
        injection hexported
      rw [← htext]
      exact .inr ⟨number, rfl, hstores⟩

theorem Exporting.changes (h : Exporting a job desk outcome files) :
    ∃ number, desk.files.Changes files number := by
  cases h with
  | refused failure _ hadds => exact ⟨0, hadds.changes 0⟩
  | console _ _ hadds _ => exact ⟨0, hadds.changes 0⟩
  | stored name number opened text result t _ _ hopens _ =>
      exact ⟨number, (hopens.append _).changes⟩

/-- What an export writes in memory is the same before and after the run, if what it reads was there
before. -/
theorem Exporting.exported_eq (h : Exporting a job desk outcome files)
    (hname : job.outputName? a desk.now = .ok (some name))
    (hapart : job.Apart files desk.client.database name)
    (hpresent : ∀ path, job.chosen.Reads desk.client.database path →
      ∃ number, desk.files.fileNumber path = .ok number) :
    job.exported files desk.client = job.exported desk.files desk.client := by
  have hkept : desk.files.Extends files := by
    obtain ⟨number, hchanges⟩ := h.changes
    exact hchanges.kept
  have hshared : ∀ path, job.chosen.Reads desk.client.database path →
      desk.files.Shares files path := by
    intro path hpath
    obtain ⟨number, hnumber⟩ := hpresent path hpath
    have hafter := hkept.fileNumber hnumber
    refine ⟨hafter.trans hnumber.symm, ?_⟩
    intro found hfound
    cases hnumber.symm.trans hfound
    rcases h.stores hname hapart with ⟨-, hadds⟩ | ⟨own, -, hstores⟩
    · exact hadds.content number
    · have hother : number ≠ own :=
        fun heq => hapart path own hpath hstores.fileNumber (heq ▸ hafter)
      exact hstores.changes.content number hother
  exact (Job.exported_shared hkept.working hshared).symm

/-! ### The contract of a run -/

/-- What an output file holds when the run has ended. The text is what the same export writes in
memory. -/
structure Job.Delivers (job : Job) (a : Arguments) (name : String) (desk : Desk) (finish : Finish) :
    Prop where
  /-- After the exit code zero it is all of the text, and no other file is changed. -/
  complete : finish.exitCode = 0 → ∃ number result,
    (job.exported finish.desk.files desk.client).2 = .ok result ∧
    desk.files.Stores (Path.ofString name) a.append
      (Utf8.encode (job.exported finish.desk.files desk.client).1.toList) finish.desk.files number
  /-- After any exit code the earlier bytes are in front if they are kept, and a beginning of the
  text follows. -/
  appended : a.append = true → ∀ number,
    finish.desk.files.fileNumber (Path.ofString name) = .ok number →
    ∃ rest, rest <+: Utf8.encode (job.exported finish.desk.files desk.client).1.toList ∧
      finish.desk.files.content number = desk.files.content number ++ rest
  /-- The text can be told before the run, if what the export reads is there. -/
  present : (∀ path, job.chosen.Reads desk.client.database path →
    ∃ number, desk.files.fileNumber path = .ok number) →
    job.exported finish.desk.files desk.client = job.exported desk.files desk.client

/-- An export delivers the script if the exit code is zero only after it has succeeded. -/
theorem Exporting.delivers {exported : Except Failure Unit} {finish : Finish}
    (h : Exporting a job desk exported finish.desk.files)
    (hcode : finish.exitCode = 0 → exported = .ok ())
    (hname : job.outputName? a desk.now = .ok (some name))
    (hapart : job.Apart finish.desk.files desk.client.database name) :
    job.Delivers a name desk finish := by
  refine ⟨?_, ?_, h.exported_eq hname hapart⟩
  · intro hzero
    have hok := hcode hzero
    rcases h.stores hname hapart with ⟨⟨failure, hfailed⟩, -⟩ | ⟨number, hresult, hstores⟩
    · cases hok.symm.trans hfailed
    · cases houtcome : (job.exported finish.desk.files desk.client).2 with
      | error failure =>
          rw [houtcome] at hresult
          cases hok.symm.trans hresult
      | ok result => exact ⟨number, result, rfl, hstores⟩
  · intro happend number hnumber
    rcases h.stores hname hapart with ⟨-, hadds⟩ | ⟨own, -, hstores⟩
    · refine ⟨[], List.nil_prefix, ?_⟩
      rw [hadds.content, List.append_nil]
    · cases hnumber.symm.trans hstores.fileNumber
      refine ⟨_, List.prefix_refl _, ?_⟩
      rw [hstores.content, if_pos happend]

/-- The exit code and the output file agree, whatever the command line, the variables and the files
are.

An invalid configuration makes a run fail before it has touched a file or a connection. A run that
keeps the earlier bytes takes nothing away from any file. And an output file that the export does
not read holds what it delivers. -/
theorem start_delivers (identity : Identity) (words : List String) {desk : Desk} {finish : Finish}
    (hsound : desk.files.IsSound) (hstart : start identity words desk = .ok finish) :
    match Arguments.read words with
    | .arguments a =>
        (Misconfigured a desk.client.environment → ∃ failure, settle a desk = .error failure) ∧
        (a.append = true → ∀ number, desk.files.content number <+:
        finish.desk.files.content number) ∧
        match settle a desk with
        | .error _ => finish.exitCode ≠ 0 ∧ finish.desk.files = desk.files ∧
            finish.desk.client.events = desk.client.events
        | .ok job => ∀ name, job.outputName? a desk.now = .ok (some name) →
            job.Apart finish.desk.files desk.client.database name → job.Delivers a name desk finish
    | _ => finish.desk.files = desk.files ∧ finish.desk.client = desk.client := by
  cases hwords : Arguments.read words with
  | fault fault =>
      rw [start, hwords] at hstart
      cases hstart
      exact ⟨rfl, rfl⟩
  | help =>
      rw [start, hwords] at hstart
      cases hstart
      exact ⟨rfl, rfl⟩
  | version =>
      rw [start, hwords] at hstart
      cases hstart
      exact ⟨rfl, rfl⟩
  | arguments a =>
      obtain ⟨log, outcome, t, hrun, hdesk, hcode⟩ := start_inv hwords hstart
      refine ⟨settle_of_misconfigured, ?_⟩
      cases hsettle : settle a desk with
      | error failure =>
          obtain ⟨u, hfailed, hfiles, hevents⟩ := run_of_settle_error hsettle log
          cases hrun.symm.trans hfailed
          rw [hdesk, hfiles, hevents]
          have hnonzero : finish.exitCode ≠ 0 := fun hzero => nomatch hcode.1 hzero
          exact ⟨fun _ number => List.prefix_refl _, hnonzero, rfl, rfl⟩
      | ok job =>
          obtain ⟨outcome', exported, u, hran, hexporting, hexported⟩ :=
            run_of_settle_ok hsound hsettle log
          cases hrun.symm.trans hran
          rw [← hdesk] at hexporting
          exact ⟨hexporting.content_prefix,
            fun name hname hapart => hexporting.delivers
              (fun hzero => hexported (hcode.1 hzero)) hname hapart⟩

/-- A script that is added to a file with a line of its own. -/
theorem start_delivers_appended :
    let words := ["--query", "SELECT id FROM t", "--output", "out.sql", "--append"]
    let a : Arguments :=
      { query := .text "SELECT id FROM t", output := .text "out.sql", append := true }
    let files :=
      ((FileSystem.empty #["work"]).store (Path.ofString "out.sql")
        (Utf8.encode "-- old\n".toList)).1
    let environment : Environment :=
      [("HOME", "/work"), ("PGPASSWORD", "secret"), ("DB_NAME", "shop"), ("DB_USER", "reader")]
    let database : Database := { description? := some [("id", 23)], rows := [.ok [.int 1]] }
    let desk : Desk :=
      { files, client := { database, environment },
        now := { date := { year := 2024, month := 3, day := 15 } } }
    files.IsSound ∧ ∃ finish job, start {} words desk = .ok finish ∧ finish.exitCode = 0 ∧
      Arguments.read words = .arguments a ∧ settle a desk = .ok job ∧
      job.outputName? a desk.now = .ok (some "out.sql") ∧
      job.Apart finish.desk.files database "out.sql" ∧ job.Delivers a "out.sql" desk finish := by
  intro words a files environment database desk
  have hsound : files.IsSound := (FileSystem.isSound_empty _).store _ _
  have hcode : (start {} words desk).toOption.map Finish.exitCode = some 0 := by decide +kernel
  have hquery : (settle a desk).toOption.map (fun job => job.chosen matches .query _) =
      some true := by
    decide +kernel
  have hwords : Arguments.read words = .arguments a := by rfl
  cases hstart : start {} words desk with
  | error failure => simp [hstart, Except.toOption] at hcode
  | ok finish =>
      cases hsettle : settle a desk with
      | error failure => simp [hsettle, Except.toOption] at hquery
      | ok job =>
          have hapart : job.Apart finish.desk.files database "out.sql" := by
            cases hchosen : job.chosen with
            | csv file => simp [hsettle, Except.toOption, hchosen] at hquery
            | query q =>
                refine Job.apart_of_query hchosen ?_
                intro row content path hrow hcontent
                cases List.mem_singleton.1 hrow
                cases List.mem_singleton.1 hcontent
          have hzero : finish.exitCode = 0 := by simpa [hstart, Except.toOption] using hcode
          have hdelivers := start_delivers {} words hsound hstart
          rw [hwords] at hdelivers
          dsimp only at hdelivers
          rw [hsettle] at hdelivers
          exact ⟨hsound, finish, job, rfl, hzero, hwords, rfl, rfl, hapart,
            hdelivers.2.2 "out.sql" rfl hapart⟩

end InsertScript.Program
