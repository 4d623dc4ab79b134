import InsertScript.Proofs.InMemory
import InsertScript.Proofs.Paths
import InsertScript.Proofs.Relinquishing

/-!
# What an export stores

An export that goes to a file makes the directories above it, opens it, makes the script and adds it
to the file (`Program.Exporting`). What it adds is what the export writes in memory
(`Job.exported`), because the script does not depend on the log, and reads no file that it is
written to (`Program.script_exported`). Where it stops before that, there may be new directories,
but nothing else.
-/

namespace InsertScript

open Step (Keeps Same Respects)
open FileSystem (AddsDirectories Opens Shares)

/-! ### Opening and finishing -/

namespace OutputFile

variable {files : FileSystem} {path : Path} {keep : Bool}

theorem makeDirectories_of_none {s : Logged FileSystem}
    (h : s.state.ensureDirectories path = (files, none)) :
    makeDirectories path s = .ok () { s with state := files } := by
  rw [makeDirectories, Step.bind_of_ok (Step.current_apply s), h]
  rfl

theorem makeDirectories_of_some {s : Logged FileSystem} {fault : FileFault}
    (h : s.state.ensureDirectories path = (files, some fault)) :
    makeDirectories path s = .error (.file fault) { s with state := files } := by
  rw [makeDirectories, Step.bind_of_ok (Step.current_apply s), h]
  rfl

theorem makeDirectories_adds (path : Path) : Keeps AddsDirectories (makeDirectories path) := by
  intro s
  have hadds := FileSystem.addsDirectories_ensureDirectories s.state path
  rcases hmade : s.state.ensureDirectories path with ⟨made, fault?⟩
  rw [hmade] at hadds
  cases fault? with
  | none =>
      rw [Step.run_of_ok (makeDirectories_of_none hmade)]
      exact hadds
  | some fault =>
      rw [Step.run_of_error (makeDirectories_of_some hmade)]
      exact hadds

/-- What asking for the path of a file in a directory comes to: the directory is there, it is made,
or it is not there even then. Only the last of these is a failure. -/
inductive Provides (directory path : Path) (files : FileSystem) :
    Except Failure Path → FileSystem → Prop where
  | found (hthere : files.isDirectory directory = true) :
      Provides directory path files (.ok path) files
  | made (files' : FileSystem) (hbefore : files.isDirectory directory = false)
      (hadds : files.AddsDirectories files')
      (hthere : files'.isDirectory directory = true) :
      Provides directory path files (.ok path) files'
  | refused (fault : FileFault) (files' : FileSystem) (hadds : files.AddsDirectories files')
      (hmissing : files'.isDirectory directory = false) :
      Provides directory path files (.error (.file fault)) files'

theorem Provides.adds {directory : Path} {outcome : Except Failure Path} {files' : FileSystem}
    (h : Provides directory path files outcome files') : files.AddsDirectories files' := by
  cases h with
  | found => exact refl_of AddsDirectories files
  | made _ _ hadds => exact hadds
  | refused _ _ hadds => exact hadds

theorem Provides.eq_path {directory other : Path} {files' : FileSystem}
    (h : Provides directory path files (.ok other) files') : other = path := by
  cases h with
  | found => rfl
  | made => rfl

/-- Asking for the path of a file comes to this. -/
theorem defaultPath_provides (directory : Path) (table : String) (now : Moment)
    (s : Logged FileSystem) :
    ∃ outcome files, (defaultPath directory table now).run s =
      (outcome, { s with state := files }) ∧
      Provides directory (directory.join (Path.ofString (fileName table now))) s.state
        outcome files := by
  have hadds := FileSystem.addsDirectories_ensureDirectories s.state directory
  have hthere := FileSystem.ensureDirectories_eq_none_iff s.state directory
  rcases hmade : s.state.ensureDirectories directory with ⟨files, fault?⟩
  rw [hmade] at hadds hthere
  cases fault? with
  | some fault =>
      have hmissing : files.isDirectory directory = false := by simpa using hthere
      rw [defaultPath, Step.run_bind_of_error (makeDirectories_of_some hmade)]
      exact ⟨_, files, rfl, .refused fault files hadds hmissing⟩
  | none =>
      have hthere : files.isDirectory directory = true := hthere.1 rfl
      rw [defaultPath, Step.run_bind_of_ok (makeDirectories_of_none hmade)]
      refine ⟨_, files, rfl, ?_⟩
      cases hbefore : s.state.isDirectory directory with
      | true =>
          rw [FileSystem.ensureDirectories_of_isDirectory hbefore] at hmade
          obtain rfl : s.state = files := congrArg Prod.fst hmade
          exact .found hbefore
      | false => exact .made files hbefore hadds hthere

/-- What beginning to write a file comes to: it is open, or there are at most new directories. -/
inductive Beginning (path : Path) (keep : Bool) (files : FileSystem) :
    Except Failure Unit → FileSystem → Prop where
  | refused (failure : Failure) (files' : FileSystem) (hadds : files.AddsDirectories files') :
      Beginning path keep files (.error failure) files'
  | opened (number : Nat) (files' : FileSystem) (hopens : files.Opens path keep files' number) :
      Beginning path keep files (.ok ()) files'

/-- Making the directories and opening the file comes to this. -/
theorem create_beginning (hsound : files.IsSound) (path : Path) (keep : Bool) (log : Log) :
    ∃ outcome log' files', (create path keep).run ⟨log, files⟩ = (outcome, ⟨log', files'⟩) ∧
      Beginning path keep files outcome files' := by
  have hadds := makeDirectories_adds path.parent ⟨log, files⟩
  cases hmade : makeDirectories path.parent ⟨log, files⟩ with
  | error failure t =>
      rw [Step.run_of_error hmade] at hadds
      rw [create, Step.run_bind_of_error hmade]
      exact ⟨_, _, _, rfl, .refused failure _ hadds⟩
  | ok _ t =>
      rw [Step.run_of_ok hmade] at hadds
      rw [create, Step.run_bind_of_ok hmade, Step.run_bind_of_ok (Step.current_apply t)]
      cases hopen : t.state.openFile path keep with
      | error fault => exact ⟨_, _, _, rfl, .refused _ _ hadds⟩
      | ok opened =>
          obtain ⟨number, hopens⟩ := FileSystem.exists_opens (hadds.isSound hsound) hopen
          exact ⟨_, _, _, rfl, .opened number opened (hadds.opens hopens)⟩

theorem begin_beginning (hsound : files.IsSound) (path : Path) (keep : Bool) (log : Log) :
    ∃ outcome log' files', (begin path keep).run ⟨log, files⟩ = (outcome, ⟨log', files'⟩) ∧
      Beginning path keep files outcome files' := by
  refine Step.run_report_bind (p := fun r => ∃ outcome log' files',
    r = (outcome, (⟨log', files'⟩ : Logged FileSystem)) ∧
    Beginning path keep files outcome files') fun log₁ => ?_
  obtain ⟨outcome, log', files', hrun, hbeginning⟩ := create_beginning hsound path keep log₁
  refine ⟨outcome, ?_⟩
  cases outcome with
  | ok _ =>
      rw [Step.run_bind_of_ok (Step.attempt_of_ok (Step.ok_of_run hrun))]
      exact ⟨log', files', rfl, hbeginning⟩
  | error failure =>
      rw [Step.run_bind_of_ok (Step.attempt_of_error (Step.error_of_run hrun))]
      dsimp only
      split
      · exact ⟨_, files', rfl, hbeginning⟩
      · exact ⟨log', files', rfl, hbeginning⟩

/-- A text goes to an open file however the making of the text ended. -/
theorem finish_run {α : Type} {number : Nat}
    (h : files.fileNumber path = .ok number) (text : String)
    (outcome : Except Failure α) (log : Log) :
    ∃ log', (finish path text outcome).run ⟨log, files⟩
      = (outcome, ⟨log', files.append path (Utf8.encode text.toList)⟩) := by
  have happend : append path text ⟨log, files⟩ =
      .ok () ⟨log, files.append path (Utf8.encode text.toList)⟩ :=
    rfl
  rw [finish, Step.run_bind_of_ok happend]
  cases outcome with
  | error failure => exact ⟨log, rfl⟩
  | ok result =>
      have hnumber :=
        (FileSystem.fileNumber_append files path (Utf8.encode text.toList) path).trans h
      rw [Step.run_bind_of_ok (Step.ofExcept_ok result _), reportSize, bind_assoc,
        Step.run_bind_of_ok (Step.current_apply _), FileSystem.size_of_fileNumber hnumber]
      exact ⟨_, rfl⟩

end OutputFile

namespace Program

variable {a : Arguments} {desk : Desk} {files files' : FileSystem}

/-! ### The text of a job -/

/-- What a run exports, once its configuration is known to be valid. -/
structure Job where
  configuration : Configuration
  dialect : Dialect
  chosen : Chosen

/-- The text that an export writes in memory, and its outcome. -/
def inMemory {σ : Type} (dialect : Dialect) (source : σ)
    (work : Step (Exporter.Sourced σ) ExportResult) : String × Except Failure ExportResult :=
  let (outcome, last) := work.run ⟨{}, (begun dialect, source)⟩
  (last.state.1.sink.output, outcome)

/-- Is the file at a path read for the rows? The file of a large object is, but a database hands out
none by itself. -/
def Chosen.Reads (chosen : Chosen) (database : Database) (path : Path) : Prop :=
  match chosen with
  | .csv file => path = file.path
  | .query _ =>
      ∃ row content, .ok row ∈ database.rows ∧ .content content ∈ row ∧ content.payload = .file path

namespace Job

variable {job : Job}

/-- What the job writes in memory. -/
def exported (job : Job) (files : FileSystem) (client : Client) :
    String × Except Failure ExportResult :=
  let e := Exporter.make (some job.dialect) job.configuration.settings files
  match job.chosen with
  | .csv file => inMemory job.dialect none (e.script (file.source files))
  | .query q => inMemory job.dialect { client } (e.script q.source)

/-- The name of the output file; nothing for the console. -/
def outputName? (job : Job) (a : Arguments) (now : Moment) : Except Failure (Option String) :=
  match a.output.text? with
  | some output => .ok (some output)
  | none =>
      if a.save then do
        let table ← nameTable job.configuration job.chosen
        let path :=
          job.configuration.outputDirectory.join (Path.ofString (OutputFile.fileName table now))
        return some path.text
      else .ok none

end Job

theorem allShared_of_reads {q : Query} {database : Database} {target? : Option Nat}
    (h : ∀ path, Chosen.Reads (.query q) database path →
      files.Shares files' path ∧
      ∀ number, target? = some number → files.fileNumber path ≠ .ok number) {row : Row}
    (hrow : .ok row ∈ database.rows) : Value.AllShared files files' target? row := by
  intro content hcontent
  cases hpayload : content.payload with
  | text s => trivial
  | bytes data => trivial
  | file path => exact h path ⟨row, content, hrow, hcontent, hpayload⟩

theorem inMemory_congr {σ : Type} {dialect : Dialect} {source : σ}
    {work work' : Step (Exporter.Sourced σ) ExportResult}
    (h : ∀ log, work.run ⟨log, (begun dialect, source)⟩ =
      work'.run ⟨log, (begun dialect, source)⟩) :
    inMemory dialect source work = inMemory dialect source work' := by
  rw [inMemory, h, inMemory]

/-- Of the files only those matter that are read. -/
theorem Job.exported_shared {job : Job} {client : Client}
    (hworking : files'.working = files.working)
    (h : ∀ path, job.chosen.Reads client.database path → files.Shares files' path) :
    job.exported files client = job.exported files' client := by
  let e := Exporter.make (some job.dialect) job.configuration.settings files
  unfold exported
  cases hchosen : job.chosen with
  | csv file =>
      rw [hchosen] at h
      exact inMemory_congr fun log => Exporter.csv_script_aimed (e := e) none hworking
        (h file.path rfl) _
  | query q =>
      rw [hchosen] at h
      have hrows (row : Row) (hrow : .ok row ∈ client.database.rows) :
          Value.AllShared files files' none row := by
        refine allShared_of_reads (q := q) (fun path hpath => ⟨h path hpath, ?_⟩) hrow
        intro number hnumber
        cases hnumber
      exact inMemory_congr fun log => Exporter.query_script_aimed (e := e) hworking hrows

/-- An export on the desk writes what the same export writes in memory, whatever the log is. -/
theorem textOf_inMemory {σ : Type} {dialect : Dialect} (enter : Desk → σ) (leave : σ → Desk → Desk)
    {work work' : Step (Exporter.Sourced σ) ExportResult} {s : Logged Desk}
    (h : work.run ⟨s.log, (begun dialect, enter s.state)⟩ =
      work'.run ⟨s.log, (begun dialect, enter s.state)⟩)
    (hwork : Respects Eq work') :
    ∃ log source, textOf dialect enter leave work s
      = .ok (inMemory dialect (enter s.state) work') ⟨log, leave source s.state⟩ := by
  have htext := textOf_apply dialect enter leave work s (Prod.eta _).symm
  obtain ⟨houtcome, hstate⟩ :=
    hwork ⟨s.log, (begun dialect, enter s.state)⟩ ⟨{}, (begun dialect, enter s.state)⟩ rfl
  rw [htext, h, inMemory, houtcome, hstate]
  exact ⟨_, _, rfl⟩

/-- What goes to a file that is not read is what the export writes in memory. -/
theorem script_exported (job : Job) {path : Path} {number : Nat} {s : Logged Desk}
    (hnumber : s.state.files.fileNumber path = .ok number)
    (hworking : files'.working = s.state.files.working)
    (hreads : ∀ other, job.chosen.Reads s.state.client.database other →
      s.state.files.Shares files' other ∧ s.state.files.fileNumber other ≠ .ok number) :
    ∃ t, script job.configuration job.dialect job.chosen (some path) s
      = .ok (job.exported files' s.state.client) t := by
  have htarget : ((some path).bind fun path => (s.state.files.fileNumber path).toOption) =
      some number := by
    rw [Option.bind_some, hnumber]
    rfl
  let e := Exporter.make (some job.dialect) job.configuration.settings files'
  unfold Job.exported
  rw [script, Step.bind_of_ok (Step.current_apply s)]
  dsimp only
  rw [htarget]
  cases hchosen : job.chosen with
  | csv file =>
      rw [hchosen] at hreads
      obtain ⟨hshared, hother⟩ := hreads file.path rfl
      have hgrows : (s.state.files.fileNumber file.path).toOption ≠ some number :=
        fun heq => hother (FileSystem.toOption_fileNumber_eq_some.1 heq)
      have hscript := Exporter.csv_script_aimed (e := e) (some number) hworking hshared
        ⟨s.log, (begun job.dialect, none)⟩
      have hwork := Exporter.script_respects_eq (e := e) rfl (file.source_respects_eq files')
      obtain ⟨log, source, htext⟩ :=
        textOf_inMemory (s := s) (fun _ => none) (fun _ desk => desk) hscript hwork
      dsimp only
      rw [grows, if_neg (by simpa [Exporter.make] using hgrows)]
      exact ⟨_, htext⟩
  | query q =>
      rw [hchosen] at hreads
      have hrows (row : Row) (hrow : .ok row ∈ s.state.client.database.rows) :
          Value.AllShared s.state.files files' (some number) row := by
        refine allShared_of_reads (q := q) (fun other hother => ?_) hrow
        obtain ⟨hsame, hne⟩ := hreads other hother
        exact ⟨hsame, fun found hfound => Option.some.inj hfound ▸ hne⟩
      have hscript := Exporter.query_script_aimed (e := e) (q := q)
        (s := ⟨s.log, (begun job.dialect, { client := s.state.client })⟩) hworking hrows
      have hwork := Exporter.script_respects_eq (e := e) rfl q.source_respects_eq
      obtain ⟨log, source, htext⟩ :=
        textOf_inMemory (s := s) (fun desk => { client := desk.client })
        (fun state desk => { desk with client := state.client }) hscript hwork
      exact ⟨_, htext⟩

/-! ### Exports -/

theorem onFiles_run {α : Type} {step : Step FileSystem α} {s : Logged Desk}
    {outcome : Except Failure α} {log : Log}
    (h : step.run ⟨s.log, s.state.files⟩ = (outcome, ⟨log, files⟩)) :
    (onFiles step).run s = (outcome, ⟨log, { s.state with files }⟩) :=
  Step.run_zoom h

/-- Making a script leaves the files alone, and does not fail. -/
theorem script_ok (config : Configuration) (dialect : Dialect) (chosen : Chosen)
    (output? : Option Path) (s : Logged Desk) :
    ∃ text t, script config dialect chosen output? s = .ok text t ∧
      t.state.files = s.state.files := by
  rw [script, Step.bind_of_ok (Step.current_apply s)]
  cases chosen with
  | csv file => exact ⟨_, _, textOf_apply dialect _ _ _ s rfl, rfl⟩
  | query q => exact ⟨_, _, textOf_apply dialect _ _ _ s rfl, rfl⟩

theorem script_keeps_files (config : Configuration) (dialect : Dialect) (chosen : Chosen)
    (output? : Option Path) : Keeps (Same Desk.files) (script config dialect chosen output?) := by
  intro s
  obtain ⟨text, t, hscript, hfiles⟩ := script_ok config dialect chosen output? s
  rw [Step.run_of_ok hscript]
  exact hfiles

/-- The file that a job is stored in is found by making its directory at most. -/
theorem destination_run (a : Arguments) (job : Job) (s : Logged Desk) : ∃ outcome log files',
    (destination a job.configuration job.chosen).run s =
      (outcome, ⟨log, { s.state with files := files' }⟩) ∧ s.state.files.AddsDirectories files' ∧
      ∀ output?, outcome = .ok output? → job.outputName? a s.state.now = .ok output? := by
  unfold destination Job.outputName?
  cases a.output.text? with
  | some output =>
      exact ⟨_, s.log, s.state.files, rfl, refl_of AddsDirectories _, fun output? h => h⟩
  | none =>
      cases a.save with
      | false => exact ⟨_, s.log, s.state.files, rfl, refl_of AddsDirectories _, fun output? h => h⟩
      | true =>
          cases nameTable job.configuration job.chosen with
          | error failure => exact ⟨_, s.log, s.state.files, rfl, refl_of AddsDirectories _, nofun⟩
          | ok table =>
              obtain ⟨outcome, files, hrun, hprovides⟩ := OutputFile.defaultPath_provides
                job.configuration.outputDirectory table s.state.now ⟨s.log, s.state.files⟩
              have hmade := onFiles_run (s := s) hrun
              dsimp only
              rw [if_pos rfl, Step.run_bind_of_ok (Step.ofExcept_ok table s),
                Step.run_bind_of_ok (Step.current_apply s)]
              cases outcome with
              | error failure =>
                  rw [Step.run_bind_of_error (Step.error_of_run hmade)]
                  exact ⟨_, _, _, rfl, hprovides.adds, nofun⟩
              | ok path =>
                  rw [Step.run_bind_of_ok (Step.ok_of_run hmade), hprovides.eq_path]
                  exact ⟨_, _, _, rfl, hprovides.adds, fun output? h => h⟩

/-- What an export comes to for the files: its output is not opened, it goes to the console, or it
is stored. -/
inductive Exporting (a : Arguments) (job : Job) (desk : Desk) :
    Except Failure Unit → FileSystem → Prop where
  | refused (failure : Failure) (files : FileSystem) (hadds : desk.files.AddsDirectories files) :
      Exporting a job desk (.error failure) files
  | console (outcome : Except Failure Unit) (files : FileSystem)
      (hadds : desk.files.AddsDirectories files)
      (hname : job.outputName? a desk.now = .ok none) : Exporting a job desk outcome files
  | stored (name : String) (number : Nat) (opened : Logged Desk) (text : String)
      (result : Except Failure ExportResult) (t : Logged Desk)
      (hname : job.outputName? a desk.now = .ok (some name))
      (hclient : opened.state.client = desk.client)
      (hopens : desk.files.Opens (Path.ofString name) a.append opened.state.files number)
      (hscript : script job.configuration job.dialect job.chosen (some (Path.ofString name)) opened
        = .ok (text, result) t) :
      Exporting a job desk (result.map fun _ => ())
        (opened.state.files.append (Path.ofString name) (Utf8.encode text.toList))

/-- An export from any source comes to this. -/
theorem exportChosen_exporting (a : Arguments) (job : Job) {s : Logged Desk}
    (hsound : s.state.files.IsSound) :
    ∃ outcome t, (exportChosen a job.configuration job.dialect job.chosen).run s = (outcome, t) ∧
      Exporting a job s.state outcome t.state.files := by
  obtain ⟨outcome, log, files, hrun, hadds, hname⟩ := destination_run a job s
  cases outcome with
  | error failure =>
      rw [exportChosen, Step.run_bind_of_error (Step.error_of_run hrun)]
      exact ⟨_, _, rfl, .refused failure files hadds⟩
  | ok output? =>
      have hname := hname output? rfl
      rw [exportChosen, Step.run_bind_of_ok (Step.ok_of_run hrun)]
      cases output? with
      | none =>
          -- no step of an export to the console touches the file system
          have hprint (text : String) : Keeps (Same Desk.files) (print text) :=
            Keeps.change fun _ => rfl
          have hconsole {step : Step Desk Unit} (hstep : Keeps (Same Desk.files) step) :
              ∃ outcome t, step.run ⟨log, { s.state with files }⟩ = (outcome, t) ∧
                Exporting a job s.state outcome t.state.files :=
            ⟨_, _, rfl, .console _ _ ((hstep ⟨log, { s.state with files }⟩).symm ▸ hadds) hname⟩
          exact hconsole ((Keeps.note _).bind fun _ => (script_keeps_files _ _ _ _).bind fun _ =>
            (hprint _).bind fun _ => (Keeps.ofExcept _).bind fun _ => Keeps.pure ())
      | some name =>
          obtain ⟨outcome, log', opened, hbegin, hbeginning⟩ :=
            OutputFile.begin_beginning (hadds.isSound hsound) (Path.ofString name) a.append log
          have hopened := onFiles_run (s := ⟨log, { s.state with files }⟩) hbegin
          cases hbeginning with
          | refused failure _ hmore =>
              dsimp only
              rw [Step.run_bind_of_error (Step.error_of_run hopened)]
              exact ⟨_, _, rfl, .refused failure opened (trans_of AddsDirectories hadds hmore)⟩
          | opened number _ hopens =>
              obtain ⟨⟨text, result⟩, t, hscript, hfiles⟩ :=
                script_ok job.configuration job.dialect job.chosen (some (Path.ofString name))
                  ⟨log', { s.state with files := opened }⟩
              have hfiles : t.state.files = opened := hfiles
              obtain ⟨log'', hfinish⟩ := OutputFile.finish_run hopens.fileNumber text result t.log
              rw [← hfiles] at hfinish
              have hfinished := onFiles_run hfinish
              have hstored :=
                Exporting.stored name number ⟨log', { s.state with files := opened }⟩ text result t
                  hname rfl (hadds.opens hopens) hscript
              -- what was written is stored, also when the script broke off
              dsimp only
              rw [Step.run_bind_of_ok (Step.ok_of_run hopened), Step.run_bind_of_ok hscript]
              cases result with
              | error failure =>
                  dsimp only
                  rw [Step.run_bind_of_error (Step.error_of_run hfinished), hfiles]
                  exact ⟨_, _, rfl, hstored⟩
              | ok achieved =>
                  dsimp only
                  rw [Step.run_bind_of_ok (Step.ok_of_run hfinished), hfiles]
                  exact ⟨_, _, rfl, hstored⟩

end Program

end InsertScript
