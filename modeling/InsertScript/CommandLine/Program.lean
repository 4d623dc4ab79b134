import InsertScript.CommandLine.Arguments
import InsertScript.Configuration
import InsertScript.OutputFile
import InsertScript.Source.Growing
import InsertScript.Source.Query
import InsertScript.Summary

/-!
# The program

A run of the program from its command line to its exit code, on files, a database client and a
console that are values.

* The exit code is zero after an export, two for a command line that cannot be read, `interrupted`
  if the user interrupts the run, and one after any other failure.
* The connection is closed and the password forgotten however an export ends.
* The script goes to the console, or to a file; a file that was opened keeps what was written to it.
  If it is the source itself, or a large object of a row, the export reads what it writes.
-/

namespace InsertScript

/-- What a run works on. -/
structure Desk where
  files : FileSystem
  client : Client
  /-- The time for the names of output files. -/
  now : Moment
  /-- What has been written to the console. -/
  console : String := ""
  /-- The summaries shown so far. -/
  summaries : List Summary := []

/-- What is known of the program itself. -/
structure Identity where
  /-- The origin of its own records. -/
  origin : String := "sqlexport.cli"
  version : String := "development"

/-- How a run ended. -/
structure Finish where
  exitCode : Nat
  fault? : Option UsageFault := none
  desk : Desk
  records : List LogRecord := []

namespace Program

def name : String := "sqlexport"

/-- The line that tells the version. -/
def versionLine (identity : Identity) : String := s!"{name} {identity.version}\n"

/-- The lines that tell how the program is used. -/
def helpText : String :=
  let line (flag : Flag) := "  " ++ flag.name ++ (if flag.takesValue then " VALUE\n" else "\n")
  s!"usage: {name} [options]\n\noptions:\n" ++
    String.join ((Flag.spellings.map (·.2)).eraseDups.map line)

/-- The exit code after a usage fault. -/
def misused : Nat := 2

/-- The exit code after an interruption. -/
def interrupted : Nat := 130

/-! ### Parts of the desk -/

def onFiles {α : Type} (step : Step FileSystem α) : Step Desk α :=
  Step.zoom Desk.files (fun files desk => { desk with files }) step

def onClient {α : Type} (step : Step Client α) : Step Desk α :=
  Step.zoom Desk.client (fun client desk => { desk with client }) step

/-- Writes to the console. -/
def print (text : String) : Step Desk Unit :=
  Step.change fun desk => { desk with console := desk.console ++ text }

/-! ### Configuration and source -/

/-- The configuration with the choices of the command line. -/
def configure (a : Arguments) (c : Configuration) : Configuration :=
  { c with
    database := { c.database with
      host := a.host.getD c.database.host
      port := (a.port?.filter (· ≠ 0)).getD c.database.port
      user := a.user.getD c.database.user
      database := a.database.getD c.database.database }
    dialect := a.dialect.getD c.dialect
    logLevel := a.logLevel.getD c.logLevel }

/-- The configuration of a run. -/
def loadConfiguration (a : Arguments) : Step Desk Configuration := do
  let config ← Configuration.load (← Step.current).client.environment
  let config := configure a config
  let (settings, remark?) ← Step.ofExcept (a.overlay.apply config.settings)
  Step.noteAll remark?
  return { config with settings }

/-- The source of a run. -/
inductive Chosen where
  | csv (file : CsvFile)
  | query (q : Query)

/-- The source that the command line names. -/
def chooseSource (a : Arguments) (c : Configuration) : Except Failure Chosen :=
  match a.csv.text? with
  | some path =>
      .ok (.csv
        { path := Path.ofString path, delimiter := a.delimiter.value, threshold := c.threshold })
  | none =>
      let p := c.database
      if p.host = "" ∨ p.user = "" ∨ p.database = "" then .error .missingParameters
      else
        (ConnectionPlan.ofMinutes p c.lifetimeMinutes).map fun plan =>
          .query { plan, statement := a.query, threshold := c.threshold }

/-- The table that a source names. -/
def Chosen.tableName (chosen : Chosen) (bare : Bool) : Except Failure (Option String) :=
  match chosen with
  | .csv file => .ok (some (file.tableName bare))
  | .query q => q.findTableName bare

/-! ### The export -/

/-- Makes an export from a source whose state is part of the desk. The result has the text, as far
as it was written, and the outcome. -/
def textOf {σ : Type} (dialect : Dialect) (enter : Desk → σ) (leave : σ → Desk → Desk)
    (work : Step (Exporter.Sourced σ) ExportResult) :
    Step Desk (String × Except Failure ExportResult) :=
  let start : ExportState :=
    { sink := { monitor? := some {} }, renderer := .literals { dialect } }
  Step.zoom (fun desk => (start, enter desk)) (fun both desk => leave both.2 desk) do
    let outcome ← Step.attempt work
    return ((← Step.current).1.sink.output, outcome)

/-- Is the script of a file added to the file itself? -/
def grows (e : Exporter) (file : CsvFile) : Bool :=
  e.target?.isSome && (e.files.fileNumber file.path).toOption == e.target?

/-- Makes the script of the chosen source, which is written to the console or to an open file. -/
def script (c : Configuration) (dialect : Dialect) (chosen : Chosen) (output? : Option Path) :
    Step Desk (String × Except Failure ExportResult) := do
  let files := (← Step.current).files
  let e := { Exporter.make (some dialect) c.settings files with
    target? := output?.bind fun path => (files.fileNumber path).toOption }
  match chosen with
  | .csv file =>
      textOf dialect (fun _ => none) (fun _ desk => desk)
        (if grows e file then e.growingScript file files else e.script (file.source files))
  | .query q =>
      textOf dialect (fun desk => { client := desk.client })
        (fun state desk => { desk with client := state.client }) (e.script q.source)

/-- The table after which a file is named that nobody named. -/
def nameTable (c : Configuration) (chosen : Chosen) : Except Failure String := do
  let table? ← match c.settings.userTableName.filter (· ≠ "") with
    | some table => pure (some table)
    | none => chosen.tableName c.settings.omitSchema
  return (table?.filter (· ≠ "")).getD OutputFile.defaultStem

/-- Where the script is to be written; nothing for the console. -/
def destination (a : Arguments) (c : Configuration) (chosen : Chosen) :
    Step Desk (Option String) := do
  match a.output.text? with
  | some output => return some output
  | none =>
      if a.save then
        let table ← Step.ofExcept (nameTable c chosen)
        let now := (← Step.current).now
        let path ← onFiles (OutputFile.defaultPath c.outputDirectory table now)
        return some path.text
      else return none

/-- Exports the chosen source. -/
def exportChosen (a : Arguments) (c : Configuration) (dialect : Dialect) (chosen : Chosen) :
    Step Desk Unit := do
  match ← destination a c chosen with
  | some output =>
      let path := Path.ofString output
      onFiles (OutputFile.begin path a.append)
      let (text, outcome) ← script c dialect chosen (some path)
      let result ← onFiles (OutputFile.finish path text outcome)
      let summary := Summary.ofResult result output
      Step.change fun desk => { desk with summaries := desk.summaries ++ [summary] }
  | none =>
      OutputFile.reportConsole
      let (text, outcome) ← script c dialect chosen none
      print text
      let _ ← Step.ofExcept outcome

/-- Closes the connection of a query. -/
def closeSource : Chosen → Step Desk Unit
  | .csv _ => pure ()
  | .query _ => onClient Client.close

/-- Exports the source that the command line names. -/
def run (a : Arguments) (c : Configuration) : Step Desk Unit := do
  let dialect ← Step.ofExcept (Dialect.ofName (some c.dialect))
  match chooseSource a c with
  | .error failure =>
      onClient Client.clearPassword
      throw failure
  | .ok chosen =>
      Step.ensuring (exportChosen a c dialect chosen) do
        closeSource chosen
        onClient Client.clearPassword

/-! ### The command line -/

/-- Reports how a run ended; the result is its exit code. -/
def conclude (identity : Identity) : Except Failure Unit → Step Desk Nat
  | .ok () => return 0
  | .error failure =>
      if failure.isInterruption then do
        Step.report .info identity.origin "Interrupted by user"
        return interrupted
      else if failure.isApplication then do
        Step.report .error identity.origin s!"Application error: {failure.message}"
        return 1
      else do
        Step.note { level := .error, origin := identity.origin, message := "Unexpected error",
                    failure? := some failure }
        return 1

/-- A run with the arguments of the command line. -/
def perform (identity : Identity) (a : Arguments) : Step Desk Nat := do
  let outcome ← Step.attempt do
    let config ← loadConfiguration a
    run a config
  conclude identity outcome

/-- The files that a command line names. -/
def mentioned (words : List String) : List Path :=
  match Arguments.read words with
  | .arguments a => (a.csv.text?.toList ++ a.output.text?.toList).map Path.ofString
  | _ => []

/-- The threshold of the log that the command line asks for, which has to be a text if it is
given. -/
def threshold (a : Arguments) : Except Failure Nat :=
  match a.logLevel with
  | .unset => .ok (Log.thresholdOf none)
  | .text level => .ok (Log.thresholdOf (some level))
  | .blank => .error (.notText a.logLevel.value.qualifiedTypeName "upper")

/-- A run of the program. It fails only before it has begun, if there can be no log. -/
def start (identity : Identity) (words : List String) (desk : Desk) : Except Failure Finish :=
  match Arguments.read words with
  | .fault fault => .ok { exitCode := misused, fault? := some fault, desk }
  | .help => .ok { exitCode := 0, desk := { desk with console := desk.console ++ helpText } }
  | .version =>
      .ok { exitCode := 0, desk := { desk with console := desk.console ++ versionLine identity } }
  | .arguments a => do
      let start : Logged Desk := { log := { threshold := ← threshold a }, state := desk }
      let (outcome, last) := Step.run (perform identity a) start
      return { exitCode := outcome.toOption.getD 1, desk := last.state
               records := last.log.records }

end Program

end InsertScript
