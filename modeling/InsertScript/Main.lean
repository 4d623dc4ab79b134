import InsertScript.CommandLine.Program
import Std.Time

/-!
# The process

The thin layer between a run of the program and the machine: it gathers what the run works on
(files, variables, the time), and afterwards stores what has changed and shows what was written.

* A run is a function of these things. If it asks for a password, it is run again with what the user
  typed.
* No connection to a database can be made from here, so a query ends like one to a database that
  refuses it.
-/

namespace InsertScript.Process

/-- The variables that matter to a run. -/
def environment : IO Environment := do
  let given ← Configuration.variableNames.mapM fun name => do
    return (← IO.getEnv name).map fun value => (name, value)
  return given.filterMap id

/-- The time, as the clocks of the place show it. -/
def now : IO Moment := do
  let t ← Std.Time.PlainDateTime.now
  return { date := { year := t.date.year.toInt.toNat, month := t.date.month.toNat,
                     day := t.date.day.toNat }
           clock := { hour := t.time.hour.toNat, minute := t.time.minute.toNat,
                      second := t.time.second.toNat,
                      microsecond := t.time.nanosecond.toNat / 1000 } }

/-- The files with one more that is read from the machine, if it is there. -/
def load (files : FileSystem) (path : Path) : IO FileSystem := do
  match ← (IO.FS.readBinFile path.text).toBaseIO with
  | .ok data => return (files.store path data.toList).1
  | .error (.inappropriateType ..) => return (files.ensureDirectories path).1
  | .error _ => return files

/-- Stores what is at a place: a directory, or a file with its content. -/
def store (place : Place) (content? : Option Bytes) : IO Unit := do
  let path (place : Place) : String := Path.text { root := "/", names := place.toList }
  match content? with
  | none => IO.FS.createDirAll (path place)
  | some data =>
      IO.FS.createDirAll (path place.pop)
      IO.FS.writeBinFile (path place) (ByteArray.mk data.toArray)

/-- A database to which no connection can be made. -/
def unreachable : Database :=
  { connectErrors := [some { kind := "OperationalError", reason := "no database can be reached" }] }

/-- The question that the user is asked in a run. -/
def question? (desk : Desk) : Option String :=
  desk.client.events.findSome? fun event => match event with
    | .prompt question => some question
    | _ => none

/-- A run, repeated with a typed password if it asks for one. -/
def run (words : List String) (desk : Desk) : ExceptT Failure IO Finish := do
  let finish ← Program.start {} words desk
  match question? finish.desk with
  | none => return finish
  | some question =>
      IO.eprint question
      let typed ← (← IO.getStdin).getLine
      let typedPassword := String.ofList (Dialect.dropFinalFeed typed.toList)
      Program.start {} words { desk with client := { desk.client with typedPassword } }

/-- The time in front of log lines. -/
def timePattern : List Char := "%Y-%m-%d %H:%M:%S".toList

/-- Shows how a run ended. -/
def showFinish (finish : Finish) : IO Unit := do
  IO.print finish.desk.console
  let time := String.ofList (Pattern.fill finish.desk.now timePattern)
  for record in finish.records do
    IO.eprintln (record.line time)
  for line in finish.desk.summaries.flatMap Summary.lines do
    IO.eprintln line
  for fault in finish.fault? do
    IO.eprint (fault.report Program.name)

end InsertScript.Process

open InsertScript in
/-- Runs the program with the words of the command line. -/
def main (words : List String) : IO UInt32 := do
  let time ← Process.now
  let working := (Path.ofString (toString (← IO.currentDir))).names.toArray
  let files ← (Program.mentioned words).foldlM Process.load (FileSystem.empty working)
  let client : Client :=
    { database := Process.unreachable, environment := ← Process.environment, clock := time.instant }
  match ← Process.run words { files, client, now := time } with
  | .error failure =>
      IO.eprintln failure.message
      return 1
  | .ok finish =>
      for entry in finish.desk.files.listingSince files do
        Process.store entry.1 entry.2
      Process.showFinish finish
      return finish.exitCode.toUInt32
