import InsertScript.Numeral.Grouped
import InsertScript.Step
import InsertScript.Time.Pattern
import InsertScript.Unicode.Word

/-!
# Output files

Where scripts are stored. A file is opened before its text is made, so that a file that cannot be
written is noticed first, and what was made until a failure is kept.

A file that nobody named gets its name from the table and the time. Only word characters and hyphens
of the table name are used, so the file always lies directly in its directory.
-/

namespace InsertScript.OutputFile

/-- The origin of the records about output. -/
def origin : String := "sqlexport.writer"

/-! ### Names -/

/-- May the character stand in a file name? -/
def isSafe (c : Char) : Bool := Unicode.isWord c || c == '-'

/-- A text with a low line for every run of other characters; `gap` tells whether one was just
written. -/
def replaceUnsafe (gap : Bool) : List Char → List Char
  | [] => []
  | c :: rest =>
      if isSafe c then c :: replaceUnsafe false rest
      else if gap then replaceUnsafe true rest
      else '_' :: replaceUnsafe true rest

/-- The stem for a table without usable characters. -/
def defaultStem : String := "export"

/-- The stem of the file name for a table. -/
def stem (table : String) : List Char :=
  let text := trimBy (· == '_') (replaceUnsafe false table.toList)
  if text.isEmpty then defaultStem.toList else text

/-- The pattern of the time in a file name. -/
def timePattern : List Char := "%Y%m%d_%H%M%S".toList

/-- The name of the file for a table at some time. -/
def fileName (table : String) (now : Moment) : String :=
  String.ofList (stem table ++ '_' :: Pattern.fill now timePattern ++ ".sql".toList)

/-- Makes a directory and those above it, as far as they are missing. What was made before a refusal
stays. -/
def makeDirectories (path : Path) : Step FileSystem Unit := do
  let (files, fault?) := (← Step.current).ensureDirectories path
  Step.change fun _ => files
  match fault? with
  | some fault => throw (.file fault)
  | none => pure ()

/-- The path of the file for a table in a directory, which is made. -/
def defaultPath (directory : Path) (table : String) (now : Moment) : Step FileSystem Path := do
  makeDirectories directory
  return directory.join (Path.ofString (fileName table now))

/-! ### Writing -/

/-- Makes sure that a file and its directory exist; unless `keep` is set the file is empty
afterwards. -/
def create (path : Path) (keep : Bool) : Step FileSystem Unit := do
  makeDirectories path.parent
  match (← Step.current).openFile path keep with
  | .error fault => throw (.file fault)
  | .ok files => Step.change fun _ => files

/-- Opens a file for writing, and reports it. That the file system refuses it is reported as
well. -/
def begin (path : Path) (keep : Bool) : Step FileSystem Unit := do
  let manner := if keep then "append" else "truncate"
  Step.report .info origin s!"Writing SQL to {path.text} ({manner})"
  match ← Step.attempt (create path keep) with
  | .ok () => pure ()
  | .error failure =>
      if failure.isSystem then
        Step.report .error origin s!"Failed to open {path.text}: {failure.message}"
      throw failure

/-- Adds text at the end of an open file. -/
def append (path : Path) (text : String) : Step FileSystem Unit :=
  Step.change fun files => files.append path (Utf8.encode text.toList)

/-- Reports that a file is complete. -/
def reportSize (path : Path) : Step FileSystem Unit := do
  let size ← Step.ofExcept (((← Step.current).size path).mapError .file)
  Step.report .info origin s!"Successfully wrote {path.text} ({Numeral.grouped size} bytes)"

/-- Writes a text to an open file, and ends as the making of the text ended. -/
def finish {α : Type} (path : Path) (text : String) (outcome : Except Failure α) :
    Step FileSystem α := do
  append path text
  let result ← Step.ofExcept outcome
  reportSize path
  return result

/-- Reports that text is written to the console instead of a file. -/
def reportConsole {σ : Type} : Step σ Unit := Step.report .debug origin "Writing SQL to stdout"

end InsertScript.OutputFile
