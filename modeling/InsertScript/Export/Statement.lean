import InsertScript.Export.Cell
import InsertScript.Identifier
import InsertScript.Settings

/-!
# Statements

Rows as `INSERT` statements. A script has three kinds of layout, by the settings:

* a complete statement for every row (`writesSingleRows`);
* a statement for `rowsInStatement` rows with a list of tuples, ended when the next one begins;
* an `INSERT ALL` whose rows each name their table, ended by a query when the next one begins.

So all that is written before the cells of a row (`beforeRow`) and at the end of the script
(`closing`) follows from the number of rows so far. Both are lists of texts, because what is written
at once is also stored at once. `Exporter.header` starts a session, `Exporter.row` writes a row and
`Exporter.footer` ends the last statement. A row is counted before its cells are written, so a
failure in a cell does not disturb the count.
-/

namespace InsertScript

/-- The choices of an export. -/
structure Exporter where
  dialect? : Option Dialect
  settings : Settings
  /-- The number of rows in a statement. -/
  rowsInStatement : Nat
  files : FileSystem
  /-- The number of the file that the script goes to, if it goes to one of the files. -/
  target? : Option Nat := none

/-- What is known from the header on, and how far the export has come. -/
structure Session where
  tableName : String := ""
  columns : List ExportColumn := []
  columnList : String := ""
  rowCount : Nat := 0
  statementCount : Nat := 0

/-- An export under way. -/
structure ExportState where
  sink : Sink := {}
  session : Session := {}
  renderer : Renderer

/-- What the next row does. -/
inductive RowAction where
  | continueBatch
  | startStatement
deriving DecidableEq, Repr

namespace Exporter

/-- The origin of the records about statements. -/
def origin : String := "sqlexport.exporter.sql_exporter"

/-- The name of a table that has none. -/
def defaultTable : String := "new_table"

/-- How the dialect writes several rows; without a dialect or with single rows there is nothing to
ask. -/
def insertMode (dialect? : Option Dialect) (rows : Nat) : InsertMode :=
  match dialect? with
  | none => .notSupported
  | some dialect => if rows = 1 then .notSupported else dialect.insertMode

/-- Are the rows ungrouped because the dialect does not group them? -/
def ungroups (dialect? : Option Dialect) (settings : Settings) : Bool :=
  settings.useDialectDefaults &&
    decide (insertMode dialect? settings.rowsInStatement ≠ .groupRows)

/-- An exporter with these settings. -/
def make (dialect? : Option Dialect) (settings : Settings) (files : FileSystem) : Exporter :=
  { dialect?, settings, files
    rowsInStatement := if ungroups dialect? settings then 1 else settings.rowsInStatement }

/-- What is reported when an exporter is made. -/
def remark? (e : Exporter) : Option LogRecord :=
  if ungroups e.dialect? e.settings then
    some { level := .debug, origin,
           message := "Dialect does not group rows, writing one row per statement" }
  else none

def variant (e : Exporter) : Variant := e.settings.variant

/-- Is every row a complete statement? -/
def writesSingleRows (e : Exporter) : Bool := e.rowsInStatement == 1 && !e.variant.isMultiTable

/-- Is the column left out? -/
def skips (e : Exporter) (column : ExportColumn) : Bool :=
  column.isSkipped e.settings.includeAutoGenerated

/-- The name of a column as it is written. -/
def columnName (e : Exporter) (name : String) : String :=
  match e.dialect? with
  | none => name
  | some dialect => Identifier.column dialect e.settings.identifierCase name

/-- The names of the columns that are not left out. -/
def columnList (e : Exporter) (columns : List ExportColumn) : String :=
  ",".intercalate ((columns.filter (!e.skips ·)).map fun column => e.columnName column.name)

/-- A table name of the source, quoted where the dialect needs it. -/
def quoteFound (e : Exporter) (name : String) : String :=
  match e.dialect? with
  | none => name
  | some dialect => Identifier.quoteTable dialect name

def userTable? (e : Exporter) : Option String := e.settings.userTableName.filter (· ≠ "")

/-- The table of a session: the user's, or else the one of the source, or else the default. -/
def tableName (e : Exporter) (found? : Option String) : String :=
  let name := match e.userTable?, found? with
    | some name, _ => name
    | none, some "" => ""
    | none, some found => e.quoteFound found
    | none, none => ""
  if name = "" then defaultTable else name

/-- The table as it is written into the statements. -/
def tableIdentifier (e : Exporter) (session : Session) : String :=
  match e.dialect? with
  | none => session.tableName
  | some dialect => Identifier.transformTable dialect e.settings.identifierCase session.tableName

/-- A session at its beginning. -/
def openSession (e : Exporter) (columns : List ExportColumn) (found? : Option String) : Session :=
  { tableName := e.tableName found?, columns, columnList := e.columnList columns }

/-! ### Texts of a statement -/

/-- A line separator where rows start lines. -/
def rowBreak (e : Exporter) : String :=
  if e.settings.lineBeforeRows then e.settings.lineSeparator else ""

/-- The clause for conflicting keys. -/
def conflictClause (e : Exporter) : String :=
  e.variant.conflictClause e.settings.onConflict e.settings.keywordCase

/-- The query that ends an `INSERT ALL`. -/
def closingSelect (e : Exporter) : String := Variant.closingSelect e.settings.keywordCase

/-- Does a batch of rows begin after this many rows? -/
def startsBatch (e : Exporter) (rowCount : Nat) : Bool := rowCount % e.rowsInStatement == 0

/-- Does the next row open a statement? -/
def beginRow (e : Exporter) (rowCount : Nat) : RowAction :=
  if e.writesSingleRows || e.variant.isMultiTable || e.startsBatch rowCount then .startStatement
  else .continueBatch

/-- The end of the statement before, when a new one begins. -/
def endPrevious (e : Exporter) (rowCount : Nat) : String :=
  if rowCount = 0 then ""
  else
    (if !e.writesSingleRows && !e.variant.isMultiTable then e.conflictClause ++ ";"
     else if e.variant.isMultiTable && e.startsBatch rowCount then
       e.settings.lineSeparator ++ e.closingSelect ++ ";"
     else "") ++ e.rowBreak

/-- A statement up to the keyword before its rows. -/
def preamble (e : Exporter) (session : Session) : String :=
  e.variant.opening e.settings.keywordCase (e.startsBatch session.rowCount) ++
    " " ++ e.tableIdentifier session ++ " (" ++ session.columnList ++ ") " ++
    Variant.valuesKeyword e.settings.keywordCase

/-- What stands before the cells of the next row. -/
def beforeRow (e : Exporter) (session : Session) : List String :=
  match e.beginRow session.rowCount with
  | .startStatement =>
      let opening := e.endPrevious session.rowCount ++ e.preamble session
      if e.writesSingleRows || e.variant.isMultiTable then [opening ++ " ("]
      else [opening ++ e.rowBreak, if e.settings.lineBeforeRows then "\t(" else " ("]
  | .continueBatch => [",", e.rowBreak, if e.settings.lineBeforeRows then "\t(" else "("]

/-- What stands after the cells of a row. -/
def afterRow (e : Exporter) : List String :=
  if e.writesSingleRows then [")", e.conflictClause, ";"] else [")"]

/-- What ends a script with this many rows. -/
def closing (e : Exporter) (rowCount : Nat) : List String :=
  if rowCount = 0 then []
  else if e.variant.isMultiTable then
    [e.settings.lineSeparator ++ e.closingSelect ++ ";" ++ e.settings.lineSeparator]
  else if !e.writesSingleRows then [e.conflictClause, ";", e.settings.lineSeparator]
  else [e.settings.lineSeparator]

/-- The session after one more row. -/
def countRow (e : Exporter) (session : Session) : Session :=
  { session with
    rowCount := session.rowCount + 1
    statementCount := session.statementCount + (e.startsBatch session.rowCount).toNat }

/-! ### Steps of an export -/

def onSink {α : Type} (step : Step Sink α) : Step ExportState α :=
  Step.zoom ExportState.sink (fun sink state => { state with sink }) step

/-- Starts a session for these columns and the table that the source names. -/
def header (e : Exporter) (columns : List ExportColumn) (found? : Option String) :
    Step ExportState Unit := do
  let session := e.openSession columns found?
  Step.change fun state =>
    { state with
      session
      renderer := if e.settings.nativeFormat then state.renderer.useNative else state.renderer }
  Step.report .debug origin
    (s!"Exporting into {session.tableName} ({session.columnList}), " ++
      s!"{e.rowsInStatement} rows per statement, variant {e.variant.name}")

/-- How the cells of the rows are written. -/
def cellWriter (e : Exporter) (renderer : Renderer) : CellWriter :=
  { dialect? := e.dialect?, binaryDialect := e.dialect?.getD .generic,
    nativeFormat := e.settings.nativeFormat, skips := e.skips, renderer, files := e.files,
    target? := e.target? }

/-- Writes a row. -/
def row (e : Exporter) (cells : Row) : Step ExportState Unit := do
  let state ← Step.current
  onSink (Sink.writeAll (e.beforeRow state.session))
  Step.change fun state => { state with session := e.countRow state.session }
  onSink ((e.cellWriter state.renderer).writeRow state.session.columns cells)
  onSink (Sink.writeAll e.afterRow)

/-- Ends the script. -/
def footer (e : Exporter) : Step ExportState Unit := do
  let session := (← Step.current).session
  if session.rowCount = 0 then pure ()
  else
    onSink (Sink.writeAll (e.closing session.rowCount))
    Step.report .debug origin
      s!"Wrote {session.rowCount} rows in {session.statementCount} statements"

end Exporter

end InsertScript
