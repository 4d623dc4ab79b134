import InsertScript.Export.Statement

/-!
# Scripts

An export takes the rows of a source one by one and writes them as a script. Between two rows it
asks the monitor; a cancelled export writes no more rows and still ends the last statement, so the
script stays well-formed.

What a source delivers is a list: rows, a failure at most at its end, and the moments at which
someone cancels the work.
-/

namespace InsertScript

/-- What a source delivers next. -/
inductive Delivery where
  | row (cells : Row)
  /-- The source cannot go on. -/
  | failure (f : Failure)
  /-- The work is cancelled while the next row is being fetched. -/
  | cancellation

/-- Where rows come from. A source keeps a state, and its steps are taken in this order. -/
structure RowSource (σ : Type) where
  columns : Step σ (List ExportColumn)
  /-- The name of the table, with or without its schema. -/
  tableName : Bool → Step σ (Option String)
  /-- Starts to deliver. -/
  start : Step σ (List Delivery)
  /-- Ends a delivery that was started. -/
  stop : Step σ Unit

/-- A dotted name without what stands before its last dot. -/
def stripSchema (name : String) : String :=
  String.ofList (name.toList.reverse.takeWhile (· ≠ '.')).reverse

/-- What an export has achieved. -/
structure ExportResult where
  tableName : String
  rowCount : Nat
  statementCount : Nat
  isCancelled : Bool := false
deriving DecidableEq, Repr

namespace Exporter

/-- The origin of the records about whole exports. -/
def scriptOrigin : String := "sqlexport.service"

/-- Writes the next row unless the work is cancelled. May the rows go on? -/
def takeRow (e : Exporter) (cells : Row) : Step ExportState Bool := do
  if ← onSink Sink.enquire then
    let count := (← Step.current).session.rowCount
    Step.report .warning scriptOrigin s!"Export cancelled after {count} rows"
    return false
  else
    e.row cells
    onSink (Sink.changeMonitor (·.worked 1))
    return true

/-- Writes the rows that are delivered until the work is cancelled. -/
def rows (e : Exporter) : List Delivery → Step ExportState Unit
  | [] => pure ()
  | .cancellation :: rest => do
      onSink (Sink.changeMonitor Monitor.cancel)
      rows e rest
  | .failure f :: _ => throw f
  | .row cells :: rest => do
      if ← e.takeRow cells then rows e rest

abbrev Sourced (σ : Type) : Type := ExportState × σ

/-- A step of the export itself. -/
def onExport {σ α : Type} (step : Step ExportState α) : Step (Sourced σ) α :=
  Step.zoom Prod.fst (fun state both => (state, both.2)) step

def onSource {σ α : Type} (step : Step σ α) : Step (Sourced σ) α :=
  Step.zoom Prod.snd (fun source both => (both.1, source)) step

/-- Writes the rows that a source delivers. -/
def rowsOf {σ : Type} (e : Exporter) (source : RowSource σ) : Step (Sourced σ) Unit := do
  let deliveries ← onSource source.start
  Step.ensuring (onExport (e.rows deliveries)) (onSource source.stop)

/-- Writes the script of a source, whose rows are written by a step of their own. -/
def scriptAround {σ : Type} (e : Exporter) (source : RowSource σ)
    (writeRows : Step (Sourced σ) Unit) : Step (Sourced σ) ExportResult := do
  Step.noteAll e.remark?
  let columns ← onSource source.columns
  let found? ← match e.userTable? with
    | some _ => pure none
    | none => onSource (source.tableName e.settings.omitSchema)
  onExport (e.header columns found?)
  let tableName := e.tableIdentifier (← Step.current).1.session
  let dialectName := (e.dialect?.getD .generic).name
  Step.report .info scriptOrigin s!"Exporting rows of {tableName} as {dialectName} SQL"
  writeRows
  onExport e.footer
  let isCancelled ← onExport (onSink Sink.enquire)
  let session := (← Step.current).1.session
  Step.report .info scriptOrigin
    s!"Exported {session.rowCount} rows in {session.statementCount} statements"
  return { tableName, rowCount := session.rowCount, statementCount := session.statementCount,
           isCancelled }

/-- Writes the script of a source. -/
def script {σ : Type} (e : Exporter) (source : RowSource σ) : Step (Sourced σ) ExportResult :=
  e.scriptAround source (e.rowsOf source)

end Exporter

end InsertScript
