import InsertScript.Export.Sink
import InsertScript.Value.Literal

/-!
# Cells

How the cells of a row are written, with commas between them.

* A column that is skipped leaves no text, but a large object in it is released.
* A large object is copied into its literal piece by piece, and the monitor is asked before every
  piece. Whatever goes wrong with it is reported and ends only this cell, and it is released in any
  case.
* The file that the script goes to may itself be a large object. It holds then what has been stored
  of the script so far, and a text in it goes on growing while it is copied.
* Every other value is written by the handler of its column, or by the renderer of the export.
-/

namespace InsertScript

/-- Who writes the values of columns without a handler. -/
inductive Renderer where
  | literals (style : LiteralStyle)
  | handler (h : Handler)

namespace Renderer

/-- The literal of a value of a column. -/
def toSql (r : Renderer) (column : Column) (value : Value) (format : DisplayFormat) :
    Except Failure String :=
  match r with
  | .literals style => style.write format value
  | .handler h => h.toSql column value format

/-- What is reported when a value is written. -/
def remark? (r : Renderer) (column : Column) (value : Value) : Option LogRecord :=
  match r with
  | .literals _ => LiteralStyle.remark? column.name value
  | .handler _ => none

/-- The renderer with standard forms of dates and times, if it has a choice. -/
def useNative : Renderer → Renderer
  | .literals style => .literals { style with isNative := true }
  | .handler h => .handler h

/-- Does the renderer write the standard forms of dates and times? -/
def isNative : Renderer → Bool
  | .literals style => style.isNative
  | .handler _ => false

@[simp] theorem useNative_useNative (r : Renderer) : r.useNative.useNative = r.useNative := by
  cases r <;> rfl

end Renderer

/-- What the writing of cells depends on. -/
structure CellWriter where
  /-- The dialect of the statements; without one texts are not escaped. -/
  dialect? : Option Dialect
  /-- The dialect of the binary literals of large objects. -/
  binaryDialect : Dialect
  /-- Are dates and times left to the renderer, or wanted for display and then quoted? -/
  nativeFormat : Bool
  /-- Is a column left out? -/
  skips : ExportColumn → Bool
  renderer : Renderer
  /-- The files that large objects and paths refer to. -/
  files : FileSystem
  /-- The number of the file that the script goes to, if it goes to one of the files. -/
  target? : Option Nat := none

/-- The number of characters that are copied at once. -/
def transferSize : Nat := 2000

/-- A list in pieces of the given size, which is at least one; the last piece may be shorter. -/
def pieces {α : Type} (size : Nat) : List α → List (List α)
  | [] => []
  | x :: rest => (x :: rest.take (size - 1)) :: pieces size (rest.drop (size - 1))
termination_by items => items.length
decreasing_by
  simp only [List.length_drop, List.length_cons]
  omega

/-- The pieces make up the list. -/
theorem flatten_pieces {α : Type} (size : Nat) (items : List α) :
    (pieces size items).flatten = items := by
  fun_induction pieces size items with
  | case1 => rfl
  | case2 x rest ih => simp [ih]

/-- There are as many pieces as it takes, each but the last being full. -/
theorem length_pieces {α : Type} {size : Nat} (h : 1 ≤ size) (items : List α) :
    (pieces size items).length = (items.length + size - 1) / size := by
  fun_induction pieces size items with
  | case1 => simp [Nat.div_eq_of_lt (show size - 1 < size by omega)]
  | case2 item rest ih =>
      rw [List.length_cons, ih, List.length_drop, List.length_cons]
      by_cases hle : size - 1 ≤ rest.length
      · rw [show rest.length + 1 + size - 1 = rest.length - (size - 1) + size - 1 + size by omega,
          Nat.add_div_right _ (by omega)]
      · rw [Nat.div_eq_of_lt (show rest.length - (size - 1) + size - 1 < size by omega),
          show rest.length + 1 + size - 1 = rest.length + size by omega,
          Nat.add_div_right _ (by omega), Nat.div_eq_of_lt (show rest.length < size by omega)]

/-- Pieces of one are the items one by one. -/
theorem pieces_one {α : Type} (items : List α) : pieces 1 items = items.map fun item => [item] := by
  induction items with
  | nil => simp [pieces]
  | cons item items ih => simp [pieces, ih]

/-- The first pieces make up the beginning of the list. -/
theorem flatten_take_pieces {α : Type} {size : Nat} (hsize : 1 ≤ size) (n : Nat) (items : List α) :
    ((pieces size items).take n).flatten = items.take (size * n) := by
  fun_induction pieces size items generalizing n with
  | case1 => simp
  | case2 item rest ih =>
      cases n with
      | zero => simp
      | succ n =>
          have hcount : size * (n + 1) = size - 1 + size * n + 1 := by
            rw [Nat.mul_succ]; omega
          rw [List.take_succ_cons, List.flatten_cons, ih, hcount, List.take_succ_cons,
            List.cons_append, List.take_add]

namespace CellWriter

/-- The origin of the records about cells. -/
def origin : String := "sqlexport.exporter.encoder"

/-- The mark around texts. -/
def mark : String := "'"

/-- The literal of no value. -/
def nullLiteral (w : CellWriter) : String :=
  match w.dialect? with
  | some dialect => dialect.nullLiteral
  | none => "NULL"

/-- Characters as they stand in a text literal. -/
def escape (w : CellWriter) (text : List Char) : List Char :=
  match w.dialect? with
  | some dialect => dialect.escape text
  | none => text

/-! ### Large objects -/

/-- Fails if the work should stop. -/
def checkCancelled : Step Sink Unit := do
  if ← Sink.enquire then throw .cancelled

/-- Copies pieces of a text, and ends as reading them ended. -/
def copyPieces (w : CellWriter) (ending : Option Failure) : List (List Char) → Step Sink Unit
  | [] => do
      checkCancelled
      match ending with
      | some failure => throw failure
      | none => pure ()
  | piece :: rest => do
      checkCancelled
      Sink.write (String.ofList (w.escape piece))
      copyPieces w ending rest

/-- The pieces that a reader hands out, and the failure it ends in. A piece that cannot be completed
because of the failure is not handed out. -/
def readPieces (reader : TextReader) : List (List Char) × Option Failure :=
  match reader.drain with
  | (text, none) => (pieces transferSize text, none)
  | (text, some fault) =>
      ((pieces transferSize text).filter (·.length = transferSize), some (.undecodable fault))

/-- Copies a text from the file that the script goes to, as far as it has been stored when it is
read. `known` is the number of bytes of the script that the reader knows of. Every piece makes the
file longer, so there is an end to it in any case: `limit` is the number of bytes that the file can
still take. -/
def copyGrowing (w : CellWriter) : (limit known : Nat) → TextReader → Step Sink Unit
  | 0, _, _ => throw .fullFile
  | limit + 1, known, reader => do
      checkCancelled
      let sink ← Step.current
      match (sink.extendReader known reader).read transferSize with
      | .error fault => throw (.undecodable fault)
      | .ok ([], _) => pure ()
      | .ok (piece, reader) =>
          Sink.write (String.ofList (w.escape piece))
          copyGrowing w limit sink.flow.stored reader

/-- Writes a text literal around what a step writes. It is closed in any case. -/
def quoting (step : Step Sink Unit) : Step Sink Unit := do
  Sink.write mark
  Step.ensuring step (Sink.write mark)

/-- Copies what a reader hands out. -/
def copyText (w : CellWriter) (reader : TextReader) : Step Sink Unit :=
  let (parts, ending) := readPieces reader
  w.copyPieces ending parts

/-- The number of the file that the script goes to, if a payload is this file. -/
def ownTarget? (w : CellWriter) : Payload → Option Nat
  | .file path => w.target?.filter fun target => (w.files.fileNumber path).toOption == some target
  | _ => none

/-- Writes what an object holds. -/
def writePayload (w : CellWriter) (content : Content) (payload : Payload) : Step Sink Unit := do
  let sink ← Step.current
  let own? := w.ownTarget? payload
  let files := match own? with
    | some target => sink.storeInto target w.files
    | none => w.files
  if content.isText then
    let reader ← Step.ofExcept (payload.reader files content.encoding)
    quoting
      (if own?.isSome then w.copyGrowing FileSystem.largestFile sink.flow.stored reader
       else w.copyText reader)
  else
    let data ← Step.ofExcept (payload.allBytes files content.encoding)
    Sink.write (w.binaryDialect.binaryLiteral data)

/-- Writes an object, or nothing if it has been released. -/
def writeContent (w : CellWriter) (column : ExportColumn) (content : Content) : Step Sink Unit :=
  match column.handler?.bind (·.stream?) with
  | some stream => do
      let (text, failure?) := stream column.column content
      Sink.write text
      match failure? with
      | some failure => throw failure
      | none => pure ()
  | none => do
      match ← Step.ofExcept (content.payload? (← Step.current).releases) with
      | some payload => w.writePayload content payload
      | none => pure ()

/-- Writes an object, reports what goes wrong, and releases it. -/
def writeContentSafely (w : CellWriter) (column : ExportColumn) (content : Content) :
    Step Sink Unit := do
  match ← Step.attempt (w.writeContent column content) with
  | .ok () => pure ()
  | .error failure =>
      Step.report .warning origin
        s!"Failed to write content of column {column.name}: {failure.message}"
  Sink.release content

/-! ### All cells -/

/-- Is a value of the column wanted for display, and quoted afterwards? -/
def displays (w : CellWriter) (column : ExportColumn) : Bool :=
  !w.nativeFormat && column.column.kind == .datetime

/-- The literal of a plain value, without the marks around one that is displayed, and what is
reported with it. -/
def literal (w : CellWriter) (column : ExportColumn) (value : Value) :
    Option LogRecord × Except Failure String :=
  let format := if w.displays column then .ui else .native
  let (remark?, text) := match column.handler? with
    | some h => (none, h.toSql column.column value format)
    | none => (w.renderer.remark? column.column value, w.renderer.toSql column.column value format)
  (remark?, text)

def writeValue (w : CellWriter) (column : ExportColumn) : Value → Step Sink Unit
  | .null => Sink.write w.nullLiteral
  | .content content => w.writeContentSafely column content
  | .path path => Sink.writeAll ["@", (w.files.absolute path).text]
  | value => do
      let (remark?, text) := w.literal column value
      Step.noteAll remark?
      let text ← Step.ofExcept text
      Sink.writeAll (if w.displays column then [mark, text, mark] else [text])

/-- Releases the object in a cell that is left out. -/
def releaseSkipped : Value → Step Sink Unit
  | .content content => Sink.release content
  | _ => pure ()

/-- Writes cells; `started` tells whether one has been written before. -/
def writeCells (w : CellWriter) (started : Bool) : List (ExportColumn × Value) → Step Sink Unit
  | [] => pure ()
  | (column, value) :: rest => do
      if w.skips column then
        releaseSkipped value
        writeCells w started rest
      else
        if started then Sink.write ","
        w.writeValue column value
        writeCells w true rest

/-- Writes the cells of a row, as many as there are both columns and values. -/
def writeRow (w : CellWriter) (columns : List ExportColumn) (row : Row) : Step Sink Unit :=
  w.writeCells false (columns.zip row)

end CellWriter

end InsertScript
