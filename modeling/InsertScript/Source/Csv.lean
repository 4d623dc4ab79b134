import InsertScript.Source.Iteration
import InsertScript.Text.Delimited

/-!
# Delimited files as sources

A delimited file whose first record has the names of the columns. Its cells have no types, so they
are told by their looks: an empty cell is null, an integer or a decimal number without superfluous
zeros is a number, and everything else is text; a text over the threshold becomes a large object.

The header is read once; the records are read from the beginning whenever rows are wanted. They are
read one by one, so a cursor that is kept while the file changes goes on with what the file holds
then.
-/

namespace InsertScript

/-- A delimited file. -/
structure CsvFile where
  path : Path
  /-- The name of the table, if it is not the one of the file. -/
  tableName? : Option String := none
  delimiter : Value := .text ","
  encoding : String := "utf-8"
  /-- The length from which on a text counts as large. -/
  threshold : Int := 4000
deriving Repr

/-- The header of a file, once it has been read. -/
abbrev CsvHeader := Option (List Column)

namespace CsvFile

/-! ### Cells -/

/-- Digits of a whole number: a single zero, or an ASCII digit other than zero and more digits. -/
def isWholeNumber : List Char → Bool
  | ['0'] => true
  | c :: rest => '1' ≤ c && c ≤ '9' && rest.all Unicode.isDigit
  | [] => false

/-- A text without a minus in front. -/
def dropMinus : List Char → List Char
  | '-' :: rest => rest
  | text => text

/-- Does the text look like an integer? A line feed at its end is overlooked. -/
def looksInteger (cell : List Char) : Bool :=
  isWholeNumber (dropMinus (Dialect.dropFinalFeed cell))

/-- Does the text look like a decimal number? A line feed at its end is overlooked. -/
def looksDecimal (cell : List Char) : Bool :=
  let body := dropMinus (Dialect.dropFinalFeed cell)
  let whole := body.takeWhile (· ≠ '.')
  let places := (body.drop (whole.length + 1))
  isWholeNumber whole && !places.isEmpty && places.all Unicode.isDigit

/-- The value of a cell; `identity` is the one of a large object. -/
def convert (threshold : Int) (identity : Nat) (cell : String) : Except Failure Value :=
  if cell = "" then .ok .null
  else if looksInteger cell.toList then ((Numeral.readInteger cell).mapError .integer).map .int
  else if looksDecimal cell.toList then
    ((Decimal.ofString cell).mapError fun fault => .malformed (.decimal fault)).map .decimal
  else if threshold < cell.length then
    .ok (.content { identity, isText := true, payload := .text cell })
  else .ok (.text cell)

/-- The number of large objects so far, after a value. -/
def countContent (count : Nat) : Value → Nat
  | .content _ => count + 1
  | _ => count

/-- The values of a record, and the number of large objects after it; `done` has the values so far,
last one first. -/
def convertCells (threshold : Int) (count : Nat) (done : Row) :
    List String → Except Failure (Row × Nat)
  | [] => .ok (done.reverse, count)
  | cell :: rest =>
      match convert threshold count cell with
      | .error failure => .error failure
      | .ok value => convertCells threshold (countContent count value) (value :: done) rest

/-! ### Records -/

/-- The delimiter, which has to be one character. -/
def delimiterChar (csv : CsvFile) : Except Failure Char :=
  match csv.delimiter with
  | .text s =>
      match s.toList with
      | [c] => .ok c
      | _ => .error .badDelimiter
  | other => .error (.notDelimiter other.qualifiedTypeName)

/-- The number of the record after the header. -/
def firstNumber : Nat := 2

/-- An open file and how far it has been read. -/
structure Cursor where
  file : Nat
  reader : TextReader
  delimiter : Char
  /-- The number of the next record. -/
  number : Nat := firstNumber
  /-- The number of large objects so far. -/
  count : Nat := 0
deriving DecidableEq, Repr

/-- A cursor on what the file holds now. -/
def Cursor.refresh (c : Cursor) (files : FileSystem) : Cursor :=
  { c with reader := c.reader.refresh (files.content c.file) }

/-- A cursor on a file to which more has been added. -/
def Cursor.extend (c : Cursor) (more : Bytes) : Cursor := { c with reader := c.reader.extend more }

/-- Why the file could not be opened. -/
def refuse (csv : CsvFile) (fault : FileFault) : Failure :=
  if fault.isSystem then .unopenedFile csv.path fault else .file fault

def openFile (csv : CsvFile) (files : FileSystem) : Except Failure Cursor := do
  let file ← (files.fileNumber csv.path).mapError csv.refuse
  let encoding ← Payload.encodingNamed csv.encoding
  let delimiter ← csv.delimiterChar
  return { file, delimiter, reader := .ofBytes encoding (files.content file) false }

/-- The columns that the first record names. -/
def readHeader (csv : CsvFile) (files : FileSystem) : Except Failure (List Column) := do
  let cursor ← csv.openFile files
  match ← Delimited.readRecord cursor.delimiter cursor.reader with
  | (none, _) | (some [], _) => throw (.noHeader csv.path)
  | (some header, _) =>
      return header.map fun name => { name := String.ofList (Unicode.trim name.toList) }

/-- Opens the file and passes over the header. -/
def begin (csv : CsvFile) (files : FileSystem) : Except Failure Cursor := do
  let cursor ← csv.openFile files
  let (_, reader) ← Delimited.readRecord cursor.delimiter cursor.reader
  return { cursor with reader }

/-- The row of a record, and the number of large objects after it; nothing for an empty record. -/
def rowOf (csv : CsvFile) (width number count : Nat) (record : List String) :
    Except Failure (Option Row × Nat) :=
  if record.isEmpty then .ok (none, count)
  else if record.length ≠ width then .error (.wrongWidth csv.path number width record.length)
  else (convertCells csv.threshold count [] record).map fun (row, count) => (some row, count)

/-- Reads a record, and gives its row unless it is empty. Nothing at the end. -/
def readRow (csv : CsvFile) (width : Nat) (c : Cursor) :
    Except Failure (Option (Option Row × Cursor)) :=
  match Delimited.readRecord c.delimiter c.reader with
  | .error failure => .error failure
  | .ok (none, _) => .ok none
  | .ok (some record, reader) =>
      (csv.rowOf width c.number c.count record).map fun (row?, count) =>
        some (row?, { c with reader, number := c.number + 1, count })

/-- Reading a record goes up in the order of the states of a reader. -/
theorem readRow_before {csv : CsvFile} {width : Nat} {c next : Cursor} {row? : Option Row}
    (h : csv.readRow width c = .ok (some (row?, next))) : next.reader.Before c.reader := by
  unfold readRow at h
  split at h
  · simp at h
  · simp at h
  · rename_i record reader hrecord
    cases hrow : csv.rowOf width c.number c.count record with
    | error failure => simp [hrow, Except.map] at h
    | ok found =>
      simp only [hrow, Except.map, Except.ok.injEq, Option.some.injEq, Prod.mk.injEq] at h
      rw [← h.2]
      exact Delimited.readRecord_before hrecord

/-- The next row, or the failure to read it. Nothing at the end. -/
def next? (csv : CsvFile) (width : Nat) (c : Cursor) : Option (Except Failure Row × Cursor) :=
  match _h : csv.readRow width c with
  | .error failure => some (.error failure, c)
  | .ok none => none
  | .ok (some (none, after)) => next? csv width after
  | .ok (some (some row, after)) => some (.ok row, after)
termination_by (c.reader.debt, c.reader.ready.length)
decreasing_by exact (readRow_before _h).lex

/-- All rows that follow, and the failure that they end in. `done` has the deliveries so far, last
one first. -/
def deliver (csv : CsvFile) (width : Nat) (done : List Delivery) (c : Cursor) : List Delivery :=
  match _h : csv.readRow width c with
  | .error failure => done.reverseAux [.failure failure]
  | .ok none => done.reverse
  | .ok (some (none, after)) => deliver csv width done after
  | .ok (some (some row, after)) => deliver csv width (.row row :: done) after
termination_by (c.reader.debt, c.reader.ready.length)
decreasing_by all_goals exact (readRow_before _h).lex

/-! ### The source -/

/-- The columns, read from the file the first time. -/
def columns (csv : CsvFile) (files : FileSystem) : Step CsvHeader (List Column) := do
  match ← Step.current with
  | some columns => return columns
  | none =>
      let columns ← Step.ofExcept (csv.readHeader files)
      Step.change fun _ => some columns
      return columns

/-- The name of the table: the given one, or the file's without its ending. -/
def tableName (csv : CsvFile) (bare : Bool) : String :=
  let name := match csv.tableName? with
    | some name => if name = "" then csv.path.stem else name
    | none => csv.path.stem
  if bare then stripSchema name else name

/-- Starts to deliver rows. -/
def start (csv : CsvFile) (files : FileSystem) : Step CsvHeader (List Delivery) := do
  let width := (← csv.columns files).length
  return csv.deliver width [] (← Step.ofExcept (csv.begin files))

def source (csv : CsvFile) (files : FileSystem) : RowSource CsvHeader :=
  { columns := do return (← csv.columns files).map fun column => { column }
    tableName := fun bare => return some (csv.tableName bare)
    start := csv.start files
    stop := pure () }

/-- The file as a source whose rows are taken a few at a time, from what the file holds at each
time. The position is a cursor and the number of columns. -/
def stream (csv : CsvFile) (files : FileSystem) : RowStream CsvHeader (Cursor × Nat) :=
  { source := csv.source files
    start := do
      let width := (← csv.columns files).length
      return (← Step.ofExcept (csv.begin files), width)
    resume := fun (cursor, width) => (cursor.refresh files, width)
    next? := fun (cursor, width) =>
      (csv.next? width cursor).map fun (row, cursor) => (row, cursor, width) }

end CsvFile

end InsertScript
