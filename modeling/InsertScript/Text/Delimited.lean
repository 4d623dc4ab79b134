import InsertScript.Failure
import InsertScript.Text.Reader

/-!
# Delimited text

Records of fields with a delimiter between them, read line by line. A field may stand between
quotes; then it may hold delimiters and line ends, and a doubled quote stands for one. Reading is
lenient: a quote in the middle of a field is a character like others, what follows a closing quote
belongs to the field, and a quote that is never closed ends with the text.

* `Reading.feed` takes a character, `Reading.endLine` the end of a line; a record is complete when a
  line ends outside of quotes.
* A line with nothing on it is a record without fields.
* `readRecord` takes the lines of one record from a reader, and no more.
-/

namespace InsertScript.Delimited

/-- The quote around fields. -/
def quote : Char := '"'

/-- The most characters in a field. -/
def fieldLimit : Nat := 131072

/-- Where the reading of a record stands. -/
inductive Place where
  | recordStart
  | fieldStart
  | inField
  | inQuotes
  /-- After a quote between quotes: either the closing one or the first of two. -/
  | afterQuote
  /-- After a line end; only more line ends may follow on the line. -/
  | lineEnd
deriving DecidableEq, Repr

/-- A record that is being read: its fields and the current field, both last one first. -/
structure Reading where
  place : Place := .recordStart
  fields : List String := []
  field : List Char := []
  length : Nat := 0
deriving DecidableEq, Repr

namespace Reading

/-- Completes the current field. -/
def save (r : Reading) (place : Place) : Reading :=
  { place, fields := String.ofList r.field.reverse :: r.fields, field := [], length := 0 }

/-- Adds a character to the current field. -/
def add (r : Reading) (place : Place) (c : Char) : Except Failure Reading :=
  if r.length < fieldLimit then .ok { r with place, field := c :: r.field, length := r.length + 1 }
  else .error (.longField fieldLimit)

/-- Does the character end a line? -/
def isLineEnd (c : Char) : Bool := c == '\n' || c == '\r'

/-- A character at the beginning of a field. -/
def feedStart (delimiter : Char) (r : Reading) (c : Char) : Except Failure Reading :=
  if isLineEnd c then .ok (r.save .lineEnd)
  else if c = quote then .ok { r with place := .inQuotes }
  else if c = delimiter then .ok (r.save .fieldStart)
  else r.add .inField c

/-- One character. -/
def feed (delimiter : Char) (r : Reading) (c : Char) : Except Failure Reading :=
  match r.place with
  | .recordStart =>
      if isLineEnd c then .ok { r with place := .lineEnd } else feedStart delimiter r c
  | .fieldStart => feedStart delimiter r c
  | .inField =>
      if isLineEnd c then .ok (r.save .lineEnd)
      else if c = delimiter then .ok (r.save .fieldStart)
      else r.add .inField c
  | .inQuotes => if c = quote then .ok { r with place := .afterQuote } else r.add .inQuotes c
  | .afterQuote =>
      if c = quote then r.add .inQuotes c
      else if c = delimiter then .ok (r.save .fieldStart)
      else if isLineEnd c then .ok (r.save .lineEnd)
      else r.add .inField c
  | .lineEnd => .ok r

def endLine (r : Reading) : Reading :=
  match r.place with
  | .recordStart | .inQuotes => r
  | .fieldStart | .inField | .afterQuote => r.save .recordStart
  | .lineEnd => { r with place := .recordStart }

/-- A whole line. -/
def feedLine (delimiter : Char) (r : Reading) : List Char → Except Failure Reading
  | [] => .ok r.endLine
  | c :: rest =>
      match r.feed delimiter c with
      | .error failure => .error failure
      | .ok r => feedLine delimiter r rest

/-- The fields that are complete, in order. -/
def fieldList (r : Reading) : List String := r.fields.reverse

end Reading

/-! ### Records -/

/-- Has a record been begun that is complete at the end of the text? -/
def Reading.isOpen (r : Reading) : Bool := r.length ≠ 0 || r.place = .inQuotes

/-- Reads the rest of a record, `r` being what earlier lines had of it; nothing at the end. -/
def readRecordFrom (delimiter : Char) (r : Reading) (source : TextReader) :
    Except Failure (Option (List String) × TextReader) :=
  match _h : source.readLine with
  | .error fault => .error (.undecodable fault)
  | .ok ([], rest) => .ok (if r.isOpen then some (r.save .recordStart).fieldList else none, rest)
  | .ok (c :: line, rest) =>
      match r.feedLine delimiter (c :: line) with
      | .error failure => .error failure
      | .ok r =>
          if r.place = .recordStart then .ok (some r.fieldList, rest)
          else readRecordFrom delimiter r rest
termination_by (source.debt, source.ready.length)
decreasing_by exact (TextReader.readLine_before _h (by simp)).lex

/-- Reads a record; nothing at the end. -/
def readRecord (delimiter : Char) (source : TextReader) :
    Except Failure (Option (List String) × TextReader) :=
  readRecordFrom delimiter {} source

/-- Reading the rest of a record never goes back. -/
theorem readRecordFrom_atMost {delimiter : Char} {r : Reading} {source rest : TextReader}
    {record? : Option (List String)} (h : readRecordFrom delimiter r source = .ok (record?, rest)) :
    rest.AtMost source := by
  fun_induction readRecordFrom delimiter r source with
  | case1 => simp at h
  | case2 r source after hline =>
    simp only [Except.ok.injEq, Prod.mk.injEq] at h
    exact h.2 ▸ TextReader.readLine_atMost hline
  | case3 => simp at h
  | case4 r source c line after hline r' hfeed hplace =>
    simp only [Except.ok.injEq, Prod.mk.injEq] at h
    exact h.2 ▸ TextReader.readLine_atMost hline
  | case5 r source c line after hline r' hfeed hplace ih =>
    exact (ih h).trans (TextReader.readLine_atMost hline)

/-- Reading a record goes up in the order of the states of a reader. -/
theorem readRecord_before {delimiter : Char} {source rest : TextReader} {record : List String}
    (h : readRecord delimiter source = .ok (some record, rest)) : rest.Before source := by
  unfold readRecord readRecordFrom at h
  split at h
  · simp at h
  · simp [Reading.isOpen] at h
  · rename_i c line after hline
    have hbefore := TextReader.readLine_before hline (by simp)
    split at h
    · simp at h
    · split at h
      · simp only [Except.ok.injEq, Prod.mk.injEq] at h
        exact h.2 ▸ hbefore
      · exact (readRecordFrom_atMost h).trans_before hbefore

end InsertScript.Delimited
