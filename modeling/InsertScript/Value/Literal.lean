import InsertScript.Column
import InsertScript.Dialect
import InsertScript.Log
import InsertScript.Time.Pattern
import InsertScript.Value.Json

/-!
# SQL literals

How values are written as literals of a dialect. Numbers, truth values and null stand bare, bytes
have the binary form of the dialect, and everything else is a text between quotes: nested values as
JSON, values of unknown types as their plain text.

Dates and times have two forms, the standard one and one after a pattern. The second one comes
without quotes if it is asked for as such; whoever asks adds them.
-/

namespace InsertScript

/-- How literals are written. -/
structure LiteralStyle where
  dialect : Dialect := .generic
  /-- The pattern of moments where the standard form is not wanted. -/
  momentPattern : String := "%Y-%m-%d %H:%M:%S"
  /-- Have native dates and times the standard form? -/
  isNative : Bool := false
deriving DecidableEq, Repr

namespace LiteralStyle

/-- The origin of the records about literals. -/
def origin : String := "sqlexport.rendering"

def datePattern : List Char := "%Y-%m-%d".toList

/-- The pattern of times of day. -/
def clockPattern : List Char := "%H:%M:%S".toList

/-- Times of day are filled into patterns with this date. -/
def patternDate : Date := { year := 1900, month := 1, day := 1 }

/-- A date or time after its pattern; nothing for other values. -/
def filled? (style : LiteralStyle) : Value → Option String
  | .moment m => some (String.ofList (Pattern.fill m style.momentPattern.toList))
  | .date d => some (String.ofList (Pattern.fill { date := d } datePattern))
  | .clock t offset =>
      some (String.ofList (Pattern.fill { date := patternDate, clock := t, offset } clockPattern))
  | _ => none

/-- A date or time in its standard form; nothing for other values. -/
def standard? : Value → Option String
  | .moment m => some (String.ofList m.iso)
  | .date d => some (String.ofList d.iso)
  | .clock t offset => some (String.ofList (t.iso ++ isoOffset offset))
  | _ => none

def quote (style : LiteralStyle) (text : String) : String := style.dialect.literal text

/-- The name of a double that is no finite number. -/
def specialName? (x : Binary64) : Option String :=
  if x.isNaN then some "NaN"
  else if x.isInfinite then some (if x.isNegative then "-Infinity" else "Infinity")
  else none

/-- A date or time in the wanted form, its two texts being given. -/
def temporal (style : LiteralStyle) (format : DisplayFormat) (filled standard : String) : String :=
  if format = .native then style.quote (if style.isNative then standard else filled) else filled

def write (style : LiteralStyle) (format : DisplayFormat) : Value → Except Failure String
  | .null => .ok style.dialect.nullLiteral
  | .bool b => .ok (if b then "TRUE" else "FALSE")
  | .int n => integerText n
  | .float x =>
      .ok (match specialName? x with
        | some name => style.quote name
        | none => x.text)
  | .decimal d => .ok (if d.isFinite then d.text else style.quote d.text)
  | .uuid u => .ok (style.quote u.text)
  | .bytes data | .buffer data | .view data => .ok (style.dialect.binaryLiteral data)
  | .text s => .ok (style.quote s)
  | .list items => (Json.write (.list items)).map style.quote
  | .dict entries => (Json.write (.dict entries)).map style.quote
  | v =>
      match style.filled? v, standard? v with
      | some filled, some standard => .ok (style.temporal format filled standard)
      | _, _ => v.display.map style.quote

/-- Has the value's type a literal of its own? All others are written as their plain text. -/
def isFamiliar : Value → Bool
  | .duration _ | .tuple _ | .object .. | .path _ | .content _ => false
  | _ => true

/-- What is reported when a value of a column is written. -/
def remark? (columnName : String) (v : Value) : Option LogRecord :=
  if isFamiliar v then none
  else
    let message := s!"Rendering {v.typeName} value of {columnName} as text"
    some { level := .debug, origin, message }

end LiteralStyle

end InsertScript
