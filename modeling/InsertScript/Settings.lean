import InsertScript.Log
import InsertScript.Value.Display
import InsertScript.Variant

/-!
# Settings of an export

The options of a run, and their reading from loosely typed properties. A property that cannot be
read falls back to its default; what still fails is a value without a text (an integer of too many
digits) and a variant that is set to something other than a text.

* The number of rows in a statement is at least one after `Settings.normalize`, which every way of
  building settings ends with.
-/

namespace InsertScript

/-- The options of one run. -/
structure Settings where
  /-- Are columns exported whose values the database generates? -/
  includeAutoGenerated : Bool := false
  /-- Is the schema left out of the table name? -/
  omitSchema : Bool := false
  rowsInStatement : Nat := 10
  /-- Are dates and times written as literals of the database? -/
  nativeFormat : Bool := true
  /-- Does every row start a line? -/
  lineBeforeRows : Bool := true
  /-- The table to write to, if it is not the one of the source. -/
  userTableName : Option String := none
  keywordCase : LetterCase := .upper
  identifierCase : LetterCase := .upper
  variant : Variant := .insert
  /-- What follows the keywords for conflicting keys. -/
  onConflict : String := ""
  /-- Does the dialect decide whether rows are grouped? -/
  useDialectDefaults : Bool := false
  lineSeparator : String := "\n"
deriving DecidableEq, Repr

/-- Options by name. -/
abbrev Properties := List (String × Value)

namespace Properties

/-- The value of a property; none if it is absent. -/
def lookup (properties : Properties) (name : String) : Value :=
  ((properties.find? (·.1 == name)).map (·.2)).getD .null

end Properties

namespace Settings

/-- The number of rows in a statement unless told otherwise. -/
def defaultRows : Nat := 10

/-- The origin of the records about settings. -/
def origin : String := "sqlexport.exporter.settings"

/-- Settings with a usable number of rows. -/
def normalize (s : Settings) : Settings :=
  if s.rowsInStatement < 1 then { s with rowsInStatement := defaultRows } else s

/-- Normal settings take at least one row. -/
theorem one_le_rows_normalize (s : Settings) : 1 ≤ s.normalize.rowsInStatement := by
  unfold normalize
  split
  · simp [defaultRows]
  · omega

/-- Normalizing twice is normalizing once. -/
@[simp] theorem normalize_normalize (s : Settings) : s.normalize.normalize = s.normalize := by
  have h := s.one_le_rows_normalize
  generalize s.normalize = t at h
  simp [normalize, Nat.not_lt.2 h]

/-! ### Reading single values -/

/-- The texts that mean yes. -/
def affirmations : List String := ["true", "1", "yes", "on"]

/-- A text in lower case without the blanks around it. -/
def fold (s : String) : String := String.ofList (Unicode.lower (Unicode.trim s.toList))

/-- A truth value; `default` where nothing is said. -/
def readBool (value : Value) (default : Bool) : Except Failure Bool :=
  match value with
  | .null => .ok default
  | .bool b => .ok b
  | v => do
      let text := fold (← v.display)
      return if text = "" then default else affirmations.contains text

/-- The integer that the text of a value denotes. -/
def readCount (value : Value) : Except Failure Int := do
  let text ← value.display
  (Numeral.readInteger (String.ofList (Unicode.trim text.toList))).mapError .integer

/-- A number of rows, and a remark if the value was not understood. -/
def readRows (value : Value) : Except Failure (Nat × Option LogRecord) :=
  match value with
  | .null => .ok (defaultRows, none)
  | .text "" => .ok (defaultRows, none)
  | v =>
      match readCount v with
      | .ok n => .ok (if n < 1 then defaultRows else n.toNat, none)
      | .error _ => do
          let message := s!"Invalid rows per statement {← v.quoted}, using default"
          return (defaultRows, some { level := .debug, origin, message })

/-- The case of keywords: lower if the value says so, and otherwise upper. -/
def readKeywordCase (value : Value) : Except Failure LetterCase :=
  match value with
  | .null => .ok .upper
  | v => do return if fold (← v.display) = "lower" then .lower else .upper

/-- The case of names: as it is or lower if the value says so, and otherwise upper. -/
def readIdentifierCase (value : Value) : Except Failure LetterCase :=
  match value with
  | .null => .ok .upper
  | v => do
      let text := fold (← v.display)
      return if text = "as is" ∨ text = "as_is" ∨ text = "mixed" then .mixed
        else if text = "lower" then .lower else .upper

/-- Is the byte white space? -/
def isBlankByte (b : UInt8) : Bool := b == 32 || (9 ≤ b && b ≤ 13)

/-- A variant. A value that is not set means the plain one, and every other value has to be a
text. -/
def readVariant (value : Value) : Except Failure Variant :=
  if !value.isTruthy then .ok .insert
  else match value with
    | .text s => .ok (Variant.ofText s)
    | .bytes data | .buffer data =>
        if data.all isBlankByte then .ok .insert else .error (.notTextWords value.qualifiedTypeName)
    | v => .error (.notText v.qualifiedTypeName "strip")

/-- The text of a value that is set; nothing for other values. -/
def readText? (value : Value) : Except Failure (Option String) :=
  if value.isTruthy then value.display.map some else .ok none

/-! ### Reading properties -/

def propertyNames : List String := [
  "include_auto_generated", "omit_schema", "rows_in_statement", "native_format", "line_before_rows",
  "user_table_name", "keyword_case", "identifier_case", "insert_variant", "on_conflict",
  "use_dialect_defaults", "line_separator"]

/-- The settings that properties describe, and a remark on the number of rows if it was not
understood. -/
def ofProperties (properties : Properties) : Except Failure (Settings × Option LogRecord) := do
  let defaults : Settings := {}
  let includeAutoGenerated ←
    readBool (properties.lookup "include_auto_generated") defaults.includeAutoGenerated
  let omitSchema ← readBool (properties.lookup "omit_schema") defaults.omitSchema
  let (rowsInStatement, remark) ← readRows (properties.lookup "rows_in_statement")
  let nativeFormat ← readBool (properties.lookup "native_format") defaults.nativeFormat
  let lineBeforeRows ← readBool (properties.lookup "line_before_rows") defaults.lineBeforeRows
  let userTableName ← readText? (properties.lookup "user_table_name")
  let keywordCase ← readKeywordCase (properties.lookup "keyword_case")
  let identifierCase ← readIdentifierCase (properties.lookup "identifier_case")
  let variant ← readVariant (properties.lookup "insert_variant")
  let onConflict ← readText? (properties.lookup "on_conflict")
  let useDialectDefaults ←
    readBool (properties.lookup "use_dialect_defaults") defaults.useDialectDefaults
  let lineSeparator ← readText? (properties.lookup "line_separator")
  let settings : Settings :=
    { includeAutoGenerated, omitSchema, rowsInStatement, nativeFormat,
      lineBeforeRows, userTableName,
      keywordCase, identifierCase, variant, onConflict := onConflict.getD "", useDialectDefaults,
      lineSeparator := lineSeparator.getD "\n" }
  return (settings.normalize, remark)

end Settings

end InsertScript
