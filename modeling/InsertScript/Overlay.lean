import InsertScript.Settings

/-!
# Overlays

Choices that take the place of settings for one run. What is not chosen stays as it is, and a switch
can only be turned in one direction.
-/

namespace InsertScript

/-- Choices over settings. -/
structure Overlay where
  table : Option String := none
  rows : Value := .null
  variant : Value := .null
  onConflict : Option String := none
  keywordCase : Value := .null
  identifierCase : Value := .null
  includeAutoGenerated : Bool := false
  omitSchema : Bool := false
  noNativeFormat : Bool := false
  noLineBeforeRows : Bool := false
  useDialectDefaults : Bool := false

namespace Overlay

/-- The chosen number of rows, or that of the settings, and a remark if the choice was not
understood. -/
def readRows (o : Overlay) (s : Settings) : Except Failure (Nat × Option LogRecord) :=
  match o.rows with
  | .null => .ok (s.rowsInStatement, none)
  | value => Settings.readRows value

/-- What a value is read as if it is set, or else a default. -/
def readSet {α : Type} (read : Value → Except Failure α) (value : Value) (default : α) :
    Except Failure α :=
  if value.isTruthy then read value else .ok default

/-- The settings with the choices, and a remark if the number of rows was not understood. -/
def apply (o : Overlay) (s : Settings) : Except Failure (Settings × Option LogRecord) := do
  let (rowsInStatement, remark?) ← o.readRows s
  let variant ← readSet Settings.readVariant o.variant s.variant
  let keywordCase ← readSet Settings.readKeywordCase o.keywordCase s.keywordCase
  let identifierCase ← readSet Settings.readIdentifierCase o.identifierCase s.identifierCase
  let chosen : Settings :=
    { s with
      userTableName := (o.table.filter (· ≠ "")).or s.userTableName
      onConflict := (o.onConflict.filter (· ≠ "")).getD s.onConflict
      rowsInStatement, variant, keywordCase, identifierCase
      includeAutoGenerated := s.includeAutoGenerated || o.includeAutoGenerated
      omitSchema := s.omitSchema || o.omitSchema
      nativeFormat := s.nativeFormat && !o.noNativeFormat
      lineBeforeRows := s.lineBeforeRows && !o.noLineBeforeRows
      useDialectDefaults := s.useDialectDefaults || o.useDialectDefaults }
  return (chosen.normalize, remark?)

end Overlay

end InsertScript
