import InsertScript.Value.Basic

/-!
# Columns

A column is described by its name, a coarse classification of its values, the name of its type in
the source, and three marks that say where its values come from. The description is plain data:
whoever renders the values of a column is attached to it elsewhere (`ExportColumn`) and takes no
part in the equality of columns.
-/

namespace InsertScript

/-- What kind of values a column holds. -/
inductive DataKind where
  | boolean | numeric | string | datetime | binary | content | object | unknown
deriving DecidableEq, Repr

def DataKind.name : DataKind → String
  | .boolean => "boolean"
  | .numeric => "numeric"
  | .string => "string"
  | .datetime => "datetime"
  | .binary => "binary"
  | .content => "content"
  | .object => "object"
  | .unknown => "unknown"

def DataKind.ofName? (name : String) : Option DataKind :=
  [.boolean, .numeric, .string, .datetime, .binary, .content, .object, .unknown].find?
    (DataKind.name · == name)

/-- The form in which a value is wanted: for people, for editing, or as a literal of the
database. -/
inductive DisplayFormat where
  | ui | edit | native
deriving DecidableEq, Repr

/-- The name of a form. -/
def DisplayFormat.name : DisplayFormat → String
  | .ui => "ui"
  | .edit => "edit"
  | .native => "native"

/-- The form with a name. -/
def DisplayFormat.ofName? (name : String) : Option DisplayFormat :=
  [.ui, .edit, .native].find? (DisplayFormat.name · == name)

/-- A column of a table. -/
structure Column where
  name : String
  kind : DataKind := .string
  typeName : String := ""
  /-- Is it supplied by the database itself, like a row number? -/
  isPseudo : Bool := false
  /-- Does the database generate its values? -/
  isAutoGenerated : Bool := false
  /-- Is it computed, without a value in the source? -/
  isCustom : Bool := false
deriving DecidableEq, Repr

/-- Someone who renders the values of a column in their own way. -/
structure Handler where
  /-- The text of a value in the wanted form. -/
  toSql : Column → Value → DisplayFormat → Except Failure String
  /-- If the handler can write large objects itself: what it writes, and the failure it ends in. -/
  stream? : Option (Column → Content → String × Option Failure) := none

/-- A column of an export, with its own handler if it has one. -/
structure ExportColumn where
  column : Column
  handler? : Option Handler := none

namespace ExportColumn

def name (c : ExportColumn) : String := c.column.name

/-- Is the column left out of an export? Columns that the database fills are, unless `generated`
asks for the generated ones. -/
def isSkipped (c : ExportColumn) (generated : Bool) : Bool :=
  c.column.isPseudo || (c.column.isAutoGenerated && !generated) || c.column.isCustom

end ExportColumn

end InsertScript
