import InsertScript.LetterCase
import InsertScript.Unicode.Blank

/-!
# Insert variants

The families of keywords with which rows can be written, and the pieces of a statement that depend
on the family: its opening up to the table name, the clause for conflicting keys, and the query that
ends an `INSERT ALL`.
-/

namespace InsertScript

/-- A family of keywords. -/
inductive Variant where
  | insert | insertAll | update | upsert | replace | onDuplicate | onConflict
deriving DecidableEq, Repr

namespace Variant

/-- All variants; the first one that fits a text is meant by it. -/
def all : List Variant := [insert, insertAll, update, upsert, replace, onDuplicate, onConflict]

def name : Variant → String
  | insert => "INSERT"
  | insertAll => "INSERT_ALL"
  | update => "UPDATE"
  | upsert => "UPSERT"
  | replace => "REPLACE"
  | onDuplicate => "ON_DUPLICATE"
  | onConflict => "ON_CONFLICT"

def ofName? (name : String) : Option Variant := all.find? (·.name == name)

/-- The keywords that are typical of a variant. -/
def keyword : Variant → String
  | insert => "INSERT"
  | insertAll => "INSERT ALL"
  | update => "UPDATE OR"
  | upsert => "UPSERT INTO"
  | replace => "REPLACE INTO"
  | onDuplicate => "ON DUPLICATE KEY UPDATE"
  | onConflict => "ON CONFLICT"

/-- The texts that mean a variant: its keywords, its name, and its name with blanks. -/
def spellings (v : Variant) : List String :=
  [v.keyword, v.name, v.name.map fun c => if c = '_' then ' ' else c]

/-- A text in upper case with single blanks between its words. -/
def normalize (s : String) : String :=
  " ".intercalate ((Unicode.words (Unicode.upper (Unicode.trim s.toList))).map String.ofList)

/-- The variant that a text means; plain `INSERT` for any other text. -/
def ofText (s : String) : Variant :=
  (all.find? fun v => v.spellings.contains (normalize s)).getD insert

/-- Does one statement insert into several tables? -/
def isMultiTable (v : Variant) : Bool := v == insertAll

/-- Does the variant have a clause for conflicting keys? -/
def hasConflictClause (v : Variant) : Bool := v == onDuplicate || v == onConflict

/-- The keywords up to the table name. An `INSERT ALL` names them once for a batch of rows. -/
def opening (v : Variant) (letters : LetterCase) (startsBatch : Bool) : String :=
  match v with
  | update => letters.transform "UPDATE OR" ++ " " ++ letters.transform "INSERT INTO"
  | upsert => letters.transform "UPSERT INTO"
  | replace => letters.transform "REPLACE INTO"
  | insertAll =>
      let into := "\t" ++ letters.transform "INTO"
      if startsBatch then letters.transform "INSERT ALL" ++ "\n" ++ into else into
  | _ => letters.transform "INSERT INTO"

/-- The clause for conflicting keys with a blank in front; nothing without an expression. -/
def conflictClause (v : Variant) (expression : String) (letters : LetterCase) : String :=
  if expression = "" then ""
  else match v with
    | onConflict => " " ++ letters.transform "ON CONFLICT" ++ " " ++ expression
    | onDuplicate => " " ++ letters.transform "ON DUPLICATE KEY UPDATE" ++ " " ++ expression
    | _ => ""

/-- The keyword before the rows. -/
def valuesKeyword (letters : LetterCase) : String := letters.transform "VALUES"

/-- The query that ends an `INSERT ALL`. -/
def closingSelect (letters : LetterCase) : String := letters.transform "SELECT 1 FROM DUAL"

end Variant

end InsertScript
