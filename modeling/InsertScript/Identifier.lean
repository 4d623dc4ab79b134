import InsertScript.Dialect
import InsertScript.LetterCase

/-!
# Names in a statement

How the names of tables and columns are written: quoted where the dialect needs it, and in the
chosen letter case where they are not quoted. A quoted name is never changed.
-/

namespace InsertScript.Identifier

/-- A name without dots in the chosen case, unless it is quoted. -/
def transform (d : Dialect) (letters : LetterCase) (name : String) : String :=
  if d.isQuoted name.toList then name else letters.transform name

/-- A dotted name with each part written by a function. -/
def mapParts (d : Dialect) (write : String → String) (name : String) : String :=
  String.ofList (Dialect.joinName
    ((d.splitName name.toList).map fun part => (write (String.ofList part)).toList))

/-- A name, quoted if the dialect needs it. -/
def quote (d : Dialect) (name : String) : String := String.ofList (d.quoteName name.toList)

/-- A table name as it was found, with the parts quoted that need it. -/
def quoteTable (d : Dialect) (name : String) : String := mapParts d (quote d) name

/-- A table name in the chosen case. -/
def transformTable (d : Dialect) (letters : LetterCase) (name : String) : String :=
  if letters = .mixed then name else mapParts d (transform d letters) name

/-- A column name as it is written. -/
def column (d : Dialect) (letters : LetterCase) (name : String) : String :=
  let quoted := quote d name
  if letters = .mixed then quoted else transform d letters quoted

end InsertScript.Identifier
