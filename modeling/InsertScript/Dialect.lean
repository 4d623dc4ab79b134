import InsertScript.Failure
import InsertScript.Unicode.Case
import InsertScript.Unicode.Blank

/-!
# SQL dialects

The differences between the databases that scripts are written for: how names are delimited, how
texts are escaped, how bytes are written, and how many rows an `INSERT` may take.

* A text stands between single quotes, each of its own single quotes doubled; MySQL also doubles
  backslashes. `escape` works character by character, so it distributes over concatenation
  (`escape_append`): a text may be escaped in pieces.
* A name stands bare if it is plain and no reserved word, and otherwise between quote characters of
  the dialect, its own ones doubled.
* A dotted name is split at the dots that stand outside of quotes.
-/

namespace InsertScript

/-- How a dialect writes several rows. -/
inductive InsertMode where
  /-- Several rows in one statement. -/
  | groupRows
  /-- A statement for every row. -/
  | plain
  /-- The question does not arise. -/
  | notSupported
deriving DecidableEq, Repr

def InsertMode.name : InsertMode → String
  | .groupRows => "group_rows"
  | .plain => "plain"
  | .notSupported => "not_supported"

/-- The supported dialects. -/
inductive Dialect where
  | generic | postgresql | mysql | oracle | sqlite
deriving DecidableEq, Repr

namespace Dialect

/-- The names by which dialects are chosen, in the order of the alphabet. -/
def known : List (String × Dialect) := [
  ("generic", generic), ("mysql", mysql), ("oracle", oracle), ("postgres", postgresql),
  ("postgresql", postgresql), ("sqlite", sqlite)]

def name : Dialect → String
  | generic => "generic"
  | postgresql => "postgresql"
  | mysql => "mysql"
  | oracle => "oracle"
  | sqlite => "sqlite"

/-- A text in lower case without the blanks around it. -/
def foldName (s : String) : String := String.ofList (Unicode.lower (Unicode.trim s.toList))

/-- The dialect of a name, in any letter case; no name means the generic one. -/
def ofName (name? : Option String) : Except Failure Dialect :=
  let name := name?.getD ""
  match known.find? (·.1 == foldName (if name = "" then generic.name else name)) with
  | some entry => .ok entry.2
  | none => .error (.unknownDialect name (known.map (·.1)))

/-- The character that delimits names. -/
def quote : Dialect → Char
  | mysql => '`'
  | _ => '"'

/-- The literal of no value. -/
def nullLiteral (_ : Dialect) : String := "NULL"

/-- How the dialect writes several rows unless told otherwise. -/
def insertMode : Dialect → InsertMode
  | oracle => .plain
  | _ => .groupRows

/-! ### Texts and bytes -/

/-- The character around texts. -/
def textQuote : Char := '\''

/-- One character of a text literal. -/
def escapeChar (d : Dialect) (c : Char) : List Char :=
  if c = textQuote then [c, c] else if c = '\\' ∧ d = mysql then [c, c] else [c]

/-- A text as it stands inside a text literal. -/
def escape (d : Dialect) (text : List Char) : List Char := text.flatMap d.escapeChar

@[simp] theorem escape_nil (d : Dialect) : d.escape [] = [] := rfl

@[simp] theorem escape_cons (d : Dialect) (c : Char) (text : List Char) :
    d.escape (c :: text) = d.escapeChar c ++ d.escape text := rfl

@[simp] theorem escape_append (d : Dialect) (a b : List Char) :
    d.escape (a ++ b) = d.escape a ++ d.escape b := List.flatMap_append

/-- A text as it stands inside a text literal. -/
def escapeText (d : Dialect) (s : String) : String := String.ofList (d.escape s.toList)

/-- A text literal. -/
def literal (d : Dialect) (s : String) : String :=
  String.ofList (textQuote :: d.escape s.toList ++ [textQuote])

def binaryLiteral (d : Dialect) (data : Bytes) : String :=
  let digits := Hex.ofBytes data
  match d with
  | postgresql => String.ofList ('\'' :: '\\' :: 'x' :: digits ++ ['\''])
  | oracle => String.ofList ("HEXTORAW('".toList ++ digits.map Char.toUpper ++ ['\'', ')'])
  | _ => String.ofList ('X' :: '\'' :: digits ++ ['\''])

/-! ### Names -/

/-- May a plain name start with the character? -/
def isNameStart (c : Char) : Bool := c.isAlpha || c == '_'

/-- May a plain name go on with the character? -/
def isNamePart (c : Char) : Bool := c.isAlphanum || c == '_' || c == '$'

/-- A text without a line feed at its end. -/
def dropFinalFeed (text : List Char) : List Char :=
  if text.getLast? = some '\n' then text.dropLast else text

/-- Can the name be written without quotes, unless it is reserved? A line feed at its end is
overlooked. -/
def isPlainName : List Char → Bool
  | [] => false
  | c :: rest => isNameStart c && (dropFinalFeed rest).all isNamePart

/-- Words that no dialect takes as bare names, in upper case. -/
def reservedWords : List String := [
  "ALL", "AND", "AS", "ASC", "BETWEEN", "BY", "CASE", "CHECK", "COLUMN", "CONSTRAINT",
    "CREATE", "CROSS",
  "DEFAULT", "DELETE", "DESC", "DISTINCT", "DROP", "ELSE", "END", "EXISTS", "FALSE",
    "FOR", "FOREIGN",
  "FROM", "FULL", "GRANT", "GROUP", "HAVING", "IN", "INDEX", "INNER", "INSERT", "INTO",
    "IS", "JOIN", "KEY",
  "LEFT", "LIKE", "LIMIT", "NOT", "NULL", "ON", "OR", "ORDER", "OUTER", "PRIMARY",
    "REFERENCES", "RIGHT",
  "SELECT", "SET", "TABLE", "THEN", "TO", "TRUE", "UNION", "UNIQUE", "UPDATE", "USER",
    "USING", "VALUES",
  "WHEN", "WHERE", "WITH"]

/-- Is the name a reserved word in some letter case? -/
def isReserved (name : List Char) : Bool :=
  reservedWords.contains (String.ofList (Unicode.upper name))

/-- Does the name start and end with the quote character? -/
def isQuoted (d : Dialect) (name : List Char) : Bool :=
  2 ≤ name.length && name.head? == some d.quote && name.getLast? == some d.quote

/-- A name with its quote characters doubled. -/
def doubleQuotes (d : Dialect) (name : List Char) : List Char :=
  name.flatMap fun c => if c = d.quote then [c, c] else [c]

/-- A name as it is written: as it is if it looks quoted or can stand bare, and quoted otherwise. -/
def quoteName (d : Dialect) (name : List Char) : List Char :=
  if d.isQuoted name then name
  else if isPlainName name && !isReserved name then name
  else d.quote :: d.doubleQuotes name ++ [d.quote]

/-- Splits at the dots outside of quotes; `part` is the part being collected, last character
first. -/
def splitFrom (d : Dialect) (inside : Bool) (part : List Char) : List Char → List (List Char)
  | [] => [part.reverse]
  | c :: rest =>
      let inside := if c = d.quote then !inside else inside
      if c = '.' ∧ inside = false then part.reverse :: splitFrom d inside [] rest
      else splitFrom d inside (c :: part) rest

/-- The parts of a dotted name. -/
def splitName (d : Dialect) (name : List Char) : List (List Char) := d.splitFrom false [] name

/-- Parts with dots between them; empty parts are left out. -/
def joinName (parts : List (List Char)) : List Char :=
  List.intercalate ['.'] (parts.filter fun part => !part.isEmpty)

end Dialect

end InsertScript
