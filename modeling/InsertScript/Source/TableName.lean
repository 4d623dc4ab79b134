import InsertScript.Unicode.Blank
import InsertScript.Unicode.Word

/-!
# The table of a query

The table that a query reads from is looked for in its text: the first name after the word `FROM`
that stands outside of parentheses. A name has one or two parts with a dot between them; a part is a
run of word characters and dollar signs, or anything between double quotes.

The search goes from left to right and passes over what it has found, so a `FROM` that is part of a
name found before is not seen.
-/

namespace InsertScript.TableName

/-- May the character be part of a bare name? -/
def isNameChar (c : Char) : Bool := Unicode.isWord c || c == '$'

/-- The length of the part of a name at the head of a text. -/
def partLength? (text : List Char) : Option Nat :=
  match text with
  | '"' :: rest =>
      let inner := rest.takeWhile (· ≠ '"')
      if inner.isEmpty || inner.length = rest.length then none else some (inner.length + 2)
  | text =>
      let run := text.takeWhile isNameChar
      if run.isEmpty then none else some run.length

/-- The length of the name at the head of a text. -/
def nameLength? (text : List Char) : Option Nat :=
  (partLength? text).map fun first =>
    match text.drop first with
    | '.' :: rest =>
        match partLength? rest with
        | some second => first + 1 + second
        | none => first
    | _ => first

/-- The letters of the word, in both cases. -/
def keyword : List (Char × Char) := [('F', 'f'), ('R', 'r'), ('O', 'o'), ('M', 'm')]

/-- Is the word at the head of the text, in some letter case? -/
def startsWithKeyword (text : List Char) : Bool :=
  (keyword.zip text).countP (fun (letter, c) => c == letter.1 || c == letter.2) == keyword.length

/-- The name after the word at the head of a text, and the length of everything up to its end. -/
def clause? (text : List Char) : Option (List Char × Nat) :=
  if !startsWithKeyword text then none
  else
    let rest := text.drop keyword.length
    let blanks := rest.takeWhile Unicode.isBlank
    if blanks.isEmpty then none
    else
      let name := rest.drop blanks.length
      (nameLength? name).map fun length =>
        (name.take length, keyword.length + blanks.length + length)

/-- How a character changes the number of open parentheses. -/
def depthChange (c : Char) : Int := if c = '(' then 1 else if c = ')' then -1 else 0

/-- Looks for a name. `passed` is the number of characters still belonging to a name that was found,
`inWord` tells whether the character before was a word character, and `depth` counts the open
parentheses. -/
def search (passed : Nat) (inWord : Bool) (depth : Int) : List Char → Option (List Char)
  | [] => none
  | c :: rest =>
      let go passed := search passed (Unicode.isWord c) (depth + depthChange c) rest
      if 0 < passed then go (passed - 1)
      else if inWord then go 0
      else match clause? (c :: rest) with
        | none => go 0
        | some (name, length) => if depth = 0 then some name else go (length - 1)

/-- The table that a query reads from. -/
def ofQuery (query : String) : Option String := (search 0 false 0 query.toList).map String.ofList

end InsertScript.TableName
