import Mathlib.Data.List.Forall2
import InsertScript.Proofs.Tokens

/-!
# Reading a script

`Dialect.read` reads the tokens of a script back as statements: into which tables and columns they
insert which literals. It knows the grammar of `INSERT` statements but not the settings of an
export: keywords may be in any letter case, statements may hold any number of rows, and what stands
between the rows and the end of a statement is passed over.

`Dialect.Spells` says that a text stands for something in the eyes of a reader, whatever follows the
text. It is handed on from items to separated items (`Spells.separated`) and to lists in brackets
(`SpellsFully.list`).
-/

namespace InsertScript

/-- A name in a script. -/
inductive Name where
  /-- A bare word, whose letter case means nothing. -/
  | bare (spelling : String)
  /-- A name between delimiters. -/
  | delimited (spelling : String)
deriving DecidableEq, Repr

/-- A literal in a script. -/
inductive Literal where
  | null
  | bool (b : Bool)
  | int (n : Int)
  | text (s : String)
  | bytes (data : Bytes)
deriving DecidableEq, Repr

/-- Rows that are inserted into a table. -/
structure Insertion where
  /-- The parts of the table's name. -/
  table : List Name
  columns : List Name
  rows : List (List Literal)
deriving DecidableEq, Repr

/-- A statement of a script. -/
structure Statement where
  /-- The words in front of the first `INTO`, in upper case. -/
  verb : List String
  insertions : List Insertion
deriving DecidableEq, Repr

/-- Reads something from the beginning of some tokens, and leaves the others. -/
abbrev Reader (α : Type) : Type := List Token → Option (α × List Token)

namespace Reader

variable {α : Type}

/-- A word in upper case. -/
def foldWord (word : String) : String := String.ofList (word.toList.map Char.toUpper)

/-- Reads items with separators between them. -/
def separated (item : Reader α) (isSeparator : Token → Bool) (tokens : List Token) :
    Option (List α × List Token) :=
  match item tokens with
  | none => none
  | some (a, []) => some ([a], [])
  | some (a, token :: rest) =>
      if isSeparator token ∧ rest.length < tokens.length then
        (separated item isSeparator rest).map fun (more, rest) => (a :: more, rest)
      else some ([a], token :: rest)
termination_by tokens.length

/-- Reads items in brackets with commas between them. -/
def list (item : Reader α) : Reader (List α)
  | .sign '(' :: .sign ')' :: rest => some ([], rest)
  | .sign '(' :: rest =>
      match separated item (· == .sign ',') rest with
      | some (items, .sign ')' :: rest) => some (items, rest)
      | _ => none
  | _ => none

/-- Passes over a keyword. -/
def keyword (word : String) : List Token → Option (List Token)
  | .word spelling :: rest => if foldWord spelling = word then some rest else none
  | _ => none

def name : Reader Name
  | .word spelling :: rest => some (.bare spelling, rest)
  | .name spelling :: rest => some (.delimited spelling, rest)
  | _ => none

/-! ### Literals -/

/-- The number that decimal digits stand for. -/
def number? (digits : String) : Option Nat :=
  if digits.toList.all Char.isDigit then some (Nat.ofDigitChars 10 digits.toList 0) else none

/-- The bytes that pairs of hexadecimal digits stand for. -/
def bytes? (digits : String) : Option Literal :=
  match Hex.toBytes digits.toList with
  | .ok data => some (.bytes data)
  | .error _ => none

/-- What a text after an `X` stands for. -/
def marked : Reader Literal
  | .text digits :: rest => (bytes? digits).map (·, rest)
  | _ => none

/-- What a text as the argument of a function stands for. -/
def argument : Reader Literal
  | .sign '(' :: .text digits :: .sign ')' :: rest => (bytes? digits).map (·, rest)
  | _ => none

/-- Reads a literal that begins with a word. -/
def worded (word : String) : Reader Literal := fun rest =>
  match number? word with
  | some n => some (.int n, rest)
  | none =>
      if word = "NULL" then some (.null, rest)
      else if word = "TRUE" then some (.bool true, rest)
      else if word = "FALSE" then some (.bool false, rest)
      else if word = "X" then marked rest
      else if word = "HEXTORAW" then argument rest
      else none

def literal : Reader Literal
  | .text s :: rest => some (.text s, rest)
  | .sign '-' :: .word digits :: rest => (number? digits).map fun n => (.int (-n), rest)
  | .word word :: rest => worded word rest
  | _ => none

/-! ### Statements -/

/-- Reads the parts of a table's name. -/
def table : Reader (List Name) := separated name (· == .sign '.')

def rows : Reader (List (List Literal)) := separated (list literal) (· == .sign ',')

/-- Reads the words up to an `INTO`. -/
def verb : Reader (List String)
  | .word spelling :: rest =>
      if foldWord spelling = "INTO" then some ([], rest)
      else (verb rest).map fun (words, rest) => (foldWord spelling :: words, rest)
  | _ => none

/-- Reads a table, its columns, and rows for them. -/
def insertion : Reader Insertion := fun tokens => do
  let (table, tokens) ← table tokens
  let (columns, tokens) ← list name tokens
  let tokens ← keyword "VALUES" tokens
  let (rows, tokens) ← rows tokens
  return ({ table, columns, rows }, tokens)

/-- Is the token the keyword in front of a table? -/
def isInto (token : Token) : Bool := (keyword "INTO" [token]).isSome

/-- What follows the end of a statement. -/
def leave : List Token → Option (List Token)
  | [] => none
  | .sign ';' :: rest => some rest
  | _ :: rest => leave rest

/-- The words of the query that ends an `INSERT ALL`. -/
def closingQuery : List String := ["SELECT", "1", "FROM", "DUAL"]

/-- Reads a statement. Only an `INSERT ALL` has several tables, and it ends with its query. -/
def statement : Reader Statement := fun tokens => do
  let (verb, tokens) ← verb tokens
  if verb = ["INSERT", "ALL"] then
    let (insertions, tokens) ← separated insertion isInto tokens
    let tokens ← leave (← closingQuery.foldlM (fun tokens word => keyword word tokens) tokens)
    return ({ verb, insertions }, tokens)
  else
    let (insertion, tokens) ← insertion tokens
    let tokens ← leave tokens
    return ({ verb, insertions := [insertion] }, tokens)

/-- Is no separator the next token? -/
def NotNext (isSeparator : Token → Bool) (rest : List Token) : Prop :=
  ∀ next ∈ rest.head?, isSeparator next = false

/-- Reads statements up to the end. -/
def statements : List Token → Option (List Statement)
  | [] => some []
  | token :: rest =>
      match statement (token :: rest) with
      | none => none
      | some (first, left) =>
          if left.length ≤ rest.length then (statements left).map (first :: ·) else none
termination_by tokens => tokens.length

/-- A list begins with its bracket. -/
theorem head?_of_list {item : Reader α} {tokens rest : List Token} {items : List α}
    (h : Reader.list item tokens = some (items, rest)) : tokens.head? = some (.sign '(') := by
  unfold Reader.list at h
  split at h
  · rfl
  · rfl
  · cases h

/-- What stands between a semicolon and the rows before it is passed over. -/
theorem leave_append {tokens : List Token} (h : .sign ';' ∉ tokens) (rest : List Token) :
    Reader.leave (tokens ++ .sign ';' :: rest) = some rest := by
  induction tokens with
  | nil => rfl
  | cons token tokens ih =>
      rw [List.cons_append, Reader.leave]
      · exact ih fun hmem => h (List.mem_cons_of_mem token hmem)
      · rintro rfl
        exact h List.mem_cons_self

end Reader

def Dialect.read (d : Dialect) (script : String) : Option (List Statement) :=
  (d.tokens script.toList).bind Reader.statements

/-! ### What a text stands for -/

namespace Dialect

variable {α : Type}

/-- Does a text stand for something in the eyes of a reader? This may ask for what stops the last
token of the text, and for tokens that do not belong to it. -/
def Spells (d : Dialect) (stops : List Char → Prop) (read : Reader α) (follow : List Token → Prop)
    (text : List Char) (a : α) : Prop :=
  ∃ tokens, d.ReadsBefore stops text tokens ∧
    ∀ rest, follow rest → read (tokens ++ rest) = some (a, rest)

/-- Does a text stand for something wherever it stands? -/
def SpellsAlways (d : Dialect) (read : Reader α) (text : List Char) (a : α) : Prop :=
  d.Spells (fun _ => True) read (fun _ => True) text a

/-- Does a text stand for something whatever tokens follow it? -/
def SpellsFully (d : Dialect) (read : Reader α) (text : List Char) (a : α) : Prop :=
  d.Spells d.Breaks read (fun _ => True) text a

variable {d : Dialect} {stops stops' : List Char → Prop} {follow follow' : List Token → Prop}
  {read item : Reader α} {text : List Char} {a : α}

theorem Spells.mono (h : d.Spells stops read follow text a)
    (hstops : ∀ rest, stops' rest → stops rest) (hfollow : ∀ rest, follow' rest → follow rest) :
    d.Spells stops' read follow' text a := by
  obtain ⟨tokens, hreads, hread⟩ := h
  exact ⟨tokens, hreads.mono hstops, fun rest hrest => hread rest (hfollow rest hrest)⟩

/-- Blanks in front mean nothing. -/
theorem Spells.blanks {blanks : List Char} (hblanks : blanks.all Unicode.isBlank = true)
    (h : d.Spells stops read follow text a) : d.Spells stops read follow (blanks ++ text) a := by
  obtain ⟨tokens, hreads, hread⟩ := h
  exact ⟨tokens, (readsAlways_blanks hblanks).append_before hreads, hread⟩

/-- Items with separators between them stand for the list of what they stand for. -/
theorem Spells.separated {separator : List Char} {token : Token} {isSeparator : Token → Bool}
    (hseparator : d.ReadsAlways separator [token]) (hstops : ∀ rest, stops (separator ++ rest))
    (htoken : isSeparator token = true) (hfollow : ∀ rest, follow (token :: rest))
    {texts : List (List Char)} {values : List α}
    (hitems : List.Forall₂ (d.Spells stops item follow) texts values) (hne : texts ≠ []) :
    d.Spells stops (Reader.separated item isSeparator)
      (fun rest => follow rest ∧ Reader.NotNext isSeparator rest)
      (separator.intercalate texts) values := by
  induction hitems with
  | nil => exact absurd rfl hne
  | @cons text a texts values hitem hitems ih =>
      obtain ⟨tokens, hreads, hread⟩ := hitem
      cases hitems with
      | nil =>
          refine ⟨tokens, by simpa using hreads, fun rest hrest => ?_⟩
          rw [Reader.separated, hread rest hrest.1]
          cases rest with
          | nil => rfl
          | cons next rest => simp [hrest.2 next rfl]
      | cons hnext hmore =>
          -- the separator stops the text of the item and may follow its tokens
          obtain ⟨more, hmore, hrest⟩ := ih (by simp)
          refine ⟨tokens ++ ([token] ++ more), ?_, ?_⟩
          · rw [List.intercalate_cons_cons, List.append_assoc]
            exact hreads.append (hseparator.append_before hmore) fun rest _ => by
              rw [List.append_assoc]
              exact hstops _
          · intro rest hends
            rw [List.append_assoc, List.append_assoc, List.singleton_append, Reader.separated,
              hread _ (hfollow _)]
            simp only [htoken, true_and]
            rw [if_pos (by simp only [List.length_append, List.length_cons]; omega),
              hrest rest hends]
            rfl

/-- Items in brackets with commas between them stand for their list, whatever follows. -/
theorem SpellsFully.list (hitem : ∀ rest, item (.sign ')' :: rest) = none)
    {texts : List (List Char)} {values : List α}
    (hitems : List.Forall₂ (d.SpellsFully item) texts values) :
    d.SpellsAlways (Reader.list item) (['('] ++ ([','].intercalate texts ++ [')'])) values := by
  have hopens := readsAlways_sign (d.isSign_of_mem (by decide : '(' ∈ _))
  have hclose := d.isSign_of_mem (by decide : ')' ∈ _)
  have hcloses := readsAlways_sign hclose
  by_cases hne : texts = []
  · subst hne
    cases hitems
    exact ⟨[.sign '(', .sign ')'], hopens.append_before hcloses, fun rest _ => rfl⟩
  · have hcomma := d.isSign_of_mem (by decide : ',' ∈ _)
    obtain ⟨tokens, hreads, hread⟩ : d.Spells d.Breaks (Reader.separated item (· == .sign ','))
        (fun rest => True ∧ Reader.NotNext (· == .sign ',') rest)
          ([','].intercalate texts) values :=
      Spells.separated (readsAlways_sign hcomma) (fun rest => breaks_of_isSign hcomma rest) rfl
        (fun _ => trivial) hitems hne
    refine ⟨[.sign '('] ++ (tokens ++ [.sign ')']),
      hopens.append_before (Reads.append_before hreads hcloses
        (breaks_of_isSign hclose []) (by simp)), ?_⟩
    intro rest _
    have hitems := hread (.sign ')' :: rest) ⟨trivial, by simp [Reader.NotNext]⟩
    rw [List.singleton_append, List.cons_append, List.append_assoc,
      List.singleton_append, Reader.list]
    · simp only [hitems]
    · -- an item does not begin with the closing bracket
      intro rest' heq
      rw [heq, Reader.separated, hitem] at hitems
      cases hitems

end Dialect

end InsertScript
