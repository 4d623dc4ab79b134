import InsertScript.Text.Trimmed

/-!
# Blank characters

White space in the widest sense: the characters that separate words, that trimming removes, and that
may surround a number.
-/

namespace InsertScript.Unicode

/-- The code points of white space, information separators included. -/
def blankCodes : List Nat := [
  0x9, 0xa, 0xb, 0xc, 0xd, 0x1c, 0x1d, 0x1e, 0x1f, 0x20, 0x85, 0xa0, 0x1680, 0x2000, 0x2001,
  0x2002, 0x2003, 0x2004, 0x2005, 0x2006, 0x2007, 0x2008, 0x2009, 0x200a, 0x2028, 0x2029, 0x202f,
  0x205f, 0x3000
]

/-- Is the character white space? -/
def isBlank (c : Char) : Bool := blankCodes.contains c.toNat

/-- Is the character white space around a number? Below 127 only the six usual ones count, from
there on every blank. -/
def isNumeralBlank (c : Char) : Bool :=
  if c.val < 127 then c == ' ' || (9 ≤ c.toNat && c.toNat ≤ 13) else isBlank c

/-- Text without the blanks at its two ends. -/
def trim (text : List Char) : List Char := trimBy isBlank text

/-- The runs of characters between blanks. `run` is the one being collected, last character
first. -/
def wordsFrom (run : List Char) : List Char → List (List Char)
  | [] => if run.isEmpty then [] else [run.reverse]
  | c :: rest =>
      if isBlank c then
        if run.isEmpty then wordsFrom [] rest else run.reverse :: wordsFrom [] rest
      else wordsFrom (c :: run) rest

/-- The words of a text, in order. -/
def words (text : List Char) : List (List Char) := wordsFrom [] text

end InsertScript.Unicode
