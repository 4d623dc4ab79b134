import InsertScript.Numeral.Integer
import InsertScript.Text.Trimmed

/-!
# Identifiers of 128 bits

An identifier is a number of 128 bits. It is written as 32 digits of base sixteen in groups of fixed
lengths, with hyphens between the groups.

When an identifier is read the hyphens do not matter, nor do braces around it and certain words in
it. What is left has to be a numeral of base sixteen of the right length; it need not consist of
digits only.
-/

namespace InsertScript

/-- An identifier of 128 bits. -/
structure Uuid where
  bits : BitVec 128
deriving DecidableEq, Repr

/-- Why a text is no identifier. -/
inductive UuidFault where
  /-- What is left of the text has not the right length. -/
  | length
  /-- What is left of the text is no numeral. -/
  | malformed (numeral : List Char)
deriving DecidableEq, Repr

/-- The wording of the refusals. -/
def UuidFault.message : UuidFault → String
  | .length => "badly formed hexadecimal UUID string"
  | .malformed numeral =>
      "invalid literal for int() with base 16: " ++
        String.ofList ((Quoted.ofChars numeral).take Numeral.shownLength)

namespace Uuid

/-- The lengths of the groups of digits. -/
def groupLengths : List Nat := [8, 4, 4, 4, 12]

/-- The number of digits. -/
def digitCount : Nat := groupLengths.foldr (· + ·) 0

/-- A text cut into groups of the given lengths. -/
def cutGroups : List Nat → List Char → List (List Char)
  | [], _ => []
  | length :: more, digits => digits.take length :: cutGroups more (digits.drop length)

/-- The digits of an identifier. -/
def digits (u : Uuid) : List Char := Hex.padded digitCount u.bits.toNat

/-- The text of an identifier. -/
def text (u : Uuid) : String :=
  String.ofList (List.intercalate ['-'] (cutGroups groupLengths u.digits))

/-! ### Reading -/

/-- A text without the occurrences of a word. `passed` is the number of characters still belonging
to an occurrence. -/
def dropWord (word : List Char) (passed : Nat) : List Char → List Char
  | [] => []
  | c :: rest =>
      if 0 < passed then dropWord word (passed - 1) rest
      else if word.isPrefixOf (c :: rest) then dropWord word (word.length - 1) rest
      else c :: dropWord word 0 rest

/-- The words that do not matter, in the order in which they are taken out. -/
def fillers : List (List Char) := ["urn:".toList, "uuid:".toList]

/-- The identifier that a text denotes. -/
def ofString (s : String) : Except UuidFault Uuid :=
  let bare := fillers.foldl (fun text word => dropWord word 0 text) s.toList
  let numeral := (trimBy (fun c => c == '\x7b' || c == '\x7d') bare).filter (· ≠ '-')
  if numeral.length ≠ digitCount then .error .length
  else match Numeral.readHexadecimal? numeral with
    | some n => .ok { bits := BitVec.ofInt 128 n }
    | none => .error (.malformed numeral)

end Uuid

end InsertScript
