import InsertScript.Text.Hex
import InsertScript.Unicode.Printable

/-!
# Quoted text

The unambiguous form in which messages and nested values show a text or raw bytes: between quotes,
with everything escaped that would not show as itself.

* The quote is `'`, unless the text holds a `'` and no `"`.
* The quote and the backslash are escaped by a backslash; tab, line feed and carriage return have
  letters; whatever else is not printable has a hexadecimal escape of the least of three widths.
-/

namespace InsertScript.Quoted

/-- The quote that needs fewer escapes, single unless only single quotes occur. -/
def quoteFor (text : List Char) : Char :=
  if text.contains '\'' && !text.contains '"' then '"' else '\''

/-- The least hexadecimal escape that can hold a code point. -/
def hexEscape (code : Nat) : List Char :=
  if code < 0x100 then '\\' :: 'x' :: Hex.padded 2 code
  else if code < 0x10000 then '\\' :: 'u' :: Hex.padded 4 code
  else '\\' :: 'U' :: Hex.padded 8 code

/-- The characters that have a letter of their own after the backslash. -/
def letterEscape? (c : Char) : Option Char :=
  if c = '\t' then some 't' else if c = '\n' then some 'n' else if c = '\r' then some 'r' else none

/-- One character between the given quotes. -/
def escapeChar (quote c : Char) : List Char :=
  if c = quote || c = '\\' then ['\\', c]
  else match letterEscape? c with
    | some letter => ['\\', letter]
    | none => if Unicode.isPrintable c then [c] else hexEscape c.toNat

def ofChars (text : List Char) : List Char :=
  let quote := quoteFor text
  quote :: text.flatMap (escapeChar quote) ++ [quote]

/-- A text in quotes. -/
def ofString (s : String) : String := String.ofList (ofChars s.toList)

/-- The character with the code of a byte. -/
def byteChar (byte : UInt8) : Char := Char.ofNat byte.toNat

/-- A byte between quotes, `escaped` being the characters that take a backslash. -/
def escapeByte (escaped : List Char) (byte : UInt8) : List Char :=
  let c := byteChar byte
  if escaped.contains c then ['\\', c]
  else match letterEscape? c with
    | some letter => ['\\', letter]
    | none => if 32 ≤ byte.toNat && byte.toNat < 127 then [c] else hexEscape byte.toNat

/-- Raw bytes as a quoted text after the letter `b`. -/
def ofBytes (data : Bytes) : String :=
  let quote := quoteFor (data.map byteChar)
  String.ofList ('b' :: quote :: data.flatMap (escapeByte [quote, '\\']) ++ [quote])

/-- Raw bytes of a buffer: the same form, but the single quote is always escaped and the double
quote never. -/
def ofBuffer (data : Bytes) : String :=
  let quote := quoteFor (data.map byteChar)
  String.ofList ('b' :: quote :: data.flatMap (escapeByte ['\'', '\\']) ++ [quote])

end InsertScript.Quoted
