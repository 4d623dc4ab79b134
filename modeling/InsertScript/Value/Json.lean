import InsertScript.Value.Display

/-!
# Values as JSON

The JSON text of nested values, in ASCII: everything outside the printable ASCII characters is
escaped, a character beyond the first plane as its two surrogates. A comma and a colon are followed
by a blank.

Values that JSON does not know appear as their plain text. Keys may be texts, numbers, truth values
and null, all written as texts; any other key is a failure.
-/

namespace InsertScript.Json

/-- The escape of a sixteen-bit unit. -/
def unitEscape (unit : Nat) : List Char := '\\' :: 'u' :: Hex.padded 4 unit

/-- One character inside a JSON text. -/
def escapeChar (c : Char) : List Char :=
  if c = '"' then ['\\', '"']
  else if c = '\\' then ['\\', '\\']
  else if c = '\n' then ['\\', 'n']
  else if c = '\r' then ['\\', 'r']
  else if c = '\t' then ['\\', 't']
  else if c = '\x0c' then ['\\', 'f']
  else if c = '\x08' then ['\\', 'b']
  else if ' ' ≤ c ∧ c ≤ '~' then [c]
  else if c.toNat < 0x10000 then unitEscape c.toNat
  else
    let beyond := c.toNat - 0x10000
    unitEscape (0xD800 + beyond / 0x400) ++ unitEscape (0xDC00 + beyond % 0x400)

/-- A text as a JSON text. -/
def quote (s : String) : String := String.ofList ('"' :: s.toList.flatMap escapeChar ++ ['"'])

/-- A double as a JSON number, or the name of a value that is none. -/
def floatText (x : Binary64) : String := x.textWith "NaN" "Infinity"

/-- The text that a key is written as. -/
def keyText : Value → Except Failure String
  | .text s => .ok s
  | .float x => .ok (floatText x)
  | .bool b => .ok (if b then "true" else "false")
  | .null => .ok "null"
  | .int n => integerText n
  | key => .error (.badKey key.qualifiedTypeName)

mutual

/-- The JSON text of a value. -/
def write : Value → Except Failure String
  | .null => .ok "null"
  | .bool b => .ok (if b then "true" else "false")
  | .int n => integerText n
  | .float x => .ok (floatText x)
  | .text s => .ok (quote s)
  | .list items => do return "[" ++ ", ".intercalate (← writeItems items) ++ "]"
  | .tuple items => do return "[" ++ ", ".intercalate (← writeItems items) ++ "]"
  | .dict entries => do return "\x7b" ++ ", ".intercalate (← writeEntries entries) ++ "\x7d"
  | v => do return quote (← v.display)

/-- The JSON texts of some values. -/
def writeItems : List Value → Except Failure (List String)
  | [] => .ok []
  | item :: items => do return (← write item) :: (← writeItems items)

/-- The JSON texts of some entries. -/
def writeEntries : List (Value × Value) → Except Failure (List String)
  | [] => .ok []
  | (key, value) :: entries => do
      return (quote (← keyText key) ++ ": " ++ (← write value)) :: (← writeEntries entries)

end

end InsertScript.Json
