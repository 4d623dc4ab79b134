import InsertScript.Value.Display

/-!
# Choices

What was chosen for something that wants a text: nothing at all, a text, or an empty list in place
of a text. The last comes from an option of the command line whose own word has the separator where
its value should be; such an option is given and still chooses nothing.
-/

namespace InsertScript

/-- What was chosen. -/
inductive Choice where
  | unset
  /-- An empty list in place of a text. -/
  | blank
  | text (s : String)
deriving DecidableEq, Repr

namespace Choice

/-- Was something given, even if it chooses nothing? -/
def isGiven (c : Choice) : Bool := c ≠ .unset

/-- The chosen text; an empty one is no choice. -/
def text? : Choice → Option String
  | .text s => if s = "" then none else some s
  | _ => none

/-- The chosen text, or else another one. -/
def getD (c : Choice) (otherwise : String) : String := c.text?.getD otherwise

def value : Choice → Value
  | .unset => .null
  | .blank => .list []
  | .text s => .text s

/-- The choice of a text that may be missing. -/
def ofText? : Option String → Choice
  | some s => .text s
  | none => .unset

end Choice

end InsertScript
