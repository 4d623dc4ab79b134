import InsertScript.Unicode.Case

/-!
# Letter case of keywords and names

One policy for each place where the case is a matter of taste. The mixed case leaves a text alone.
-/

namespace InsertScript

/-- In which case letters are written. -/
inductive LetterCase where
  | upper | lower | mixed
deriving DecidableEq, Repr

namespace LetterCase

def name : LetterCase → String
  | upper => "upper"
  | lower => "lower"
  | mixed => "mixed"

def ofName? (name : String) : Option LetterCase := [upper, lower, mixed].find? (·.name == name)

/-- A text in this case. -/
def transform : LetterCase → String → String
  | upper, s => Unicode.upperText s
  | lower, s => Unicode.lowerText s
  | mixed, s => s

@[simp] theorem transform_mixed (s : String) : mixed.transform s = s := rfl

@[simp] theorem transform_upper (s : String) : upper.transform s = Unicode.upperText s := rfl

@[simp] theorem transform_lower (s : String) : lower.transform s = Unicode.lowerText s := rfl

end LetterCase

end InsertScript
