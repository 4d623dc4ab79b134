import InsertScript.Numeral.Decimal
import InsertScript.Text.Utf8
import InsertScript.Time.Parts
import InsertScript.Uuid

/-!
# Values that cannot be made

Why a value cannot be made from what is given for it, by the kind of the value.
-/

namespace InsertScript

/-- Why a value cannot be made. -/
inductive ValueFault where
  | decimal (fault : DecimalFault)
  | uuid (fault : UuidFault)
  | calendar (fault : CalendarFault)
  /-- A duration of this many days is too long. -/
  | duration (days : Int)
  /-- At this position of a text in base sixteen there should be a digit. -/
  | hexadecimal (position : Nat)
  /-- A value of this type cannot be a key of a dictionary. -/
  | unhashable (typeName : String)
  /-- A signaling decimal cannot be a key of a dictionary. -/
  | signalingKey
  /-- The name of a type holds a NUL character. -/
  | nulInTypeName
deriving DecidableEq, Repr

/-- The number of days from which on a duration is refused without being shown. -/
def shownDays : Int := 0x80000000

/-- The wording of the refusals. -/
def ValueFault.message : ValueFault → String
  | .decimal fault => fault.message
  | .uuid fault => fault.message
  | .calendar fault => fault.message
  | .duration days =>
      if -shownDays ≤ days ∧ days < shownDays then
        s!"days={days}; must have magnitude <= 999999999"
      else "Python int too large to convert to C int"
  | .hexadecimal position =>
      s!"non-hexadecimal number found in fromhex() arg at position {position}"
  | .unhashable typeName => s!"unhashable type: '{typeName}'"
  | .signalingKey => "Cannot hash a signaling NaN value"
  | .nulInTypeName => "type name must not contain null characters"

end InsertScript
