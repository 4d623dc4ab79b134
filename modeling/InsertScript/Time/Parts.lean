import InsertScript.Time.Calendar

/-!
# Dates and times from their parts

A date, a time of day or a moment is made from its parts in falling order, and an offset from its
seconds. Parts that are not given are zero. Parts that the calendar does not have are refused, the
first of them being named.
-/

namespace InsertScript

/-- Why parts are no date, time or offset. -/
inductive CalendarFault where
  | year (n : Int)
  | month
  | day
  /-- The part of a time of day with this name is not within its limits. -/
  | clock (name : String) (last : Nat)
  /-- An offset of this many seconds is a day or more. -/
  | offset (seconds : Int)
  /-- A part does not fit a word of 32 bits. -/
  | wide (n : Int)
  /-- The result is before the beginning of the calendar or after its end. -/
  | outside
deriving DecidableEq, Repr

/-- The wording of the refusals. -/
def CalendarFault.message : CalendarFault → String
  | .year n => s!"year {n} is out of range"
  | .month => "month must be in 1..12"
  | .day => "day is out of range for month"
  | .clock name last => s!"{name} must be in 0..{last}"
  | .offset seconds =>
      "offset must be a timedelta strictly between -timedelta(hours=24) and " ++
        "timedelta(hours=24), not " ++ (Duration.ofParts 0 seconds 0).quoted ++ "."
  | .wide n =>
      if n < -0x8000000000000000 ∨ 0x8000000000000000 ≤ n then
        "Python int too large to convert to C long"
      else if n < 0 then "signed integer is less than minimum"
      else "signed integer is greater than maximum"
  | .outside => "date value out of range"

/-- Refuses a part that does not fit a word of 32 bits, whatever the others are. -/
def checkWords (parts : List Int) : Except CalendarFault Unit :=
  match parts.find? fun n => n < -0x80000000 ∨ 0x80000000 ≤ n with
  | some n => .error (.wide n)
  | none => .ok ()

/-- The date whose parts are a year, a month and a day. -/
def Date.ofParts (parts : List Int) : Except CalendarFault Date := do
  checkWords parts
  let (year, month, day) := (parts.getD 0 0, parts.getD 1 0, parts.getD 2 0)
  if year < 1 ∨ 9999 < year then throw (.year year)
  if month < 1 ∨ 12 < month then throw .month
  if day < 1 ∨ Date.daysInMonth year.toNat month.toNat < day then throw .day
  return { year := year.toNat, month := month.toNat, day := day.toNat }

/-- A part of a time of day, which is at most `last`. -/
def Clock.part (name : String) (last : Nat) (n : Int) : Except CalendarFault Nat :=
  if n < 0 ∨ last < n then .error (.clock name last) else .ok n.toNat

/-- The time of day whose parts are an hour, a minute, a second and a microsecond. -/
def Clock.ofParts (parts : List Int) : Except CalendarFault Clock := do
  checkWords parts
  let hour ← part "hour" 23 (parts.getD 0 0)
  let minute ← part "minute" 59 (parts.getD 1 0)
  let second ← part "second" 59 (parts.getD 2 0)
  let microsecond ← part "microsecond" 999999 (parts.getD 3 0)
  return { hour, minute, second, microsecond }

/-- The seconds of a day. -/
def daySeconds : Nat := 86400

/-- An offset from universal time, which is less than a day. -/
def checkOffset (seconds : Int) : Except CalendarFault Int :=
  if seconds.natAbs < daySeconds then .ok seconds else .error (.offset seconds)

/-- The moment whose parts are those of a date and those of a time of day. -/
def Moment.ofParts (parts : List Int) (offset? : Option Int) : Except CalendarFault Moment := do
  let offset ← offset?.mapM checkOffset
  checkWords parts
  return { date := ← Date.ofParts parts, clock := ← Clock.ofParts (parts.drop 3), offset }

end InsertScript
