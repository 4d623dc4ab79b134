import InsertScript.Value.Basic

/-!
# Values from what is given for them

Values that are given by a text or by their parts. What gives no value is refused with the reason.
-/

namespace InsertScript.Value

/-- The decimal that a text denotes. -/
def ofDecimal (s : String) : Except ValueFault Value :=
  ((Decimal.ofString s).mapError .decimal).map .decimal

/-- The identifier of 128 bits that a text denotes. -/
def ofUuid (s : String) : Except ValueFault Value := ((Uuid.ofString s).mapError .uuid).map .uuid

/-- The bytes that a text in base sixteen denotes. -/
def readBytes (s : String) : Except ValueFault Bytes := (Hex.toBytes s.toList).mapError .hexadecimal

/-- The date with these parts. -/
def ofDate (parts : List Int) : Except ValueFault Value :=
  ((Date.ofParts parts).mapError .calendar).map .date

/-- The duration with these days, seconds and microseconds, if it is within the limit. -/
def readDuration (days seconds microseconds : Int) : Except ValueFault Duration :=
  (Duration.ofParts days seconds microseconds).check.mapError .duration

/-- The time of day with these parts and this offset. An offset is a duration before it is an
offset. -/
def ofClock (parts : List Int) (offset? : Option Int) : Except ValueFault Value := do
  let _ ← offset?.mapM fun seconds => readDuration 0 seconds 0
  let offset ← (offset?.mapM checkOffset).mapError .calendar
  return .clock (← (Clock.ofParts parts).mapError .calendar) offset

/-- The moment with these parts and this offset. -/
def ofMoment (parts : List Int) (offset? : Option Int) : Except ValueFault Value := do
  let _ ← offset?.mapM fun seconds => readDuration 0 seconds 0
  return .moment (← (Moment.ofParts parts offset?).mapError .calendar)

/-- The duration with these days, seconds and microseconds. -/
def ofDuration (days seconds microseconds : Int) : Except ValueFault Value :=
  (readDuration days seconds microseconds).map .duration

/-- The object of a named type that is known by its text. -/
def ofObject (typeName text : String) : Except ValueFault Value :=
  if typeName.toList.contains '\x00' then .error .nulInTypeName else .ok (.object typeName text)

/-- A key of a dictionary with its value. -/
def ofKey (key value : Value) : Except ValueFault (Value × Value) :=
  match key.keyFault? with
  | some fault => .error fault
  | none => .ok (key, value)

end InsertScript.Value
