import InsertScript.Value.Basic

/-!
# Values as text

Two texts of a value: `display` is the plain one, `quoted` the one that tells types apart, and
nested values are shown in the second form. Both fail only on integers with too many digits.
-/

namespace InsertScript

def integerText (n : Int) : Except Failure String := (Numeral.writeInteger n).mapError .integer

namespace Value

/-- The parts of a time of day that its quoted form names: seconds and microseconds only if
needed. -/
def clockParts (t : Clock) : List Nat :=
  if t.microsecond ≠ 0 then [t.hour, t.minute, t.second, t.microsecond]
  else if t.second ≠ 0 then [t.hour, t.minute, t.second]
  else [t.hour, t.minute]

/-- An offset in quoted form, after a comma, with the name of the zone if it has one of its own;
nothing for a local time. -/
def offsetQuoted (zoneName? : Option String) : Option Int → String
  | none => ""
  | some offset =>
      let size := (Duration.ofParts 0 offset 0).quoted
      ", tzinfo=" ++
        match zoneName? with
        | some name => s!"datetime.timezone({size}, {Quoted.ofString name})"
        | none => if offset = 0 then "datetime.timezone.utc" else s!"datetime.timezone({size})"

/-- Numbers with commas between them. -/
def listed (numbers : List Nat) : String := ", ".intercalate (numbers.map toString)

mutual

/-- The text of a value that tells its type. -/
def quoted : Value → Except Failure String
  | .null => .ok "None"
  | .bool b => .ok (if b then "True" else "False")
  | .int n => integerText n
  | .float x => .ok x.text
  | .decimal d => .ok s!"Decimal('{d.text}')"
  | .text s => .ok (Quoted.ofString s)
  | .moment m =>
      .ok ("datetime.datetime(" ++
        listed ([m.date.year, m.date.month, m.date.day] ++ clockParts m.clock) ++
        offsetQuoted m.zoneName? m.offset ++ ")")
  | .date d => .ok s!"datetime.date({d.year}, {d.month}, {d.day})"
  | .clock t offset =>
      .ok ("datetime.time(" ++ listed (clockParts t) ++ offsetQuoted none offset ++ ")")
  | .duration d => .ok d.quoted
  | .uuid u => .ok s!"UUID('{u.text}')"
  | .bytes data => .ok (Quoted.ofBytes data)
  | .buffer data => .ok s!"bytearray({Quoted.ofBuffer data})"
  | .view _ => .ok "<memory>"
  | .list items => do return "[" ++ ", ".intercalate (← quotedItems items) ++ "]"
  | .tuple items => do
      let shown ← quotedItems items
      return "(" ++ ", ".intercalate shown ++ (if shown.length = 1 then ",)" else ")")
  | .dict entries => do return "\x7b" ++ ", ".intercalate (← quotedEntries entries) ++ "\x7d"
  | .object _ shown => .ok shown
  | .path p => .ok s!"PosixPath({Quoted.ofString p.text})"
  | .content c => .ok (c.describe [])

/-- The quoted forms of some values. -/
def quotedItems : List Value → Except Failure (List String)
  | [] => .ok []
  | item :: items => do return (← quoted item) :: (← quotedItems items)

/-- The quoted forms of some entries, a colon between key and value. -/
def quotedEntries : List (Value × Value) → Except Failure (List String)
  | [] => .ok []
  | (key, value) :: entries => do
      return ((← quoted key) ++ ": " ++ (← quoted value)) :: (← quotedEntries entries)

end

/-- The plain text of a value. -/
def display : Value → Except Failure String
  | .decimal d => .ok d.text
  | .text s => .ok s
  | .moment m => .ok (String.ofList m.iso)
  | .date d => .ok (String.ofList d.iso)
  | .clock t offset => .ok (String.ofList (t.iso ++ isoOffset offset))
  | .duration d => .ok d.text
  | .uuid u => .ok u.text
  | .path p => .ok p.text
  | v => v.quoted

end Value

end InsertScript
