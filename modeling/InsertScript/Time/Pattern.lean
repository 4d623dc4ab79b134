import InsertScript.Time.Calendar
import InsertScript.Unicode.Case

/-!
# Dates and times after a pattern

In a pattern a percent sign and a letter stand for a part of the moment; everything else is copied,
unknown letters with their percent sign. Names are the English ones.

* `prepare` puts the parts in that only the moment itself knows: `%z`, `%Z` and `%f` become its
  offset, the name of its zone and its microseconds. A NUL character ends the pattern, also one in
  the name of the zone.
* `pieces` divides the result. Between the percent sign and the letter there may be flags (`-`, `_`
  and `0` for the filler, `^` and `#` for the case), a width, and `E` or `O` for another form of the
  part; English has no other forms, but not every letter takes them.
* `Piece.write` writes a piece. Behind a flag or a width the offset and the zone are no longer
  known, and the seconds of `%s` are counted as if the clock showed universal time.
* `fill` does all of this. A text for which there is no room, because of the widths, is not written
  at all.
-/

namespace InsertScript.Pattern

/-! ### The parts of a moment -/

def monthNames : List String :=
  ["January", "February", "March", "April", "May", "June", "July", "August", "September", "October",
   "November", "December"]

/-- The names of the days of the week. -/
def dayNames : List String :=
  ["Monday", "Tuesday", "Wednesday", "Thursday", "Friday", "Saturday", "Sunday"]

def monthName (m : Moment) : List Char := (monthNames.getD (m.date.month - 1) "").toList

def dayName (m : Moment) : List Char := (dayNames.getD m.date.weekday "").toList

/-- Names are cut to so many letters where they are to be short. -/
def shortLength : Nat := 3

/-- The hour on a clock face. -/
def faceHour (hour : Nat) : Nat := (hour + 11) % 12 + 1

/-- The half of the day. -/
def halfDay (hour : Nat) : List Char := (if hour < 12 then "AM" else "PM").toList

/-- With what a number or a text is filled up on its left. -/
inductive Filler where
  | zeros | blanks
  /-- A number is not filled up, but for the width if there is one. -/
  | nothing
deriving DecidableEq, Repr

/-- What a letter stands for. -/
inductive Part where
  | text (chars : List Char)
  /-- A number with so many digits at least. -/
  | number (filler : Filler) (digits n : Nat)
  /-- Something that is not known, so that not even a width is filled up. -/
  | unknown
deriving DecidableEq, Repr

/-- Month, day and year, as a date is written with slashes. -/
def slashDate (d : Date) : List Char :=
  Numeral.zeroPadded 2 d.month ++ '/' :: Numeral.zeroPadded 2 d.day ++
    '/' :: Numeral.zeroPadded 2 (d.year % 100)

/-- A date with hyphens whose year has no leading zeros. -/
def hyphenDate (d : Date) : List Char :=
  Nat.toDigits 10 d.year ++ '-' :: Numeral.zeroPadded 2 d.month ++ '-' :: Numeral.zeroPadded 2 d.day

/-- A number with a blank in front of a single digit. -/
def blankPadded (n : Nat) : List Char :=
  if n < 10 then ' ' :: Nat.toDigits 10 n else Nat.toDigits 10 n

/-- A date with a time of day in words. -/
def wordy (m : Moment) : List Char :=
  (dayName m).take shortLength ++ ' ' :: (monthName m).take shortLength ++ ' ' ::
    blankPadded m.date.day ++ ' ' :: m.clock.isoSeconds ++ ' ' :: Nat.toDigits 10 m.date.year

/-- A time of day by the clock face. -/
def faceTime (t : Clock) : List Char :=
  Numeral.zeroPadded 2 (faceHour t.hour) ++ ':' :: Numeral.zeroPadded 2 t.minute ++
    ':' :: Numeral.zeroPadded 2 t.second ++ ' ' :: halfDay t.hour

/-- Hours and minutes. -/
def shortTime (t : Clock) : List Char :=
  Numeral.zeroPadded 2 t.hour ++ ':' :: Numeral.zeroPadded 2 t.minute

/-- An integer with a minus in front if it is negative. -/
def signed (n : Int) : List Char := (if n < 0 then ['-'] else []) ++ Nat.toDigits 10 n.natAbs

/-- What a letter stands for; nothing for an unknown one. -/
def part? (m : Moment) (letter : Char) : Option Part :=
  match letter with
  | '%' => some (.text ['%'])
  | 'n' => some (.text ['\n'])
  | 't' => some (.text ['\t'])
  | 'a' => some (.text ((dayName m).take shortLength))
  | 'A' => some (.text (dayName m))
  | 'b' | 'h' => some (.text ((monthName m).take shortLength))
  | 'B' => some (.text (monthName m))
  | 'c' => some (.text (wordy m))
  | 'D' | 'x' => some (.text (slashDate m.date))
  | 'F' => some (.text (hyphenDate m.date))
  | 'p' | 'P' => some (.text (halfDay m.clock.hour))
  | 'r' => some (.text (faceTime m.clock))
  | 'R' => some (.text (shortTime m.clock))
  | 's' => some (.text (signed m.epochSeconds))
  | 'T' | 'X' => some (.text m.clock.isoSeconds)
  | 'Z' => some (.text [])
  | 'z' => some .unknown
  | 'C' => some (.number .zeros 1 (m.date.year / 100))
  | 'd' => some (.number .zeros 2 m.date.day)
  | 'e' => some (.number .blanks 2 m.date.day)
  | 'g' => some (.number .zeros 2 (m.date.isoWeek.1 % 100))
  | 'G' => some (.number .zeros 1 m.date.isoWeek.1)
  | 'H' => some (.number .zeros 2 m.clock.hour)
  | 'I' => some (.number .zeros 2 (faceHour m.clock.hour))
  | 'j' => some (.number .zeros 3 m.date.dayOfYear)
  | 'k' => some (.number .blanks 2 m.clock.hour)
  | 'l' => some (.number .blanks 2 (faceHour m.clock.hour))
  | 'm' => some (.number .zeros 2 m.date.month)
  | 'M' => some (.number .zeros 2 m.clock.minute)
  | 'S' => some (.number .zeros 2 m.clock.second)
  | 'u' => some (.number .zeros 1 (m.date.weekday + 1))
  | 'U' => some (.number .zeros 2 (m.date.weekFrom 6))
  | 'V' => some (.number .zeros 2 m.date.isoWeek.2)
  | 'w' => some (.number .zeros 1 ((m.date.weekday + 1) % 7))
  | 'W' => some (.number .zeros 2 (m.date.weekFrom 0))
  | 'y' => some (.number .zeros 2 (m.date.year % 100))
  | 'Y' => some (.number .zeros 1 m.date.year)
  | _ => none

/-! ### What stands between the percent sign and the letter -/

/-- In which form a part is wanted: years of eras, digits of another script. -/
inductive Form where
  | usual | era | digits
deriving DecidableEq, Repr

/-- What was read behind a percent sign. -/
structure Field where
  filler? : Option Filler := none
  isCapital : Bool := false
  isSwapped : Bool := false
  width? : Option Nat := none
  form : Form := .usual
  /-- The percent sign and what was read behind it. -/
  written : List Char := ['%']
deriving DecidableEq, Repr

namespace Field

/-- The field with a flag. -/
def flag? (f : Field) (c : Char) : Option Field :=
  match c with
  | '_' => some { f with filler? := some .blanks }
  | '-' => some { f with filler? := some .nothing }
  | '0' => some { f with filler? := some .zeros }
  | '^' => some { f with isCapital := true }
  | '#' => some { f with isSwapped := true }
  | _ => none

/-- The field with a flag, with a further digit of its width or with a form, which come in this
order; nothing if the character is none of them. -/
def option? (f : Field) (c : Char) : Option Field :=
  if f.form ≠ .usual then none
  else if c = 'E' then some { f with form := .era }
  else if c = 'O' then some { f with form := .digits }
  else if c.isDigit ∧ (f.width?.isSome ∨ c ≠ '0') then
    some { f with width? := some (10 * f.width?.getD 0 + (c.toNat - 48)) }
  else if f.width?.isNone then f.flag? c
  else none

/-- The field with what a character adds to it. -/
def read? (f : Field) (c : Char) : Option Field :=
  (f.option? c).map fun longer => { longer with written := f.written ++ [c] }

/-- The letters that do not take a form. -/
def strangers : Form → List Char
  | .usual => []
  | .era =>
      ['a', 'A', 'b', 'B', 'd', 'D', 'e', 'F', 'g', 'G', 'h', 'H', 'I', 'j', 'k', 'l', 'm', 'M',
        'S', 'U', 'V', 'w', 'W']
  | .digits => ['a', 'A', 'c', 'D', 'F', 'x', 'X', 'Y']

/-- A character of a text in the case that the field asks for. -/
def recase (f : Field) (letter c : Char) : Char :=
  if letter = 'P' ∨ letter = 'p' ∧ f.isSwapped then c.toLower
  else if f.isCapital ∨
      f.isSwapped ∧ (letter ∈ ['b', 'B', 'h'] ∨ letter ∈ ['a', 'A'] ∧ f.form = .usual) then
    Unicode.singleUpper c
  else c

/-- A text filled up to the width. A text without characters may be left as it is. -/
def widen (f : Field) (chars : List Char) : List Char :=
  if chars.isEmpty ∧ f.filler? = some .nothing then []
  else List.replicate (f.width?.getD 0 - chars.length)
    (if f.filler? = some .zeros then '0' else ' ') ++ chars

/-- A number filled up to the width and to its least number of digits. -/
def number (f : Field) (usual : Filler) (digits n : Nat) : List Char :=
  let size := max digits (f.width?.getD 0)
  match f.filler?.getD usual with
  | .zeros => Numeral.zeroPadded size n
  | .blanks => List.replicate (size - (Nat.toDigits 10 n).length) ' ' ++ Nat.toDigits 10 n
  | .nothing => f.widen (Nat.toDigits 10 n)

/-- What the letter of the field stands for; nothing for an unknown one and for one that does not
take the form. -/
def part? (f : Field) (m : Moment) (letter : Char) : Option Part :=
  if letter ∈ strangers f.form then none else Pattern.part? m letter

/-- What is written for the field and its letter. A letter that stands for nothing is copied with
all that is in front of it. -/
def write (f : Field) (m : Moment) (letter : Char) : List Char :=
  match f.part? m letter with
  | some (.text chars) => f.widen (chars.map (f.recase letter))
  | some (.number filler digits n) => f.number filler digits n
  | some .unknown => []
  | none => f.widen ((f.written ++ [letter]).map (f.recase letter))

end Field

/-! ### Patterns -/

/-- A piece of a pattern. -/
inductive Piece where
  | char (c : Char)
  | field (f : Field) (letter : Char)
  /-- A field without a letter, at the end of the pattern. -/
  | unfinished (f : Field)
deriving DecidableEq, Repr

/-- Has the piece a width? -/
def Piece.hasWidth : Piece → Bool
  | .char _ => false
  | .field f _ | .unfinished f => f.width?.isSome

def Piece.write (m : Moment) : Piece → List Char
  | .char c => [c]
  | .field f letter => f.write m letter
  | .unfinished f => f.widen (f.written.map (f.recase '%'))

/-- The pieces of a pattern, or of the rest of one behind what was read of a field. -/
def pieces : Option Field → List Char → List Piece
  | none, [] => []
  | some f, [] => [.unfinished f]
  | none, c :: rest => if c = '%' then pieces (some {}) rest else .char c :: pieces none rest
  | some f, c :: rest =>
      match f.read? c with
      | some longer => pieces (some longer) rest
      | none => .field f c :: pieces none rest

/-- The name of a zone as it is put into a pattern, in which a percent sign is written twice. -/
def zoneText (name : List Char) : List Char :=
  name.flatMap fun c => if c = '%' then ['%', '%'] else [c]

/-- A pattern into which offset, zone and microseconds have been put. -/
def expand (m : Moment) : List Char → List Char
  | '%' :: 'z' :: rest => offsetText [] m.offset ++ expand m rest
  | '%' :: 'Z' :: rest => zoneText m.zoneName ++ expand m rest
  | '%' :: 'f' :: rest => Numeral.zeroPadded 6 m.clock.microsecond ++ expand m rest
  | '%' :: letter :: rest => '%' :: letter :: expand m rest
  | c :: rest => c :: expand m rest
  | [] => []

/-- What stands in front of the first NUL character. -/
def beforeNul (chars : List Char) : List Char := chars.takeWhile (· ≠ '\x00')

/-- A pattern with all that only the moment knows. -/
def prepare (m : Moment) (pattern : List Char) : List Char :=
  beforeNul (expand m (beforeNul pattern))

/-- The room for the text of a pattern of this length. Without widths a text always has room. -/
def room (length : Nat) : Nat := 256 * max 4 length.nextPowerOfTwo

/-- A pattern with the moment filled in. -/
def fill (m : Moment) (pattern : List Char) : List Char :=
  let prepared := prepare m pattern
  let parts := pieces none prepared
  let text := parts.flatMap (Piece.write m)
  if parts.any Piece.hasWidth ∧ room prepared.length ≤ text.length then [] else text

end InsertScript.Pattern
