import InsertScript.Text.Quoted
import InsertScript.Unicode.Blank
import InsertScript.Unicode.Digit

/-!
# Integers as text

Reading and writing of whole numbers of any size.

* A numeral is an optional sign and decimal digits of any script; single low lines may stand between
  digits, and blanks around the whole. In base sixteen there are six letters more, and `0x` may
  stand in front of the digits.
* Conversions in both directions refuse numbers of more than `digitLimit` digits. When a text is
  read, leading zeros count, and the limit is looked at before what follows the digits.
-/

namespace InsertScript.Numeral

/-- The most digits that a conversion between numbers and text accepts. -/
def digitLimit : Nat := 4300

/-- Why a text or a number cannot be converted. -/
inductive IntegerFault where
  /-- The text is not a numeral. -/
  | malformed (text : String)
  /-- The text has this many digits. -/
  | longText (digits : Nat)
  /-- The number has more digits than may be written. -/
  | longNumber
deriving DecidableEq, Repr

/-- How many characters of a refused text a message shows. -/
def shownLength : Nat := 200

/-- The wording of the refusals. -/
def IntegerFault.message : IntegerFault → String
  | .malformed text =>
      "invalid literal for int() with base 10: " ++
        String.ofList ((Quoted.ofChars text.toList).take shownLength)
  | .longText digits =>
      s!"Exceeds the limit ({digitLimit} digits) for integer string conversion: " ++
        s!"value has {digits} digits; use sys.set_int_max_str_digits() to increase the limit"
  | .longNumber =>
      s!"Exceeds the limit ({digitLimit} digits) for integer string conversion; " ++
        "use sys.set_int_max_str_digits() to increase the limit"

/-! ### Reading -/

/-- The digits at the head of a text, and what follows them. `done` has the digits read so far, last
one first, and `joined` says that the last character read was a low line. Nothing if a low line does
not stand between two digits. -/
def scanDigits (digit? : Char → Option Nat) (done : List Nat) (joined : Bool) :
    List Char → Option (List Nat × List Char)
  | [] => if joined then none else some (done.reverse, [])
  | c :: rest =>
      match digit? c with
      | some d => scanDigits digit? (d :: done) false rest
      | none =>
          if c = '_' then
            if joined || done.isEmpty then none else scanDigits digit? done true rest
          else if joined then none else some (done.reverse, c :: rest)

/-- The number with these digits in a base. -/
def ofDigitsIn (base : Nat) (digits : List Nat) : Nat := digits.foldl (fun n d => base * n + d) 0

/-- The number with these decimal digits. -/
def ofDigits (digits : List Nat) : Nat := ofDigitsIn 10 digits

/-- The sign at the head of a text: is it a minus, and what follows. -/
def splitSign : List Char → Bool × List Char
  | '-' :: rest => (true, rest)
  | '+' :: rest => (false, rest)
  | text => (false, text)

/-- The integer that a text denotes. -/
def readInteger (text : String) : Except IntegerFault Int :=
  let (negative, body) := splitSign (text.toList.dropWhile Unicode.isNumeralBlank)
  match scanDigits Unicode.digitValue? [] false body with
  | none => .error (.malformed text)
  | some (digits, rest) =>
      if digitLimit < digits.length then .error (.longText digits.length)
      else if digits.isEmpty || !rest.all Unicode.isNumeralBlank then .error (.malformed text)
      else
        let value : Int := ofDigits digits
        .ok (if negative then -value else value)

/-- The value of a digit of base sixteen: a decimal digit of any script, or a letter of ASCII. -/
def hexadecimalDigit? (c : Char) : Option Nat := (Unicode.digitValue? c).or (Hex.value? c)

/-- What follows `0x` at the head of a text, one low line behind it included; the text itself if it
does not start so. -/
def dropMark : List Char → List Char
  | zero :: mark :: rest =>
      if Unicode.digitValue? zero = some 0 ∧ (mark = 'x' ∨ mark = 'X') then
        if rest.head? = some '_' then rest.tail else rest
      else zero :: mark :: rest
  | short => short

/-- The integer that a text denotes in base sixteen. -/
def readHexadecimal? (text : List Char) : Option Int :=
  let (negative, body) := splitSign (text.dropWhile Unicode.isNumeralBlank)
  match scanDigits hexadecimalDigit? [] false (dropMark body) with
  | none => none
  | some (digits, rest) =>
      if digits.isEmpty || !rest.all Unicode.isNumeralBlank then none
      else
        let value : Int := ofDigitsIn 16 digits
        some (if negative then -value else value)

/-! ### Writing -/

/-- The least number with more than `digitLimit` digits. -/
def firstLong : Nat := Nat.pow 10 digitLimit

/-- Has the number at most `digitLimit` digits? -/
def writable (n : Int) : Bool := n.natAbs < firstLong

/-- The decimal numeral of an integer. -/
def writeInteger (n : Int) : Except IntegerFault String :=
  if writable n then .ok (toString n) else .error .longNumber

end InsertScript.Numeral
