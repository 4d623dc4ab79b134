import InsertScript.Numeral.Integer

/-!
# Decimal numbers

Numbers with a decimal point that keep every digit they were written with: the digits of a
coefficient and an exponent of ten, with a sign that also zero has. `1.50` and `1.5` are equal in
value and differ here.

* Reading takes the digits before and after the point as one coefficient, so nothing is rounded;
  only zeros in front are dropped.
* What cannot be held with all its digits is refused.
* Writing uses the plain form as long as the exponent is not positive and the number is not too
  small, and otherwise one digit before the point and a power of ten.
-/

namespace InsertScript

/-- A decimal number, or one of the values that are no numbers. -/
inductive Decimal where
  /-- The number `± coefficient · 10 ^ exponent`; the digits of the coefficient do not start with
  zero. -/
  | finite (negative : Bool) (digits : List (Fin 10)) (exponent : Int)
  | infinite (negative : Bool)
  /-- No number; `payload` has the digits of an annotation. -/
  | notANumber (negative signaling : Bool) (payload : List (Fin 10))
deriving DecidableEq, Repr

/-- Why a text is no decimal. -/
inductive DecimalFault where
  | malformed
  | outOfRange
deriving DecidableEq, Repr

/-- The wording of the refusals. -/
def DecimalFault.message : DecimalFault → String
  | .malformed => "[<class 'decimal.ConversionSyntax'>]"
  | .outOfRange => "[<class 'decimal.InvalidOperation'>]"

namespace Decimal

/-- Is this a number? -/
def isFinite : Decimal → Bool
  | .finite .. => true
  | _ => false

/-- Is this the number zero? -/
def isZero : Decimal → Bool
  | .finite _ digits _ => digits.isEmpty
  | _ => false

/-! ### Writing -/

/-- The plain form is used down to this many zeros after the point. -/
def leastPoint : Int := -5

/-- Digits with a point after the first `point` of them; zeros fill the gap if there is one. -/
def placePoint (digits : List Char) (point : Int) : List Char :=
  if point ≤ 0 then '0' :: '.' :: List.replicate (-point).toNat '0' ++ digits
  else if digits.length ≤ point.toNat then
    digits ++ List.replicate (point.toNat - digits.length) '0'
  else digits.take point.toNat ++ '.' :: digits.drop point.toNat

/-- A number with its sign in front, also if it is positive. -/
def signed (n : Int) : List Char :=
  (if n < 0 then '-' else '+') :: Nat.toDigits 10 n.natAbs

/-- Digits as characters. -/
def digitText (digits : List (Fin 10)) : List Char := digits.map (Nat.digitChar ·.val)

/-- The text of an unsigned finite decimal. -/
def magnitudeText (digits : List (Fin 10)) (exponent : Int) : List Char :=
  let digits := if digits.isEmpty then ['0'] else digitText digits
  let point := exponent + digits.length
  if exponent ≤ 0 ∧ leastPoint ≤ point then placePoint digits point
  else placePoint digits 1 ++ 'E' :: signed (point - 1)

/-- The text of a decimal; it denotes the same sign, coefficient and exponent. -/
def toChars : Decimal → List Char
  | .finite negative digits exponent =>
      (if negative then ['-'] else []) ++ magnitudeText digits exponent
  | .infinite negative => (if negative then ['-'] else []) ++ "Infinity".toList
  | .notANumber negative signaling payload =>
      (if negative then ['-'] else []) ++ (if signaling then ['s'] else []) ++ "NaN".toList ++
        digitText payload

def text (d : Decimal) : String := String.ofList d.toChars

/-! ### Reading -/

/-- The digits at the head of a text, and the rest. `done` has the digits so far, last one first. -/
def scanDigits (done : List (Fin 10)) : List Char → List (Fin 10) × List Char
  | [] => (done.reverse, [])
  | c :: rest =>
      match Unicode.digit? c with
      | some d => scanDigits (d :: done) rest
      | none => (done.reverse, c :: rest)

/-- Digits without the zeros in front. -/
def dropZeros (digits : List (Fin 10)) : List (Fin 10) := digits.dropWhile (·.val == 0)

/-- The number that digits stand for. -/
def coefficient (digits : List (Fin 10)) : Nat := Numeral.ofDigits (digits.map Fin.val)

/-- The exponent part of a numeral: empty, or a letter `e`, an optional sign and digits. -/
def readExponent? : List Char → Option Int
  | [] => some 0
  | c :: rest =>
      if c ≠ 'e' ∧ c ≠ 'E' then none
      else
        let (negative, body) := match rest with
          | '-' :: body => (true, body)
          | '+' :: body => (false, body)
          | body => (false, body)
        match scanDigits [] body with
        | ([], _) | (_, _ :: _) => none
        | (digits, []) =>
            let value : Int := coefficient digits
            some (if negative then -value else value)

/-- A numeral without sign: digits, a point and digits, one of the two digit runs possibly empty,
and an exponent part. -/
def readFinite? (negative : Bool) (body : List Char) : Option Decimal :=
  let (whole, rest) := scanDigits [] body
  let (places, rest) := match rest with
    | '.' :: rest => scanDigits [] rest
    | rest => ([], rest)
  if whole.isEmpty && places.isEmpty then none
  else
    (readExponent? rest).map fun exponent =>
      .finite negative (dropZeros (whole ++ places)) (exponent - places.length)

/-- A value that is no finite number, by its name in any letter case. -/
def readSpecial? (negative : Bool) (body : List Char) : Option Decimal :=
  let lowered := body.map Char.toLower
  if lowered = "inf".toList ∨ lowered = "infinity".toList then some (.infinite negative)
  else
    let (signaling, named) := match lowered with
      | 's' :: named => (true, named)
      | named => (false, named)
    match named with
    | 'n' :: 'a' :: 'n' :: diagnostic =>
        match scanDigits [] diagnostic with
        | (payload, []) => some (.notANumber negative signaling (dropZeros payload))
        | _ => none
    | _ => none

/-- The decimal that a text denotes, of any size. Blanks around it and low lines in it are passed
over. -/
def read? (s : String) : Option Decimal :=
  let body := (Unicode.trim s.toList).filter (· ≠ '_')
  let (negative, body) := match body with
    | '-' :: body => (true, body)
    | '+' :: body => (false, body)
    | body => (false, body)
  (readFinite? negative body).orElse fun _ => readSpecial? negative body

/-- The greatest power of ten that the first digit of a decimal can stand for. -/
def greatestPower : Int := 999999999999999999

/-- The least power of ten that the last digit of a decimal can stand for. -/
def leastPower : Int := -1999999999999999997

/-- Can the decimal be held with all its digits? Zero has one digit. -/
def isHeld : Decimal → Bool
  | .finite _ digits exponent =>
      leastPower ≤ exponent && exponent + ((digits.length - 1 : Nat) : Int) ≤ greatestPower
  | _ => true

/-- The decimal that a text denotes. -/
def ofString (s : String) : Except DecimalFault Decimal :=
  match read? s with
  | none => .error .malformed
  | some d => if d.isHeld then .ok d else .error .outOfRange

end Decimal

end InsertScript
