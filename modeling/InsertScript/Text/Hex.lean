/-!
# Hexadecimal text

Bytes as pairs of hexadecimal digits, as binary literals and escapes need them, and the reading of
such pairs. The digits are lower case; a dialect that wants capitals changes the case afterwards.
-/

namespace InsertScript

/-- Raw data, in order. -/
abbrev Bytes := List UInt8

namespace Hex

/-- The digit of a value below sixteen. -/
def digit (n : Nat) : Char :=
  if n < 10 then Char.ofNat ('0'.toNat + n) else Char.ofNat ('a'.toNat + (n - 10))

/-- The lowest `width` hexadecimal digits of a number. -/
def padded : Nat → Nat → List Char
  | 0, _ => []
  | width + 1, n => padded width (n / 16) ++ [digit (n % 16)]

/-- Two digits for every byte. -/
def ofBytes (data : Bytes) : List Char := data.flatMap fun byte => padded 2 byte.toNat

@[simp] theorem ofBytes_nil : ofBytes [] = [] := rfl

@[simp] theorem ofBytes_cons (byte : UInt8) (data : Bytes) :
    ofBytes (byte :: data) = padded 2 byte.toNat ++ ofBytes data := rfl

/-- The value of a hexadecimal digit in either case. -/
def value? (c : Char) : Option Nat :=
  if '0' ≤ c ∧ c ≤ '9' then some (c.toNat - '0'.toNat)
  else if 'a' ≤ c ∧ c ≤ 'f' then some (c.toNat - 'a'.toNat + 10)
  else if 'A' ≤ c ∧ c ≤ 'F' then some (c.toNat - 'A'.toNat + 10)
  else none

/-- Is the character a blank of ASCII? -/
def isBlank (c : Char) : Bool := c == ' ' || ('\t' ≤ c && c ≤ '\r')

/-- The bytes that pairs of digits stand for; the error is the position of a digit that is missing
or foreign. Blanks between the pairs are passed over. The list `done` holds the bytes read so far,
last one first, and `position` counts the characters so far. -/
def toBytesFrom (position : Nat) (done : Bytes) : List Char → Except Nat Bytes
  | [] => .ok done.reverse
  | [c] =>
      if isBlank c then .ok done.reverse
      else .error (if (value? c).isSome then position + 1 else position)
  | high :: low :: rest =>
      if isBlank high then toBytesFrom (position + 1) done (low :: rest)
      else match value? high, value? low with
        | some h, some l => toBytesFrom (position + 2) (UInt8.ofNat (16 * h + l) :: done) rest
        | some _, none => .error (position + 1)
        | none, _ => .error position

/-- The bytes that pairs of digits stand for, blanks between the pairs being overlooked; the error
is the position of what is not such a text, in the first place a character outside ASCII. -/
def toBytes (text : List Char) : Except Nat Bytes :=
  match text.findIdx? (127 < ·.toNat) with
  | some position => .error position
  | none => toBytesFrom 0 [] text

/-- The pairs of digits as a text. -/
def text (data : Bytes) : String := String.ofList (ofBytes data)

end Hex

end InsertScript
