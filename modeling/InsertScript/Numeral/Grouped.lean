/-!
# Digits in a fixed layout

Numbers with leading zeros, for dates and times, and with their thousands set apart by commas, for
reports.
-/

namespace InsertScript.Numeral

/-- The decimal digits of a number, with as many zeros in front as make `width` characters. -/
def zeroPadded (width n : Nat) : List Char :=
  let digits := Nat.toDigits 10 n
  List.replicate (width - digits.length) '0' ++ digits

/-- A number has one digit at least. -/
theorem zeroPadded_one (n : Nat) : zeroPadded 1 n = Nat.toDigits 10 n := by
  have hsome : 0 < (Nat.toDigits 10 n).length := List.length_pos_iff.2 Nat.toDigits_ne_nil
  have hzero : 1 - (Nat.toDigits 10 n).length = 0 := by omega
  rw [zeroPadded, hzero, List.replicate_zero, List.nil_append]

/-- A comma before every third character from the end; the text is given backwards. -/
def groupBackwards : List Char → List Char
  | a :: b :: c :: d :: rest => a :: b :: c :: ',' :: groupBackwards (d :: rest)
  | short => short

/-- A number with a comma between thousands. -/
def grouped (n : Nat) : String :=
  String.ofList (groupBackwards (Nat.toDigits 10 n).reverse).reverse

/-- An integer with a comma between thousands. -/
def groupedInt (n : Int) : String :=
  if n < 0 then "-" ++ grouped n.natAbs else grouped n.natAbs

end InsertScript.Numeral
