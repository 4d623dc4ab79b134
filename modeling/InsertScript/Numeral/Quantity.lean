/-!
# Numbers compared exactly

A quantity is a number that may be given in powers of two and of ten, or an infinity. Two of them
are compared without rounding; powers are only worked out for quantities that are about equally
large, so an enormous exponent costs nothing.
-/

namespace InsertScript

/-- A number `numerator · 2 ^ twos · 5 ^ fives`, or an infinity. -/
inductive Quantity where
  | finite (numerator twos fives : Int)
  | infinite (negative : Bool)
deriving DecidableEq, Repr

namespace Quantity

/-- An integer. -/
def ofInt (n : Int) : Quantity := .finite n 0 0

/-- `± factor · 2 ^ exponent`. -/
def binary (negative : Bool) (factor : Nat) (exponent : Int) : Quantity :=
  .finite (if negative then -(factor : Int) else factor) exponent 0

/-- `± factor · 10 ^ exponent`. -/
def decimal (negative : Bool) (factor : Nat) (exponent : Int) : Quantity :=
  .finite (if negative then -(factor : Int) else factor) exponent exponent

/-- An integer times powers of two and five, negative exponents counting as zero. -/
def raise (n twos fives : Int) : Int := n * (Nat.pow 2 twos.toNat * Nat.pow 5 fives.toNat : Nat)

/-- The logarithm of five to the base of two lies between this number of millionths and the next. -/
def logOfFive : Nat := 2321928

/-- A number of binary digits that an integer times powers of two and five has at least. -/
def leastSize (n twos fives : Int) : Nat :=
  n.natAbs.log2 + twos.toNat + fives.toNat * logOfFive / 1000000

/-- A number of binary digits that an integer times powers of two and five does not exceed. -/
def mostSize (n twos fives : Int) : Nat :=
  n.natAbs.log2 + twos.toNat + fives.toNat * (logOfFive + 1) / 1000000 + 2

/-- Are two quantities the same number? -/
def same : Quantity → Quantity → Bool
  | .finite a i j, .finite b k l =>
      if a = 0 ∨ b = 0 then a == b
      else if mostSize a (i - k) (j - l) < leastSize b (k - i) (l - j) then false
      else if mostSize b (k - i) (l - j) < leastSize a (i - k) (j - l) then false
      else raise a (i - k) (j - l) == raise b (k - i) (l - j)
  | .infinite a, .infinite b => a == b
  | _, _ => false

end Quantity

end InsertScript
