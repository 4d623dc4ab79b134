/-!
# Rounded arithmetic

Quotients and products that are kept to a fixed number of binary digits. Each operation is exact and
then rounded to the nearest number with `precision` significant bits, of two equally near to the
even one.

* `roundDiv` is the rounding itself.
* `scaled` multiplies by a quotient; the quotient and the product are both rounded, and of the
  result the whole part is taken, so it may differ by one from the whole part of the exact product.
-/

namespace InsertScript.Numeral

/-- A quotient rounded to the nearest number, of two equally near to the even one. -/
def roundDiv (n d : Nat) : Nat :=
  let whole := n / d
  let twice := 2 * (n % d)
  if twice < d then whole else if d < twice then whole + 1 else whole + whole % 2

/-- The number of bits that are kept. -/
def precision : Nat := 53

/-- A number with its leading bits only. -/
def keepLeading (n : Nat) : Nat :=
  let unit := 1 <<< (n.log2 + 1 - precision)
  roundDiv n unit * unit

/-- The whole part of `n / d * factor`, for a quotient of at least one. -/
def scaled (n d factor : Nat) : Nat :=
  let shift := precision - ((n / d).log2 + 1)
  keepLeading (roundDiv (n <<< shift) d * factor) >>> shift

end InsertScript.Numeral
