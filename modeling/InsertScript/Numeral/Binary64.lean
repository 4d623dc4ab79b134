/-!
# Binary floating-point numbers

Doubles by their bit pattern, and their shortest decimal text.

The text of a double is the decimal numeral with the fewest digits that lies nearer to it than to
any other double; of several with that many digits it is the nearest. The search is exact arithmetic
on natural numbers:

* the double is `m · 2 ^ q`; the reals that round to it form an interval whose ends lie half way to
  its neighbours, and belong to it if `m` is even;
* on the grid of decimals with `n` digits only the two points around the double can be nearest, so
  for `n = 1, 2, …` those two are tried; seventeen digits always suffice.

Where the point stands and when a power of ten is written is the business of `Layout`.
-/

namespace InsertScript

/-- A double, given by its sixty-four bits. -/
structure Binary64 where
  bits : UInt64
deriving DecidableEq, Repr

namespace Binary64

/-- Is the sign bit set? -/
def isNegative (x : Binary64) : Bool := x.bits.toNat >>> 63 == 1

/-- The eleven exponent bits. -/
def exponentField (x : Binary64) : Nat := x.bits.toNat >>> 52 % 2048

/-- The fifty-two fraction bits. -/
def fractionField (x : Binary64) : Nat := x.bits.toNat % 0x10000000000000

/-- Is this not a number? -/
def isNaN (x : Binary64) : Bool := x.exponentField == 2047 && x.fractionField != 0

/-- Is this one of the two infinities? -/
def isInfinite (x : Binary64) : Bool := x.exponentField == 2047 && x.fractionField == 0

/-- Is this one of the two zeros? -/
def isZero (x : Binary64) : Bool := x.exponentField == 0 && x.fractionField == 0

/-- The factor `m` of a finite double `m · 2 ^ q`. -/
def mantissa (x : Binary64) : Nat :=
  if x.exponentField == 0 then x.fractionField else 0x10000000000000 + x.fractionField

/-- The exponent `q` of a finite double `m · 2 ^ q`. -/
def exponent (x : Binary64) : Int :=
  if x.exponentField == 0 then -1074 else (x.exponentField : Int) - 1075

/-! ### Shortest digits -/

/-- An interval of positive fractions with one denominator around a point. -/
structure Interval where
  low : Nat
  point : Nat
  high : Nat
  denominator : Nat
  /-- Do the ends belong to it? -/
  closed : Bool
deriving DecidableEq, Repr

/-- The reals that round to a positive finite double. Below a power of two the neighbour is half as
far. -/
def rounding (x : Binary64) : Interval :=
  let m := 4 * x.mantissa
  let below := if x.fractionField == 0 && 1 < x.exponentField then 1 else 2
  let q := x.exponent - 2
  let scale := 1 <<< q.toNat
  { low := (m - below) * scale
    point := m * scale
    high := (m + 2) * scale
    denominator := 1 <<< (-q).toNat
    closed := x.mantissa % 2 == 0 }

/-- Is the fraction `numerator / denominator` in the interval? -/
def Interval.holds (i : Interval) (numerator denominator : Nat) : Bool :=
  let value := numerator * i.denominator
  let low := i.low * denominator
  let high := i.high * denominator
  if i.closed then low ≤ value && value ≤ high else low < value && value < high

/-- The exponent of ten of the first digit of a positive fraction. -/
def leadingExponent (numerator denominator : Nat) : Int :=
  if denominator ≤ numerator then ((Nat.toDigits 10 (numerator / denominator)).length : Int) - 1
  else
    let count := (Nat.toDigits 10 (denominator / numerator)).length
    if denominator ≤ numerator * Nat.pow 10
      (count - 1) then -((count : Int) - 1) else -(count : Int)

/-- The point of the grid `10 ^ place` that is in the interval and nearest to its point, if the
interval has one; of two equally near the even one. -/
def Interval.gridPoint? (i : Interval) (place : Int) : Option Nat :=
  let up := Nat.pow 10 place.toNat
  let down := Nat.pow 10 (-place).toNat
  let floor := i.point * down / (i.denominator * up)
  let rest := i.point * down % (i.denominator * up)
  let hits (n : Nat) := i.holds (n * up) down
  match hits floor, hits (floor + 1) with
  | true, true =>
      if 2 * rest < i.denominator * up then some floor
      else if i.denominator * up < 2 * rest then some (floor + 1)
      else some (if floor % 2 == 0 then floor else floor + 1)
  | true, false => some floor
  | false, true => some (floor + 1)
  | false, false => none

/-- A positive number without its trailing zeros, and how many there were; at most `most` are
taken. -/
def dropZeros : Nat → Nat → Nat × Nat
  | 0, n => (n, 0)
  | most + 1, n =>
      if n % 10 == 0 then
        let (rest, count) := dropZeros most (n / 10)
        (rest, count + 1)
      else (n, 0)

/-- The shortest digits of a positive finite double and their power of ten. -/
def shortest (x : Binary64) : Nat × Int :=
  let i := x.rounding
  let leading := leadingExponent i.point i.denominator
  let attempt (n : Nat) : Option (Nat × Int) :=
    let place := leading - n
    (i.gridPoint? place).map fun digits =>
      let (digits, zeros) := dropZeros 20 digits
      (digits, place + zeros)
  ((List.range 17).findSome? attempt).getD (i.point / i.denominator, 0)

/-! ### Text -/

/-- How a program lays out the digits of a double. -/
structure Layout where
  /-- The least exponent of ten of the first digit that is written out with zeros. -/
  leastPlain : Int
  /-- The least exponent of ten of the first digit that takes the scientific form again. -/
  leastScientific : Int
  /-- What stands before the exponent. -/
  mark : Char
  /-- The least number of exponent digits. -/
  exponentDigits : Nat
deriving DecidableEq, Repr

/-- Plain from `0.0001` to below `1e+16`; otherwise a signed exponent of at least two digits. -/
def usualLayout : Layout :=
  { leastPlain := -4, leastScientific := 16, mark := 'e', exponentDigits := 2 }

/-- The digits with a point; a whole number ends in `.0`. -/
def Layout.plain (digits : List Char) (leading : Int) : List Char :=
  let point := leading + 1
  if point ≤ 0 then '0' :: '.' :: List.replicate (-point).toNat '0' ++ digits
  else if digits.length ≤ point.toNat then
    digits ++ List.replicate (point.toNat - digits.length) '0' ++ ['.', '0']
  else digits.take point.toNat ++ '.' :: digits.drop point.toNat

/-- The digits with a power of ten. -/
def Layout.scientific (layout : Layout) (digits : List Char) (leading : Int) : List Char :=
  let body := match digits with
    | first :: [] => [first]
    | first :: more => first :: '.' :: more
    | [] => []
  let power := Nat.toDigits 10 leading.natAbs
  body ++ layout.mark :: (if leading < 0 then '-' else '+') ::
    List.replicate (layout.exponentDigits - power.length) '0' ++ power

/-- The text of the digits of a positive number. -/
def Layout.write (layout : Layout) (digits : Nat) (place : Int) : List Char :=
  let shown := Nat.toDigits 10 digits
  let leading := place + shown.length - 1
  if layout.leastPlain ≤ leading ∧ leading < layout.leastScientific then Layout.plain shown leading
  else layout.scientific shown leading

/-- The shortest text of a double; the values that are no finite numbers have the names given. -/
def textWith (notANumber infinity : String) (x : Binary64) : String :=
  if x.isNaN then notANumber
  else
    let sign := if x.isNegative then "-" else ""
    if x.isInfinite then sign ++ infinity
    else if x.isZero then sign ++ "0.0"
    else
      let (digits, place) := x.shortest
      sign ++ String.ofList (usualLayout.write digits place)

/-- The shortest text of a double. -/
def text (x : Binary64) : String := x.textWith "nan" "inf"

end Binary64

end InsertScript
