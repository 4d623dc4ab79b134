import InsertScript.Proofs.DelimitedCells

/-!
# Numbers keep their digits

A decimal literal says more than which number it is: it has a sign, also in front of a zero, a
coefficient, and a number of places (`Lexer.Spelling`). The text of a decimal says what the decimal
is, in the plain form and with a power of ten alike (`Decimal.spelling?_toChars`).

So a numeral of ASCII digits in a cell is exported with all that it says
(`CellWriter.exportsExactly`): an integer as its numeral, and a number with a point as it stands in
the cell, unless it is less than a millionth (`Figures.IsSmall`). Then it has a power of ten, and
the same sign, coefficient and exponent.
-/

namespace InsertScript

open Lexer (minus IsPower IsFraction)

namespace Lexer

/-! ### What a decimal literal says -/

/-- The number `± coefficient · 10 ^ exponent`. It may be zero with a sign, and the exponent tells
how many places it has. -/
structure Spelling where
  negative : Bool
  coefficient : Nat
  exponent : Int
deriving DecidableEq, Repr

/-- The number behind the mark of a power of ten; zero without a mark. -/
def powerValue (power : List Char) : Int :=
  let (sign, shown) := sign power.tail
  (if sign = ['-'] then -1 else 1) * Nat.ofDigitChars 10 shown 0

/-- What characters say that are a decimal literal from end to end. -/
def spelling? (chars : List Char) : Option Spelling :=
  let (sign, rest) := sign chars
  let (whole, rest) := digits rest
  let (fraction, rest) := fraction rest
  let (power, rest) := power rest
  let places := fraction.tail
  if whole = [] ∨ rest ≠ [] then none
  else
    some { negative := decide (sign = ['-'])
           coefficient := Nat.ofDigitChars 10 (whole ++ places) 0
           exponent := powerValue power - places.length }

end Lexer

namespace Figures

variable {f : Figures}

/-- The digits in front of the point and behind it as one number. -/
def coefficient (f : Figures) : Nat := Nat.ofDigitChars 10 (f.whole ++ f.places) 0

/-- What the figures say: each place divides by ten. -/
def spelling (f : Figures) : Lexer.Spelling := ⟨f.negative, f.coefficient, -(f.places.length : Int)⟩

/-- Are there digits in front of the point, and only digits? -/
structure AreDigits (f : Figures) : Prop where
  whole_ne_nil : f.whole ≠ []
  whole : ∀ c ∈ f.whole, c.isDigit = true
  places : ∀ c ∈ f.places, c.isDigit = true

theorem Uses.areDigits (h : f.Uses Char.isDigit) : f.AreDigits where
  whole_ne_nil := by
    obtain ⟨c, rest, hwhole, -⟩ := h.whole.exists_cons
    simp [hwhole]
  whole := h.whole.forall_mem fun _ hc => hc
  places := h.places

theorem isFraction_fraction (h : f.AreDigits) : IsFraction f.fraction := by
  unfold fraction
  split
  · exact .none
  · exact .point f.places h.places

theorem tail_fraction (f : Figures) : f.fraction.tail = f.places := by
  unfold fraction
  split
  · rename_i hnil
    simp [hnil]
  · rfl

/-- Figures with a power of ten behind them are read as what they say, shifted by the power. -/
theorem spelling?_text_append (h : f.AreDigits) {power : List Char} (hpower : IsPower power) :
    Lexer.spelling? (f.text ++ power) = some { f.spelling with
      exponent := Lexer.powerValue power - f.places.length } := by
  have hbehind : ∀ c ∈ (power ++ []).head?, c.isDigit = false ∧ c ≠ '.' := hpower.head (by simp)
  rw [List.append_nil] at hbehind
  have hpieces : f.text ++ power = minus f.negative ++ (f.whole ++ (f.fraction ++ power)) := by
    simp [text]
  have hdigits : Lexer.digits (f.whole ++ (f.fraction ++ power)) = (f.whole, f.fraction ++ power) :=
    Lexer.digits_append h.whole ((isFraction_fraction h).head fun c hc => (hbehind c hc).1)
  have hfraction : Lexer.fraction (f.fraction ++ power) = (f.fraction, power) :=
    Lexer.fraction_append (isFraction_fraction h) hbehind
  have hend : Lexer.power (power ++ []) = (power, []) := Lexer.power_append hpower (by simp)
  rw [List.append_nil] at hend
  have hnegative : decide (minus f.negative = ['-']) = f.negative := by
    cases f.negative <;> decide
  rw [Lexer.spelling?, hpieces, Lexer.sign_append f.negative _ h.whole_ne_nil h.whole]
  simp only [hdigits, hfraction, hend, tail_fraction, hnegative]
  simp [h.whole_ne_nil, spelling, coefficient]

theorem spelling?_text (h : f.AreDigits) : Lexer.spelling? f.text = some f.spelling := by
  have hspelling := spelling?_text_append h .none
  rw [List.append_nil] at hspelling
  rw [hspelling]
  have hzero : Lexer.powerValue [] = 0 := by decide
  simp [spelling, hzero]

end Figures

/-! ### Digits -/

/-- Zeros in front do not count. -/
theorem ofDigitChars_replicate_append (n : Nat) (digits : List Char) :
    Nat.ofDigitChars 10 (List.replicate n '0' ++ digits) 0 = Nat.ofDigitChars 10 digits 0 := by
  induction n with
  | zero => rfl
  | succ n ih =>
      rw [List.replicate_succ, List.cons_append, Nat.ofDigitChars_cons]
      exact ih

/-- Every digit makes a number ten times as large, or more. -/
theorem mul_pow_le_ofDigitChars (digits : List Char) (init : Nat) :
    init * 10 ^ digits.length ≤ Nat.ofDigitChars 10 digits init := by
  induction digits generalizing init with
  | nil => simp
  | cons c digits ih =>
      calc
        init * 10 ^ (c :: digits).length = (10 * init) * 10 ^ digits.length := by
          rw [List.length_cons, Nat.pow_succ']
          ac_rfl
        _ ≤ (10 * init + (c.toNat - '0'.toNat)) * 10 ^ digits.length :=
          Nat.mul_le_mul_right _ (Nat.le_add_right _ _)
        _ ≤ Nat.ofDigitChars 10 (c :: digits) init := by
          rw [Nat.ofDigitChars_cons]
          exact ih _

namespace Decimal

/-! ### The text of a decimal -/

theorem ofDigitChars_digitText (digits : List (Fin 10)) :
    Nat.ofDigitChars 10 (digitText digits) 0 = coefficient digits := by
  have hvalue : ∀ digit : Fin 10, (Nat.digitChar digit.val).toNat - '0'.toNat = digit.val := by
    decide
  have hvalues : digitValues (digitText digits) = digits.map Fin.val := by
    rw [digitValues, digitText, List.map_map]
    exact List.map_congr_left fun digit _ => hvalue digit
  rw [coefficient, ← hvalues, ofDigits_digitValues]

/-- Digits with a point are figures of the same number. -/
theorem exists_figures_placePoint (negative : Bool) {shown : List Char} {point : Int}
    (hne : shown ≠ []) (hshown : ∀ c ∈ shown, c.isDigit = true) (hpoint : point ≤ shown.length) :
    ∃ f : Figures, f.AreDigits ∧ f.text = minus negative ++ placePoint shown point ∧
      f.negative = negative ∧
      f.coefficient = Nat.ofDigitChars 10 shown 0 ∧
      (f.places.length : Int) = shown.length - point := by
  unfold placePoint
  by_cases hsmall : point ≤ 0
  · -- zeros fill the gap between the point and the digits
    rw [if_pos hsmall]
    have hplaces : ∀ c ∈ List.replicate (-point).toNat '0' ++ shown, c.isDigit = true :=
      Lexer.isDigit_append (fun _ hc => Lexer.isDigit_of_mem_replicate hc) hshown
    refine ⟨⟨negative, ['0'], List.replicate (-point).toNat '0' ++ shown⟩,
      ⟨List.cons_ne_nil _ _, Lexer.isDigit_of_mem_zero, hplaces⟩, ?_, rfl, ?_, ?_⟩
    · simp [Figures.text, Figures.fraction, hne]
    · exact ofDigitChars_replicate_append ((-point).toNat + 1) shown
    · rw [List.length_append, List.length_replicate]
      omega
  · rw [if_neg hsmall]
    by_cases hwhole : shown.length ≤ point.toNat
    · -- the digits end at the point
      have hend : point.toNat - shown.length = 0 := by omega
      rw [if_pos hwhole, hend]
      refine ⟨⟨negative, shown, []⟩, ⟨hne, hshown, List.forall_mem_nil _⟩, ?_, rfl, ?_, ?_⟩
      · simp [Figures.text, Figures.fraction]
      · simp [Figures.coefficient]
      · rw [List.length_nil]
        omega
    · -- the point stands between two digits, so both parts have some
      rw [if_neg hwhole]
      have hbefore : shown.take point.toNat ≠ [] := by
        rw [ne_eq, List.take_eq_nil_iff]
        intro hnil
        rcases hnil with hzero | hnil
        · omega
        · exact hne hnil
      have hbehind : shown.drop point.toNat ≠ [] := by
        rw [ne_eq, List.drop_eq_nil_iff]
        omega
      refine ⟨⟨negative, shown.take point.toNat, shown.drop point.toNat⟩,
        ⟨hbefore, fun c hc => hshown c (List.mem_of_mem_take hc),
          fun c hc => hshown c (List.mem_of_mem_drop hc)⟩,
        ?_, rfl, ?_, ?_⟩
      · simp [Figures.text, Figures.fraction, hbehind]
      · rw [Figures.coefficient, List.take_append_drop]
      · rw [List.length_drop]
        omega

/-- The power is read back off its sign and digits. -/
theorem powerValue_signed (n : Int) : Lexer.powerValue ('E' :: signed n) = n := by
  have hsign :
      Lexer.sign (signed n) = ([if n < 0 then '-' else '+'], Nat.toDigits 10 n.natAbs) := by
    unfold signed
    by_cases hneg : n < 0
    · rw [if_pos hneg]
      rfl
    · rw [if_neg hneg]
      rfl
  simp only [Lexer.powerValue, List.tail_cons, hsign, Nat.ofDigitChars_ten_toDigits]
  by_cases hneg : n < 0
  · simp only [hneg, if_true]
    omega
  · have hplus : (['+'] : List Char) ≠ ['-'] := by decide
    simp only [hneg, if_false, hplus]
    omega

/-- The digits that the text of a decimal shows; zero has one. -/
def shownDigits (digits : List (Fin 10)) : List Char :=
  if digits.isEmpty then ['0'] else digitText digits

theorem shownDigits_ne_nil (digits : List (Fin 10)) : shownDigits digits ≠ [] := by
  cases digits with
  | nil => exact nofun
  | cons digit digits => exact nofun

theorem isDigit_shownDigits (digits : List (Fin 10)) :
    ∀ c ∈ shownDigits digits, c.isDigit = true := by
  unfold shownDigits
  split
  · exact Lexer.isDigit_of_mem_zero
  · exact isDigit_digitText digits

theorem ofDigitChars_shownDigits (digits : List (Fin 10)) :
    Nat.ofDigitChars 10 (shownDigits digits) 0 = coefficient digits := by
  cases digits with
  | nil => rfl
  | cons digit digits => exact ofDigitChars_digitText (digit :: digits)

/-- Has the decimal the plain form? -/
def IsPlain (digits : List (Fin 10)) (exponent : Int) : Prop :=
  exponent ≤ 0 ∧ leastPoint ≤ exponent + (shownDigits digits).length

instance (digits : List (Fin 10)) (exponent : Int) : Decidable (IsPlain digits exponent) :=
  inferInstanceAs (Decidable (_ ∧ _))

theorem toChars_of_isPlain (negative : Bool) {digits : List (Fin 10)} {exponent : Int}
    (h : IsPlain digits exponent) :
    toChars (.finite negative digits exponent)
      = minus negative ++ placePoint (shownDigits digits)
        (exponent + (shownDigits digits).length) :=
  congrArg (minus negative ++ ·) (if_pos h)

theorem toChars_of_not_isPlain (negative : Bool) {digits : List (Fin 10)} {exponent : Int}
    (h : ¬IsPlain digits exponent) :
    toChars (.finite negative digits exponent)
      = minus negative ++ (placePoint (shownDigits digits) 1 ++
          'E' :: signed (exponent + (shownDigits digits).length - 1)) :=
  congrArg (minus negative ++ ·) (if_neg h)

/-- The text of a decimal says what the decimal is. -/
theorem spelling?_toChars (negative : Bool) (digits : List (Fin 10)) (exponent : Int) :
    Lexer.spelling? (toChars (.finite negative digits exponent)) =
      some ⟨negative, coefficient digits, exponent⟩ := by
  have hne := shownDigits_ne_nil digits
  have hdigits := isDigit_shownDigits digits
  by_cases hplain : IsPlain digits exponent
  · have hpoint : exponent + (shownDigits digits).length ≤ (shownDigits digits).length := by
      have := hplain.1
      omega
    obtain ⟨f, hf, htext, hnegative, hcoefficient, hplaces⟩ :=
      exists_figures_placePoint negative hne hdigits hpoint
    rw [toChars_of_isPlain negative hplain, ← htext, Figures.spelling?_text hf,
      Figures.spelling, hnegative, hcoefficient, ofDigitChars_shownDigits]
    simp only [Option.some.injEq, Lexer.Spelling.mk.injEq, true_and]
    omega
  · have hpoint : (1 : Int) ≤ (shownDigits digits).length := by
      have := List.length_pos_iff.2 hne
      omega
    obtain ⟨f, hf, htext, hnegative, hcoefficient, hplaces⟩ :=
      exists_figures_placePoint negative hne hdigits hpoint
    rw [toChars_of_not_isPlain negative hplain, ← List.append_assoc, ← htext,
      Figures.spelling?_text_append hf (isPower_signed 'E' (.inr rfl) _), Figures.spelling,
        hnegative, hcoefficient,
      ofDigitChars_shownDigits, powerValue_signed]
    simp only [Option.some.injEq, Lexer.Spelling.mk.injEq, true_and]
    omega

example : (finite true [] (-7)).text = "-0E-7" ∧
    Lexer.spelling? "-0E-7".toList = some ⟨true, 0, -7⟩ := by
  decide

/-- Digits are spelled with the characters that they were read from. -/
theorem digitText_digitsOf {digits : List Char} (h : ∀ c ∈ digits, c.isDigit = true) :
    digitText (digitsOf digits) = digits := by
  induction digits with
  | nil => rfl
  | cons c digits ih =>
      obtain ⟨hc, hdigits⟩ := List.forall_mem_cons.1 h
      have hlower := (Char.isDigit_iff_toNat.1 hc).1
      have hupper := (Char.isDigit_iff_toNat.1 hc).2
      have hsize : c.toNat - '0'.toNat < 10 := by
        have hnine : '9'.toNat = '0'.toNat + 9 := rfl
        omega
      have hchar : Nat.digitChar ((c.toNat - '0'.toNat) % 10) = c := by
        have hzero : '0'.toNat = 48 := rfl
        rw [Nat.mod_eq_of_lt hsize, ← Char.toNat_inj, Nat.toNat_digitChar_of_lt_ten hsize]
        omega
      rw [digitText, digitsOf, List.map_cons, List.map_cons, hchar]
      exact congrArg (c :: ·) (ih hdigits)

/-! ### Zeros in front -/

/-- Is this nothing, or digits that do not begin with zero? -/
def StartsAboveZero (digits : List Char) : Prop := ∀ c ∈ digits.head?, c ≠ '0'

theorem exists_zeros (digits : List Char) :
    ∃ zeros rest, digits = List.replicate zeros '0' ++ rest ∧ StartsAboveZero rest := by
  induction digits with
  | nil => exact ⟨0, [], rfl, nofun⟩
  | cons c digits ih =>
      by_cases hzero : c = '0'
      · obtain ⟨zeros, rest, hdigits, hrest⟩ := ih
        exact ⟨zeros + 1, rest,
          by rw [hzero, hdigits, List.replicate_succ, List.cons_append], hrest⟩
      · refine ⟨0, c :: digits, rfl, ?_⟩
        intro x hx
        cases hx
        exact hzero

theorem dropZeros_digitsOf_replicate (zeros : Nat) (digits : List Char) :
    dropZeros (digitsOf (List.replicate zeros '0' ++ digits)) = dropZeros (digitsOf digits) := by
  induction zeros with
  | zero => rfl
  | succ zeros ih =>
      rw [List.replicate_succ, List.cons_append, ← ih]
      rfl

theorem dropZeros_digitsOf {digits : List Char} (h : ∀ c ∈ digits, c.isDigit = true)
    (hstart : StartsAboveZero digits) : dropZeros (digitsOf digits) = digitsOf digits := by
  cases digits with
  | nil => rfl
  | cons c digits =>
      have hc := h c List.mem_cons_self
      have hlower := (Char.isDigit_iff_toNat.1 hc).1
      have hupper := (Char.isDigit_iff_toNat.1 hc).2
      have hzero : c.toNat ≠ '0'.toNat := fun hsame => hstart c rfl (Char.toNat_inj.1 hsame)
      have hvalue : (c.toNat - '0'.toNat) % 10 ≠ 0 := by
        have hnine : '9'.toNat = '0'.toNat + 9 := rfl
        omega
      rw [dropZeros, digitsOf, List.map_cons, List.dropWhile_cons_of_neg (by simpa using hvalue)]

/-- The digits that are shown of some digits with zeros in front. -/
theorem shownDigits_dropZeros {digits : List Char} (h : ∀ c ∈ digits, c.isDigit = true)
    (hstart : StartsAboveZero digits) (zeros : Nat) :
    shownDigits (dropZeros (digitsOf (List.replicate zeros '0' ++ digits)))
      = if digits = [] then ['0'] else digits := by
  rw [dropZeros_digitsOf_replicate, dropZeros_digitsOf h hstart, shownDigits, digitText_digitsOf h]
  cases digits with
  | nil => rfl
  | cons c digits => rfl

/-- The number of digits that are shown tells how large the number is; zero is as large as one. -/
theorem max_coefficient_bounds {digits : List Char} (h : ∀ c ∈ digits, c.isDigit = true) :
    10 ^ (shownDigits (dropZeros (digitsOf digits))).length ≤
      10 * max 1 (Nat.ofDigitChars 10 digits 0) ∧
      max 1 (Nat.ofDigitChars 10 digits 0) <
        10 ^ (shownDigits (dropZeros (digitsOf digits))).length := by
  obtain ⟨zeros, rest, rfl, hrest⟩ := exists_zeros digits
  have hdigits : ∀ c ∈ rest, c.isDigit = true := fun c hc => h c (List.mem_append_right _ hc)
  rw [shownDigits_dropZeros hdigits hrest, ofDigitChars_replicate_append]
  cases rest with
  | nil => decide
  | cons c rest =>
      have hc := hdigits c List.mem_cons_self
      have hpos : 1 ≤ c.toNat - '0'.toNat := by
        have hlower := (Char.isDigit_iff_toNat.1 hc).1
        have hzero : c.toNat ≠ '0'.toNat := fun hsame => hrest c rfl (Char.toNat_inj.1 hsame)
        omega
      have hlow : 10 ^ rest.length ≤ Nat.ofDigitChars 10 (c :: rest) 0 := by
        calc
          10 ^ rest.length ≤ (c.toNat - '0'.toNat) * 10 ^ rest.length :=
            Nat.le_mul_of_pos_left _ hpos
          _ ≤ Nat.ofDigitChars 10 rest (c.toNat - '0'.toNat) := mul_pow_le_ofDigitChars rest _
          _ = Nat.ofDigitChars 10 (c :: rest) 0 := by
            rw [Nat.ofDigitChars_cons, Nat.mul_zero, Nat.zero_add]
      have hhigh := ofDigitChars_lt hdigits 0
      have hsome := Nat.pow_pos (n := rest.length) (show 0 < 10 by decide)
      rw [if_neg (List.cons_ne_nil c rest), max_eq_right (by omega)]
      constructor
      · rw [List.length_cons, Nat.pow_succ']
        omega
      · rwa [Nat.zero_add, Nat.one_mul] at hhigh

end Decimal

namespace Figures

variable {f : Figures}

open Decimal (shownDigits dropZeros digitsOf)

/-- Is the number less than a millionth? A zero counts as a one at its last place. -/
def IsSmall (f : Figures) : Prop := max 1 f.coefficient * 10 ^ 6 < 10 ^ f.places.length

/-- Small numbers have a power of ten, and no others. -/
theorem isPlain_iff (h : f.AreDigits) :
    Decimal.IsPlain (dropZeros (digitsOf (f.whole ++ f.places))) (-(f.places.length : Int)) ↔
      ¬f.IsSmall := by
  have hdigits := Lexer.isDigit_append h.whole h.places
  obtain ⟨hlow, hhigh⟩ := Decimal.max_coefficient_bounds hdigits
  unfold Decimal.IsPlain IsSmall coefficient Decimal.leastPoint
  generalize (shownDigits (dropZeros (digitsOf (f.whole ++ f.places)))).length =
    size at hlow hhigh ⊢
  generalize max 1 (Nat.ofDigitChars 10 (f.whole ++ f.places) 0) = number at hlow hhigh ⊢
  constructor
  · intro hplain
    have hplaces : f.places.length ≤ size + 5 := by
      have := hplain.2
      omega
    rw [Nat.not_lt]
    calc
      10 ^ f.places.length ≤ 10 ^ (size + 5) := Nat.pow_le_pow_right (by decide) hplaces
      _ = 10 ^ size * 10 ^ 5 := Nat.pow_add 10 size 5
      _ ≤ 10 * number * 10 ^ 5 := Nat.mul_le_mul_right _ hlow
      _ = number * 10 ^ 6 := by omega
  · intro hlarge
    refine ⟨by omega, ?_⟩
    by_contra hmany
    have hplaces : size + 6 ≤ f.places.length := by omega
    refine hlarge ?_
    calc
      number * 10 ^ 6 < 10 ^ size * 10 ^ 6 := Nat.mul_lt_mul_of_pos_right hhigh (by decide)
      _ = 10 ^ (size + 6) := (Nat.pow_add 10 size 6).symm
      _ ≤ 10 ^ f.places.length := Nat.pow_le_pow_right (by decide) hplaces

/-- Digits that begin with their places have the point in front. -/
theorem placePoint_zero {places rest : List Char} {zeros : Nat}
    (hsplit : places = List.replicate zeros '0' ++ rest) (hne : places ≠ []) :
    Decimal.placePoint (if rest = [] then ['0'] else rest)
        (-(places.length : Int) + (if rest = [] then ['0'] else rest).length) =
          '0' :: '.' :: places := by
  have hpos := List.length_pos_iff.2 hne
  have hlength : places.length = zeros + rest.length := by simp [hsplit]
  by_cases hnil : rest = []
  · subst hnil
    have hzeros : (-(-(places.length : Int) + ((1 : Nat) : Int))).toNat = zeros - 1 := by
      rw [List.length_nil] at hlength
      omega
    have hsmall : -(places.length : Int) + ((1 : Nat) : Int) ≤ 0 := by omega
    simp only [if_true, List.length_singleton, Decimal.placePoint, hsmall, hzeros]
    rw [hsplit, List.append_nil, List.cons_append, List.cons_append]
    have hlast : List.replicate (zeros - 1) '0' ++ ['0'] = List.replicate zeros '0' := by
      rw [← List.replicate_succ', Nat.sub_add_cancel]
      rw [List.length_nil] at hlength
      omega
    rw [hlast]
  · have hzeros : (-(-(places.length : Int) + (rest.length : Int))).toNat = zeros := by omega
    have hsmall : -(places.length : Int) + (rest.length : Int) ≤ 0 := by omega
    simp only [hnil, if_false, Decimal.placePoint, hsmall, if_true, hzeros]
    rw [hsplit, List.cons_append, List.cons_append]

/-- A number that is not small is written as it stands in the cell. -/
theorem toChars_decimal (h : f.Uses Char.isDigit) (hplaces : f.places ≠ []) (hlarge : ¬f.IsSmall) :
    f.decimal.toChars = f.text := by
  have hwhole := h.areDigits.whole
  rw [decimal, Decimal.toChars_of_isPlain f.negative ((isPlain_iff h.areDigits).2 hlarge), text,
    fraction, if_neg hplaces]
  refine congrArg (minus f.negative ++ ·) ?_
  rcases h.whole with hzero | ⟨c, more, hcons, hc, -⟩
  · obtain ⟨zeros, rest, hsplit, hrest⟩ := Decimal.exists_zeros f.places
    have hdigits : ∀ c ∈ rest, c.isDigit = true :=
      fun c hc => h.places c (hsplit ▸ List.mem_append_right _ hc)
    have hall : f.whole ++ f.places = List.replicate (zeros + 1) '0' ++ rest := by
      rw [hzero, hsplit, List.replicate_succ]
      rfl
    rw [hall, Decimal.shownDigits_dropZeros hdigits hrest, placePoint_zero hsplit hplaces, hzero]
    rfl
  · have hstart : Decimal.StartsAboveZero (f.whole ++ f.places) := by
      rw [hcons]
      intro x hx
      cases hx
      rintro rfl
      exact absurd hc.1 (by decide)
    have hne : f.whole ++ f.places ≠ [] := by simp [hcons]
    have hshown := Decimal.shownDigits_dropZeros (Lexer.isDigit_append hwhole h.places) hstart 0
    rw [List.replicate_zero, List.nil_append, if_neg hne] at hshown
    have hpoint : -(f.places.length : Int) + (f.whole ++ f.places).length = f.whole.length := by
      rw [List.length_append]
      omega
    have hpos := List.length_pos_iff.2 h.areDigits.whole_ne_nil
    have hmore := List.length_pos_iff.2 hplaces
    rw [hshown, hpoint, Decimal.placePoint, if_neg (by omega), if_neg (by simp; omega)]
    simp

/-- What is written says what stands in the cell. -/
theorem spelling?_toChars_decimal (h : f.AreDigits) :
    Lexer.spelling? f.decimal.toChars = some f.spelling := by
  have hcoefficient := Decimal.coefficient_digitsOf (Lexer.isDigit_append h.whole h.places)
  rw [decimal, Decimal.spelling?_toChars, Decimal.coefficient_dropZeros, hcoefficient]
  rfl

/-- A small number is written with a power of ten. -/
theorem mem_toChars_decimal (h : f.Uses Char.isDigit) (hsmall : f.IsSmall) :
    'E' ∈ f.decimal.toChars := by
  have hplain := mt (isPlain_iff h.areDigits).1 (not_not.2 hsmall)
  rw [decimal, Decimal.toChars_of_not_isPlain f.negative hplain]
  simp

end Figures

namespace CellWriter

variable {w : CellWriter} {d : Dialect} {column : ExportColumn}

/-- A numeral of ASCII digits in a cell is exported with all that it says, whatever the threshold
for large texts is: an integer as the numeral of the number, and a number with a point as a literal
of the same sign, coefficient and exponent. It is the text of the cell again unless the number is
small, and then it has a power of ten. -/
theorem exportsExactly (hw : w.WritesLiterals d) (hcolumn : column.handler? = none)
    (hkind : column.column.kind = .string) (f : Figures) (hf : f.Uses Char.isDigit)
    (hfield : Delimited.IsField (.ofList f.text))
    (hlength : f.places = [] → f.whole.length ≤ Numeral.digitLimit)
    (threshold : Int) (identity : Nat) (s : Logged Sink) :
    ∃ value text t, CsvFile.convert threshold identity (.ofList f.text) = .ok value ∧
      w.writeValue column value s = .ok () t ∧ t.state.output = s.state.output ++ text ∧
      d.Writes text (.number text) ∧
      (f.places = [] → text = toString f.integer) ∧
      (f.places ≠ [] → Lexer.spelling? f.text = some f.spelling ∧
        Lexer.spelling? text.toList = some f.spelling ∧
        (f.IsSmall → 'E' ∈ text.toList) ∧ (¬f.IsSmall → text = .ofList f.text)) := by
  have hdisplays := w.displays_of_string hkind
  by_cases hplaces : f.places = []
  · have hvalue : CsvFile.convert threshold identity (.ofList f.text) = .ok (.int f.integer) := by
      rw [CsvFile.convert_integer hf hplaces, if_neg (Nat.not_lt.2 (hlength hplaces))]
    obtain ⟨t, ht, hwritten⟩ :=
      writeValue_integer (s := s) hw hcolumn hdisplays hf (hlength hplaces)
    exact ⟨_, _, t, hvalue, ht, hwritten.output, d.writes_number (Numeral.isNumeral_toString _),
      fun _ => rfl, fun hne => absurd hplaces hne⟩
  · have hlimit := hfield.length_le
    rw [String.length_ofList] at hlimit
    obtain ⟨t, ht, hwritten⟩ : ∃ t, w.writeValue column (.decimal f.decimal) s = .ok () t ∧
        WrittenAs f.decimal.text (.decimal f.decimal) s.state t.state :=
      writeValue_style _ hw hcolumn hdisplays nofun nofun nofun fun style _ => rfl
    refine ⟨_, _, t, CsvFile.convert_decimal hf hplaces hlimit, ht, hwritten.output,
      d.writes_number (Decimal.isNumeral_text rfl), fun hnil => absurd hnil hplaces,
        fun _ => ⟨?_, ?_, ?_, ?_⟩⟩
    · exact Figures.spelling?_text hf.areDigits
    · rw [Decimal.text, String.toList_ofList, Figures.spelling?_toChars_decimal hf.areDigits]
    · intro hsmall
      rw [Decimal.text, String.toList_ofList]
      exact Figures.mem_toChars_decimal hf hsmall
    · intro hlarge
      rw [Decimal.text, Figures.toChars_decimal hf hplaces hlarge]

/-- A zero with a sign and more places than the plain form shows. -/
theorem exportsExactly_zero :
    let w :=
      (Exporter.make (some .mysql) {} (.empty #[])).cellWriter (.literals { dialect := .mysql })
    let column : ExportColumn := { column := { name := "change", kind := .string } }
    let f : Figures := ⟨true, ['0'], "0000000".toList⟩
    let s : Logged Sink := { log := {}, state := { output := "(" } }
    w.WritesLiterals .mysql ∧ column.handler? = none ∧ column.column.kind = .string ∧
      f.Uses Char.isDigit ∧
      Delimited.IsField (.ofList f.text) ∧ (f.places = [] → f.whole.length ≤ Numeral.digitLimit) ∧
      ∃ value text t, CsvFile.convert (-1) 0 (.ofList f.text) = .ok value ∧
        w.writeValue column value s = .ok () t ∧ t.state.output = s.state.output ++ text ∧
        Dialect.mysql.Writes text (.number text) ∧
        (f.places = [] → text = toString f.integer) ∧
        (f.places ≠ [] → Lexer.spelling? f.text = some f.spelling ∧
          Lexer.spelling? text.toList = some f.spelling ∧
          (f.IsSmall → 'E' ∈ text.toList) ∧ (¬f.IsSmall → text = .ofList f.text)) := by
  intro w column f s
  have hw : w.WritesLiterals .mysql := ⟨rfl, rfl, _, rfl, rfl⟩
  have hf : f.Uses Char.isDigit := ⟨.inl rfl, List.all_eq_true.1 (by decide)⟩
  have hfield : Delimited.IsField (.ofList f.text) := by
    refine ⟨';', .ofText "a;-0.0000000\n".toList, ["a", "-0.0000000"], .ofText [], ?_, by decide⟩
    rw [Delimited.readRecord, Delimited.readRecordFrom, TextReader.readLine,
      TextReader.readLineFrom]
    rfl
  have hlength : f.places = [] → f.whole.length ≤ Numeral.digitLimit :=
    fun hnil => absurd hnil (by decide)
  exact ⟨hw, rfl, rfl, hf, hfield, hlength, exportsExactly hw rfl rfl f hf hfield hlength (-1) 0 s⟩

end CellWriter

end InsertScript
