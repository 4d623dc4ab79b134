import InsertScript.Source.Csv
import InsertScript.Proofs.BareNames
import InsertScript.Proofs.Lexemes
import Mathlib.Algebra.Group.Nat.Defs
import Mathlib.Data.List.TakeWhile

/-!
# Numerals in a cell

A cell is taken for a number by its looks: a sign, whole digits without a superfluous zero, and
perhaps a point and more digits (`Figures`). The looks are lenient in two ways (`looksInteger_iff`,
`looksDecimal_iff`): all digits but the first one may belong to any script, and a line feed may
stand at the end. A number of ASCII digits without a line feed is read as the number it spells
(`Figures.readInteger_text`, `Figures.read?_text`).
-/

namespace InsertScript

open Lexer (minus)
open CsvFile (dropMinus isWholeNumber looksInteger looksDecimal)
open Dialect (dropFinalFeed)

/-- A numeral in pieces: a sign, whole digits, and the digits behind the point if there is one. -/
structure Figures where
  negative : Bool
  whole : List Char
  places : List Char

/-- Is it a single zero, or a digit of ASCII other than zero and digits of some kind? -/
def IsWhole (isDigit : Char → Bool) (whole : List Char) : Prop :=
  whole = ['0'] ∨ ∃ c rest, whole = c :: rest ∧ ('1' ≤ c ∧ c ≤ '9') ∧ ∀ x ∈ rest, isDigit x = true

namespace Figures

/-- The point and the digits behind it. -/
def fraction (f : Figures) : List Char := if f.places = [] then [] else '.' :: f.places

def text (f : Figures) : List Char := minus f.negative ++ (f.whole ++ f.fraction)

/-- Are the figures digits of some kind, without a superfluous zero? -/
structure Uses (isDigit : Char → Bool) (f : Figures) : Prop where
  whole : IsWhole isDigit f.whole
  places : ∀ c ∈ f.places, isDigit c = true

/-- Is a cell the text of the figures, perhaps with a line feed behind it? -/
def Fits (f : Figures) (cell : List Char) : Prop := cell = f.text ∨ cell = f.text ++ ['\n']

end Figures

/-! ### Digits -/

namespace Unicode

theorem lt_of_isDigit {c : Char} (h : c.isDigit = true) : c.toNat < 128 :=
  Nat.lt_of_le_of_lt (Char.isDigit_iff_toNat.1 h).2 (by decide)

theorem digitValue?_of_isDigit {c : Char} (h : c.isDigit = true) :
    digitValue? c = some (c.toNat - '0'.toNat) := by
  have hvalue : c.isDigit = true → digitValue? c = some (c.toNat - '0'.toNat) :=
    of_ascii c (lt_of_isDigit h) (by decide)
  exact hvalue h

theorem isDigit_of_isDigit {c : Char} (h : c.isDigit = true) : isDigit c = true := by
  rw [isDigit, digitValue?_of_isDigit h]
  rfl

/-- A digit of ASCII is none of the characters that numbers are read without. -/
theorem isBlank_of_isDigit {c : Char} (h : c.isDigit = true) :
    isBlank c = false ∧ isNumeralBlank c = false := by
  have hblank : c.isDigit = true → isBlank c = false ∧ isNumeralBlank c = false :=
    of_ascii c (lt_of_isDigit h) (by decide)
  exact hblank h

end Unicode

/-- The test for whole numbers, as a property of the characters. -/
theorem isWholeNumber_iff {text : List Char} :
    isWholeNumber text = true ↔ IsWhole Unicode.isDigit text := by
  unfold isWholeNumber IsWhole
  split
  · simp
  · rename_i c rest hzero
    simp only [Bool.and_eq_true, decide_eq_true_eq, List.all_eq_true]
    constructor
    · rintro ⟨hc, hrest⟩
      exact .inr ⟨c, rest, rfl, hc, hrest⟩
    · rintro (hsame | ⟨c', rest', hsame, hc, hrest⟩)
      · obtain ⟨rfl, rfl⟩ := List.cons.inj hsame
        exact absurd rfl (hzero rfl)
      · obtain ⟨rfl, rfl⟩ := List.cons.inj hsame
        exact ⟨hc, hrest⟩
  · simp

namespace IsWhole

variable {isDigit isDigit' : Char → Bool} {whole : List Char}

theorem mono (h : IsWhole isDigit whole) (hmono : ∀ c, isDigit c = true → isDigit' c = true) :
    IsWhole isDigit' whole := by
  refine h.imp_right ?_
  rintro ⟨c, rest, rfl, hc, hrest⟩
  exact ⟨c, rest, rfl, hc, fun x hx => hmono x (hrest x hx)⟩

/-- A whole number begins with a digit of ASCII. -/
theorem exists_cons (h : IsWhole isDigit whole) :
    ∃ c rest, whole = c :: rest ∧ c.isDigit = true := by
  rcases h with rfl | ⟨c, rest, rfl, ⟨hlower, hupper⟩, -⟩
  · exact ⟨'0', [], rfl, by decide⟩
  · refine ⟨c, rest, rfl, Char.isDigit_iff_toNat.2 ⟨?_, hupper⟩⟩
    exact Nat.le_of_lt hlower

theorem forall_mem (h : IsWhole isDigit whole) (hascii : ∀ c, c.isDigit = true → isDigit c = true) :
    ∀ c ∈ whole, isDigit c = true := by
  obtain ⟨first, more, rfl, hfirst⟩ := h.exists_cons
  rcases h with hzero | ⟨c, rest, hsame, -, hrest⟩
  · rw [hzero]
    simpa using hascii '0' (by decide)
  · obtain ⟨rfl, rfl⟩ := List.cons.inj hsame
    exact List.forall_mem_cons.2 ⟨hascii _ hfirst, hrest⟩

end IsWhole

namespace Figures

variable {f : Figures} {cell : List Char}

theorem Uses.mono {isDigit isDigit' : Char → Bool} (h : f.Uses isDigit)
    (hmono : ∀ c, isDigit c = true → isDigit' c = true) : f.Uses isDigit' :=
  ⟨h.whole.mono hmono, fun c hc => hmono c (h.places c hc)⟩

/-- Digits of ASCII are digits. -/
theorem Uses.of_ascii (h : f.Uses Char.isDigit) : f.Uses Unicode.isDigit :=
  h.mono fun _ => Unicode.isDigit_of_isDigit

theorem dropMinus_text (h : f.Uses Unicode.isDigit) : dropMinus f.text = f.whole ++ f.fraction := by
  obtain ⟨c, rest, hwhole, hc⟩ := h.whole.exists_cons
  unfold text
  cases f.negative with
  | true => rfl
  | false =>
      rw [hwhole]
      show dropMinus (c :: (rest ++ f.fraction)) = _
      unfold dropMinus
      split
      · rename_i hminus
        obtain ⟨rfl, -⟩ := List.cons.inj hminus
        cases hc
      · rfl

/-- A numeral has only a sign, a point and digits. -/
theorem Uses.mem_text {isDigit : Char → Bool} (h : f.Uses isDigit)
    (hascii : ∀ c, c.isDigit = true → isDigit c = true)
    {c : Char} (hc : c ∈ f.text) : c = '-' ∨ c = '.' ∨ isDigit c = true := by
  unfold text minus fraction at hc
  rcases List.mem_append.1 hc with hc | hc
  · split at hc
    · exact .inl (List.mem_singleton.1 hc)
    · cases hc
  rcases List.mem_append.1 hc with hc | hc
  · exact .inr (.inr (h.whole.forall_mem hascii c hc))
  · split at hc
    · cases hc
    · rcases List.mem_cons.1 hc with hc | hc
      · exact .inr (.inl hc)
      · exact .inr (.inr (h.places c hc))

theorem text_ne_nil (h : f.Uses Unicode.isDigit) : f.text ≠ [] := by
  obtain ⟨c, rest, hwhole, -⟩ := h.whole.exists_cons
  rw [text, hwhole]
  simp

theorem Uses.point_not_mem_whole (h : f.Uses Unicode.isDigit) : '.' ∉ f.whole := by
  intro hpoint
  exact absurd (h.whole.forall_mem (fun _ => Unicode.isDigit_of_isDigit) '.' hpoint) (by decide)

/-- A numeral without places has no point. -/
theorem point_mem_text (h : f.Uses Unicode.isDigit) : '.' ∈ f.text ↔ f.places ≠ [] := by
  have hsign : '.' ∉ minus f.negative := by cases f.negative <;> decide
  rw [text, List.mem_append, List.mem_append, fraction]
  constructor
  · rintro (hpoint | hpoint | hpoint) hnil
    · exact hsign hpoint
    · exact h.point_not_mem_whole hpoint
    · rw [if_pos hnil] at hpoint
      cases hpoint
  · intro hne
    rw [if_neg hne]
    exact .inr (.inr List.mem_cons_self)

theorem Fits.ne_nil (hfits : f.Fits cell) (h : f.Uses Unicode.isDigit) : cell ≠ [] := by
  rcases hfits with rfl | rfl
  · exact text_ne_nil h
  · simp

theorem Fits.point_mem (hfits : f.Fits cell) (h : f.Uses Unicode.isDigit) :
    '.' ∈ cell ↔ f.places ≠ [] := by
  rcases hfits with rfl | rfl
  · exact point_mem_text h
  · rw [List.mem_append, point_mem_text h]
    simp

theorem getLast?_text (h : f.Uses Unicode.isDigit) : f.text.getLast? ≠ some '\n' := by
  intro hlast
  rcases h.mem_text (fun _ => Unicode.isDigit_of_isDigit)
    (List.mem_of_mem_getLast? hlast) with hc | hc | hc
  · cases hc
  · cases hc
  · exact absurd hc (by decide)

/-- The line feed at the end is overlooked. -/
theorem dropFinalFeed_of_fits (h : f.Uses Unicode.isDigit) (hfits : f.Fits cell) :
    dropFinalFeed cell = f.text := by
  rcases hfits with rfl | rfl
  · rw [dropFinalFeed, if_neg (getLast?_text h)]
  · rw [dropFinalFeed, if_pos List.getLast?_concat, List.dropLast_concat]

end Figures

/-! ### Looks -/

theorem exists_minus_dropMinus (text : List Char) :
    ∃ negative, text = minus negative ++ dropMinus text := by
  unfold dropMinus
  split
  · exact ⟨true, rfl⟩
  · exact ⟨false, rfl⟩

theorem eq_dropFinalFeed (cell : List Char) :
    cell = dropFinalFeed cell ∨ cell = dropFinalFeed cell ++ ['\n'] := by
  unfold dropFinalFeed
  split
  · rename_i hfeed
    obtain ⟨start, rfl⟩ := List.getLast?_eq_some_iff.1 hfeed
    exact .inr (by rw [List.dropLast_concat])
  · exact .inl rfl

/-- What is left of a cell without its line feed and its minus makes figures of the cell. -/
theorem Figures.exists_of_dropMinus (cell whole places : List Char)
    (h : dropMinus (dropFinalFeed cell) = whole ++ if places = [] then [] else '.' :: places) :
    ∃ f : Figures, f.whole = whole ∧ f.places = places ∧ f.Fits cell := by
  obtain ⟨negative, hnegative⟩ := exists_minus_dropMinus (dropFinalFeed cell)
  rw [h] at hnegative
  refine ⟨⟨negative, whole, places⟩, rfl, rfl, ?_⟩
  unfold Figures.Fits Figures.text Figures.fraction
  rw [← hnegative]
  exact eq_dropFinalFeed cell

theorem looksInteger_iff {cell : List Char} : looksInteger cell = true ↔
    ∃ f : Figures, f.Uses Unicode.isDigit ∧ f.places = [] ∧ f.Fits cell := by
  rw [looksInteger, isWholeNumber_iff]
  constructor
  · intro hwhole
    obtain ⟨f, hsame, hplaces, hfits⟩ :=
      Figures.exists_of_dropMinus cell (dropMinus (dropFinalFeed cell)) [] (List.append_nil _).symm
    exact ⟨f, ⟨hsame ▸ hwhole, by simp [hplaces]⟩, hplaces, hfits⟩
  · rintro ⟨f, h, hplaces, hfits⟩
    rw [Figures.dropFinalFeed_of_fits h hfits, Figures.dropMinus_text h,
      Figures.fraction, if_pos hplaces, List.append_nil]
    exact h.whole

/-- A text with something behind its first point is what stands in front of the point, the point and
that. -/
theorem eq_append_point {text : List Char}
    (h : text.drop ((text.takeWhile (· ≠ '.')).length + 1) ≠ []) :
    text = text.takeWhile (· ≠ '.') ++ '.' ::
      text.drop ((text.takeWhile (· ≠ '.')).length + 1) := by
  induction text with
  | nil => exact absurd List.drop_nil h
  | cons c text ih =>
      by_cases hc : c = '.'
      · subst hc
        rw [List.takeWhile_cons_of_neg (by decide)]
        rfl
      · rw [List.takeWhile_cons_of_pos (by simpa using hc), List.length_cons,
          List.drop_succ_cons] at h ⊢
        rw [List.cons_append, ← ih h]

/-- The test for decimal numbers, as a property of the figures in the cell. -/
theorem looksDecimal_iff {cell : List Char} : looksDecimal cell = true ↔
    ∃ f : Figures, f.Uses Unicode.isDigit ∧ f.places ≠ [] ∧ f.Fits cell := by
  simp only [looksDecimal, Bool.and_eq_true, isWholeNumber_iff, Bool.not_eq_true',
    List.isEmpty_eq_false_iff, List.all_eq_true]
  constructor
  · rintro ⟨⟨hwhole, hne⟩, hplaces⟩
    obtain ⟨f, hsame, hsame', hfits⟩ := Figures.exists_of_dropMinus cell _ _
      ((eq_append_point hne).trans (by rw [if_neg hne]))
    exact ⟨f, ⟨hsame ▸ hwhole, hsame' ▸ hplaces⟩, hsame' ▸ hne, hfits⟩
  · rintro ⟨f, h, hplaces, hfits⟩
    have hwhole : ∀ c ∈ f.whole, decide (c ≠ '.') = true := by
      intro c hc
      rw [decide_eq_true_eq]
      rintro rfl
      exact h.point_not_mem_whole hc
    have hcut : (f.whole ++ '.' :: f.places).takeWhile (fun c => decide (c ≠ '.')) = f.whole := by
      rw [List.takeWhile_append_of_pos hwhole, List.takeWhile_cons_of_neg (by decide),
        List.append_nil]
    rw [Figures.dropFinalFeed_of_fits h hfits, Figures.dropMinus_text h, Figures.fraction,
      if_neg hplaces, hcut]
    have hdrop : (f.whole ++ '.' :: f.places).drop (f.whole.length + 1) = f.places := by simp
    rw [hdrop]
    exact ⟨⟨h.whole, hplaces⟩, h.places⟩

/-! ### Numbers of ASCII digits -/

/-- The values of digits of ASCII. -/
def digitValues (digits : List Char) : List Nat := digits.map fun c => c.toNat - '0'.toNat

theorem ofDigits_digitValues (digits : List Char) :
    Numeral.ofDigits (digitValues digits) = Nat.ofDigitChars 10 digits 0 := by
  rw [Numeral.ofDigits, Numeral.ofDigitsIn, digitValues, List.foldl_map]
  rfl

/-- So many digits spell a number below that power of ten. -/
theorem ofDigitChars_lt {digits : List Char} (h : ∀ c ∈ digits, c.isDigit = true) (n : Nat) :
    Nat.ofDigitChars 10 digits n < (n + 1) * 10 ^ digits.length := by
  induction digits generalizing n with
  | nil => simp
  | cons c digits ih =>
      obtain ⟨hc, hdigits⟩ := List.forall_mem_cons.1 h
      have hdigit : c.toNat - '0'.toNat + 1 ≤ 10 := by
        have hupper := (Char.isDigit_iff_toNat.1 hc).2
        have hnine : '9'.toNat = '0'.toNat + 9 := rfl
        omega
      calc
        Nat.ofDigitChars 10 (c :: digits) n =
          Nat.ofDigitChars 10 digits (10 * n + (c.toNat - '0'.toNat)) :=
          Nat.ofDigitChars_cons
        _ < (10 * n + (c.toNat - '0'.toNat) + 1) * 10 ^ digits.length := ih hdigits _
        _ ≤ (10 * (n + 1)) * 10 ^ digits.length := Nat.mul_le_mul_right _ (by omega)
        _ = (n + 1) * 10 ^ (c :: digits).length := by rw [List.length_cons, Nat.pow_succ']; ac_rfl

theorem Numeral.scanDigits_eq {digits : List Char} (h : ∀ c ∈ digits, c.isDigit = true)
    (done : List Nat) :
    scanDigits Unicode.digitValue? done false digits =
      some (done.reverse ++ digitValues digits, []) := by
  induction digits generalizing done with
  | nil => simp [scanDigits, digitValues]
  | cons c digits ih =>
      obtain ⟨hc, hdigits⟩ := List.forall_mem_cons.1 h
      rw [scanDigits, Unicode.digitValue?_of_isDigit hc]
      simp [ih hdigits, digitValues]

namespace Figures

variable {f : Figures}

/-- The number that the whole digits spell. -/
def integer (f : Figures) : Int :=
  if f.negative then -(Nat.ofDigitChars 10 f.whole 0 : Int) else Nat.ofDigitChars 10 f.whole 0

/-- An integer can be written if it could be read. -/
theorem writable_integer (h : f.Uses Char.isDigit) (hlength : f.whole.length ≤ Numeral.digitLimit) :
    Numeral.writable f.integer = true := by
  have habs : f.integer.natAbs = Nat.ofDigitChars 10 f.whole 0 := by
    unfold integer
    split
    · rw [Int.natAbs_neg, Int.natAbs_natCast]
    · rw [Int.natAbs_natCast]
  have hlt := ofDigitChars_lt (h.whole.forall_mem fun _ hc => hc) 0
  rw [Nat.zero_add, Nat.one_mul] at hlt
  unfold Numeral.writable Numeral.firstLong
  rw [habs, decide_eq_true_eq]
  generalize Numeral.digitLimit = limit at hlength ⊢
  exact Nat.lt_of_lt_of_le hlt (Nat.pow_le_pow_right (by decide) hlength)

theorem splitSign_text (h : f.Uses Char.isDigit) :
    Numeral.splitSign f.text = (f.negative, f.whole ++ f.fraction) := by
  obtain ⟨c, rest, hwhole, hc⟩ := h.whole.exists_cons
  unfold text
  cases f.negative with
  | true => rfl
  | false =>
      rw [hwhole]
      show Numeral.splitSign (c :: (rest ++ f.fraction)) = _
      unfold Numeral.splitSign
      split
      · rename_i hsign
        obtain ⟨rfl, -⟩ := List.cons.inj hsign
        cases hc
      · rename_i hsign
        obtain ⟨rfl, -⟩ := List.cons.inj hsign
        cases hc
      · rfl

/-- No character of a numeral is passed over when numbers are read. -/
theorem passed_of_mem_text (h : f.Uses Char.isDigit) {c : Char} (hc : c ∈ f.text) :
    Unicode.isBlank c = false ∧ Unicode.isNumeralBlank c = false ∧ c ≠ '_' := by
  rcases h.mem_text (fun _ hdigit => hdigit) hc with rfl | rfl | hdigit
  · decide
  · decide
  · obtain ⟨hblank, hnumeral⟩ := Unicode.isBlank_of_isDigit hdigit
    refine ⟨hblank, hnumeral, ?_⟩
    rintro rfl
    cases hdigit

/-- An integer is read as the number it spells, unless it is too long. -/
theorem readInteger_text (h : f.Uses Char.isDigit) (hplaces : f.places = []) :
    Numeral.readInteger (.ofList f.text) = if Numeral.digitLimit < f.whole.length then
      .error (.longText f.whole.length) else .ok f.integer := by
  have hwhole := h.whole.forall_mem fun _ hc => hc
  have hscan := Numeral.scanDigits_eq hwhole []
  have hdrop : f.text.dropWhile Unicode.isNumeralBlank = f.text :=
    dropWhile_of_head fun c hc => (passed_of_mem_text h (List.mem_of_mem_head? hc)).2.1
  have hlength : (digitValues f.whole).length = f.whole.length := by
    rw [digitValues, List.length_map]
  have hvalues : (digitValues f.whole).isEmpty = false := by
    obtain ⟨c, rest, hcons, -⟩ := h.whole.exists_cons
    rw [hcons]
    rfl
  rw [Numeral.readInteger, String.toList_ofList, hdrop, splitSign_text h, fraction, if_pos hplaces,
    List.append_nil]
  simp only [hscan, List.reverse_nil, List.nil_append, hlength, List.all_nil, hvalues,
    Bool.not_true, Bool.or_false, Bool.false_eq_true, if_false, ofDigits_digitValues]
  rfl

end Figures

namespace Decimal

/-- The digits that digits of ASCII stand for. -/
def digitsOf (digits : List Char) : List (Fin 10) :=
  digits.map fun c => ⟨(c.toNat - '0'.toNat) % 10, Nat.mod_lt _ (Nat.succ_pos 9)⟩

theorem digitsOf_append (a b : List Char) : digitsOf (a ++ b) = digitsOf a ++ digitsOf b :=
  List.map_append

theorem length_digitsOf (digits : List Char) : (digitsOf digits).length = digits.length :=
  List.length_map _

theorem digit?_of_isDigit {c : Char} (h : c.isDigit = true) :
    Unicode.digit? c = some ⟨(c.toNat - '0'.toNat) % 10, Nat.mod_lt _ (Nat.succ_pos 9)⟩ := by
  rw [Unicode.digit?, Unicode.digitValue?_of_isDigit h]
  rfl

theorem scanDigits_append {digits : List Char} (h : ∀ c ∈ digits, c.isDigit = true)
    (rest : List Char) (hrest : ∀ c ∈ rest.head?, Unicode.digit? c = none) (done : List (Fin 10)) :
    scanDigits done (digits ++ rest) = (done.reverse ++ digitsOf digits, rest) := by
  induction digits generalizing done with
  | nil =>
      cases rest with
      | nil => simp [scanDigits, digitsOf]
      | cons c rest => simp [scanDigits, digitsOf, hrest c rfl]
  | cons c digits ih =>
      obtain ⟨hc, hdigits⟩ := List.forall_mem_cons.1 h
      rw [List.cons_append, scanDigits, digit?_of_isDigit hc]
      simp [ih hdigits, digitsOf]

/-- Zeros in front do not count. -/
theorem coefficient_dropZeros (digits : List (Fin 10)) :
    coefficient (dropZeros digits) = coefficient digits := by
  induction digits with
  | nil => rfl
  | cons digit digits ih =>
      rw [dropZeros, List.dropWhile_cons]
      by_cases hzero : digit.val = 0
      · rw [if_pos (beq_iff_eq.2 hzero)]
        refine ih.trans ?_
        simp [coefficient, Numeral.ofDigits, Numeral.ofDigitsIn, hzero]
      · rw [if_neg (by simpa using hzero)]

theorem coefficient_digitsOf {digits : List Char} (h : ∀ c ∈ digits, c.isDigit = true) :
    coefficient (digitsOf digits) = Nat.ofDigitChars 10 digits 0 := by
  have hvalues : (digitsOf digits).map Fin.val = digitValues digits := by
    rw [digitsOf, digitValues, List.map_map]
    refine List.map_congr_left fun c hc => Nat.mod_eq_of_lt ?_
    have hupper := (Char.isDigit_iff_toNat.1 (h c hc)).2
    have hnine : '9'.toNat = '0'.toNat + 9 := rfl
    omega
  rw [coefficient, hvalues, ofDigits_digitValues]

end Decimal

namespace Figures

variable {f : Figures}

/-- The number that the digits spell, with as many places as there are. -/
def decimal (f : Figures) : Decimal :=
  .finite f.negative (Decimal.dropZeros (Decimal.digitsOf (f.whole ++ f.places)))
    (-(f.places.length : Int))

/-- A number with a point is read as the number it spells, with all its places. -/
theorem read?_text (h : f.Uses Char.isDigit) (hplaces : f.places ≠ []) :
    Decimal.read? (.ofList f.text) = some f.decimal := by
  have htrim : Unicode.trim f.text = f.text :=
    trimBy_of_ends (fun c hc => (passed_of_mem_text h (List.mem_of_mem_head? hc)).1)
      fun c hc => (passed_of_mem_text h (List.mem_of_mem_getLast? hc)).1
  have hfilter : f.text.filter (fun c => decide (c ≠ '_')) = f.text :=
    List.filter_eq_self.2 fun c hc => decide_eq_true (passed_of_mem_text h hc).2.2
  have hpoint : ∀ c ∈ ('.' :: f.places).head?, Unicode.digit? c = none := by
    rintro _ ⟨⟩
    decide
  have hwhole :=
    Decimal.scanDigits_append (h.whole.forall_mem fun _ hc => hc) ('.' :: f.places) hpoint []
  have hrest := Decimal.scanDigits_append h.places [] (by simp) []
  have hne : (Decimal.digitsOf f.whole).isEmpty = false := by
    obtain ⟨c, rest, hcons, -⟩ := h.whole.exists_cons
    rw [hcons]
    rfl
  have hfinite : Decimal.readFinite? f.negative (f.whole ++ '.' :: f.places) = some f.decimal := by
    rw [List.append_nil] at hrest
    simp only [Decimal.readFinite?, hwhole, hrest, List.reverse_nil, List.nil_append,
      hne, Bool.false_and,
      Bool.false_eq_true, if_false, Decimal.readExponent?, Option.map_some, decimal]
    rw [Decimal.digitsOf_append, Decimal.length_digitsOf, Int.zero_sub]
  have hsign : Decimal.read? (.ofList f.text) = (Decimal.readFinite? (Numeral.splitSign f.text).1
      (Numeral.splitSign f.text).2).orElse fun _ =>
        Decimal.readSpecial? (Numeral.splitSign f.text).1
      (Numeral.splitSign f.text).2 := by
    rw [Decimal.read?, String.toList_ofList, htrim, hfilter]
    rfl
  rw [hsign, splitSign_text h, fraction, if_neg hplaces, hfinite]
  rfl

theorem length_digits_le (f : Figures) : f.whole.length + f.places.length ≤ f.text.length := by
  have hfraction : f.places.length ≤ f.fraction.length := by
    unfold fraction
    split
    · rename_i hnil
      rw [hnil]
    · exact Nat.le_succ _
  rw [text, List.length_append, List.length_append]
  omega

theorem isHeld_decimal (hlength : f.text.length ≤ Delimited.fieldLimit) :
    f.decimal.isHeld = true := by
  have hdigits := List.length_dropWhile_le (fun digit : Fin 10 => digit.val == 0)
    (Decimal.digitsOf (f.whole ++ f.places))
  have htext := f.length_digits_le
  rw [Decimal.length_digitsOf, List.length_append] at hdigits
  have hlimit : Delimited.fieldLimit = 131072 := rfl
  simp only [decimal, Decimal.isHeld, Decimal.dropZeros, Decimal.leastPower, Decimal.greatestPower,
    Bool.and_eq_true]
  refine ⟨decide_eq_true ?_, decide_eq_true ?_⟩ <;> omega

/-- What stands in a field has no more digits than a decimal can hold. -/
theorem ofString_text (h : f.Uses Char.isDigit) (hplaces : f.places ≠ [])
    (hlength : f.text.length ≤ Delimited.fieldLimit) :
    Decimal.ofString (.ofList f.text) = .ok f.decimal := by
  rw [Decimal.ofString, read?_text h hplaces]
  exact if_pos (isHeld_decimal hlength)

end Figures

end InsertScript
