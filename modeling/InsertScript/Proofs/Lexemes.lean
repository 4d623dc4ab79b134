import InsertScript.Proofs.Cells

/-!
# Reading one literal

How a database takes one literal off the front of the characters that are left of a script: a
keyword, a number, a text between quotes, or bytes in the form of the dialect. Every part is as long
as possible, so what is read depends on what follows; `Lexer.Stops` says what may follow the
literals of an export.

A piece of a numeral is read up to where it cannot go on (`Lexer.digits_append`,
`Lexer.fraction_append`, `Lexer.power_append`); `Lexer.IsNumeral` says which pieces make a number.
-/

namespace InsertScript

open Dialect (textQuote isNamePart)

/-- A literal as it is read. -/
inductive Lexeme where
  | keyword (spelling : String)
  | number (spelling : String)
  /-- What a text literal stands for. -/
  | text (value : String)
  | bytes (data : Bytes)
deriving DecidableEq, Repr

namespace Lexer

/-! ### Numbers and keywords -/

/-- The digits at the head of some characters, and what follows them. -/
def digits (chars : List Char) : List Char × List Char :=
  (chars.takeWhile Char.isDigit, chars.dropWhile Char.isDigit)

def sign : List Char → List Char × List Char
  | '-' :: rest => (['-'], rest)
  | '+' :: rest => (['+'], rest)
  | rest => ([], rest)

/-- A point and the digits after it, if there is a point. -/
def fraction : List Char → List Char × List Char
  | '.' :: rest => ('.' :: (digits rest).1, (digits rest).2)
  | rest => ([], rest)

/-- A power of ten, if there is one. -/
def power : List Char → List Char × List Char
  | [] => ([], [])
  | mark :: rest =>
      let (sign, more) := sign rest
      let (shown, left) := digits more
      if (mark = 'e' ∨ mark = 'E') ∧ shown ≠ [] then (mark :: sign ++ shown, left) else
        ([], mark :: rest)

/-- Could a word or a number go on with what follows it? -/
def goesOn (rest : List Char) : Bool := rest.head?.any isNamePart

def number? (chars : List Char) : Option (Lexeme × List Char) :=
  let (sign, rest) := sign chars
  let (whole, rest) := digits rest
  let (places, rest) := fraction rest
  let (power, rest) := power rest
  if whole = [] ∨ goesOn rest then none
  else some (.number (.ofList (sign ++ whole ++ places ++ power)), rest)

/-- The words that are literals. -/
def keywords : List String := ["NULL", "TRUE", "FALSE"]

def keyword? (chars : List Char) : Option (Lexeme × List Char) :=
  let word := String.ofList (chars.takeWhile isNamePart)
  if Reader.foldWord word ∈ keywords then some (.keyword word, chars.dropWhile isNamePart) else none

end Lexer

namespace Dialect

/-! ### Texts and bytes -/

/-- What stands before and behind the digits of bytes, quotes included. PostgreSQL has texts for
bytes. -/
def byteMarks? : Dialect → Option (List Char × List Char)
  | postgresql => none
  | oracle => some ("HEXTORAW('".toList, ")".toList)
  | _ => some ("X'".toList, [])

/-- Reads bytes in the form of the dialect. -/
def readBytes? (d : Dialect) (chars : List Char) : Option (Lexeme × List Char) := do
  let (front, back) ← d.byteMarks?
  let (digits, rest) ← readQuoted textQuote false (← chars.dropPrefix? front)
  let data ← (Hex.toBytes digits).toOption
  return (.bytes data, ← rest.dropPrefix? back)

/-- Reads one literal; its first character says what kind it may be of. -/
def readLiteral? (d : Dialect) : List Char → Option (Lexeme × List Char)
  | [] => none
  | c :: rest =>
      if c = textQuote then
        (readQuoted textQuote d.escapes rest).map fun (text, left) => (.text (.ofList text), left)
      else if c.isDigit ∨ c = '-' ∨ c = '+' then Lexer.number? (c :: rest)
      else d.readBytes? (c :: rest) <|> Lexer.keyword? (c :: rest)

end Dialect

/-! ### What may follow -/

namespace Lexer

/-- Is this what may follow a literal: nothing, a comma, a closing bracket or a blank? -/
def Stops (rest : List Char) : Prop :=
  ∀ c ∈ rest.head?, c = ',' ∨ c = ')' ∨ Unicode.isBlank c = true

theorem Stops.head {rest : List Char} {c : Char} (h : Stops rest) (hc : c ∈ rest.head?) :
    isNamePart c = false ∧ c ≠ '.' ∧ c ≠ textQuote := by
  rcases h c hc with rfl | rfl | hblank
  · decide
  · decide
  · refine ⟨Dialect.isNamePart_of_isBlank hblank, ?_,
      (Dialect.ne_quote_of_isBlank (d := .generic) hblank).1⟩
    rintro rfl
    exact absurd hblank (by decide)

theorem Stops.goesOn {rest : List Char} (h : Stops rest) : goesOn rest = false := by
  cases rest with
  | nil => rfl
  | cons c rest => exact (h.head rfl).1

theorem isDigit_eq_false {c : Char} (h : isNamePart c = false) : c.isDigit = false := by
  simp only [isNamePart, Char.isAlphanum, Bool.or_eq_false_iff] at h
  exact h.1.1.2

/-! ### The pieces of a number -/

theorem digits_append {shown rest : List Char} (hshown : ∀ c ∈ shown, c.isDigit = true)
    (hrest : ∀ c ∈ rest.head?, c.isDigit = false) : digits (shown ++ rest) = (shown, rest) := by
  have hstop : rest.takeWhile Char.isDigit = [] ∧ rest.dropWhile Char.isDigit = rest := by
    cases rest with
    | nil => exact ⟨rfl, rfl⟩
    | cons c rest => simp [hrest c rfl]
  rw [digits, List.takeWhile_append_of_pos hshown, List.dropWhile_append_of_pos hshown,
    hstop.1, hstop.2, List.append_nil]

/-- Is this nothing, or a point and digits? -/
inductive IsFraction : List Char → Prop where
  | none : IsFraction []
  | point (shown : List Char) (hshown : ∀ c ∈ shown, c.isDigit = true) : IsFraction ('.' :: shown)

/-- Is this nothing, or a letter, a sign and digits? -/
inductive IsPower : List Char → Prop where
  | none : IsPower []
  | power (mark sign : Char) (shown : List Char) (hmark : mark = 'e' ∨ mark = 'E')
      (hsign : sign = '-' ∨ sign = '+') (hne : shown ≠ [])
      (hshown : ∀ c ∈ shown, c.isDigit = true) : IsPower (mark :: sign :: shown)

/-- Is this a number without a sign? -/
inductive IsMagnitude : List Char → Prop where
  | pieces (whole places power : List Char) (hne : whole ≠ [])
      (hwhole : ∀ c ∈ whole, c.isDigit = true)
      (hplaces : IsFraction places) (hpower : IsPower power) :
      IsMagnitude (whole ++ places ++ power)

theorem fraction_append {places rest : List Char} (h : IsFraction places)
    (hrest : ∀ c ∈ rest.head?, c.isDigit = false ∧ c ≠ '.') :
    fraction (places ++ rest) = (places, rest) := by
  cases h with
  | none =>
      rw [List.nil_append]
      unfold fraction
      split
      · exact absurd rfl (hrest '.' rfl).2
      · rfl
  | point shown hshown =>
      rw [List.cons_append, fraction, digits_append hshown fun c hc => (hrest c hc).1]

theorem sign_of_digits {shown rest : List Char} (hne : shown ≠ [])
    (hshown : ∀ c ∈ shown, c.isDigit = true) : sign (shown ++ rest) = ([], shown ++ rest) := by
  obtain ⟨c, shown, rfl⟩ := List.exists_cons_of_ne_nil hne
  have hc := hshown c List.mem_cons_self
  unfold sign
  split
  · rename_i heq
    cases heq
    exact absurd hc (by decide)
  · rename_i heq
    cases heq
    exact absurd hc (by decide)
  · rfl

theorem power_append {exponent rest : List Char} (h : IsPower exponent)
    (hrest : ∀ c ∈ rest.head?, isNamePart c = false) :
    power (exponent ++ rest) = (exponent, rest) := by
  cases h with
  | none =>
      cases rest with
      | nil => rfl
      | cons c rest =>
          have hmark : ¬(c = 'e' ∨ c = 'E') := by
            have hpart := hrest c rfl
            rintro (rfl | rfl)
            · exact absurd hpart (by decide)
            · exact absurd hpart (by decide)
          simp [power, hmark]
  | power mark sgn shown hmark hsign hne hshown =>
      have hsigned : sign (sgn :: (shown ++ rest)) = ([sgn], shown ++ rest) := by
        rcases hsign with rfl | rfl
        · rfl
        · rfl
      rw [List.cons_append, List.cons_append, power, hsigned]
      dsimp only
      rw [digits_append hshown fun c hc => isDigit_eq_false (hrest c hc)]
      simp [hmark, hne]

/-! ### Numbers -/

/-- A sign, or none if the number is not negative. -/
def minus (negative : Bool) : List Char := if negative then ['-'] else []

theorem sign_append (negative : Bool) {shown : List Char} (rest : List Char) (hne : shown ≠ [])
    (hshown : ∀ c ∈ shown, c.isDigit = true) :
    sign (minus negative ++ (shown ++ rest)) = (minus negative, shown ++ rest) := by
  cases negative with
  | true => rfl
  | false =>
      rw [show minus false = [] from rfl, List.nil_append]
      exact sign_of_digits hne hshown

theorem IsPower.head {exponent rest : List Char} (h : IsPower exponent)
    (hrest : ∀ c ∈ rest.head?, isNamePart c = false ∧ c ≠ '.') :
    ∀ c ∈ (exponent ++ rest).head?, c.isDigit = false ∧ c ≠ '.' := by
  intro c hc
  cases h with
  | none => exact ⟨isDigit_eq_false (hrest c hc).1, (hrest c hc).2⟩
  | power mark sgn shown hmark _ _ _ =>
      cases hc
      rcases hmark with rfl | rfl
      · decide
      · decide

theorem IsFraction.head {places rest : List Char} (h : IsFraction places)
    (hrest : ∀ c ∈ rest.head?, c.isDigit = false) :
    ∀ c ∈ (places ++ rest).head?, c.isDigit = false := by
  intro c hc
  cases h with
  | none => exact hrest c hc
  | point shown _ =>
      cases hc
      decide

/-- A number is read up to what stops it. -/
theorem number?_append (negative : Bool) {magnitude rest : List Char} (h : IsMagnitude magnitude)
    (hrest : Stops rest) :
    number? (minus negative ++ magnitude ++ rest) =
      some (.number (.ofList (minus negative ++ magnitude)), rest) := by
  cases h with
  | pieces whole places exponent hne hwhole hplaces hpower =>
      have hbehind : ∀ c ∈ rest.head?, isNamePart c = false ∧ c ≠ '.' :=
        fun c hc => ⟨(hrest.head hc).1, (hrest.head hc).2.1⟩
      have hpieces : minus negative ++ (whole ++ places ++ exponent) ++ rest =
          minus negative ++ (whole ++ (places ++ (exponent ++ rest))) := by
            simp only [List.append_assoc]
      have hafter := hpower.head hbehind
      rw [hpieces, number?, sign_append negative _ hne hwhole]
      dsimp only
      rw [digits_append hwhole (hplaces.head fun c hc => (hafter c hc).1)]
      dsimp only
      rw [fraction_append hplaces hafter]
      dsimp only
      rw [power_append hpower fun c hc => (hbehind c hc).1]
      simp [hne, hrest.goesOn, List.append_assoc]

/-- The characters of numbers. -/
theorem IsMagnitude.mem {magnitude : List Char} {c : Char} (h : IsMagnitude magnitude)
    (hc : c ∈ magnitude) : c.isDigit = true ∨ c ∈ ['.', 'e', 'E', '-', '+'] := by
  cases h with
  | pieces whole places exponent _ hwhole hplaces hpower =>
      rcases List.mem_append.1 hc with hc | hc
      · rcases List.mem_append.1 hc with hc | hc
        · exact .inl (hwhole c hc)
        · cases hplaces with
          | none => cases hc
          | point shown hshown =>
              rcases List.mem_cons.1 hc with rfl | hc
              · exact .inr (by decide)
              · exact .inl (hshown c hc)
      · cases hpower with
        | none => cases hc
        | power mark sgn shown hmark hsign _ hshown =>
            rcases List.mem_cons.1 hc with rfl | hc
            · rcases hmark with rfl | rfl <;> exact .inr (by decide)
            · rcases List.mem_cons.1 hc with rfl | hc
              · rcases hsign with rfl | rfl <;> exact .inr (by decide)
              · exact .inl (hshown c hc)

end Lexer

namespace Dialect

variable {d : Dialect} {rest : List Char}

open Lexer (Stops IsMagnitude minus)

/-! ### Literals -/

/-- A text is read up to its closing quote. -/
theorem readLiteral?_literal (d : Dialect) (s : String) (hrest : Stops rest) :
    d.readLiteral? ((d.literal s).toList ++ rest) = some (.text s, rest) := by
  have hread := d.readQuoted_escape s.toList fun hquote => (hrest.head hquote).2.2 rfl
  rw [literal, String.toList_ofList, List.cons_append, List.cons_append, List.append_assoc,
    List.singleton_append, readLiteral?, if_pos rfl, hread]
  simp

/-- A numeral is read up to where it stops. -/
theorem readLiteral?_number (d : Dialect) (negative : Bool) {magnitude : List Char}
    (h : IsMagnitude magnitude) (hrest : Stops rest) :
    d.readLiteral? (minus negative ++ magnitude ++ rest) =
      some (.number (.ofList (minus negative ++ magnitude)), rest) := by
  have hfirst : ∃ c more, minus negative ++ magnitude ++ rest = c :: more ∧ c ≠ textQuote ∧
      (c.isDigit ∨ c = '-' ∨ c = '+') := by
    cases negative with
    | true => exact ⟨'-', magnitude ++ rest, rfl, by decide, .inr (.inl rfl)⟩
    | false =>
        cases h with
        | pieces whole places exponent hne hwhole _ _ =>
            obtain ⟨c, more, rfl⟩ := List.exists_cons_of_ne_nil hne
            have hc := hwhole c List.mem_cons_self
            refine ⟨c, _, rfl, ?_, .inl hc⟩
            rintro rfl
            exact absurd hc (by decide)
  obtain ⟨c, more, hchars, hquote, hnumber⟩ := hfirst
  rw [← Lexer.number?_append negative h hrest, hchars, readLiteral?, if_neg hquote, if_pos hnumber]

/-- A keyword does not go on in what follows it. -/
theorem keyword?_append {word : String} (h : word ∈ Lexer.keywords) (hrest : Stops rest) :
    Lexer.keyword? (word.toList ++ rest) = some (.keyword word, rest) := by
  have hword : word.toList.all isNamePart = true ∧ Reader.foldWord word ∈ Lexer.keywords := by
    simp only [Lexer.keywords, List.mem_cons, List.not_mem_nil, or_false] at h
    rcases h with rfl | rfl | rfl
    all_goals decide
  obtain ⟨hall, hfold⟩ := hword
  have hparts := List.all_eq_true.1 hall
  have hstop : rest.takeWhile isNamePart = [] ∧ rest.dropWhile isNamePart = rest := by
    cases rest with
    | nil => exact ⟨rfl, rfl⟩
    | cons c rest => simp [(hrest.head (c := c) rfl).1]
  rw [Lexer.keyword?, List.takeWhile_append_of_pos hparts, List.dropWhile_append_of_pos hparts,
    hstop.1, hstop.2, List.append_nil, String.ofList_toList, if_pos hfold]

theorem readBytes?_of_front {front back chars : List Char}
    (hmarks : d.byteMarks? = some (front, back)) (hfront : chars.dropPrefix? front = none) :
    d.readBytes? chars = none := by
  rw [readBytes?, hmarks]
  simp [hfront]

theorem readBytes?_of_ne {c : Char} (hmark : c ≠ 'X') (hname : c ≠ 'H') :
    d.readBytes? (c :: rest) = none := by
  have hx : (c :: rest).dropPrefix? "X'".toList = none := by
    rw [show "X'".toList = ['X', textQuote] from rfl, List.dropPrefix?,
      if_neg (by simpa using hmark)]
  have hh : (c :: rest).dropPrefix? "HEXTORAW('".toList = none := by
    rw [show "HEXTORAW('".toList = 'H' :: "EXTORAW('".toList from rfl, List.dropPrefix?,
      if_neg (by simpa using hname)]
  cases d with
  | postgresql => rfl
  | oracle => exact readBytes?_of_front rfl hh
  | generic => exact readBytes?_of_front rfl hx
  | mysql => exact readBytes?_of_front rfl hx
  | sqlite => exact readBytes?_of_front rfl hx

/-- A keyword is read as one, in front of anything that ends a word. -/
theorem readLiteral?_keyword (d : Dialect) {word : String} (h : word ∈ Lexer.keywords)
    (hrest : Stops rest) : d.readLiteral? (word.toList ++ rest) = some (.keyword word, rest) := by
  have hfirst : ∀ word ∈ Lexer.keywords, ∃ c more, word.toList = c :: more ∧ c ≠ textQuote ∧
      ¬(c.isDigit ∨ c = '-' ∨ c = '+') ∧ c ≠ 'X' ∧ c ≠ 'H' := by
    intro word h
    simp only [Lexer.keywords, List.mem_cons, List.not_mem_nil, or_false] at h
    rcases h with rfl | rfl | rfl
    · exact ⟨'N', "ULL".toList, by decide⟩
    · exact ⟨'T', "RUE".toList, by decide⟩
    · exact ⟨'F', "ALSE".toList, by decide⟩
  obtain ⟨c, more, hword, hquote, hnumber, hmark, hname⟩ := hfirst word h
  rw [← keyword?_append h hrest, hword, List.cons_append, readLiteral?,
    if_neg hquote, if_neg hnumber, readBytes?_of_ne hmark hname]
  rfl

/-- Digits are read up to the closing quote. -/
theorem readQuoted_ofBytes {change : Char → Char} (h : Hex.Readable change) (data : Bytes)
    (hrest : rest.head? ≠ some textQuote) :
    readQuoted textQuote false ((Hex.ofBytes data).map change ++ textQuote :: rest) =
      some ((Hex.ofBytes data).map change, rest) := by
  have hread := generic.readQuoted_escape ((Hex.ofBytes data).map change) hrest
  rwa [Hex.escape_map_ofBytes h] at hread

/-- Digits between the marks of bytes are read as bytes. -/
theorem readLiteral?_marked {front back digits chars : List Char} {data : Bytes}
    (hmarks : d.byteMarks? = some (front, back)) (hdata : Hex.toBytes digits = .ok data)
    (hchars : chars = front ++ (digits ++ textQuote :: (back ++ rest)))
    (hquoted : readQuoted textQuote false (digits ++ textQuote :: (back ++ rest)) =
      some (digits, back ++ rest))
    (hletter : ∃ c more, front = c :: more ∧ c ≠ textQuote ∧ ¬(c.isDigit ∨ c = '-' ∨ c = '+')) :
    d.readLiteral? chars = some (.bytes data, rest) := by
  obtain ⟨c, more, rfl, hquote, hnumber⟩ := hletter
  have hfront : chars.dropPrefix? (c :: more) = some (digits ++ textQuote :: (back ++ rest)) := by
    rw [hchars]
    exact List.dropPrefix?_append_of_beq _ BEq.rfl
  have hback : (back ++ rest).dropPrefix? back = some rest :=
    List.dropPrefix?_append_of_beq _ BEq.rfl
  have hread : d.readBytes? chars = some (.bytes data, rest) := by
    simp [readBytes?, hmarks, hfront, hquoted, hdata, hback, Except.toOption]
  subst hchars
  rw [List.cons_append] at hread ⊢
  rw [readLiteral?, if_neg hquote, if_neg hnumber, hread]
  rfl

/-- Bytes are read back from their literal. -/
theorem readLiteral?_binaryLiteral (hd : d ≠ postgresql) (data : Bytes) (hrest : Stops rest) :
    d.readLiteral? ((d.binaryLiteral data).toList ++ rest) = some (.bytes data, rest) := by
  have hx : ∃ c more, "X'".toList = c :: more ∧ c ≠ textQuote ∧ ¬(c.isDigit ∨ c = '-' ∨ c = '+') :=
    ⟨'X', [textQuote], by decide⟩
  have hmarked (hmarks : d.byteMarks? = some ("X'".toList, []))
      (htext : d.binaryLiteral data = .ofList ('X' :: '\'' :: Hex.ofBytes data ++ ['\''])) :
      d.readLiteral? ((d.binaryLiteral data).toList ++ rest) = some (.bytes data, rest) := by
    have hbytes := Hex.toBytes_map_ofBytes Hex.readable_id data
    have hquoted :=
      readQuoted_ofBytes Hex.readable_id data fun hquote => (hrest.head hquote).2.2 rfl
    rw [List.map_id] at hbytes hquoted
    refine readLiteral?_marked hmarks hbytes ?_ hquoted hx
    rw [htext, String.toList_ofList]
    simp [textQuote]
  cases d with
  | postgresql => exact absurd rfl hd
  | generic => exact hmarked rfl rfl
  | mysql => exact hmarked rfl rfl
  | sqlite => exact hmarked rfl rfl
  | oracle =>
      have hbytes := Hex.toBytes_map_ofBytes Hex.readable_toUpper data
      have hhead : (")".toList ++ rest).head? ≠ some textQuote := by simp [textQuote]
      have hquoted := readQuoted_ofBytes Hex.readable_toUpper data hhead
      refine readLiteral?_marked rfl hbytes ?_ hquoted ⟨'H', "EXTORAW('".toList, by decide⟩
      change (String.ofList ("HEXTORAW('".toList ++ (Hex.ofBytes data).map Char.toUpper ++
        [textQuote, ')'])).toList ++ rest = _
      rw [String.toList_ofList]
      simp [textQuote]

end Dialect

end InsertScript
