import InsertScript.Proofs.Lexemes

/-!
# No value breaks out of its literal

Whatever a value is, its literal is read as one literal that ends where the value's text ends, as
long as a comma, a closing bracket, a blank or nothing follows (`LiteralStyle.readLiteral_write`).
What is read is what the value stands for: `LiteralStyle.Denotes` has a case for each kind of value.

Numbers stand bare, so for them the shape of what is written matters: integers, decimals and doubles
are digits with a point or a power of ten at most (`Lexer.IsNumeral`).
-/

namespace InsertScript

open Dialect (textQuote isNamePart)

namespace Lexer

/-! ### Numerals -/

/-- Are the characters digits, perhaps with a point among them? -/
def IsPlain (chars : List Char) : Prop :=
  ∃ whole places, chars = whole ++ places ∧ whole ≠ [] ∧ (∀ c ∈ whole, c.isDigit = true) ∧
    IsFraction places

/-- Are the characters a number, perhaps with a minus in front? -/
def IsNumeral (chars : List Char) : Prop :=
  ∃ negative magnitude, chars = minus negative ++ magnitude ∧ IsMagnitude magnitude

theorem IsPlain.magnitude {chars exponent : List Char} (h : IsPlain chars)
    (hpower : IsPower exponent) : IsMagnitude (chars ++ exponent) := by
  obtain ⟨whole, places, rfl, hne, hwhole, hplaces⟩ := h
  exact .pieces whole places exponent hne hwhole hplaces hpower

theorem IsPlain.numeral {chars : List Char} (h : IsPlain chars) (negative : Bool) :
    IsNumeral (minus negative ++ chars) := by
  have hmagnitude := h.magnitude .none
  rw [List.append_nil] at hmagnitude
  exact ⟨negative, chars, rfl, hmagnitude⟩

theorem isPlain_digits {shown : List Char} (hne : shown ≠ [])
    (hshown : ∀ c ∈ shown, c.isDigit = true) :
    IsPlain shown := ⟨shown, [], (List.append_nil shown).symm, hne, hshown, .none⟩

theorem isPlain_point (whole : List Char) {shown : List Char} (hne : whole ≠ [])
    (hwhole : ∀ c ∈ whole, c.isDigit = true) (hshown : ∀ c ∈ shown, c.isDigit = true) :
    IsPlain (whole ++ '.' :: shown) :=
  ⟨whole, '.' :: shown, rfl, hne, hwhole, .point shown hshown⟩

theorem isDigit_of_mem_zero : ∀ c ∈ ['0'], c.isDigit = true := by
  intro c hc
  rw [List.mem_singleton.1 hc]
  decide

theorem isDigit_of_mem_replicate {n : Nat} {c : Char} (hc : c ∈ List.replicate n '0') :
    c.isDigit = true := by
  rw [List.eq_of_mem_replicate hc]
  decide

theorem isDigit_append {first second : List Char} (hfirst : ∀ c ∈ first, c.isDigit = true)
    (hsecond : ∀ c ∈ second, c.isDigit = true) : ∀ c ∈ first ++ second, c.isDigit = true := by
  intro c hc
  rcases List.mem_append.1 hc with hc | hc
  · exact hfirst c hc
  · exact hsecond c hc

/-- A fraction without whole digits, as both ways to place a point write it. -/
theorem isPlain_fraction {shown : List Char} (zeros : Nat)
    (hshown : ∀ c ∈ shown, c.isDigit = true) :
    IsPlain ('0' :: '.' :: List.replicate zeros '0' ++ shown) :=
  isPlain_point ['0'] nofun isDigit_of_mem_zero
    (isDigit_append (fun _ hc => isDigit_of_mem_replicate hc) hshown)

/-- Digits that a point divides. -/
theorem isPlain_split {shown : List Char} {point : Nat} (hpoint : 0 < point) (hne : shown ≠ [])
    (hshown : ∀ c ∈ shown, c.isDigit = true) :
    IsPlain (shown.take point ++ '.' :: shown.drop point) := by
  refine isPlain_point _ ?_ (fun c hc => hshown c (List.mem_of_mem_take hc))
    fun c hc => hshown c (List.mem_of_mem_drop hc)
  rw [ne_eq, List.take_eq_nil_iff]
  rintro (hzero | hnil)
  · exact Nat.ne_of_gt hpoint hzero
  · exact hne hnil

end Lexer

open Lexer (IsPlain IsPower IsMagnitude IsNumeral minus)

namespace Numeral

theorem isDigit_toDigits (n : Nat) : ∀ c ∈ Nat.toDigits 10 n, c.isDigit = true :=
  fun _ hc => Dialect.isDigit_of_mem_toDigits hc

theorem isDigit_zeroPadded (width n : Nat) : ∀ c ∈ zeroPadded width n, c.isDigit = true :=
  Lexer.isDigit_append (fun _ hc => Lexer.isDigit_of_mem_replicate hc) (isDigit_toDigits n)

theorem isNumeral_toString (n : Int) : IsNumeral (toString n).toList := by
  cases n with
  | ofNat n =>
      have htext : (toString (Int.ofNat n)).toList = minus false ++ Nat.toDigits 10 n :=
        Nat.toList_repr
      rw [htext]
      exact (Lexer.isPlain_digits Nat.toDigits_ne_nil (isDigit_toDigits n)).numeral false
  | negSucc n =>
      have htext : (toString (Int.negSucc n)).toList = minus true ++ Nat.toDigits 10 (n + 1) := by
        change ("-" ++ (n + 1).repr).toList = _
        rw [String.toList_append, Nat.toList_repr]
        rfl
      rw [htext]
      exact (Lexer.isPlain_digits Nat.toDigits_ne_nil (isDigit_toDigits (n + 1))).numeral true

end Numeral

theorem integerText_eq {n : Int} {t : String} (h : integerText n = .ok t) : t = toString n := by
  rw [integerText, Numeral.writeInteger] at h
  split at h
  · cases h
    rfl
  · cases h

namespace Decimal

theorem isDigit_digitText (digits : List (Fin 10)) : ∀ c ∈ digitText digits, c.isDigit = true := by
  intro c hc
  obtain ⟨digit, -, rfl⟩ := List.mem_map.1 hc
  have hall : ∀ digit : Fin 10, (Nat.digitChar digit.val).isDigit = true := by decide
  exact hall digit

theorem isPlain_placePoint {digits : List Char} (point : Int) (hne : digits ≠ [])
    (hdigits : ∀ c ∈ digits, c.isDigit = true) : IsPlain (placePoint digits point) := by
  unfold placePoint
  split
  · exact Lexer.isPlain_fraction _ hdigits
  · rename_i hpoint
    split
    · refine Lexer.isPlain_digits ?_ (Lexer.isDigit_append hdigits fun _ hc =>
        Lexer.isDigit_of_mem_replicate hc)
      exact fun hnil => hne (List.append_eq_nil_iff.1 hnil).1
    · exact Lexer.isPlain_split (by omega) hne hdigits

theorem isPower_signed (mark : Char) (hmark : mark = 'e' ∨ mark = 'E') (n : Int) :
    IsPower (mark :: signed n) := by
  refine .power mark _ _ hmark ?_ Nat.toDigits_ne_nil (Numeral.isDigit_toDigits n.natAbs)
  split
  · exact .inl rfl
  · exact .inr rfl

theorem isMagnitude_magnitudeText (digits : List (Fin 10)) (exponent : Int) :
    IsMagnitude (magnitudeText digits exponent) := by
  have hshown : ∀ c ∈ (if digits.isEmpty then ['0'] else digitText digits), c.isDigit = true := by
    split
    · exact Lexer.isDigit_of_mem_zero
    · exact isDigit_digitText digits
  have hne : (if digits.isEmpty then ['0'] else digitText digits) ≠ [] := by
    cases digits with
    | nil => exact nofun
    | cons digit digits => exact nofun
  unfold magnitudeText
  generalize (if digits.isEmpty then ['0'] else digitText digits) = shown at hshown hne
  dsimp only
  split
  · have hplain := (isPlain_placePoint (exponent + shown.length) hne hshown).magnitude .none
    rwa [List.append_nil] at hplain
  · exact (isPlain_placePoint 1 hne hshown).magnitude (isPower_signed 'E' (.inr rfl) _)

theorem isNumeral_text {d : Decimal} (h : d.isFinite = true) : IsNumeral d.text.toList := by
  cases d with
  | finite negative digits exponent =>
      rw [text, String.toList_ofList]
      exact ⟨negative, _, rfl, isMagnitude_magnitudeText digits exponent⟩
  | infinite negative => cases h
  | notANumber negative signaling payload => cases h

end Decimal

namespace Binary64

theorem Layout.isPlain_plain {digits : List Char} (leading : Int) (hne : digits ≠ [])
    (hdigits : ∀ c ∈ digits, c.isDigit = true) : IsPlain (Layout.plain digits leading) := by
  unfold Layout.plain
  dsimp only
  split
  · exact Lexer.isPlain_fraction _ hdigits
  · rename_i hpoint
    split
    · refine Lexer.isPlain_point _ ?_
        (Lexer.isDigit_append hdigits fun _ hc => Lexer.isDigit_of_mem_replicate hc)
          Lexer.isDigit_of_mem_zero
      exact fun hnil => hne (List.append_eq_nil_iff.1 hnil).1
    · exact Lexer.isPlain_split (by omega) hne hdigits

theorem isPower_scientific (zeros : Nat) (n : Int) : IsPower ('e' ::
    (if n < 0 then '-' else '+') :: (List.replicate zeros '0' ++ Nat.toDigits 10 n.natAbs)) := by
  refine .power 'e' _ _ (.inl rfl) ?_ ?_ ?_
  · split
    · exact .inl rfl
    · exact .inr rfl
  · exact fun hnil => Nat.toDigits_ne_nil (List.append_eq_nil_iff.1 hnil).2
  · exact Lexer.isDigit_append (fun _ hc => Lexer.isDigit_of_mem_replicate hc)
      (Numeral.isDigit_toDigits _)

/-- Digits with a power are a magnitude. -/
theorem isMagnitude_scientific {digits : List Char} (leading : Int) (hne : digits ≠ [])
    (hdigits : ∀ c ∈ digits, c.isDigit = true) :
    IsMagnitude (usualLayout.scientific digits leading) := by
  have hbody : ∀ body, IsPlain body →
      IsMagnitude (body ++ usualLayout.mark :: (if leading < 0 then '-' else '+') ::
      List.replicate (usualLayout.exponentDigits - (Nat.toDigits 10 leading.natAbs).length) '0' ++
        Nat.toDigits 10 leading.natAbs) := by
    intro body hplain
    rw [List.append_assoc, List.cons_append, List.cons_append]
    exact hplain.magnitude (isPower_scientific _ leading)
  obtain ⟨first, more, rfl⟩ := List.exists_cons_of_ne_nil hne
  have hfirst : ∀ c ∈ [first], c.isDigit = true := by
    intro c hc
    rw [List.mem_singleton.1 hc]
    exact hdigits first List.mem_cons_self
  cases more with
  | nil => exact hbody [first] (Lexer.isPlain_digits nofun hfirst)
  | cons second more =>
      refine hbody (first :: '.' :: second :: more) ?_
      exact Lexer.isPlain_point [first] nofun hfirst fun c hc =>
        hdigits c (List.mem_cons_of_mem first hc)

theorem isMagnitude_write (digits : Nat) (place : Int) :
    IsMagnitude (usualLayout.write digits place) := by
  unfold Layout.write
  dsimp only
  split
  · have hplain :=
      (Layout.isPlain_plain (place + (Nat.toDigits 10 digits).length - 1) Nat.toDigits_ne_nil
      (Numeral.isDigit_toDigits digits)).magnitude .none
    rwa [List.append_nil] at hplain
  · exact isMagnitude_scientific _ Nat.toDigits_ne_nil (Numeral.isDigit_toDigits digits)

/-- The text of a finite double is a numeral. -/
theorem isNumeral_text {x : Binary64} (h : LiteralStyle.specialName? x = none) :
    IsNumeral x.text.toList := by
  have hnumber : x.isNaN = false ∧ x.isInfinite = false := by
    unfold LiteralStyle.specialName? at h
    split at h
    · cases h
    · rename_i hnan
      split at h
      · cases h
      · rename_i hinfinite
        exact ⟨Bool.eq_false_iff.2 hnan, Bool.eq_false_iff.2 hinfinite⟩
  have hsign : (if x.isNegative then "-" else "").toList = minus x.isNegative := by
    cases x.isNegative with
    | true => rfl
    | false => rfl
  rw [text, textWith, hnumber.1, hnumber.2]
  simp only [Bool.false_eq_true, if_false]
  split
  · rw [String.toList_append, hsign]
    exact (Lexer.isPlain_point ['0'] nofun Lexer.isDigit_of_mem_zero
      Lexer.isDigit_of_mem_zero).numeral _
  · rw [String.toList_append, hsign, String.toList_ofList]
    exact ⟨x.isNegative, _, rfl, isMagnitude_write _ _⟩

end Binary64

/-! ### Texts that are one literal -/

namespace Dialect

/-- Is the text one literal in front of whatever stops it? A keyword or a number stands as it is,
without quotes. -/
structure Writes (d : Dialect) (t : String) (lexeme : Lexeme) : Prop where
  read : ∀ rest, Lexer.Stops rest → d.readLiteral? (t.toList ++ rest) = some (lexeme, rest)
  bare : ∀ spelling, lexeme = .keyword spelling ∨ lexeme = .number spelling →
    spelling = t ∧ textQuote ∉ t.toList ∧ d.quote ∉ t.toList

theorem writes_text (d : Dialect) (s : String) : d.Writes (d.literal s) (.text s) where
  read _ hrest := d.readLiteral?_literal s hrest
  bare := nofun

theorem writes_keyword (d : Dialect) {word : String} (h : word ∈ Lexer.keywords) :
    d.Writes word (.keyword word) where
  read _ hrest := d.readLiteral?_keyword h hrest
  bare spelling hspelling := by
    have hplain : ∀ word ∈ Lexer.keywords, ∀ d : Dialect,
        textQuote ∉ word.toList ∧ d.quote ∉ word.toList := by
      intro word hword d
      simp only [Lexer.keywords, List.mem_cons, List.not_mem_nil, or_false] at hword
      rcases hword with rfl | rfl | rfl <;> cases d <;> decide
    rcases hspelling with hspelling | hspelling
    · cases hspelling
      exact ⟨rfl, hplain _ h d⟩
    · cases hspelling

/-- A numeral stands for itself as a literal of any dialect. -/
theorem writes_number (d : Dialect) {t : String} (h : IsNumeral t.toList) :
    d.Writes t (.number t) where
  read rest hrest := by
    obtain ⟨negative, magnitude, htext, hmagnitude⟩ := h
    rw [htext, d.readLiteral?_number negative hmagnitude hrest, ← htext, String.ofList_toList]
  bare spelling hspelling := by
    have hplain : ∀ c ∈ t.toList, c.isDigit = true ∨ c ∈ ['.', 'e', 'E', '-', '+'] := by
      obtain ⟨negative, magnitude, htext, hmagnitude⟩ := h
      intro c hc
      rw [htext] at hc
      rcases List.mem_append.1 hc with hc | hc
      · cases negative with
        | true =>
            rw [List.mem_singleton.1 hc]
            exact .inr (by decide)
        | false => cases hc
      · exact hmagnitude.mem hc
    rcases hspelling with hspelling | hspelling
    · cases hspelling
    · cases hspelling
      refine ⟨rfl, fun hquote => ?_, fun hquote => ?_⟩
      · exact absurd (hplain _ hquote) (by decide)
      · have hnone : ¬(d.quote.isDigit = true ∨ d.quote ∈ ['.', 'e', 'E', '-', '+']) := by
          cases d <;> decide
        exact hnone (hplain _ hquote)

theorem writes_bytes {d : Dialect} (hd : d ≠ postgresql) (data : Bytes) :
    d.Writes (d.binaryLiteral data) (.bytes data) where
  read _ hrest := readLiteral?_binaryLiteral hd data hrest
  bare := nofun

end Dialect

/-! ### Values -/

/-- The bytes that a value is. -/
def Value.data? : Value → Option Bytes
  | .bytes data | .buffer data | .view data => some data
  | _ => none

namespace LiteralStyle

/-- What the literal of a value stands for. -/
inductive Denotes (style : LiteralStyle) : Value → Lexeme → Prop where
  | null : Denotes style .null (.keyword "NULL")
  | bool (b : Bool) : Denotes style (.bool b) (.keyword (if b then "TRUE" else "FALSE"))
  | int (n : Int) : Denotes style (.int n) (.number (toString n))
  | float (x : Binary64) (hfinite : specialName? x = none) :
      Denotes style (.float x) (.number x.text)
  | specialFloat (x : Binary64) (name : String) (hname : specialName? x = some name) :
      Denotes style (.float x) (.text name)
  | decimal (d : Decimal) (hfinite : d.isFinite = true) :
      Denotes style (.decimal d) (.number d.text)
  | specialDecimal (d : Decimal) (hspecial : d.isFinite = false) :
      Denotes style (.decimal d) (.text d.text)
  | uuid (u : Uuid) : Denotes style (.uuid u) (.text u.text)
  | bytes (v : Value) (data : Bytes) (hdata : v.data? = some data)
      (hdialect : style.dialect ≠ .postgresql) : Denotes style v (.bytes data)
  /-- PostgreSQL has a text with the digits of the bytes. -/
  | byteText (v : Value) (data : Bytes) (digits : List Char) (hdata : v.data? = some data)
      (hdialect : style.dialect = .postgresql) (hdigits : Hex.toBytes digits = .ok data) :
      Denotes style v (.text (.ofList ('\\' :: 'x' :: digits)))
  | text (s : String) : Denotes style (.text s) (.text s)
  | list (items : List Value) (json : String) (hjson : Json.write (.list items) = .ok json) :
      Denotes style (.list items) (.text json)
  | dict (entries : List (Value × Value)) (json : String)
      (hjson : Json.write (.dict entries) = .ok json) : Denotes style (.dict entries) (.text json)
  | temporal (v : Value) (filled standard : String) (hfilled : style.filled? v = some filled)
      (hstandard : standard? v = some standard) :
      Denotes style v (.text (if style.isNative then standard else filled))
  | other (v : Value) (shown : String) (hother : isFamiliar v = false)
      (hshown : v.display = .ok shown) : Denotes style v (.text shown)

theorem writes_quote (style : LiteralStyle) (s : String) :
    style.dialect.Writes (style.quote s) (.text s) :=
  style.dialect.writes_text s

/-- Bytes of any type are written in the form of the dialect. -/
theorem exists_writes_bytes (style : LiteralStyle) {v : Value} {data : Bytes}
    (hdata : v.data? = some data) :
    ∃ lexeme, style.Denotes v lexeme ∧
      style.dialect.Writes (style.dialect.binaryLiteral data) lexeme := by
  by_cases hd : style.dialect = .postgresql
  · have hdigits := Hex.toBytes_map_ofBytes Hex.readable_id data
    rw [List.map_id] at hdigits
    refine ⟨_, .byteText v data _ hdata hd hdigits, ?_⟩
    rw [hd, Dialect.binaryLiteral_postgresql]
    exact Dialect.postgresql.writes_text _
  · exact ⟨_, .bytes v data hdata hd, Dialect.writes_bytes hd data⟩

theorem exists_writes_of_map (style : LiteralStyle) {shown? : Except Failure String} {t : String}
    (h : shown?.map style.quote = .ok t) :
    ∃ shown, shown? = .ok shown ∧ style.dialect.Writes t (.text shown) := by
  cases shown? with
  | error failure => cases h
  | ok shown =>
      cases h
      exact ⟨shown, rfl, style.writes_quote shown⟩

theorem exists_writes_temporal (style : LiteralStyle) {v : Value} {filled standard : String}
    (hfilled : style.filled? v = some filled) (hstandard : standard? v = some standard) :
    ∃ lexeme, style.Denotes v lexeme ∧
      style.dialect.Writes (style.temporal .native filled standard) lexeme := by
  refine ⟨_, .temporal v filled standard hfilled hstandard, ?_⟩
  rw [temporal, if_pos rfl]
  exact style.writes_quote _

theorem exists_writes_other (style : LiteralStyle) {v : Value} {t : String}
    (hother : isFamiliar v = false) (h : v.display.map style.quote = .ok t) :
    ∃ lexeme, style.Denotes v lexeme ∧ style.dialect.Writes t lexeme := by
  obtain ⟨shown, hshown, hwrites⟩ := style.exists_writes_of_map h
  exact ⟨_, .other v shown hother hshown, hwrites⟩

/-- Every text that is written is one literal, and stands for the value. -/
theorem exists_writes (style : LiteralStyle) {v : Value} {t : String}
    (h : style.write .native v = .ok t) :
    ∃ lexeme, style.Denotes v lexeme ∧ style.dialect.Writes t lexeme := by
  cases v with
  | null =>
      obtain rfl := Except.ok.inj h
      exact ⟨_, .null, style.dialect.writes_keyword (by decide : "NULL" ∈ Lexer.keywords)⟩
  | bool b =>
      obtain rfl := Except.ok.inj h
      refine ⟨_, .bool b, style.dialect.writes_keyword ?_⟩
      cases b <;> decide
  | int n =>
      cases integerText_eq h
      exact ⟨_, .int n, style.dialect.writes_number (Numeral.isNumeral_toString n)⟩
  | float x =>
      cases hname : specialName? x with
      | none =>
          rw [write, hname] at h
          cases h
          exact ⟨_, .float x hname, style.dialect.writes_number (Binary64.isNumeral_text hname)⟩
      | some name =>
          rw [write, hname] at h
          cases h
          exact ⟨_, .specialFloat x name hname, style.writes_quote name⟩
  | decimal d =>
      by_cases hfinite : d.isFinite = true
      · rw [write, if_pos hfinite] at h
        cases h
        exact ⟨_, .decimal d hfinite, style.dialect.writes_number (Decimal.isNumeral_text hfinite)⟩
      · rw [write, if_neg hfinite] at h
        cases h
        exact ⟨_, .specialDecimal d (Bool.eq_false_iff.2 hfinite), style.writes_quote d.text⟩
  | uuid u =>
      obtain rfl := Except.ok.inj h
      exact ⟨_, .uuid u, style.writes_quote u.text⟩
  | bytes data =>
      obtain rfl := Except.ok.inj h
      exact style.exists_writes_bytes rfl
  | buffer data =>
      obtain rfl := Except.ok.inj h
      exact style.exists_writes_bytes rfl
  | view data =>
      obtain rfl := Except.ok.inj h
      exact style.exists_writes_bytes rfl
  | text s =>
      obtain rfl := Except.ok.inj h
      exact ⟨_, .text s, style.writes_quote s⟩
  | list items =>
      obtain ⟨json, hjson, hwrites⟩ := style.exists_writes_of_map h
      exact ⟨_, .list items json hjson, hwrites⟩
  | dict entries =>
      obtain ⟨json, hjson, hwrites⟩ := style.exists_writes_of_map h
      exact ⟨_, .dict entries json hjson, hwrites⟩
  | moment m =>
      obtain rfl := Except.ok.inj h
      exact style.exists_writes_temporal rfl rfl
  | date d =>
      obtain rfl := Except.ok.inj h
      exact style.exists_writes_temporal rfl rfl
  | clock time offset =>
      obtain rfl := Except.ok.inj h
      exact style.exists_writes_temporal rfl rfl
  | duration d => exact style.exists_writes_other rfl h
  | tuple items => exact style.exists_writes_other rfl h
  | object typeName shown => exact style.exists_writes_other rfl h
  | path p => exact style.exists_writes_other rfl h
  | content c => exact style.exists_writes_other rfl h

/-- Nothing breaks out of its literal: it is read as one literal, and what follows is left as it
is. -/
theorem readLiteral_write (style : LiteralStyle) {v : Value} {t : String} {rest : List Char}
    (hwrite : style.write .native v = .ok t) (hrest : Lexer.Stops rest) :
    ∃ lexeme, style.Denotes v lexeme ∧
      style.dialect.readLiteral? (t.toList ++ rest) = some (lexeme, rest) ∧
      ∀ spelling, lexeme = .keyword spelling ∨ lexeme = .number spelling →
        spelling = t ∧ textQuote ∉ t.toList ∧ style.dialect.quote ∉ t.toList := by
  obtain ⟨lexeme, hdenotes, hwrites⟩ := style.exists_writes hwrite
  exact ⟨lexeme, hdenotes, hwrites.read rest hrest, hwrites.bare⟩

/-- A text that tries to end its literal and to go on with a statement. -/
theorem readLiteral_write_injection :
    (LiteralStyle.write { dialect := .mysql } .native (.text "\\', 1); DROP --") =
      .ok "'\\\\'', 1); DROP --'") ∧ Lexer.Stops ", 2);".toList ∧
      ∃ lexeme, LiteralStyle.Denotes { dialect := .mysql } (.text "\\', 1); DROP --") lexeme ∧
        Dialect.mysql.readLiteral? ("'\\\\'', 1); DROP --'".toList ++ ", 2);".toList) =
          some (lexeme, ", 2);".toList) ∧
        ∀ spelling, lexeme = .keyword spelling ∨ lexeme = .number spelling →
          spelling = "'\\\\'', 1); DROP --'" ∧ textQuote ∉ "'\\\\'', 1); DROP --'".toList ∧
            Dialect.mysql.quote ∉ "'\\\\'', 1); DROP --'".toList := by
  have hwrite : LiteralStyle.write { dialect := .mysql } .native (.text "\\', 1); DROP --") =
      .ok "'\\\\'', 1); DROP --'" := by rfl
  have hrest : Lexer.Stops ", 2);".toList := by
    intro c hc
    cases hc
    exact .inl rfl
  exact ⟨hwrite, hrest, readLiteral_write { dialect := .mysql } hwrite hrest⟩

end LiteralStyle

end InsertScript
