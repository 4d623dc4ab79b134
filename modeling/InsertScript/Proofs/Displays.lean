import InsertScript.Proofs.Patterns
import InsertScript.Proofs.Shown

/-!
# Values that are displayed

Where dates and times are wanted for display, whoever writes the cells puts marks around the text
that the renderer hands out. That gives one literal if the text stands bare and has nothing to be
escaped in it (`CellWriter.displaysFaithfully_iff`). Dates and times of day have such texts, numbers
and truth values too, and moments if their pattern has nothing to be escaped once the name of their
zone is in it. What has marks of its own is torn between the two pairs of them.
-/

namespace InsertScript

open Dialect (textQuote)
open Lexer (IsNumeral)

/-! ### Texts that need no escape -/

namespace Dialect

variable {d : Dialect} {c : Char} {text : List Char}

theorem escapeChar_eq_singleton_iff :
    d.escapeChar c = [c] ↔ c ≠ textQuote ∧ (d = mysql → c ≠ '\\') := by
  rw [escapeChar_eq, escapes]
  by_cases hquote : c = textQuote
  · simp [hquote]
  · by_cases hback : c = '\\'
    · cases d <;> simp [hback, textQuote]
    · simp [hquote, hback]

theorem exists_escapeChar (d : Dialect) (c : Char) : ∃ more, d.escapeChar c = c :: more := by
  rw [escapeChar_eq]
  split
  · exact ⟨[c], rfl⟩
  · exact ⟨[], rfl⟩

theorem length_le_escape (d : Dialect) (text : List Char) :
    text.length ≤ (d.escape text).length := by
  induction text with
  | nil => simp
  | cons c text ih =>
      obtain ⟨more, hmore⟩ := d.exists_escapeChar c
      rw [escape_cons, hmore, List.cons_append, List.length_cons, List.length_cons,
        List.length_append]
      omega

/-- Escaping leaves a text alone exactly if it leaves each of its characters alone. -/
theorem escape_eq_self_iff : d.escape text = text ↔ ∀ c ∈ text, d.escapeChar c = [c] := by
  constructor
  · intro h
    induction text with
    | nil => nofun
    | cons c text ih =>
        obtain ⟨more, hmore⟩ := d.exists_escapeChar c
        rw [escape_cons, hmore, List.cons_append, List.cons_inj_right] at h
        -- a character more than there was cannot be made up for
        obtain rfl : more = [] := by
          have hlength := congrArg List.length h
          have hlong := d.length_le_escape text
          rw [List.length_append] at hlength
          exact List.eq_nil_of_length_eq_zero (by omega)
        intro x hx
        rcases List.mem_cons.1 hx with rfl | hx
        · exact hmore
        · exact ih h x hx
  · intro h
    rw [escape, List.flatMap_congr h, List.flatMap_singleton']

/-- There is nothing to escape in a numeral. -/
theorem escape_numeral (d : Dialect) {chars : List Char} (h : IsNumeral chars) :
    d.escape chars = chars := by
  obtain ⟨negative, magnitude, rfl, hmagnitude⟩ := h
  rw [escape_eq_self_iff]
  have hplain : ∀ x, x.isDigit = true ∨ x ∈ ['.', 'e', 'E', '-', '+'] → d.escapeChar x = [x] := by
    intro x hx
    rw [escapeChar_eq_singleton_iff]
    constructor
    · rintro rfl
      exact absurd hx (by decide)
    · rintro - rfl
      exact absurd hx (by decide)
  intro c hc
  rcases List.mem_append.1 hc with hc | hc
  · refine hplain c (.inr ?_)
    cases negative with
    | true =>
        rw [List.mem_singleton.1 hc]
        decide
    | false => cases hc
  · exact hplain c (hmagnitude.mem hc)

end Dialect

/-! ### Patterns -/

namespace Pattern

theorem escapeChar_of_isMark {c : Char} (d : Dialect) (h : isMark c = false) :
    d.escapeChar c = [c] := by
  rw [← Bool.not_eq_true, isMark_iff, not_or] at h
  exact Dialect.escapeChar_eq_singleton_iff.2 ⟨h.1, fun _ => h.2⟩

/-- Only marks are escaped. -/
theorem forall_escapeChar_iff (d : Dialect) (chars : List Char) :
    (∀ c ∈ chars, d.escapeChar c = [c]) ↔
      ∀ c, isMark c = true → c ∈ chars → d.escapeChar c = [c] := by
  constructor
  · exact fun h c _ hc => h c hc
  · intro h c hc
    cases hmark : isMark c with
    | false => exact escapeChar_of_isMark d hmark
    | true => exact h c hmark hc

/-- A text is made of all pieces, unless there is no room for it. -/
theorem fill_cases (m : Moment) (pattern : List Char) : fill m pattern = [] ∨
    fill m pattern = (pieces none (prepare m pattern)).flatMap (Piece.write m) := by
  unfold fill
  dsimp only
  split
  · exact .inl rfl
  · exact .inr rfl

/-- A filled pattern has nothing to be escaped exactly if the pattern has nothing once the name of
the zone is in it, or if nothing is written for lack of room. -/
theorem escape_fill_iff (d : Dialect) (m : Moment) (pattern : List Char) :
    d.escape (fill m pattern) = fill m pattern ↔
      (∀ c ∈ prepare m pattern, d.escapeChar c = [c]) ∨ fill m pattern = [] := by
  rcases fill_cases m pattern with hempty | htext
  · simp [hempty]
  · have hsame : (∀ c ∈ fill m pattern, d.escapeChar c = [c]) ↔
        ∀ c ∈ prepare m pattern, d.escapeChar c = [c] := by
      rw [forall_escapeChar_iff, forall_escapeChar_iff d (prepare m pattern), htext]
      refine forall₂_congr fun c hmark => ?_
      rw [mem_write_pieces_iff hmark m (by simp)]
    rw [Dialect.escape_eq_self_iff, hsame]
    constructor
    · exact .inl
    · rintro (h | hempty)
      · exact h
      · rw [← hsame, hempty]
        exact nofun

end Pattern

/-! ### Texts between marks -/

/-- A text with marks around it. -/
def enclosed (t : String) : String := CellWriter.mark ++ t ++ CellWriter.mark

namespace Dialect

variable {d : Dialect} {t s : String}

theorem toList_enclosed (t : String) :
    (enclosed t).toList = textQuote :: (t.toList ++ [textQuote]) := by
  rw [enclosed, String.toList_append, String.toList_append]
  rfl

/-- Marks around an escaped text make its literal. -/
theorem enclosed_of_escape {text : List Char} (h : t.toList = d.escape text) :
    enclosed t = d.literal (.ofList text) := by
  rw [← String.toList_inj, toList_enclosed, h, literal, String.toList_ofList, String.toList_ofList,
    List.cons_append]

theorem enclosed_of_escape_self (h : d.escape t.toList = t.toList) : enclosed t = d.literal t := by
  rw [enclosed_of_escape h.symm, String.ofList_toList]

theorem escape_self_of_enclosed {text : List Char}
    (h : enclosed (.ofList text) = d.literal (.ofList text)) : d.escape text = text := by
  rw [← String.toList_inj, toList_enclosed, literal, String.toList_ofList,
    String.toList_ofList] at h
  simpa using h.symm

/-- A single mark inside ends the literal before its end. -/
theorem not_writes_enclosed {text rest : List Char} {c : Char} (hc : c ≠ textQuote)
    (ht : t.toList = d.escape text ++ textQuote :: c :: rest) :
    ¬∃ lexeme, d.Writes (enclosed t) lexeme := by
  rintro ⟨lexeme, hwrites⟩
  have hread := hwrites.read [] (by simp [Lexer.Stops])
  have hnext : (c :: (rest ++ [textQuote])).head? ≠ some textQuote := by simpa using hc
  have hchars :
      (enclosed t).toList ++ [] = textQuote ::
      (d.escape text ++ textQuote :: c :: (rest ++ [textQuote])) := by
    rw [toList_enclosed, ht]
    simp
  rw [hchars, readLiteral?, if_pos rfl, d.readQuoted_escape text hnext] at hread
  simp at hread

theorem escape_quotes (d : Dialect) (n : Nat) :
    d.escape (List.replicate n textQuote) = List.replicate (2 * n) textQuote := by
  induction n with
  | zero => rfl
  | succ n ih =>
      rw [List.replicate_succ, escape_cons, ih, Nat.mul_succ, List.replicate_succ,
        List.replicate_succ]
      rfl

/-- Marks move through marks. -/
theorem quote_cons_escape_quotes (d : Dialect) (n : Nat) (rest : List Char) :
    textQuote :: (d.escape (List.replicate n textQuote) ++ rest) =
      d.escape (List.replicate n textQuote) ++ textQuote :: rest := by
  rw [escape_quotes, ← List.cons_append, ← List.replicate_succ, List.replicate_succ',
    List.append_assoc, List.singleton_append]

/-- The first character that is no mark. -/
theorem exists_quotes_append {chars : List Char} {c : Char} (hc : c ∈ chars) (hne : c ≠ textQuote) :
    ∃ n x rest, x ≠ textQuote ∧ chars = List.replicate n textQuote ++ x :: rest := by
  induction chars with
  | nil => cases hc
  | cons x chars ih =>
      by_cases hx : x = textQuote
      · have hmem : c ∈ chars := (List.mem_cons.1 hc).resolve_left fun h => hne (h.trans hx)
        obtain ⟨n, y, rest, hy, rfl⟩ := ih hmem
        exact ⟨n + 1, y, rest, hy, by rw [hx, List.replicate_succ, List.cons_append]⟩
      · exact ⟨0, x, chars, hx, rfl⟩

/-- A literal between marks is one literal only if it has nothing but marks. -/
theorem writes_enclosed_literal_iff : (∃ lexeme, d.Writes (enclosed (d.literal s)) lexeme) ↔
    ∀ c ∈ s.toList, c = textQuote := by
  constructor
  · intro h c hc
    by_contra hne
    obtain ⟨n, x, rest, hx, hs⟩ := exists_quotes_append hc hne
    obtain ⟨more, hmore⟩ := d.exists_escapeChar x
    have hchars : (d.literal s).toList =
        d.escape (List.replicate n textQuote) ++ textQuote :: x ::
          (more ++ (d.escape rest ++ [textQuote])) := by
      rw [← quote_cons_escape_quotes, literal, String.toList_ofList, hs, escape_append,
        escape_cons, hmore]
      simp
    exact not_writes_enclosed hx hchars h
  · intro h
    have hs : s.toList = List.replicate s.toList.length textQuote :=
      List.eq_replicate_iff.2 ⟨rfl, h⟩
    have hescape :
        (d.literal s).toList = d.escape (List.replicate (s.toList.length + 1) textQuote) := by
      rw [literal, String.toList_ofList, hs]
      generalize s.toList.length = n
      rw [List.length_replicate, List.cons_append, quote_cons_escape_quotes, escape_quotes,
        List.replicate_succ', escape_append, escape_quotes]
      rfl
    rw [enclosed_of_escape hescape]
    exact ⟨_, d.writes_text _⟩

theorem writes_enclosed_noBytes (hd : d ≠ postgresql) :
    ∃ lexeme, d.Writes (enclosed (d.binaryLiteral [])) lexeme := by
  have hone {text : List Char} (h : (d.binaryLiteral []).toList = d.escape text) :
      ∃ lexeme, d.Writes (enclosed (d.binaryLiteral [])) lexeme := by
    rw [enclosed_of_escape h]
    exact ⟨_, d.writes_text _⟩
  cases d with
  | postgresql => exact absurd rfl hd
  | oracle => exact hone (by decide : _ = oracle.escape "HEXTORAW(')".toList)
  | generic => exact hone (by decide : _ = generic.escape "X'".toList)
  | mysql => exact hone (by decide : _ = mysql.escape "X'".toList)
  | sqlite => exact hone (by decide : _ = sqlite.escape "X'".toList)

/-- A mark in front of digits ends the literal. -/
theorem not_writes_enclosed_digits {change : Char → Char} (h : Hex.Readable change)
    {front back : List Char} {byte : UInt8} {data : Bytes}
    (ht : t.toList = d.escape front ++ textQuote ::
      ((Hex.ofBytes (byte :: data)).map change ++ back)) :
    ¬∃ lexeme, d.Writes (enclosed t) lexeme := by
  have hbyte := byte.toNat_lt
  have hdigit := (h (byte.toNat / 16) (by omega)).2.2.2
  rw [Hex.map_ofBytes_cons, List.cons_append] at ht
  exact not_writes_enclosed (escapeChar_eq_singleton_iff.1 hdigit).1 ht

/-- Between quotes the literal of bytes is no literal any more, unless it is one of PostgreSQL. -/
theorem not_writes_enclosed_bytes (hd : d ≠ postgresql) (byte : UInt8) (data : Bytes) :
    ¬∃ lexeme, d.Writes (enclosed (d.binaryLiteral (byte :: data))) lexeme := by
  have hmarked (hfront : d.escape ['X'] = ['X'])
      (htext : d.binaryLiteral (byte :: data) =
        .ofList ('X' :: '\'' :: Hex.ofBytes (byte :: data) ++ ['\''])) :
      ¬∃ lexeme, d.Writes (enclosed (d.binaryLiteral (byte :: data))) lexeme := by
    have hchars : (d.binaryLiteral (byte :: data)).toList =
        d.escape ['X'] ++ textQuote :: ((Hex.ofBytes (byte :: data)).map id ++ ['\'']) := by
      rw [htext, String.toList_ofList, hfront, List.map_id]
      rfl
    exact not_writes_enclosed_digits Hex.readable_id hchars
  cases d with
  | postgresql => exact absurd rfl hd
  | generic => exact hmarked rfl rfl
  | mysql => exact hmarked rfl rfl
  | sqlite => exact hmarked rfl rfl
  | oracle =>
      have hchars : (oracle.binaryLiteral (byte :: data)).toList =
          oracle.escape "HEXTORAW(".toList ++
          textQuote :: ((Hex.ofBytes (byte :: data)).map Char.toUpper ++ ['\'', ')']) := by
        have hfront : "HEXTORAW('".toList = oracle.escape "HEXTORAW(".toList ++ [textQuote] := by
          decide
        change (String.ofList ("HEXTORAW('".toList ++
          (Hex.ofBytes (byte :: data)).map Char.toUpper ++ [textQuote, ')'])).toList = _
        rw [String.toList_ofList, hfront, List.append_assoc, List.append_assoc]
        rfl
      exact not_writes_enclosed_digits Hex.readable_toUpper hchars

/-- The form of bytes between marks is one literal only if there are no bytes, and it is no literal
itself. -/
theorem writes_enclosed_binaryLiteral_iff {data : Bytes} :
    (∃ lexeme, d.Writes (enclosed (d.binaryLiteral data)) lexeme) ↔ d ≠ postgresql ∧ data = [] := by
  by_cases hd : d = postgresql
  · subst hd
    rw [binaryLiteral_postgresql, writes_enclosed_literal_iff, String.toList_ofList]
    have hback : '\\' ≠ textQuote := by decide
    simp [hback]
  · cases data with
    | nil => simp [hd, writes_enclosed_noBytes hd]
    | cons byte data => simp [not_writes_enclosed_bytes hd]

theorem writes_enclosed (h : d.escape t.toList = t.toList) :
    ∃ lexeme, d.Writes (enclosed t) lexeme := by
  rw [enclosed_of_escape_self h]
  exact ⟨_, d.writes_text t⟩

end Dialect

/-! ### Values -/

theorem Json.hasOther_write {v : Value} {json : String} (h : Json.write v = .ok json)
    (hnested : (∃ items, v = .list items) ∨ ∃ entries, v = .dict entries) : HasOther json := by
  obtain ⟨items, rfl⟩ | ⟨entries, rfl⟩ := hnested
  · rw [Json.write] at h
    exact .of_bind_pure h fun _ =>
      (HasOther.append_left ⟨'[', by decide, by decide⟩ _).append_left _
  · rw [Json.write] at h
    exact .of_bind_pure h fun _ =>
      (HasOther.append_left ⟨'\x7b', by decide, by decide⟩ _).append_left _

namespace LiteralStyle

variable {style : LiteralStyle} {v : Value} {t : String}

theorem hasOther_specialName {x : Binary64} {name : String} (h : specialName? x = some name) :
    HasOther name := by
  unfold specialName? at h
  split at h
  · cases h
    exact ⟨'N', by decide, by decide⟩
  · split at h
    · cases h
      split
      · exact ⟨'I', by decide, by decide⟩
      · exact ⟨'I', by decide, by decide⟩
    · cases h

/-- The values whose text for display is one literal once there are marks around it. -/
inductive Displays (style : LiteralStyle) : Value → Prop where
  | bool (b : Bool) : Displays style (.bool b)
  | int (n : Int) : Displays style (.int n)
  | float (x : Binary64) (hfinite : specialName? x = none) : Displays style (.float x)
  | decimal (d : Decimal) (hfinite : d.isFinite = true) : Displays style (.decimal d)
  | date (d : Date) : Displays style (.date d)
  | clock (time : Clock) (offset : Option Int) : Displays style (.clock time offset)
  /-- The pattern has nothing to be escaped once the name of the zone is in it. -/
  | moment (m : Moment) (hpattern : ∀ c ∈ Pattern.prepare m style.momentPattern.toList,
      style.dialect.escapeChar c = [c]) : Displays style (.moment m)
  /-- The pattern has widths for which there is no room. -/
  | crowded (m : Moment) (hroom : Pattern.fill m style.momentPattern.toList = []) :
      Displays style (.moment m)
  | noBytes (v : Value) (hdata : v.data? = some []) (hdialect : style.dialect ≠ .postgresql) :
      Displays style v
  | marks (s : String) (hmarks : ¬HasOther s) : Displays style (.text s)
  | shownMarks (typeName s : String) (hmarks : ¬HasOther s) : Displays style (.object typeName s)

/-- A moment whose pattern has nothing to be escaped is displayed if the name of its zone has
nothing either. -/
theorem displays_moment_of_escape {m : Moment}
    (hpattern : style.dialect.escape style.momentPattern.toList = style.momentPattern.toList)
    (hzone : style.dialect.escape m.zoneName = m.zoneName) : style.Displays (.moment m) := by
  rw [Dialect.escape_eq_self_iff] at hpattern hzone
  refine .moment m ((Pattern.forall_escapeChar_iff _ _).2 fun c hmark hc => ?_)
  exact (Pattern.mem_of_mem_prepare hmark hc).elim (hpattern c) (hzone c)

example : ¬LiteralStyle.Displays { momentPattern := "%Z" }
    (.moment { date := ⟨2024, 3, 15⟩, offset := some 3600, zoneName? := some "it's" }) := by
  intro h
  cases h with
  | moment _ hpattern => exact absurd (hpattern textQuote (by decide)) (by decide)
  | crowded _ hroom => exact absurd hroom (by decide)
  | noBytes _ hdata _ => cases hdata

/-- Is the text one literal once there are marks around it, and for dates and times the one of a
script? -/
structure DisplaysAs (style : LiteralStyle) (v : Value) (t : String) : Prop where
  isLiteral : ∃ lexeme, style.dialect.Writes (enclosed t) lexeme
  isTemporal : ∀ filled, style.filled? v = some filled →
    { style with isNative := false }.write .native v = .ok (enclosed t)

theorem escape_word (d : Dialect) {word : String} (h : word ∈ Lexer.keywords) :
    d.escape word.toList = word.toList := by
  simp only [Lexer.keywords, List.mem_cons, List.not_mem_nil, or_false] at h
  obtain rfl | rfl | rfl := h
  all_goals cases d <;> decide

theorem displaysAs_iff (hother : style.filled? v = none) :
    style.DisplaysAs v t ↔ ∃ lexeme, style.dialect.Writes (enclosed t) lexeme := by
  constructor
  · exact DisplaysAs.isLiteral
  · intro h
    refine ⟨h, fun filled hfilled => ?_⟩
    rw [hother] at hfilled
    cases hfilled

theorem displaysAs_quote_iff {s : String} (hother : style.filled? v = none) :
    style.DisplaysAs v (style.quote s) ↔ ¬HasOther s := by
  rw [displaysAs_iff hother, quote, Dialect.writes_enclosed_literal_iff, HasOther]
  simp

theorem DisplaysAs.of_escape (h : style.dialect.escape t.toList = t.toList)
    (hother : style.filled? v = none) :
    style.DisplaysAs v t := (displaysAs_iff hother).2 (Dialect.writes_enclosed h)

/-- A date or time whose text needs no escape. -/
theorem DisplaysAs.of_pattern {m : Moment} {pattern : List Char}
    (hpattern : (∀ c ∈ Pattern.prepare m pattern, style.dialect.escapeChar c = [c]) ∨
      Pattern.fill m pattern = [])
    (hwrite : { style with isNative := false }.write .native v =
      .ok (style.quote (.ofList (Pattern.fill m pattern)))) :
    style.DisplaysAs v (.ofList (Pattern.fill m pattern)) := by
  have hescape : style.dialect.escape (String.ofList (Pattern.fill m pattern)).toList =
      (String.ofList (Pattern.fill m pattern)).toList := by
    rw [String.toList_ofList]
    exact (Pattern.escape_fill_iff style.dialect m pattern).2 hpattern
  refine ⟨Dialect.writes_enclosed hescape, fun _ _ => ?_⟩
  rw [hwrite, quote, Dialect.enclosed_of_escape_self hescape]

theorem write_of_data? (style : LiteralStyle) {data : Bytes} (hdata : v.data? = some data) :
    style.write .ui v = .ok (style.dialect.binaryLiteral data) ∧ style.filled? v = none := by
  unfold Value.data? at hdata
  split at hdata
  · cases hdata
    exact ⟨rfl, rfl⟩
  · cases hdata
    exact ⟨rfl, rfl⟩
  · cases hdata
    exact ⟨rfl, rfl⟩
  · cases hdata

/-- The text of such a value is one literal between the marks, for a date or time the right one. -/
theorem displaysAs_of_displays (h : style.Displays v) (hwrite : style.write .ui v = .ok t) :
    style.DisplaysAs v t := by
  cases h with
  | bool b =>
      cases hwrite
      exact .of_escape (escape_word style.dialect (by cases b <;> decide)) rfl
  | int n =>
      cases integerText_eq hwrite
      exact .of_escape (style.dialect.escape_numeral (Numeral.isNumeral_toString n)) rfl
  | float x hfinite =>
      rw [write, hfinite] at hwrite
      cases hwrite
      exact .of_escape (style.dialect.escape_numeral (Binary64.isNumeral_text hfinite)) rfl
  | decimal d hfinite =>
      rw [write, if_pos hfinite] at hwrite
      cases hwrite
      exact .of_escape (style.dialect.escape_numeral (Decimal.isNumeral_text hfinite)) rfl
  | date d =>
      cases hwrite
      have hplain : style.dialect.escape datePattern = datePattern := by
        cases style.dialect <;> decide
      exact .of_pattern (.inl (Dialect.escape_eq_self_iff.1 hplain)) rfl
  | clock time offset =>
      cases hwrite
      have hplain : style.dialect.escape clockPattern = clockPattern := by
        cases style.dialect <;> decide
      exact .of_pattern (.inl (Dialect.escape_eq_self_iff.1 hplain)) rfl
  | moment m hpattern =>
      cases hwrite
      exact .of_pattern (.inl hpattern) rfl
  | crowded m hroom =>
      cases hwrite
      exact .of_pattern (.inr hroom) rfl
  | noBytes v hdata hdialect =>
      obtain ⟨hbytes, hother⟩ := write_of_data? style hdata
      cases hbytes.symm.trans hwrite
      exact (displaysAs_iff hother).2 (Dialect.writes_enclosed_noBytes hdialect)
  | marks s hmarks =>
      cases hwrite
      exact (displaysAs_quote_iff rfl).2 hmarks
  | shownMarks typeName s hmarks =>
      cases hwrite
      exact (displaysAs_quote_iff rfl).2 hmarks

theorem displays_of_data? {data : Bytes} (hdata : v.data? = some data)
    (hwrite : style.write .ui v = .ok t) (h : style.DisplaysAs v t) : style.Displays v := by
  obtain ⟨hbytes, hother⟩ := write_of_data? style hdata
  cases hbytes.symm.trans hwrite
  rw [displaysAs_iff hother, Dialect.writes_enclosed_binaryLiteral_iff] at h
  obtain ⟨hdialect, rfl⟩ := h
  exact .noBytes v hdata hdialect

/-- Texts of other values are quoted, and then they are right only if there is nothing in them. -/
theorem exists_quote_of_map {shown? : Except Failure String} (h : style.DisplaysAs v t)
    (hother : style.filled? v = none) (hwrite : shown?.map style.quote = .ok t) :
    ∃ shown, shown? = .ok shown ∧ ¬HasOther shown := by
  cases shown? with
  | error failure => cases hwrite
  | ok shown =>
      cases hwrite
      exact ⟨shown, rfl, (displaysAs_quote_iff hother).1 h⟩

/-- The text of no other value is, apart from null, large objects and paths. -/
theorem displays_of_displaysAs (hnull : v ≠ .null) (hcontent : ∀ c, v ≠ .content c)
    (hpath : ∀ p, v ≠ .path p) (hwrite : style.write .ui v = .ok t) (h : style.DisplaysAs v t) :
    style.Displays v := by
  cases v with
  | null => exact absurd rfl hnull
  | content c => exact absurd rfl (hcontent c)
  | path p => exact absurd rfl (hpath p)
  | bool b => exact .bool b
  | int n => exact .int n
  | date d => exact .date d
  | clock time offset => exact .clock time offset
  | float x =>
      cases hname : specialName? x with
      | none => exact .float x hname
      | some name =>
          rw [write, hname] at hwrite
          cases hwrite
          exact absurd (hasOther_specialName hname) ((displaysAs_quote_iff rfl).1 h)
  | decimal d =>
      cases hfinite : d.isFinite with
      | true => exact .decimal d hfinite
      | false =>
          rw [write, hfinite] at hwrite
          cases hwrite
          exact absurd d.hasOther_text ((displaysAs_quote_iff rfl).1 h)
  | moment m =>
      obtain rfl := Except.ok.inj hwrite
      -- the filled pattern stands between the quotes as it is, so nothing in it was to be escaped
      have hnative :
          style.quote (.ofList (Pattern.fill m style.momentPattern.toList)) = enclosed _ :=
        Except.ok.inj (h.isTemporal _ rfl)
      have hescape := Dialect.escape_self_of_enclosed hnative.symm
      rw [Pattern.escape_fill_iff] at hescape
      rcases hescape with hpattern | hroom
      · exact .moment m hpattern
      · exact .crowded m hroom
  | text s =>
      cases hwrite
      exact .marks s ((displaysAs_quote_iff rfl).1 h)
  | uuid u =>
      obtain rfl := Except.ok.inj hwrite
      exact absurd (Value.hasOther_display (v := .uuid u) id rfl) ((displaysAs_quote_iff rfl).1 h)
  | bytes data => exact displays_of_data? rfl hwrite h
  | buffer data => exact displays_of_data? rfl hwrite h
  | view data => exact displays_of_data? rfl hwrite h
  | list items =>
      obtain ⟨json, hjson, hmarks⟩ := exists_quote_of_map h rfl hwrite
      exact absurd (Json.hasOther_write hjson (.inl ⟨items, rfl⟩)) hmarks
  | dict entries =>
      obtain ⟨json, hjson, hmarks⟩ := exists_quote_of_map h rfl hwrite
      exact absurd (Json.hasOther_write hjson (.inr ⟨entries, rfl⟩)) hmarks
  | duration d =>
      change (Value.duration d).display.map style.quote = .ok t at hwrite
      obtain ⟨shown, hshown, hmarks⟩ := exists_quote_of_map h rfl hwrite
      exact absurd (Value.hasOther_display id hshown) hmarks
  | tuple items =>
      change (Value.tuple items).display.map style.quote = .ok t at hwrite
      obtain ⟨shown, hshown, hmarks⟩ := exists_quote_of_map h rfl hwrite
      exact absurd (Value.hasOther_display id hshown) hmarks
  | object typeName s =>
      change (Value.object typeName s).display.map style.quote = .ok t at hwrite
      obtain ⟨shown, hshown, hmarks⟩ := exists_quote_of_map h rfl hwrite
      cases hshown
      exact .shownMarks typeName s hmarks

end LiteralStyle

/-! ### Cells -/

namespace CellWriter

/-- Is the value written as one literal, and a date or time as the one that stands in a script? -/
def DisplaysFaithfully (w : CellWriter) (style : LiteralStyle) (column : ExportColumn)
    (value : Value) : Prop :=
  ∀ s : Logged Sink, ∃ t text, w.writeValue column value s = .ok () t ∧
    t.state.output = s.state.output ++ text ∧ (∃ lexeme, style.dialect.Writes text lexeme) ∧
    ∀ filled, style.filled? value = some filled →
      { style with isNative := false }.write .native value = .ok text

/-- A value of a column of dates and times, where these are wanted for display: what the renderer
hands out is written between marks. This is one literal, and for dates and times the one of a
script, exactly for the values whose text stands bare and needs no escape, and for those that come
out so by accident. -/
theorem displaysFaithfully_iff (w : CellWriter) (style : LiteralStyle) (column : ExportColumn)
    (value : Value) (t : String) (hrenderer : w.renderer = .literals style)
    (hnative : w.nativeFormat = false) (hkind : column.column.kind = .datetime)
    (hhandler : column.handler? = none) (hnull : value ≠ .null) (hcontent : ∀ c, value ≠ .content c)
    (hpath : ∀ p, value ≠ .path p) (hwrite : style.write .ui value = .ok t) :
    (∀ s : Logged Sink, ∃ u, w.writeValue column value s = .ok () u ∧
      u.state.output = s.state.output ++ enclosed t) ∧
    (w.DisplaysFaithfully style column value ↔ style.Displays value) := by
  have hdisplays : w.displays column = true := by simp [displays, hnative, hkind]
  have hliteral : (w.literal column value).2 = .ok t := by
    simp [literal, hhandler, hrenderer, Renderer.toSql, hdisplays, hwrite]
  have hwritten : ∀ s : Logged Sink, ∃ u, w.writeValue column value s = .ok () u ∧
      u.state.output = s.state.output ++ enclosed t := by
    intro s
    refine ⟨_, w.writeValue_literal hnull hcontent hpath hliteral s, ?_⟩
    rw [hdisplays]
    simp [enclosed, String.append_assoc]
  refine ⟨hwritten, ?_⟩
  constructor
  · intro h
    obtain ⟨u, hrun, houtput⟩ := hwritten { log := {}, state := {} }
    obtain ⟨u', text, hrun', houtput', hisLiteral, hisTemporal⟩ := h { log := {}, state := {} }
    cases hrun.symm.trans hrun'
    obtain rfl : enclosed t = text := (String.append_right_inj _).1 (houtput.symm.trans houtput')
    exact LiteralStyle.displays_of_displaysAs hnull hcontent hpath hwrite ⟨hisLiteral, hisTemporal⟩
  · intro h s
    obtain ⟨u, hrun, houtput⟩ := hwritten s
    obtain ⟨hisLiteral, hisTemporal⟩ := LiteralStyle.displaysAs_of_displays h hwrite
    exact ⟨u, enclosed t, hrun, houtput, hisLiteral, hisTemporal⟩

/-- A moment after a pattern that names its zone, without marks in either of them. -/
theorem displaysFaithfully_iff_moment :
    let style : LiteralStyle :=
      { dialect := .mysql, momentPattern := "%d.%m.%Y %H:%M %Z", isNative := true }
    let w : CellWriter :=
      { dialect? := some .mysql, binaryDialect := .mysql, nativeFormat := false
        skips := fun _ => false, renderer := .literals style, files := .empty #[] }
    let column : ExportColumn := { column := { name := "since", kind := .datetime } }
    let value : Value := .moment
      { date := { year := 2024, month := 3, day := 15 }, clock := { hour := 14, minute := 30 }
        offset := some 3600, zoneName? := some "CET" }
    w.renderer = .literals style ∧ w.nativeFormat = false ∧ column.column.kind = .datetime ∧
      column.handler? = none ∧ value ≠ .null ∧ (∀ c, value ≠ .content c) ∧ (∀ p, value ≠ .path p) ∧
      style.write .ui value = .ok "15.03.2024 14:30 CET" ∧
      (∀ s : Logged Sink, ∃ u, w.writeValue column value s = .ok () u ∧
        u.state.output = s.state.output ++ enclosed "15.03.2024 14:30 CET") ∧
      (w.DisplaysFaithfully style column value ↔ style.Displays value) := by
  intro style w column value
  have hwrite : style.write .ui value = .ok "15.03.2024 14:30 CET" :=
    congrArg Except.ok (by decide +kernel)
  exact ⟨rfl, rfl, rfl, rfl, nofun, nofun, nofun, hwrite,
    displaysFaithfully_iff w style column value "15.03.2024 14:30 CET" rfl rfl rfl rfl nofun
      nofun nofun hwrite⟩

/-- A text in a column of dates and times gets two pairs of marks. -/
theorem not_displaysFaithfully_infinity :
    let style : LiteralStyle := {}
    let w : CellWriter :=
      { dialect? := some .generic, binaryDialect := .generic, nativeFormat := false
        skips := fun _ => false, renderer := .literals style, files := .empty #[] }
    let column : ExportColumn := { column := { name := "d", kind := .datetime } }
    style.write .ui (.text "infinity") = .ok "'infinity'" ∧
      ¬w.DisplaysFaithfully style column (.text "infinity") := by
  intro style w column
  have hwrite : style.write .ui (.text "infinity") = .ok "'infinity'" := by rfl
  refine ⟨hwrite, fun h => ?_⟩
  obtain ⟨t, text, hrun, houtput, hliteral, -⟩ := h { log := {}, state := {} }
  have hwritten : w.writeValue column (.text "infinity") { log := {}, state := {} } =
      .ok () { log := {}, state := ({} : Sink).addAll [mark, "'infinity'", mark] } := by rfl
  cases hwritten.symm.trans hrun
  have htext : enclosed "'infinity'" = text := by
    simpa [enclosed, String.append_assoc] using houtput
  rw [← htext, show "'infinity'" = Dialect.generic.literal "infinity" by decide] at hliteral
  exact absurd (Dialect.writes_enclosed_literal_iff.1 hliteral 'i' (by decide)) (by decide)

end CellWriter

end InsertScript
