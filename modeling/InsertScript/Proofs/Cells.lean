import InsertScript.Proofs.Cancellation
import InsertScript.Proofs.Reading

/-!
# Cells that are read back

The literal of a cell stands for the cell (`CellWriter.writeValue_spells`): a text for itself,
whatever characters it has, a number for itself, and bytes for themselves or, in PostgreSQL, for the
text that means them there. A large object stands for what it holds.

A row between brackets stands for its cells in order, without those that are left out
(`writeRow_spells`).
-/

namespace InsertScript

open Monitor (Calm)

/-! ### Hexadecimal digits -/

namespace Hex

/-- Are digits read back when each is changed like this, and do they need no escape? -/
def Readable (change : Char → Char) : Prop :=
  ∀ n < 16, value? (change (digit n)) = some n ∧ isBlank (change (digit n)) = false ∧
    (change (digit n)).toNat ≤ 127 ∧
      Dialect.mysql.escapeChar (change (digit n)) = [change (digit n)]

theorem readable_id : Readable id := by unfold Readable; decide

theorem readable_toUpper : Readable Char.toUpper := by unfold Readable; decide

variable {change : Char → Char}

theorem map_ofBytes_cons (byte : UInt8) (data : Bytes) :
    (ofBytes (byte :: data)).map change
      = change (digit (byte.toNat / 16)) :: change (digit (byte.toNat % 16)) ::
        (ofBytes data).map change := by
  have hbyte := byte.toNat_lt
  rw [ofBytes_cons, List.map_append]
  simp [padded, Nat.mod_eq_of_lt (show byte.toNat / 16 < 16 by omega)]

/-- The digits of bytes are read back as the bytes, behind those that were read before. -/
theorem toBytesFrom_map_ofBytes (h : Readable change) (data : Bytes) (position : Nat)
    (done : Bytes) :
    toBytesFrom position done ((ofBytes data).map change) = .ok (done.reverse ++ data) := by
  induction data generalizing position done with
  | nil => simp [toBytesFrom]
  | cons byte data ih =>
      have hbyte := byte.toNat_lt
      obtain ⟨hhigh, hblank, -, -⟩ := h (byte.toNat / 16) (by omega)
      obtain ⟨hlow, -, -, -⟩ := h (byte.toNat % 16) (by omega)
      have hjoin : UInt8.ofNat (16 * (byte.toNat / 16) + byte.toNat % 16) = byte := by
        rw [Nat.div_add_mod, UInt8.ofNat_toNat]
      rw [map_ofBytes_cons, toBytesFrom, hblank]
      simp only [Bool.false_eq_true, if_false, hhigh, hlow, hjoin, ih]
      simp

/-- What a digit of some bytes is like. -/
theorem exists_digit_of_mem {data : Bytes} {c : Char} (hc : c ∈ (ofBytes data).map change) :
    ∃ n < 16, c = change (digit n) := by
  induction data with
  | nil => simp at hc
  | cons byte data ih =>
      have hbyte := byte.toNat_lt
      rw [map_ofBytes_cons, List.mem_cons, List.mem_cons] at hc
      rcases hc with rfl | rfl | hc
      · exact ⟨_, by omega, rfl⟩
      · exact ⟨_, by omega, rfl⟩
      · exact ih hc

/-- Bytes are read back from their digits. -/
theorem toBytes_map_ofBytes (h : Readable change) (data : Bytes) :
    toBytes ((ofBytes data).map change) = .ok data := by
  have hascii : ((ofBytes data).map change).findIdx? (127 < ·.toNat) = none := by
    rw [List.findIdx?_eq_none_iff]
    intro c hc
    obtain ⟨n, hn, rfl⟩ := exists_digit_of_mem hc
    simpa using (h n hn).2.2.1
  rw [toBytes, hascii]
  simp [toBytesFrom_map_ofBytes h]

/-- Digits stand in a text as they are. -/
theorem escape_map_ofBytes (h : Readable change) (d : Dialect) (data : Bytes) :
    d.escape ((ofBytes data).map change) = (ofBytes data).map change := by
  have hplain : ∀ c ∈ (ofBytes data).map change, d.escapeChar c = [c] := by
    intro c hc
    obtain ⟨n, hn, rfl⟩ := exists_digit_of_mem hc
    have hmysql := (h n hn).2.2.2
    unfold Dialect.escapeChar at hmysql ⊢
    split at hmysql
    · simp at hmysql
    · split at hmysql
      · simp at hmysql
      · rename_i hquote hback
        rw [if_neg hquote, if_neg]
        exact fun hd => hback ⟨hd.1, rfl⟩
  rw [Dialect.escape, List.flatMap_congr hplain, List.flatMap_singleton']

end Hex

/-! ### Literals -/

namespace Dialect

/-- What bytes are read back as. PostgreSQL has a text for them. -/
def bytesLiteral (d : Dialect) (data : Bytes) : Literal :=
  if d = postgresql then .text (.ofList ('\\' :: 'x' :: Hex.ofBytes data)) else .bytes data

end Dialect

/-- What a large object is read back as, if it can be obtained and its kind fits to what it
holds. -/
def Content.literal? (d : Dialect) (c : Content) : Option Literal :=
  match c.unavailable, c.isText, c.payload with
  | none, true, .text s => some (.text s)
  | none, false, .bytes data => some (d.bytesLiteral data)
  | _, _, _ => none

/-- What a value is read back as. Values of types that have no literal of their own are not
considered, nor are numbers that are too long to be written. -/
def Value.literal? (d : Dialect) : Value → Option Literal
  | .null => some .null
  | .bool b => some (.bool b)
  | .int n => if Numeral.writable n then some (.int n) else none
  | .text s => some (.text s)
  | .bytes data => some (d.bytesLiteral data)
  | .content c => c.literal? d
  | _ => none

namespace Dialect

variable {d : Dialect}

theorem spells_null (d : Dialect) : d.SpellsFully Reader.literal "NULL".toList .null :=
  ⟨_, reads_word (by decide), fun _ _ => rfl⟩

theorem spells_bool (d : Dialect) (b : Bool) :
    d.SpellsFully Reader.literal (if b then "TRUE" else "FALSE").toList (.bool b) := by
  cases b with
  | true => exact ⟨_, reads_word (by decide), fun _ _ => rfl⟩
  | false => exact ⟨_, reads_word (by decide), fun _ _ => rfl⟩

theorem spells_text (d : Dialect) (s : String) :
    d.SpellsFully Reader.literal (d.literal s).toList (.text s) :=
  ⟨_, d.reads_literal s, fun _ _ => rfl⟩

theorem isDigit_of_mem_toDigits {n : Nat} {c : Char} (hc : c ∈ Nat.toDigits 10 n) :
    c.isDigit = true :=
  Nat.isDigit_of_mem_toDigits (by decide) (by decide) hc

/-- The digits of a number are a word. -/
theorem reads_digits (d : Dialect) (n : Nat) :
    d.Reads (Nat.toDigits 10 n) [.word (toString n)] := by
  have hparts : ∀ c ∈ Nat.toDigits 10 n, isNamePart c = true := by
    intro c hc
    simp [isNamePart, Char.isAlphanum, isDigit_of_mem_toDigits hc]
  obtain ⟨c, chars, hdigits⟩ := List.exists_cons_of_ne_nil (Nat.toDigits_ne_nil (n := n) (b := 10))
  rw [hdigits] at hparts
  have hword := reads_word (d := d) (List.all_eq_true.2 hparts)
  rw [← hdigits] at hword
  rwa [Nat.toString_eq_ofList_toDigits]

theorem number?_toString (n : Nat) : Reader.number? (toString n) = some n := by
  have hdigits : (toString n).toList = Nat.toDigits 10 n := by
    rw [Nat.toString_eq_ofList_toDigits, String.toList_ofList]
  rw [Reader.number?, hdigits, if_pos, Nat.ofDigitChars_ten_toDigits]
  rw [List.all_eq_true]
  exact fun c hc => isDigit_of_mem_toDigits hc

/-- A minus is a sign as long as no comment begins with it. -/
theorem reads_minus (d : Dialect) :
    d.ReadsBefore (fun rest => rest.head? ≠ some '-') ['-'] [.sign '-'] := by
  intro rest hrest
  have hread : d.readToken '-' rest = some (some (.sign '-'), rest) :=
    readToken_sign (by decide) (by decide) (by decide) (by cases d <;> decide)
      (by simpa [opensLineComment] using hrest) (by simp)
  rw [List.singleton_append, tokens_cons hread]
  simp

/-- A number is read back from its numeral. -/
theorem spells_int (d : Dialect) (n : Int) :
    d.SpellsFully Reader.literal (toString n).toList (.int n) := by
  cases n with
  | ofNat n =>
      refine ⟨[.word (toString n)], ?_, fun rest _ => ?_⟩
      · have htext : (toString (Int.ofNat n)).toList = Nat.toDigits 10 n := Nat.toList_repr
        rw [htext]
        exact d.reads_digits n
      · rw [List.singleton_append, Reader.literal, Reader.worded, number?_toString]
        rfl
  | negSucc n =>
      -- a digit follows the minus, so no comment begins here
      refine ⟨[.sign '-', .word (toString (n + 1))], ?_, fun rest _ => ?_⟩
      · have htext : (toString (Int.negSucc n)).toList = '-' :: Nat.toDigits 10 (n + 1) := by
          change ("-" ++ (n + 1).repr).toList = _
          rw [String.toList_append, Nat.toList_repr]
          rfl
        obtain ⟨c, chars, hdigits⟩ :=
          List.exists_cons_of_ne_nil (Nat.toDigits_ne_nil (n := n + 1) (b := 10))
        have hminus : c ≠ '-' := by
          rintro rfl
          have := isDigit_of_mem_toDigits (n := n + 1) (c := '-') (by simp [hdigits])
          exact absurd this (by decide)
        rw [htext]
        have hnegative : d.Reads (['-'] ++ Nat.toDigits 10 (n + 1))
            ([.sign '-'] ++ [.word (toString (n + 1))]) :=
          (reads_minus d).append (d.reads_digits (n + 1)) fun rest _ => by
            rw [hdigits]
            simp [hminus]
        exact hnegative
      · rw [List.cons_append, List.singleton_append, Reader.literal, number?_toString]
        rfl

/-- Digits between quotes are read as a text. -/
theorem reads_digitsText {change : Char → Char} (h : Hex.Readable change) (d : Dialect)
    (data : Bytes) :
    d.Reads (textQuote :: (Hex.ofBytes data).map change ++ [textQuote])
      [.text (.ofList ((Hex.ofBytes data).map change))] := by
  have hliteral := d.reads_literal (.ofList ((Hex.ofBytes data).map change))
  rwa [literal, String.toList_ofList, String.toList_ofList, Hex.escape_map_ofBytes h] at hliteral

/-- Digits in a text with a mark are read as bytes. -/
theorem spells_marked (d : Dialect) (data : Bytes) :
    d.SpellsFully Reader.literal ('X' :: (textQuote :: Hex.ofBytes data ++ [textQuote]))
      (.bytes data) := by
  have hbytes := Hex.toBytes_map_ofBytes Hex.readable_id data
  have hdigits := reads_digitsText Hex.readable_id d data
  rw [List.map_id] at hbytes hdigits
  refine ⟨[.word "X", .text (.ofList (Hex.ofBytes data))], ?_, ?_⟩
  · -- the mark stands directly before the text, so it is no word in front of a break
    intro rest hrest
    have hread : d.readToken 'X' (textQuote :: Hex.ofBytes data ++ [textQuote] ++ rest)
        = some (some (.word "X"), textQuote :: Hex.ofBytes data ++ [textQuote] ++ rest) := by
      cases d <;> rfl
    rw [List.cons_append, tokens_cons hread, hdigits rest hrest, Option.map_map]
    rfl
  · intro rest _
    have hnumber : Reader.number? "X" = none := by decide
    simp [Reader.literal, Reader.worded, hnumber, Reader.marked, Reader.bytes?, hbytes]

/-- Digits in a text that is the argument of the function are read as bytes. -/
theorem spells_hexToRaw (d : Dialect) (data : Bytes) :
    d.SpellsFully Reader.literal ("HEXTORAW".toList ++ (['('] ++
      ((textQuote :: (Hex.ofBytes data).map Char.toUpper ++ [textQuote]) ++ [')'])))
        (.bytes data) := by
  have hbytes := Hex.toBytes_map_ofBytes Hex.readable_toUpper data
  have hdigits := reads_digitsText Hex.readable_toUpper d data
  have hopen := d.isSign_of_mem (by decide : '(' ∈ _)
  have hclose := d.isSign_of_mem (by decide : ')' ∈ _)
  have hword : d.Reads "HEXTORAW".toList [.word "HEXTORAW"] := reads_word (by decide)
  have hargument :=
    hdigits.append_before (readsAlways_sign hclose) (breaks_of_isSign hclose []) (by simp)
  have hall := hword.append_before ((readsAlways_sign hopen).append_before hargument)
    (breaks_of_isSign hopen _) (by simp)
  refine ⟨_, ReadsAlways.before hall, ?_⟩
  intro rest _
  have hnumber : Reader.number? "HEXTORAW" = none := by decide
  simp [Reader.literal, Reader.worded, hnumber, Reader.argument, Reader.bytes?, hbytes]

/-- The literal of bytes is the one of a text in PostgreSQL, where the backslash means nothing. -/
theorem binaryLiteral_postgresql (data : Bytes) : postgresql.binaryLiteral data
    = postgresql.literal (.ofList ('\\' :: 'x' :: Hex.ofBytes data)) := by
  have hdigits := Hex.escape_map_ofBytes Hex.readable_id postgresql data
  rw [List.map_id] at hdigits
  have hback : postgresql.escapeChar '\\' = ['\\'] := by decide
  have hmark : postgresql.escapeChar 'x' = ['x'] := by decide
  rw [literal, String.toList_ofList, escape_cons, escape_cons, hdigits, hback, hmark]
  rfl

/-- Bytes are read back from their literal. -/
theorem spells_bytes (d : Dialect) (data : Bytes) :
    d.SpellsFully Reader.literal (d.binaryLiteral data).toList (d.bytesLiteral data) := by
  have hmarked (hd : d.bytesLiteral data = .bytes data)
      (htext : d.binaryLiteral data = .ofList ('X' :: '\'' :: Hex.ofBytes data ++ ['\''])) :
      d.SpellsFully Reader.literal (d.binaryLiteral data).toList (d.bytesLiteral data) := by
    rw [hd, htext, String.toList_ofList]
    exact d.spells_marked data
  cases d with
  | generic => exact hmarked rfl rfl
  | mysql => exact hmarked rfl rfl
  | sqlite => exact hmarked rfl rfl
  | postgresql =>
      rw [binaryLiteral_postgresql]
      exact spells_text _ _
  | oracle =>
      have htext : (oracle.binaryLiteral data).toList = "HEXTORAW".toList ++ (['('] ++
          ((textQuote :: (Hex.ofBytes data).map Char.toUpper ++ [textQuote]) ++ [')'])) := by
        have hfront : "HEXTORAW('".toList = "HEXTORAW".toList ++ ['(', textQuote] := by decide
        change (String.ofList ("HEXTORAW('".toList ++ (Hex.ofBytes data).map Char.toUpper ++
          [textQuote, ')'])).toList = _
        rw [String.toList_ofList, hfront]
        simp only [List.append_assoc, List.cons_append, List.nil_append]
      rw [htext]
      exact oracle.spells_hexToRaw data

end Dialect

/-! ### Values -/

namespace Value

/-- Is the value no large object that has been released? -/
def IsOpen (releases : Releases) : Value → Prop
  | .content c => c.isReleased releases = false
  | _ => True

end Value

namespace CellWriter

variable {w : CellWriter} {d : Dialect} {column : ExportColumn} {value : Value} {literal : Literal}
  {s t : Logged Sink}

/-- Does a writer write the literals of a dialect, and leave nothing to handlers? -/
structure WritesLiterals (w : CellWriter) (d : Dialect) : Prop where
  dialect?_eq : w.dialect? = some d
  binaryDialect_eq : w.binaryDialect = d
  renderer_eq : ∃ style, w.renderer = .literals style ∧ style.dialect = d

/-- The rows of an export are written as literals of its dialect. -/
theorem WritesLiterals.of_exporter {e : Exporter} {renderer : Renderer} {style : LiteralStyle}
    (hdialect : e.dialect? = some d) (hrenderer : renderer = .literals style)
    (hstyle : style.dialect = d) :
    WritesLiterals
      (e.cellWriter (if e.settings.nativeFormat then renderer.useNative else renderer)) d where
  dialect?_eq := hdialect
  binaryDialect_eq := by simp [Exporter.cellWriter, hdialect]
  renderer_eq := by
    rw [hrenderer, Exporter.cellWriter]
    by_cases hnative : e.settings.nativeFormat = true
    · exact ⟨{ style with isNative := true }, by simp [hnative, Renderer.useNative], hstyle⟩
    · exact ⟨style, by simp [hnative], hstyle⟩

/-- What the cell of a value comes to: a literal that stands for it. -/
structure Spelled (d : Dialect) (value : Value) (literal : Literal) (s t : Sink) : Prop where
  releases : t.releases = value.release s.releases
  text : ∃ text, t.output = s.output ++ text ∧ d.SpellsFully Reader.literal text.toList literal

theorem monitor?_of_writeValue_ok (hcalm : Calm s.state.monitor?)
    (h : w.writeValue column value s = .ok () t) : t.state.monitor? = s.state.monitor? := by
  obtain ⟨t', -, happart⟩ :=
    (w.writeValue_respects hcalm hcalm column value).of_ok (t := s) ⟨rfl, rfl⟩ h
  exact happart.monitor?_left

/-- The literal of a plain value stands for it. -/
theorem spells_literal (hw : WritesLiterals w d) (hcolumn : column.handler? = none)
    (hnull : value ≠ .null) (hcontent : ∀ c, value ≠ .content c)
    (hliteral : value.literal? d = some literal) :
    ∃ text, (w.literal column value).2 = .ok text ∧
      d.SpellsFully Reader.literal text.toList literal := by
  obtain ⟨style, hrenderer, rfl⟩ := hw.renderer_eq
  have hwrites : (w.literal column value).2
      = style.write (if w.displays column then .ui else .native) value := by
    simp only [CellWriter.literal, hcolumn, hrenderer, Renderer.toSql]
  rw [hwrites]
  cases value with
  | null => exact absurd rfl hnull
  | content c => exact absurd rfl (hcontent c)
  | bool b =>
      cases hliteral
      exact ⟨_, rfl, style.dialect.spells_bool b⟩
  | int n =>
      simp only [Value.literal?] at hliteral
      split at hliteral
      · rename_i hwritable
        cases hliteral
        have htext : Numeral.writeInteger n = .ok (toString n) := by
          rw [Numeral.writeInteger, if_pos hwritable]
        refine ⟨toString n, ?_, style.dialect.spells_int n⟩
        rw [LiteralStyle.write, integerText, htext]
        rfl
      · cases hliteral
  | text text =>
      cases hliteral
      exact ⟨_, rfl, style.dialect.spells_text text⟩
  | bytes data =>
      cases hliteral
      exact ⟨_, rfl, style.dialect.spells_bytes data⟩
  | _ => cases hliteral

/-- A binary object that is open is written as its bytes. -/
theorem writeContentSafely_bytes {content : Content} {data : Bytes}
    (hcolumn : column.handler?.bind (·.stream?) = none) (htext : content.isText = false)
    (hpayload : content.payload = .bytes data) (havailable : content.unavailable = none)
    (hopen : content.isReleased s.state.releases = false) :
    w.writeContentSafely column content s = .ok ()
      { s with state := { s.state.add (w.binaryDialect.binaryLiteral data) with
        releases := content.identity :: s.state.releases } } := by
  have hwrite : w.writePayload content content.payload s
      = .ok () { s with state := s.state.add (w.binaryDialect.binaryLiteral data) } := by
    rw [hpayload, writePayload, Step.bind_of_ok (Step.current_apply s)]
    simp only [htext, Bool.false_eq_true, if_false]
    rfl
  rw [← w.writeContent_open hcolumn havailable hopen] at hwrite
  rw [writeContentSafely, Step.bind_of_ok (Step.attempt_of_ok hwrite)]
  rfl

/-- What is left of a cell that has been written as this text. -/
structure WrittenAs (text : String) (value : Value) (s t : Sink) : Prop where
  output : t.output = s.output ++ text
  releases : t.releases = value.release s.releases
  monitor? : t.monitor? = s.monitor?

/-- A text object that is open is written as the literal of its text. -/
theorem writeContentSafely_text {content : Content} {text : String} (hdialect : w.dialect? = some d)
    (hcolumn : column.handler?.bind (·.stream?) = none) (hcalm : Calm s.state.monitor?)
    (htext : content.isText = true) (hpayload : content.payload.Spells content.encoding text)
    (havailable : content.unavailable = none)
    (hopen : content.isReleased s.state.releases = false) :
    ∃ t, w.writeContentSafely column content s = .ok () t ∧
      WrittenAs (d.literal text) (.content content) s.state t.state := by
  obtain ⟨t, hrun, hcopied⟩ := w.writeContentSafely_spells hcolumn htext hpayload havailable hopen
  have hpatience : (s.state.add mark).patience? = none := Sink.patience?_of_calm hcalm
  have hwhole : reached (s.state.add mark) text = text.toList := by rw [reached, hpatience]
  have hescape : w.escape text.toList = d.escape text.toList := by rw [escape, hdialect]
  refine ⟨_, hrun, ?_, rfl, hcopied.monitor hpatience⟩
  change (t.add mark).output = _
  rw [Sink.output_add, hcopied.output, flatten_allowed_pieces, hwhole, hescape, Sink.output_add,
    ← String.toList_inj]
  simp [Dialect.literal, mark, Dialect.textQuote]

/-- A large object stands for what it holds. -/
theorem spelled_content {content : Content} (hw : WritesLiterals w d)
    (hcolumn : column.handler? = none) (hcalm : Calm s.state.monitor?)
    (hliteral : content.literal? d = some literal)
    (hopen : content.isReleased s.state.releases = false) :
    ∃ t, w.writeContentSafely column content s = .ok () t ∧
      Spelled d (.content content) literal s.state t.state := by
  have hstream : column.handler?.bind (·.stream?) = none := by rw [hcolumn]; rfl
  unfold Content.literal? at hliteral
  split at hliteral
  · rename_i text havailable htext hpayload
    cases hliteral
    have hspells : content.payload.Spells content.encoding text := by rw [hpayload]; rfl
    obtain ⟨t, hrun, hwritten⟩ :=
      w.writeContentSafely_text hw.dialect?_eq hstream hcalm htext hspells havailable hopen
    exact ⟨t, hrun, hwritten.releases, _, hwritten.output, d.spells_text text⟩
  · rename_i data havailable htext hpayload
    cases hliteral
    refine ⟨_, writeContentSafely_bytes hstream htext hpayload havailable hopen, rfl, _, rfl, ?_⟩
    rw [hw.binaryDialect_eq]
    exact d.spells_bytes data
  · cases hliteral

/-- A value stands for itself. -/
theorem writeValue_spells (hw : WritesLiterals w d) (hcolumn : column.handler? = none)
    (hdisplays : w.displays column = false) (hcalm : Calm s.state.monitor?)
    (hliteral : value.literal? d = some literal) (hopen : value.IsOpen s.state.releases) :
    ∃ t, w.writeValue column value s = .ok () t ∧ Spelled d value literal s.state t.state := by
  by_cases hnull : value = .null
  · subst hnull
    cases hliteral
    have hnullLiteral : w.nullLiteral = "NULL" := by rw [nullLiteral, hw.dialect?_eq]; rfl
    refine ⟨_, rfl, rfl, "NULL", ?_, d.spells_null⟩
    rw [← hnullLiteral]
    rfl
  -- large objects are read while they are written, all other values are rendered first
  by_cases hcontent : ∃ c, value = .content c
  · obtain ⟨content, rfl⟩ := hcontent
    exact w.spelled_content hw hcolumn hcalm hliteral hopen
  · have hcontent : ∀ c, value ≠ .content c := fun c hc => hcontent ⟨c, hc⟩
    have hpath : ∀ p, value ≠ .path p := by
      rintro p rfl
      cases hliteral
    obtain ⟨text, htext, hspells⟩ := spells_literal hw hcolumn hnull hcontent hliteral
    have hwritten := w.writeValue_literal hnull hcontent hpath htext s
    rw [hdisplays] at hwritten
    refine ⟨_, hwritten, ?_, text, by simp, hspells⟩
    rw [Value.release_of_ne_content hcontent, Sink.releases_addAll]

end CellWriter

/-! ### Rows -/

namespace Value

/-- The releases after all the values have been dealt with. -/
def releaseAll (releases : Releases) (values : List Value) : Releases :=
  values.foldl release releases

/-- Is every large object still open when its turn comes? -/
def AllOpen (releases : Releases) : List Value → Prop
  | [] => True
  | value :: rest => value.IsOpen releases ∧ AllOpen (value.release releases) rest

theorem allOpen_append {releases : Releases} {first second : List Value} :
    AllOpen releases (first ++ second)
      ↔ AllOpen releases first ∧ AllOpen (releaseAll releases first) second := by
  induction first generalizing releases with
  | nil => simp [AllOpen, releaseAll]
  | cons value first ih =>
      rw [List.cons_append, AllOpen, AllOpen, ih, and_assoc]
      rfl

end Value

/-- What the cells of a row are read back as, those aside that are left out. -/
def Row.literals (d : Dialect) (skips : ExportColumn → Bool)
    (columns : List ExportColumn) (row : Row) : List Literal :=
  ((columns.zip row).filter fun cell => !skips cell.1).filterMap fun cell => cell.2.literal? d

namespace CellWriter

variable {w : CellWriter} {d : Dialect} {s : Logged Sink}

/-- Texts with commas between them, and one in front if something has been written before. -/
def listed (started : Bool) (texts : List String) : String :=
  if started then String.join (texts.map fun text => "," ++ text) else ",".intercalate texts

theorem listed_cons (started : Bool) (text : String) (texts : List String) :
    listed started (text :: texts) = (if started then "," else "") ++ text ++
      listed true texts := by
  cases started with
  | false => simp [listed, Exporter.intercalate_cons_eq_join]
  | true => simp [listed]

/-- The cells of a row are written as literals that stand for them. -/
theorem writeCells_spells (hw : WritesLiterals w d) {cells : List (ExportColumn × Value)}
    (hcolumns : ∀ cell ∈ cells, cell.1.handler? = none ∧ w.displays cell.1 = false)
    (hvalues : ∀ cell ∈ cells, (cell.2.literal? d).isSome) (hcalm : Calm s.state.monitor?)
    (hopen : Value.AllOpen s.state.releases (cells.map Prod.snd)) (started : Bool) :
    ∃ t texts, w.writeCells started cells s = .ok () t ∧
      t.state.output = s.state.output ++ listed started texts ∧
      t.state.releases = Value.releaseAll s.state.releases (cells.map Prod.snd) ∧
      List.Forall₂ (d.SpellsFully Reader.literal) (texts.map String.toList)
        ((cells.filter fun cell => !w.skips cell.1).filterMap fun cell => cell.2.literal? d) := by
  induction cells generalizing started s with
  | nil => exact ⟨s, [], rfl, by cases started <;> simp [listed], rfl, .nil⟩
  | cons cell cells ih =>
      obtain ⟨column, value⟩ := cell
      have hcolumns' := fun cell hcell => hcolumns cell (List.mem_cons_of_mem (column, value) hcell)
      have hvalues' := fun cell hcell => hvalues cell (List.mem_cons_of_mem (column, value) hcell)
      obtain ⟨hvalue, hrest⟩ := hopen
      rw [writeCells_cons]
      by_cases hskip : w.skips column = true
      · -- a cell that is left out is released all the same
        obtain ⟨t, texts, hrun, houtput, hreleases, hspells⟩ := ih
          (s := { s with state := { s.state with releases := value.release s.state.releases } })
          hcolumns' hvalues' hcalm hrest started
        refine ⟨t, texts, ?_, houtput, hreleases, ?_⟩
        · rw [if_pos hskip, Step.bind_of_ok (releaseSkipped_apply value s), hrun]
        · rwa [List.filter_cons_of_neg (by simpa using hskip)]
      · have hcell := hcolumns (column, value) List.mem_cons_self
        obtain ⟨literal, hliteral⟩ :=
          Option.isSome_iff_exists.1 (hvalues (column, value) List.mem_cons_self)
        obtain ⟨s₁, hcomma, houtput₁, hreleases₁, hmonitor₁⟩ : ∃ s₁, comma started s = .ok () s₁ ∧
            s₁.state.output = s.state.output ++ (if started then "," else "") ∧
            s₁.state.releases = s.state.releases ∧ s₁.state.monitor? = s.state.monitor? := by
          cases started <;> exact ⟨_, rfl, by simp, rfl, rfl⟩
        rw [← hmonitor₁] at hcalm
        rw [← hreleases₁] at hvalue
        obtain ⟨s₂, hrun₂, hspelled⟩ := w.writeValue_spells hw hcell.1 hcell.2 hcalm hliteral hvalue
        obtain ⟨hreleases₂, text, houtput₂, htext⟩ := hspelled
        rw [hreleases₁] at hreleases₂
        rw [← monitor?_of_writeValue_ok hcalm hrun₂] at hcalm
        rw [← hreleases₂] at hrest
        obtain ⟨t, texts, hrun, houtput, hreleases, hspells⟩ :=
          ih hcolumns' hvalues' hcalm hrest true
        refine ⟨t, text :: texts, ?_, ?_, ?_, ?_⟩
        · rw [if_neg hskip, Step.bind_of_ok hcomma, Step.bind_of_ok hrun₂, hrun]
        · rw [houtput, houtput₂, houtput₁, listed_cons]
          simp only [String.append_assoc]
        · rw [hreleases, hreleases₂]
          rfl
        · rw [List.filter_cons_of_pos (by simpa using hskip), List.filterMap_cons, hliteral]
          exact .cons htext hspells

/-- A row is read back cell by cell, whatever stands behind it. -/
theorem writeRow_spells (hw : WritesLiterals w d) {columns : List ExportColumn} {row : Row}
    (hlength : row.length = columns.length)
    (hcolumns : ∀ column ∈ columns, column.handler? = none ∧ w.displays column = false)
    (hvalues : ∀ value ∈ row, (value.literal? d).isSome) (hcalm : Calm s.state.monitor?)
    (hopen : Value.AllOpen s.state.releases row) :
    ∃ t text, w.writeRow columns row s = .ok () t ∧ t.state.output = s.state.output ++ text ∧
      t.state.releases = Value.releaseAll s.state.releases row ∧
      d.SpellsAlways (Reader.list Reader.literal) ("(" ++ text ++ ")").toList
        (Row.literals d w.skips columns row) := by
  have hrow : (columns.zip row).map Prod.snd = row := List.map_snd_zip (by omega)
  obtain ⟨t, texts, hrun, houtput, hreleases, hspells⟩ := w.writeCells_spells hw
    (fun cell hcell => hcolumns cell.1 (List.of_mem_zip hcell).1)
    (fun cell hcell => hvalues cell.2 (List.of_mem_zip hcell).2) hcalm (by rwa [hrow]) false
  rw [hrow] at hreleases
  refine ⟨t, listed false texts, hrun, houtput, hreleases, ?_⟩
  have htext : ("(" ++ listed false texts ++ ")").toList
      = ['('] ++ ([','].intercalate (texts.map String.toList) ++ [')']) := by
    simp [listed, String.toList_intercalate]
  rw [htext]
  exact Dialect.SpellsFully.list (fun _ => rfl) hspells

end CellWriter

end InsertScript
