import InsertScript.Proofs.Figures
import InsertScript.Proofs.Literals
import InsertScript.Proofs.Thresholds

/-!
# Cells of a delimited file

An empty cell is exported as null, a numeral of ASCII digits as the number it spells, and any other
cell as a text with the same characters (`CsvFile.Exports`). This is so for every cell unless it is
taken for a number without being such a numeral, or is an integer of too many digits
(`CsvFile.exportsFaithfully_iff`).

A cell is a field of a record, so it is no longer than the limit (`Delimited.IsField.length_le`),
and a number that stands in it can be held with all its digits.
-/

namespace InsertScript

open Monitor (Calm)

/-! ### Fields -/

namespace Delimited

variable {delimiter : Char} {r s : Reading}

namespace Reading

/-- What one character does: it moves on, completes the current field, or goes into it. -/
inductive Fed (r : Reading) (c : Char) : Reading → Prop
  | moved (place : Place) : Fed r c { r with place }
  | saved (place : Place) : Fed r c (r.save place)
  | added {s : Reading} (place : Place) (h : r.add place c = .ok s) : Fed r c s

theorem fed_feedStart {c : Char} (h : r.feedStart delimiter c = .ok s) : Fed r c s := by
  unfold feedStart at h
  split at h
  · cases h
    exact .saved _
  split at h
  · cases h
    exact .moved _
  split at h
  · cases h
    exact .saved _
  · exact .added _ h

/-- A character that is taken is taken in one of the ways of `Fed`. -/
theorem fed_feed {c : Char} (h : r.feed delimiter c = .ok s) : Fed r c s := by
  unfold feed at h
  split at h
  · split at h
    · cases h
      exact .moved _
    · exact fed_feedStart h
  · exact fed_feedStart h
  · split at h
    · cases h
      exact .saved _
    split at h
    · cases h
      exact .saved _
    · exact .added _ h
  · split at h
    · cases h
      exact .moved _
    · exact .added _ h
  · split at h
    · exact .added _ h
    split at h
    · cases h
      exact .saved _
    split at h
    · cases h
      exact .saved _
    · exact .added _ h
  · cases h
    exact .moved r.place

/-- Is no field over the limit, and is the length of the current one known? -/
structure Within (r : Reading) : Prop where
  length_eq : r.field.length = r.length
  length_le : r.length ≤ fieldLimit
  fields : ∀ field ∈ r.fields, field.length ≤ fieldLimit

theorem within_empty : Within {} := ⟨rfl, Nat.zero_le _, nofun⟩

theorem Within.moved (h : r.Within) (place : Place) : Within { r with place } :=
  ⟨h.length_eq, h.length_le, h.fields⟩

theorem Within.save (h : r.Within) (place : Place) : (r.save place).Within where
  length_eq := rfl
  length_le := Nat.zero_le _
  fields := by
    refine List.forall_mem_cons.2 ⟨?_, h.fields⟩
    rw [String.length_ofList, List.length_reverse, h.length_eq]
    exact h.length_le

theorem Within.feed (h : r.Within) {c : Char} (hs : r.feed delimiter c = .ok s) : s.Within := by
  cases fed_feed hs with
  | moved place => exact h.moved place
  | saved place => exact h.save place
  | added place hadd =>
      unfold Reading.add at hadd
      split at hadd
      · rename_i hlength
        cases hadd
        exact ⟨congrArg Nat.succ h.length_eq, hlength, h.fields⟩
      · cases hadd

theorem Within.endLine (h : r.Within) : r.endLine.Within := by
  unfold Reading.endLine
  split
  · exact h
  · exact h
  · exact h.save _
  · exact h.save _
  · exact h.save _
  · exact h.moved _

theorem Within.feedLine (h : r.Within) {line : List Char} (hs : r.feedLine delimiter line = .ok s) :
    s.Within := by
  induction line generalizing r with
  | nil =>
      cases hs
      exact h.endLine
  | cons c line ih =>
      rw [Reading.feedLine] at hs
      split at hs
      · cases hs
      · rename_i next hnext
        exact ih (h.feed hnext) hs

end Reading

/-- No field of a record that was read is longer than a field may be. -/
theorem within_of_readRecordFrom {source rest : TextReader} {record : List String} (h : r.Within)
    (hrecord : readRecordFrom delimiter r source = .ok (some record, rest)) :
    ∀ field ∈ record, field.length ≤ fieldLimit := by
  have hfields {r : Reading} (h : r.Within) : ∀ field ∈ r.fieldList, field.length ≤ fieldLimit :=
    fun field hfield => h.fields field (List.mem_reverse.1 hfield)
  fun_induction readRecordFrom delimiter r source with
  | case1 r source fault hline => cases hrecord
  | case2 r source after hline =>
      simp only [Except.ok.injEq, Prod.mk.injEq] at hrecord
      obtain ⟨-, hsaved⟩ := Option.ite_none_right_eq_some.1 hrecord.1
      rw [← Option.some.inj hsaved]
      exact hfields (h.save _)
  | case3 r source c line after hline failure hfeed => cases hrecord
  | case4 r source c line after hline next hfeed hplace =>
      cases hrecord
      exact hfields (h.feedLine hfeed)
  | case5 r source c line after hline next hfeed hplace ih => exact ih (h.feedLine hfeed) hrecord

/-- Is a text a field of a record that can be read? -/
def IsField (field : String) : Prop :=
  ∃ delimiter source record rest, readRecord delimiter source = .ok (some record, rest) ∧
    field ∈ record

/-- Longer fields are refused. -/
theorem IsField.length_le {field : String} (h : IsField field) : field.length ≤ fieldLimit := by
  obtain ⟨delimiter, source, record, rest, hrecord, hfield⟩ := h
  exact within_of_readRecordFrom Reading.within_empty hrecord field hfield

end Delimited

/-! ### Conversions -/

namespace CsvFile

variable {threshold : Int} {identity : Nat} {cell : String} {value : Value}

/-- How a cell is exported: as null if it is empty, as the number that it spells if it is a numeral
of ASCII digits, and otherwise as a text with the same characters. A large object may hold the
text. -/
inductive Exports : String → Value → Lexeme → Prop
  | null : Exports "" .null (.keyword "NULL")
  | integer {f : Figures} (h : f.Uses Char.isDigit) (hplaces : f.places = []) :
      Exports (.ofList f.text) (.int f.integer) (.number (toString f.integer))
  | decimal {f : Figures} (h : f.Uses Char.isDigit) (hplaces : f.places ≠ [])
      {digits : List (Fin 10)}
      (hdigits : Decimal.coefficient digits = Nat.ofDigitChars 10 (f.whole ++ f.places) 0) :
      Exports (.ofList f.text) (.decimal (.finite f.negative digits (-(f.places.length : Int))))
        (.number (Decimal.finite f.negative digits (-(f.places.length : Int))).text)
  | text {cell : String} {value : Value} (hne : cell ≠ "")
      (hnumeral : ∀ f : Figures, f.Uses Char.isDigit → cell.toList ≠ f.text)
      (hvalue : value = .text cell ∨
        ∃ identity, value = .content { identity, isText := true, payload := .text cell }) :
      Exports cell value (.text cell)

/-- Is a cell a numeral of ASCII digits, and not too long for an integer? -/
def IsExact (cell : List Char) : Prop :=
  ∃ f : Figures, f.Uses Char.isDigit ∧ cell = f.text ∧
    (f.places = [] → f.whole.length ≤ Numeral.digitLimit)

theorem convert_integer {f : Figures} (h : f.Uses Char.isDigit) (hplaces : f.places = []) :
    convert threshold identity (.ofList f.text) = if Numeral.digitLimit < f.whole.length then
      .error (.integer (.longText f.whole.length)) else .ok (.int f.integer) := by
  have hlooks : looksInteger f.text = true := looksInteger_iff.2 ⟨f, h.of_ascii, hplaces, .inl rfl⟩
  have hne : String.ofList f.text ≠ "" := by simpa using Figures.text_ne_nil h.of_ascii
  rw [convert, if_neg hne, String.toList_ofList, if_pos hlooks, f.readInteger_text h hplaces]
  split <;> rfl

theorem convert_decimal {f : Figures} (h : f.Uses Char.isDigit) (hplaces : f.places ≠ [])
    (hlength : f.text.length ≤ Delimited.fieldLimit) :
    convert threshold identity (.ofList f.text) = .ok (.decimal f.decimal) := by
  have hinteger : looksInteger f.text = false := by
    rw [← Bool.not_eq_true, looksInteger_iff]
    rintro ⟨g, hg, hnone, hfits⟩
    exact (hfits.point_mem hg).1 ((Figures.point_mem_text h.of_ascii).2 hplaces) hnone
  have hlooks : looksDecimal f.text = true := looksDecimal_iff.2 ⟨f, h.of_ascii, hplaces, .inl rfl⟩
  have hne : String.ofList f.text ≠ "" := by simpa using Figures.text_ne_nil h.of_ascii
  rw [convert, if_neg hne, String.toList_ofList, hinteger, if_neg Bool.false_ne_true, if_pos hlooks,
    f.ofString_text h hplaces hlength]
  rfl

/-- What does not look like a number is delivered as a text. -/
theorem convert_text (hne : cell ≠ "")
    (hnone : ∀ f : Figures, f.Uses Unicode.isDigit → ¬f.Fits cell.toList) :
    convert threshold identity cell = .ok (Query.convert threshold identity (.text cell)) := by
  have hinteger : looksInteger cell.toList = false := by
    rw [← Bool.not_eq_true, looksInteger_iff]
    rintro ⟨f, h, -, hfits⟩
    exact hnone f h hfits
  have hdecimal : looksDecimal cell.toList = false := by
    rw [← Bool.not_eq_true, looksDecimal_iff]
    rintro ⟨f, h, -, hfits⟩
    exact hnone f h hfits
  rw [convert_eq, plain, convert, if_neg hne, hinteger, hdecimal, if_neg Bool.false_ne_true,
    if_neg Bool.false_ne_true, if_neg (Int.lt_irrefl _)]
  rfl

/-- What looks like a number is delivered as one, or not at all. -/
theorem convert_number {f : Figures} (h : f.Uses Unicode.isDigit) (hfits : f.Fits cell.toList)
    (hvalue : convert threshold identity cell = .ok value) :
    (∃ n, value = .int n) ∨ ∃ d, value = .decimal d := by
  have hne : cell ≠ "" := by simpa using hfits.ne_nil h
  have hlooks : looksInteger cell.toList = true ∨ looksDecimal cell.toList = true := by
    by_cases hplaces : f.places = []
    · exact .inl (looksInteger_iff.2 ⟨f, h, hplaces, hfits⟩)
    · exact .inr (looksDecimal_iff.2 ⟨f, h, hplaces, hfits⟩)
  rw [convert, if_neg hne] at hvalue
  split at hvalue
  · cases hnumber : Numeral.readInteger cell with
    | error fault =>
        rw [hnumber] at hvalue
        cases hvalue
    | ok n =>
        rw [hnumber] at hvalue
        cases hvalue
        exact .inl ⟨n, rfl⟩
  · rename_i hinteger
    rw [if_pos (hlooks.resolve_left hinteger)] at hvalue
    cases hnumber : Decimal.ofString cell with
    | error fault =>
        rw [hnumber] at hvalue
        cases hvalue
    | ok d =>
        rw [hnumber] at hvalue
        cases hvalue
        exact .inr ⟨d, rfl⟩

end CsvFile

namespace CellWriter

variable {w : CellWriter} {d : Dialect} {column : ExportColumn} {s : Logged Sink} {threshold : Int}
  {identity : Nat} {cell : String}

/-- Is a cell converted, and written as one literal that exports it? -/
def ExportsFaithfully (w : CellWriter) (d : Dialect) (threshold : Int) (identity : Nat)
    (column : ExportColumn) (cell : String) (s : Logged Sink) : Prop :=
  ∃ value lexeme text t, CsvFile.convert threshold identity cell = .ok value ∧
    w.writeValue column value s = .ok () t ∧ t.state.output = s.state.output ++ text ∧
    d.Writes text lexeme ∧ CsvFile.Exports cell value lexeme

theorem displays_of_string (w : CellWriter) (hkind : column.column.kind = .string) :
    w.displays column = false := by
  simp [displays, hkind]

theorem exports_empty (threshold : Int) (identity : Nat) (hw : w.WritesLiterals d) :
    w.ExportsFaithfully d threshold identity column "" s := by
  have hnull : w.nullLiteral = "NULL" := by simp [nullLiteral, hw.dialect?_eq, Dialect.nullLiteral]
  refine ⟨.null, _, "NULL", _, rfl, Sink.write_apply w.nullLiteral s, ?_,
    d.writes_keyword (by decide : "NULL" ∈ Lexer.keywords), .null⟩
  rw [hnull, Sink.output_add]

theorem writeValue_integer {f : Figures} (hw : w.WritesLiterals d)
    (hcolumn : column.handler? = none) (hdisplays : w.displays column = false)
    (hf : f.Uses Char.isDigit) (hlength : f.whole.length ≤ Numeral.digitLimit) :
    ∃ t, w.writeValue column (.int f.integer) s = .ok () t ∧
      WrittenAs (toString f.integer) (.int f.integer) s.state t.state := by
  refine writeValue_style _ hw hcolumn hdisplays nofun nofun nofun fun style _ => ?_
  rw [LiteralStyle.write, integerText, Numeral.writeInteger,
    if_pos (Figures.writable_integer hf hlength)]
  rfl

theorem exports_integer {f : Figures} (hw : w.WritesLiterals d) (hcolumn : column.handler? = none)
    (hdisplays : w.displays column = false) (hf : f.Uses Char.isDigit) (hplaces : f.places = [])
    (hlength : f.whole.length ≤ Numeral.digitLimit) :
    w.ExportsFaithfully d threshold identity column (.ofList f.text) s := by
  have hvalue : CsvFile.convert threshold identity (.ofList f.text) = .ok (.int f.integer) := by
    rw [CsvFile.convert_integer hf hplaces, if_neg (Nat.not_lt.2 hlength)]
  obtain ⟨t, ht, hwritten⟩ := writeValue_integer (s := s) hw hcolumn hdisplays hf hlength
  exact ⟨_, _, _, t, hvalue, ht, hwritten.output, d.writes_number (Numeral.isNumeral_toString _),
    .integer hf hplaces⟩

theorem exports_decimal {f : Figures} (hw : w.WritesLiterals d) (hcolumn : column.handler? = none)
    (hdisplays : w.displays column = false) (hf : f.Uses Char.isDigit) (hplaces : f.places ≠ [])
    (hlength : f.text.length ≤ Delimited.fieldLimit) :
    w.ExportsFaithfully d threshold identity column (.ofList f.text) s := by
  have hdigits : ∀ c ∈ f.whole ++ f.places, c.isDigit = true :=
    List.forall_mem_append.2 ⟨hf.whole.forall_mem fun _ hc => hc, hf.places⟩
  have hcoefficient :=
    (Decimal.coefficient_dropZeros _).trans (Decimal.coefficient_digitsOf hdigits)
  obtain ⟨t, ht, hwritten⟩ :=
    writeValue_style (s := s) (.decimal f.decimal) hw hcolumn hdisplays nofun nofun nofun
      fun style _ => rfl
  exact ⟨_, _, _, t, CsvFile.convert_decimal hf hplaces hlength, ht, hwritten.output,
    d.writes_number (Decimal.isNumeral_text rfl), .decimal hf hplaces hcoefficient⟩

/-- A cell that looks like no number is exported as a text. -/
theorem exports_text (hw : w.WritesLiterals d) (hcolumn : column.handler? = none)
    (hdisplays : w.displays column = false) (hcalm : Calm s.state.monitor?)
    (hnew : ∀ n ∈ s.state.releases, n < identity) (hne : cell ≠ "")
    (hnone : ∀ f : Figures, f.Uses Unicode.isDigit → ¬f.Fits cell.toList) :
    w.ExportsFaithfully d threshold identity column cell s := by
  have hdisplayed : w.displays column = true → ∀ text, Value.text cell ≠ .text text := by
    intro hshown
    rw [hdisplays] at hshown
    cases hshown
  obtain ⟨t, ht, hwritten⟩ :=
    writeValue_convert (s := s) threshold hw hcolumn hdisplayed hcalm hnew rfl
  refine ⟨_, _, _, t, CsvFile.convert_text hne hnone, ht, hwritten.output, d.writes_text cell,
    .text hne ?_ ?_⟩
  · exact fun f hf hcell => hnone f hf.of_ascii (.inl hcell)
  · rw [Query.convert]
    split
    · exact .inr ⟨identity, rfl⟩
    · exact .inl rfl

/-- What is taken for a number and exported faithfully is a numeral of ASCII digits. -/
theorem ExportsFaithfully.isExact
    (h : w.ExportsFaithfully d threshold identity column cell s) {f : Figures}
    (hf : f.Uses Unicode.isDigit) (hfits : f.Fits cell.toList) : CsvFile.IsExact cell.toList := by
  obtain ⟨value, lexeme, text, t, hvalue, -, -, -, hexports⟩ := h
  cases hexports with
  | null => exact absurd rfl (hfits.ne_nil hf)
  | @integer g hg hplaces =>
      refine ⟨g, hg, String.toList_ofList, fun _ => Nat.not_lt.1 fun hlong => ?_⟩
      rw [CsvFile.convert_integer hg hplaces, if_pos hlong] at hvalue
      cases hvalue
  | @decimal g hg hplaces digits hdigits =>
      exact ⟨g, hg, String.toList_ofList, fun hnil => absurd hnil hplaces⟩
  | text hne hnumeral htext =>
      rcases CsvFile.convert_number hf hfits hvalue with ⟨n, rfl⟩ | ⟨number, rfl⟩
      · rcases htext with htext | ⟨_, htext⟩ <;> cases htext
      · rcases htext with htext | ⟨_, htext⟩ <;> cases htext

/-- A cell is exported faithfully unless it is taken for a number that it does not spell exactly. -/
theorem exportsFaithfully_iff (hw : w.WritesLiterals d) (hcolumn : column.handler? = none)
    (hkind : column.column.kind = .string) (hcalm : Calm s.state.monitor?)
    (hnew : ∀ n ∈ s.state.releases, n < identity) (hfield : Delimited.IsField cell) :
    w.ExportsFaithfully d threshold identity column cell s ↔
      ∀ f : Figures, f.Uses Unicode.isDigit → f.Fits cell.toList → CsvFile.IsExact cell.toList := by
  constructor
  · exact fun h f hf hfits => h.isExact hf hfits
  · intro hexact
    have hdisplays := w.displays_of_string hkind
    by_cases hempty : cell = ""
    · subst hempty
      exact exports_empty threshold identity hw
    by_cases hnumeral : CsvFile.IsExact cell.toList
    · obtain ⟨f, hf, hcell, hlength⟩ := hnumeral
      obtain rfl : cell = .ofList f.text := by rw [← hcell, String.ofList_toList]
      by_cases hplaces : f.places = []
      · exact exports_integer hw hcolumn hdisplays hf hplaces (hlength hplaces)
      · have hlimit := hfield.length_le
        rw [String.length_ofList] at hlimit
        exact exports_decimal hw hcolumn hdisplays hf hplaces hlimit
    · exact exports_text hw hcolumn hdisplays hcalm hnew hempty fun f hf hfits =>
        hnumeral (hexact f hf hfits)

/-- A decimal number is no large object, however low the threshold is. -/
theorem exportsFaithfully_iff_price :
    let w :=
      (Exporter.make (some .mysql) {} (.empty #[])).cellWriter (.literals { dialect := .mysql })
    let column : ExportColumn := { column := { name := "price", kind := .string } }
    let s : Logged Sink := { log := {}, state := { monitor? := some {} } }
    w.WritesLiterals .mysql ∧ column.handler? = none ∧ column.column.kind = .string ∧
      Calm s.state.monitor? ∧ (∀ n ∈ s.state.releases, n < 0) ∧ Delimited.IsField "-12.50" ∧
      w.ExportsFaithfully .mysql (-1) 0 column "-12.50" s := by
  intro w column s
  have hw : w.WritesLiterals .mysql := ⟨rfl, rfl, _, rfl, rfl⟩
  have hfield : Delimited.IsField "-12.50" := by
    refine ⟨',', .ofText "7,\"-12.50\"\n".toList, ["7", "-12.50"], .ofText [], ?_, by simp⟩
    rw [Delimited.readRecord, Delimited.readRecordFrom, TextReader.readLine,
      TextReader.readLineFrom]
    rfl
  have hnew : ∀ n ∈ s.state.releases, n < 0 := fun n hn => absurd hn List.not_mem_nil
  refine ⟨hw, rfl, rfl, Monitor.calm_fresh, hnew, hfield, ?_⟩
  refine (exportsFaithfully_iff hw rfl rfl Monitor.calm_fresh hnew hfield).2 fun _ _ _ => ?_
  have hwhole : IsWhole Char.isDigit "12".toList :=
    .inr ⟨'1', ['2'], rfl, by decide, List.forall_mem_singleton.2 (by decide)⟩
  have hplaces : ∀ c ∈ "50".toList, c.isDigit = true := List.all_eq_true.1 (by decide)
  exact ⟨⟨true, "12".toList, "50".toList⟩, ⟨hwhole, hplaces⟩, by decide,
    fun hnil => absurd hnil (by decide)⟩

/-- A digit with a line feed behind it is exported as a number, without the line feed. -/
theorem not_exportsFaithfully_feed :
    let w := (Exporter.make (some .generic) {} (.empty #[])).cellWriter (.literals {})
    let column : ExportColumn := { column := { name := "a", kind := .string } }
    Delimited.IsField "1\n" ∧ CsvFile.convert 4000 0 "1\n" = .ok (.int 1) ∧
      ∀ s : Logged Sink, (∃ t, w.writeValue column (.int 1) s = .ok () t ∧
        t.state.output = s.state.output ++ "1") ∧
        ¬w.ExportsFaithfully .generic 4000 0 column "1\n" s := by
  intro w column
  have hfield : Delimited.IsField "1\n" := by
    refine ⟨',', .ofText "\"1\n\"\n".toList, ["1\n"], .ofText [], ?_, by simp⟩
    rw [Delimited.readRecord, Delimited.readRecordFrom, TextReader.readLine,
      TextReader.readLineFrom]
    show Delimited.readRecordFrom ',' { place := .inQuotes, field := "\n1".toList, length := 2 }
      (.ofText "\"\n".toList) = _
    rw [Delimited.readRecordFrom, TextReader.readLine, TextReader.readLineFrom]
    rfl
  have hw : w.WritesLiterals .generic := ⟨rfl, rfl, _, rfl, rfl⟩
  have hone : Figures.Uses Char.isDigit ⟨false, ['1'], []⟩ :=
    ⟨.inr ⟨'1', [], rfl, by decide, nofun⟩, nofun⟩
  refine ⟨hfield, rfl, fun s => ⟨?_, fun h => ?_⟩⟩
  · obtain ⟨t, ht, hwritten⟩ :=
      writeValue_integer (s := s) hw (rfl : column.handler? = none) rfl hone (by decide)
    exact ⟨t, ht, hwritten.output⟩
  · obtain ⟨f, hf, htext, -⟩ := h.isExact hone.of_ascii (.inr rfl)
    refine Figures.getLast?_text hf.of_ascii ?_
    rw [← htext]
    rfl

end CellWriter

end InsertScript
