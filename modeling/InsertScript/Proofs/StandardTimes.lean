import InsertScript.Proofs.ExactNumbers
import InsertScript.Proofs.Sessions
import Mathlib.Data.Option.Basic

/-!
# The standard forms of dates and times lose nothing

A date, a time of day or a moment is read back from its standard form with all its parts, the
microseconds and the offset from universal time included; only a name that its zone has of its own
is not written (`Value.ofStandard?_standard?`). The three forms cannot be mistaken for each other: a
date begins with a number in front of a hyphen, and only a moment goes on behind it.

So once a header has been written with native dates and times, what stands in a cell of any column
without a handler of its own is a literal that is read as the value in it
(`Exporter.writes_readable_times`).
-/

namespace InsertScript

namespace Lexer

/-- A number at the head of some characters, and what follows it. -/
def natural (chars : List Char) : Nat × List Char :=
  (Nat.ofDigitChars 10 (digits chars).1 0, (digits chars).2)

/-- What follows a character, if it stands there. -/
def after? (mark : Char) : List Char → Option (List Char)
  | [] => none
  | c :: rest => if c = mark then some rest else none

/-- A number behind a character, if it stands there, and what follows the number. -/
def naturalAfter? (mark : Char) (chars : List Char) : Option (Nat × List Char) :=
  (after? mark chars).map natural

/-- A number ends in front of a mark. -/
theorem isDigit_head_cons (mark : Char) (h : mark.isDigit = false) (rest : List Char) :
    ∀ c ∈ (mark :: rest).head?, c.isDigit = false := by
  intro c hc
  cases hc
  exact h

/-- A number ends at the end of the text. -/
theorem isDigit_head_nil : ∀ c ∈ ([] : List Char).head?, c.isDigit = false := by
  intro c hc
  cases hc

theorem natural_zeroPadded (width n : Nat) {rest : List Char}
    (hrest : ∀ c ∈ rest.head?, c.isDigit = false) :
    natural (Numeral.zeroPadded width n ++ rest) = (n, rest) := by
  have hdigits := Numeral.isDigit_zeroPadded width n
  have hvalue : Nat.ofDigitChars 10 (Numeral.zeroPadded width n) 0 = n := by
    rw [Numeral.zeroPadded, ofDigitChars_replicate_append, Nat.ofDigitChars_ten_toDigits]
  rw [natural, digits_append hdigits hrest, hvalue]

theorem naturalAfter?_zeroPadded (mark : Char) (width n : Nat) {rest : List Char}
    (hrest : ∀ c ∈ rest.head?, c.isDigit = false) :
    naturalAfter? mark (mark :: (Numeral.zeroPadded width n ++ rest)) = some (n, rest) := by
  rw [naturalAfter?, after?, if_pos rfl, Option.map_some, natural_zeroPadded width n hrest]

theorem stops_nil : Stops [] := by
  intro c hc
  cases hc

theorem naturalAfter?_of_ne {mark : Char} {chars : List Char} (h : ∀ c ∈ chars.head?, c ≠ mark) :
    naturalAfter? mark chars = none := by
  cases chars with
  | nil => rfl
  | cons c rest => rw [naturalAfter?, after?, if_neg (h c rfl), Option.map_none]

end Lexer

open Lexer (natural naturalAfter? isDigit_head_cons isDigit_head_nil natural_zeroPadded
  naturalAfter?_zeroPadded naturalAfter?_of_ne)

/-! ### Reading the standard forms -/

/-- A date in its standard form, and what follows it. -/
def Date.readIso? (chars : List Char) : Option (Date × List Char) := do
  let (year, rest) := natural chars
  let (month, rest) ← naturalAfter? '-' rest
  let (day, rest) ← naturalAfter? '-' rest
  return ({ year, month, day }, rest)

/-- A time of day in its standard form, and what follows it. -/
def Clock.readIso? (chars : List Char) : Option (Clock × List Char) := do
  let (hour, rest) := natural chars
  let (minute, rest) ← naturalAfter? ':' rest
  let (second, rest) ← naturalAfter? ':' rest
  let (microsecond, rest) := (naturalAfter? '.' rest).getD (0, rest)
  return ({ hour, minute, second, microsecond }, rest)

/-- The number of seconds behind the sign of an offset. -/
def offsetSize? (chars : List Char) : Option Nat := do
  let (hours, rest) := natural chars
  let (minutes, rest) ← naturalAfter? ':' rest
  let (seconds, rest) := (naturalAfter? ':' rest).getD (0, rest)
  guard (rest = [])
  return (hours * 60 + minutes) * 60 + seconds

/-- An offset from universal time in its standard form, or nothing for a local time. -/
def readOffset? : List Char → Option (Option Int)
  | [] => some none
  | '-' :: rest => (offsetSize? rest).map fun size : Nat => some (-(size : Int))
  | '+' :: rest => (offsetSize? rest).map fun size : Nat => some (size : Int)
  | _ => none

/-- A time of day with its offset. -/
def readClock? (chars : List Char) : Option (Clock × Option Int) := do
  let (clock, rest) ← Clock.readIso? chars
  return (clock, ← readOffset? rest)

/-- The date or time whose standard form a text is. -/
def Value.ofStandard? (text : String) : Option Value :=
  match Date.readIso? text.toList with
  | some (d, []) => some (.date d)
  | some (d, ' ' :: rest) =>
      (readClock? rest).map fun (t, offset) => .moment { date := d, clock := t, offset }
  | some _ => none
  | none => (readClock? text.toList).map fun (t, offset) => .clock t offset

theorem Date.readIso?_iso (d : Date) {rest : List Char}
    (hrest : ∀ c ∈ rest.head?, c.isDigit = false) : readIso? (d.iso ++ rest) = some (d, rest) := by
  have hmark := isDigit_head_cons '-' rfl
  simp only [readIso?, iso, List.append_assoc, List.cons_append]
  rw [natural_zeroPadded 4 d.year (hmark _)]
  simp only [naturalAfter?_zeroPadded '-' 2 d.month (hmark _),
    naturalAfter?_zeroPadded '-' 2 d.day hrest,
    Option.bind_eq_bind, Option.bind_some, Option.pure_def]

/-- The fraction of a second is read, if there is one. -/
theorem Clock.read_fraction (microsecond : Nat) {rest : List Char}
    (hrest : ∀ c ∈ rest.head?, c.isDigit = false ∧ c ≠ '.') :
    (naturalAfter? '.' (fraction microsecond ++ rest)).getD (0, fraction microsecond ++ rest)
      = (microsecond, rest) := by
  unfold fraction
  split
  · rename_i hzero
    rw [List.nil_append, naturalAfter?_of_ne fun c hc => (hrest c hc).2, hzero]
    rfl
  · rw [List.cons_append, naturalAfter?_zeroPadded '.' 6 microsecond fun c hc => (hrest c hc).1]
    rfl

/-- A time of day is read back in front of anything that does not continue it. -/
theorem Clock.readIso?_iso (t : Clock) {rest : List Char}
    (hrest : ∀ c ∈ rest.head?, c.isDigit = false ∧ c ≠ '.') :
    readIso? (t.iso ++ rest) = some (t, rest) := by
  have hmark := isDigit_head_cons ':' rfl
  have hfraction : ∀ c ∈ (fraction t.microsecond ++ rest).head?, c.isDigit = false := by
    unfold fraction
    split
    · exact fun c hc => (hrest c hc).1
    · simp
  simp only [readIso?, iso, isoSeconds, List.append_assoc, List.cons_append]
  rw [natural_zeroPadded 2 t.hour (hmark _)]
  simp only [naturalAfter?_zeroPadded ':' 2 t.minute (hmark _),
    naturalAfter?_zeroPadded ':' 2 t.second hfraction,
    Clock.read_fraction t.microsecond hrest, Option.bind_eq_bind, Option.bind_some, Option.pure_def]

/-- Hours, minutes and the seconds that remain make up an offset. -/
theorem offsetSize?_parts (size : Nat) :
    offsetSize? (Numeral.zeroPadded 2 (size / 3600) ++ ':' ::
      (Numeral.zeroPadded 2 (size / 60 % 60) ++
      (if size % 60 = 0 then [] else ':' :: Numeral.zeroPadded 2 (size % 60)))) = some size := by
  have hmark := isDigit_head_cons ':' rfl
  have hparts : (size / 3600 * 60 + size / 60 % 60) * 60 + size % 60 = size := by omega
  rw [offsetSize?, natural_zeroPadded 2 (size / 3600) (hmark _)]
  by_cases hzero : size % 60 = 0
  · simp only [hzero, if_true, naturalAfter?_zeroPadded ':' 2 (size / 60 % 60) isDigit_head_nil,
      Option.bind_eq_bind, Option.bind_some]
    have hnone : naturalAfter? ':' [] = none := rfl
    rw [hzero] at hparts
    simp [hnone, hparts]
  · have hseconds := naturalAfter?_zeroPadded ':' 2 (size % 60) isDigit_head_nil
    rw [List.append_nil] at hseconds
    simp only [hzero, if_false, naturalAfter?_zeroPadded ':' 2 (size / 60 % 60) (hmark _), hseconds,
      Option.bind_eq_bind, Option.bind_some, Option.getD_some]
    simp [hparts]

theorem readOffset?_isoOffset (offset : Option Int) :
    readOffset? (isoOffset offset) = some offset := by
  cases offset with
  | none => rfl
  | some offset =>
      have hsize := offsetSize?_parts offset.natAbs
      by_cases hneg : offset < 0
      · have hvalue : -(offset.natAbs : Int) = offset := by omega
        simp only [isoOffset, offsetText, hneg, if_true, List.cons_append, List.nil_append,
          List.append_assoc, readOffset?, hsize, Option.map_some, hvalue]
      · have hvalue : (offset.natAbs : Int) = offset := by omega
        simp only [isoOffset, offsetText, hneg, if_false, List.cons_append, List.nil_append,
          List.append_assoc, readOffset?, hsize, Option.map_some, hvalue]

/-- An offset does not continue the time of day in front of it. -/
theorem isoOffset_head (offset : Option Int) :
    ∀ c ∈ (isoOffset offset).head?, c.isDigit = false ∧ c ≠ '.' := by
  cases offset with
  | none => simp [isoOffset, offsetText]
  | some offset =>
      by_cases hneg : offset < 0
      · simp [isoOffset, offsetText, hneg]
      · simp [isoOffset, offsetText, hneg]

theorem readClock?_iso (t : Clock) (offset : Option Int) :
    readClock? (t.iso ++ isoOffset offset) = some (t, offset) := by
  simp only [readClock?, Clock.readIso?_iso t (isoOffset_head offset), readOffset?_isoOffset,
    Option.bind_eq_bind, Option.bind_some, Option.pure_def]

/-- A time of day does not begin like a date. -/
theorem Date.readIso?_clock (t : Clock) (rest : List Char) :
    Date.readIso? (t.iso ++ rest) = none := by
  have hmark := isDigit_head_cons ':' rfl
  simp only [readIso?, Clock.iso, Clock.isoSeconds, List.append_assoc, List.cons_append]
  rw [natural_zeroPadded 2 t.hour (hmark _)]
  rfl

/-- The value without the name that its zone may have of its own. -/
def Value.unnamed : Value → Value
  | .moment m => .moment { m with zoneName? := none }
  | v => v

/-- A date or time is read from its standard form. -/
theorem Value.ofStandard?_standard? {v : Value} {standard : String}
    (h : LiteralStyle.standard? v = some standard) :
    Value.ofStandard? standard = some v.unnamed := by
  cases v with
  | moment m =>
      obtain rfl := Option.some.inj h
      have hblank := isDigit_head_cons ' ' rfl (m.clock.iso ++ isoOffset m.offset)
      have htext : m.iso = m.date.iso ++ ' ' :: (m.clock.iso ++ isoOffset m.offset) := by
        simp [Moment.iso]
      simp only [ofStandard?, String.toList_ofList, htext,
        Date.readIso?_iso m.date hblank, readClock?_iso]
      rfl
  | date d =>
      obtain rfl := Option.some.inj h
      have hdate := Date.readIso?_iso d isDigit_head_nil
      rw [List.append_nil] at hdate
      simp only [ofStandard?, String.toList_ofList, hdate]
      rfl
  | clock t offset =>
      obtain rfl := Option.some.inj h
      simp only [ofStandard?, String.toList_ofList, Date.readIso?_clock, readClock?_iso]
      rfl
  | _ => cases h

/-! ### Cells -/

/-- The date or time that a text literal stands for. -/
def Dialect.readTime? (d : Dialect) (text : String) : Option Value :=
  match d.readLiteral? text.toList with
  | some (.text standard, []) => Value.ofStandard? standard
  | _ => none

theorem Dialect.readTime?_literal (d : Dialect) {v : Value} {standard : String}
    (h : LiteralStyle.standard? v = some standard) :
    d.readTime? (d.literal standard) = some v.unnamed := by
  have hread := d.readLiteral?_literal standard Lexer.stops_nil
  rw [List.append_nil] at hread
  rw [readTime?, hread]
  exact Value.ofStandard?_standard? h

/-- Is it a date, a time of day, or both? -/
def Value.IsTime : Value → Prop
  | .moment _ | .date _ | .clock _ _ => True
  | _ => False

theorem Value.IsTime.exists_standard {v : Value} (h : v.IsTime) :
    ∃ standard, LiteralStyle.standard? v = some standard := by
  cases v with
  | moment m => exact ⟨_, rfl⟩
  | date d => exact ⟨_, rfl⟩
  | clock t offset => exact ⟨_, rfl⟩
  | _ => cases h

/-- A style that is native writes dates and times in their standard form. -/
theorem LiteralStyle.write_native {style : LiteralStyle} (hnative : style.isNative = true)
    {v : Value} {standard : String} (h : standard? v = some standard) :
    style.write .native v = .ok (style.dialect.literal standard) := by
  cases v with
  | moment m =>
      obtain rfl := Option.some.inj h
      simp [write, filled?, standard?, temporal, hnative, quote]
  | date d =>
      obtain rfl := Option.some.inj h
      simp [write, filled?, standard?, temporal, hnative, quote]
  | clock t offset =>
      obtain rfl := Option.some.inj h
      simp [write, filled?, standard?, temporal, hnative, quote]
  | _ => cases h

/-- Is this the text that a value is written as in a column, wherever it is written? -/
def CellWriter.WritesAs (w : CellWriter) (column : ExportColumn) (v : Value) (text : String) :
    Prop :=
  ∀ s : Logged Sink, ∃ t, w.writeValue column v s = .ok () t ∧
    t.state.output = s.state.output ++ text

/-- A native date or time is written in its standard form. -/
theorem CellWriter.writesAs_standard {w : CellWriter} {style : LiteralStyle}
    (hw : w.nativeFormat = true) (hrenderer : w.renderer = .literals style)
    (hnative : style.isNative = true) {column : ExportColumn} (hcolumn : column.handler? = none)
    {v : Value} {standard : String} (h : LiteralStyle.standard? v = some standard) :
    w.WritesAs column v (style.dialect.literal standard) := by
  intro s
  have hdisplays : w.displays column = false := by simp [displays, hw]
  have htext : (w.literal column v).2 = .ok (style.dialect.literal standard) := by
    simp only [literal, hdisplays, hcolumn, hrenderer, Renderer.toSql]
    exact LiteralStyle.write_native hnative h
  have hnull : v ≠ .null := by
    intro hv
    rw [hv] at h
    cases h
  have hcontent : ∀ c, v ≠ .content c := by
    intro c hv
    rw [hv] at h
    cases h
  have hpath : ∀ p, v ≠ .path p := by
    intro p hv
    rw [hv] at h
    cases h
  have hwrite := w.writeValue_literal hnull hcontent hpath htext s
  exact ⟨_, hwrite, by simp [hdisplays]⟩

namespace Exporter

/-- After a header the cells have the standard forms, whatever the renderer wrote before. -/
theorem exists_writesAs_of_header {e : Exporter} (hnative : e.settings.nativeFormat = true)
    {style : LiteralStyle} {s : Logged ExportState} (hs : s.state.renderer = .literals style)
    {calls : List Call} (hcalls : calls.any Call.isHeader = true) {column : ExportColumn}
    (hcolumn : column.handler? = none) {v : Value} (hv : v.IsTime) :
    ∃ text, (e.cellWriter (e.after calls s).state.renderer).WritesAs column v text ∧
      style.dialect.readTime? text = some v.unnamed := by
  obtain ⟨standard, hstandard⟩ := hv.exists_standard
  have hrenderer : (e.after calls s).state.renderer =
      .literals { style with isNative := true } := by
    rw [renderer_after, hcalls, hnative, hs]
    rfl
  have hwrites :=
    CellWriter.writesAs_standard (w := e.cellWriter _) hnative hrenderer rfl hcolumn hstandard
  exact ⟨_, hwrites, style.dialect.readTime?_literal hstandard⟩

/-- Once a header has been written with native dates and times, whatever the renderer wrote before
and whatever has been asked for since, a date or time is written as a literal that is read as the
same value, in any column without a handler of its own. So two of them that are written as the same
text are the same, with all their parts and their offsets, whatever their zones are called. -/
theorem writes_readable_times (e : Exporter) (hnative : e.settings.nativeFormat = true)
    (style : LiteralStyle) (s : Logged ExportState) (hs : s.state.renderer = .literals style)
    (calls calls' : List Call) (hcalls : calls.any Call.isHeader = true)
    (hcalls' : calls'.any Call.isHeader = true) (column column' : ExportColumn)
    (hcolumn : column.handler? = none) (hcolumn' : column'.handler? = none) (v v' : Value)
    (hv : v.IsTime) (hv' : v'.IsTime) :
    ∃ text text',
      (e.cellWriter (e.after calls s).state.renderer).WritesAs column v text ∧
      (e.cellWriter (e.after calls' s).state.renderer).WritesAs column' v' text' ∧
      style.dialect.readTime? text = some v.unnamed ∧
      style.dialect.readTime? text' = some v'.unnamed ∧
      (text = text' → v.unnamed = v'.unnamed) := by
  obtain ⟨text, hwrites, hread⟩ := exists_writesAs_of_header hnative hs hcalls hcolumn hv
  obtain ⟨text', hwrites', hread'⟩ := exists_writesAs_of_header hnative hs hcalls' hcolumn' hv'
  refine ⟨text, text', hwrites, hwrites', hread, hread', ?_⟩
  intro hsame
  rw [hsame, hread'] at hread
  exact (Option.some.inj hread).symm

/-- Two times of day that differ in the seconds of their offsets, for a renderer that was told to
write patterns. -/
theorem writes_readable_times_offsets :
    let e := Exporter.make (some .oracle) {} (.empty #[])
    let style : LiteralStyle := { dialect := .oracle, isNative := false }
    let s : Logged ExportState := { log := {}, state := { renderer := .literals style } }
    let calls : List Call := [.row [], .header [] none, .beginRow]
    let column : ExportColumn := { column := { name := "opens", kind := .datetime } }
    let early : Value := .clock { hour := 9, microsecond := 5 } (some (-3661))
    let late : Value := .clock { hour := 9, microsecond := 5 } (some (-3660))
    e.settings.nativeFormat = true ∧ s.state.renderer = .literals style ∧
      calls.any Call.isHeader = true ∧ column.handler? = none ∧ early.IsTime ∧ late.IsTime ∧
      ∃ text text',
        (e.cellWriter (e.after calls s).state.renderer).WritesAs column early text ∧
        (e.cellWriter (e.after calls s).state.renderer).WritesAs column late text' ∧
        style.dialect.readTime? text = some early ∧ style.dialect.readTime? text' = some late ∧
        (text = text' → early = late) := by
  intro e style s calls column early late
  exact ⟨rfl, rfl, rfl, rfl, trivial, trivial,
    writes_readable_times e rfl style s rfl calls calls rfl rfl column column rfl rfl early late
      trivial trivial⟩

end Exporter

end InsertScript
