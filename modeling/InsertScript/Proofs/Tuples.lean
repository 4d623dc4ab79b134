import InsertScript.Proofs.Literals
import InsertScript.Proofs.Rows

/-!
# Tuples

A cell contributes one literal to the tuple of its row, or it leaves its slot empty. An object in it
is first opened, and nothing is written before this has succeeded; then its text is copied between
two marks, and the second one is written however copying ends. So a cell leaves its slot empty
exactly if its object cannot be opened (`Value.Opens`): it cannot be obtained, it was released
before, or there is nothing to read.

`CellWriter.turns` has the cells of a row that are not left out, each with what has been released
when it is its turn. `Exporter.row_contributions` says of a whole row what its cells contribute.
-/

namespace InsertScript

open Step (Keeps)

/-! ### Objects that open -/

namespace Payload

theorem isOk_map {α β : Type} (outcome : Except Failure α) (f : α → β) :
    (outcome.map f).isOk = outcome.isOk := by
  cases outcome <;> rfl

theorem isOk_bind {α β : Type} {first second : Except Failure α} {next : α → Except Failure β}
    (h : first.isOk = second.isOk) (hnext : ∀ a b, (next a).isOk = (next b).isOk) :
    (first >>= next).isOk = (second >>= next).isOk := by
  cases first with
  | ok a =>
      cases second with
      | ok b => exact hnext a b
      | error failure => cases h
  | error failure =>
      cases second with
      | ok b => cases h
      | error failure' => rfl

/-- Whether there is something to read does not depend on what a file holds. -/
theorem isOk_fileBytes_setContent (files : FileSystem) (number : Nat) (data : Bytes) (path : Path) :
    (fileBytes (files.setContent number data) path).isOk = (fileBytes files path).isOk := by
  unfold fileBytes FileSystem.read
  rw [FileSystem.fileNumber_setContent]
  cases files.fileNumber path <;> rfl

theorem isOk_reader_setContent (files : FileSystem) (number : Nat) (data : Bytes)
    (encoding : String) (payload : Payload) :
    (payload.reader (files.setContent number data) encoding).isOk =
      (payload.reader files encoding).isOk := by
  cases payload with
  | text s => rfl
  | bytes bytes => rfl
  | file path =>
      have hbytes := isOk_fileBytes_setContent files number data path
      change (fileBytes (files.setContent number data) path >>= _).isOk =
        (fileBytes files path >>= _).isOk
      refine isOk_bind hbytes fun first second => ?_
      cases encodingNamed encoding <;> rfl

theorem isOk_allBytes_setContent (files : FileSystem) (number : Nat) (data : Bytes)
    (encoding : String) (payload : Payload) :
    (payload.allBytes (files.setContent number data) encoding).isOk =
      (payload.allBytes files encoding).isOk := by
  cases payload with
  | text s => rfl
  | bytes bytes => rfl
  | file path => exact isOk_fileBytes_setContent files number data path

end Payload

/-- Can an object be opened, so that there is something to write? A file that cannot be decoded
opens nonetheless, and bytes that cannot be decoded do not. -/
structure Content.Opens (content : Content) (files : FileSystem) (releases : Releases) : Prop where
  available : content.unavailable = none
  unreleased : content.isReleased releases = false
  readable : (if content.isText then (content.payload.reader files content.encoding).isOk
    else (content.payload.allBytes files content.encoding).isOk) = true

/-- Can what a cell holds be opened, if it is an object? -/
def Value.Opens (files : FileSystem) (releases : Releases) : Value → Prop
  | .content c => c.Opens files releases
  | _ => True

instance (content : Content) (files : FileSystem) (releases : Releases) :
    Decidable (content.Opens files releases) :=
  decidable_of_iff (content.unavailable = none ∧ content.isReleased releases = false ∧
      (if content.isText then (content.payload.reader files content.encoding).isOk
        else (content.payload.allBytes files content.encoding).isOk) = true)
    ⟨fun ⟨ha, hr, ho⟩ => ⟨ha, hr, ho⟩, fun ⟨ha, hr, ho⟩ => ⟨ha, hr, ho⟩⟩

namespace CellWriter

variable {w : CellWriter} {d : Dialect} {column : ExportColumn} {content : Content} {value : Value}
  {s : Logged Sink}

/-! ### Literals that are closed in any case -/

/-- Has the second sink more text, as it stands inside a text literal? -/
def Copies (w : CellWriter) (s t : Sink) : Prop :=
  ∃ text, t.output = s.output ++ String.ofList (w.escape text)

instance : IsPreorder Sink w.Copies where
  refl s := ⟨[], by simp⟩
  trans s t u := by
    rintro ⟨a, ha⟩ ⟨b, hb⟩
    exact ⟨a ++ b, by rw [hb, ha, escape_append, String.ofList_append, String.append_assoc]⟩

theorem write_copies (text : List Char) :
    Keeps w.Copies (Sink.write (String.ofList (w.escape text))) :=
  Keeps.change fun s => ⟨text, Sink.output_add s _⟩

theorem checkCancelled_copies : Keeps w.Copies checkCancelled := by
  intro s
  by_cases hout : s.state.patience? = some 0
  · rw [Step.run_of_error (checkCancelled_of_impatient hout)]
    exact refl_of w.Copies s.state
  · rw [Step.run_of_ok (checkCancelled_of_patient hout)]
    exact ⟨[], by simp⟩

theorem copyPieces_copies (ending : Option Failure) (parts : List (List Char)) :
    Keeps w.Copies (w.copyPieces ending parts) := by
  induction parts with
  | nil =>
      refine checkCancelled_copies.bind fun _ => ?_
      cases ending with
      | none => exact Keeps.pure ()
      | some failure => exact Keeps.throw failure
  | cons piece rest ih =>
      exact checkCancelled_copies.bind fun _ => (write_copies piece).bind fun _ => ih

theorem copyGrowing_copies (limit known : Nat) (reader : TextReader) :
    Keeps w.Copies (w.copyGrowing limit known reader) := by
  induction limit generalizing known reader with
  | zero => exact Keeps.throw .fullFile
  | succ limit ih =>
      refine checkCancelled_copies.bind fun _ => Keeps.current.bind fun sink => ?_
      split
      · exact Keeps.throw _
      · exact Keeps.pure ()
      · exact (write_copies _).bind fun _ => ih _ _

/-- The mark behind a text is written however copying it ends. -/
theorem quoting_closes {step : Step Sink Unit} (h : Keeps w.Copies step) (s : Logged Sink) :
    ∃ text, ((quoting step).run s).2.state.output
      = s.state.output ++ (mark ++ String.ofList (w.escape text) ++ mark) := by
  obtain ⟨text, htext⟩ := h { s with state := s.state.add mark }
  refine ⟨text, ?_⟩
  have hclosed {t : Logged Sink}
      (ht : t.state.output = (s.state.add mark).output ++ String.ofList (w.escape text)) :
      (t.state.add mark).output = s.state.output ++
        (mark ++ String.ofList (w.escape text) ++ mark) := by
    rw [Sink.output_add, ht, Sink.output_add]
    simp only [String.append_assoc]
  cases hstep : step { s with state := s.state.add mark } with
  | ok a t =>
      rw [Step.run_of_ok hstep] at htext
      rw [Step.run_of_ok (quoting_of_ok hstep)]
      exact hclosed htext
  | error failure t =>
      rw [Step.run_of_error hstep] at htext
      rw [Step.run_of_error (quoting_of_error hstep)]
      exact hclosed htext

/-- A text between two marks is one literal of the dialect that it was escaped for. -/
theorem writes_quoted (hd : w.dialect? = some d) (text : List Char) :
    d.Writes (mark ++ String.ofList (w.escape text) ++ mark) (.text (.ofList text)) := by
  have hliteral : mark ++ String.ofList (w.escape text) ++ mark = d.literal (.ofList text) := by
    rw [escape, hd, ← String.toList_inj]
    simp [Dialect.literal, mark, Dialect.textQuote]
  rw [hliteral]
  exact d.writes_text _

/-! ### What an object contributes -/

/-- The text that an object comes to is the one that a run adds, however it ends. -/
theorem text_contentResult {text : String}
    (h : ((w.writeContent column content).run s).2.state.output = s.state.output ++ text) :
    (w.contentResult column content s).text = text := by
  rw [Sink.output_run (w.writeContent_extends column content) s] at h
  exact (String.append_right_inj _).1 h

/-- The files as an object finds them. -/
def filesOf (w : CellWriter) (content : Content) (sink : Sink) : FileSystem :=
  match w.ownTarget? content.payload with
  | some target => sink.storeInto target w.files
  | none => w.files

/-- Opens an object. What is left to do then writes its literal. -/
def opening (w : CellWriter) (content : Content) (sink : Sink) : Except Failure (Step Sink Unit) :=
  if content.isText then
    (content.payload.reader (w.filesOf content sink) content.encoding).map fun reader =>
      quoting
        (if (w.ownTarget? content.payload).isSome then
          w.copyGrowing FileSystem.largestFile sink.flow.stored reader
         else w.copyText reader)
  else
    (content.payload.allBytes (w.filesOf content sink) content.encoding).map fun data =>
      Sink.write (w.binaryDialect.binaryLiteral data)

theorem writePayload_eq (content : Content) (s : Logged Sink) :
    w.writePayload content content.payload s =
      (Step.ofExcept (w.opening content s.state) >>= id) s := by
  rw [writePayload, Step.bind_of_ok (Step.current_apply s), opening]
  change (if content.isText then
      Step.ofExcept (content.payload.reader (w.filesOf content s.state) content.encoding) >>= _
    else
      Step.ofExcept (content.payload.allBytes (w.filesOf content s.state) content.encoding) >>= _)
      s = _
  split
  · cases content.payload.reader (w.filesOf content s.state) content.encoding <;> rfl
  · cases content.payload.allBytes (w.filesOf content s.state) content.encoding <;> rfl

/-- Opening an object does not depend on how far the script has come. -/
theorem isOk_opening (w : CellWriter) (content : Content) (sink : Sink) :
    (w.opening content sink).isOk =
      if content.isText then (content.payload.reader w.files content.encoding).isOk
      else (content.payload.allBytes w.files content.encoding).isOk := by
  unfold opening filesOf
  split
  · rw [Payload.isOk_map]
    split
    · exact content.payload.isOk_reader_setContent _ _ _ _
    · rfl
  · rw [Payload.isOk_map]
    split
    · exact content.payload.isOk_allBytes_setContent _ _ _ _
    · rfl

/-- An opened object is written as one literal, however writing it ends. -/
theorem writes_of_opening {copying : Step Sink Unit} (hd : w.dialect? = some d)
    (hbinary : w.binaryDialect = d) (h : w.opening content s.state = .ok copying) :
    ∃ text, (copying.run s).2.state.output = s.state.output ++ text ∧
      ∃ lexeme, d.Writes text lexeme := by
  unfold opening at h
  split at h
  · cases hreader : content.payload.reader (w.filesOf content s.state) content.encoding with
    | error failure =>
        rw [hreader] at h
        cases h
    | ok reader =>
        rw [hreader] at h
        cases h
        have hcopies : Keeps w.Copies (if (w.ownTarget? content.payload).isSome then
            w.copyGrowing FileSystem.largestFile s.state.flow.stored reader else
              w.copyText reader) := by
          split
          · exact copyGrowing_copies _ _ reader
          · exact copyPieces_copies _ _
        obtain ⟨text, houtput⟩ := quoting_closes hcopies s
        exact ⟨_, houtput, _, writes_quoted hd text⟩
  · cases hdata : content.payload.allBytes (w.filesOf content s.state) content.encoding with
    | error failure =>
        rw [hdata] at h
        cases h
    | ok data =>
        rw [hdata] at h
        cases h
        obtain ⟨lexeme, -, hwrites⟩ :=
          LiteralStyle.exists_writes_bytes { dialect := d } (v := .bytes data) rfl
        rw [← hbinary] at hwrites ⊢
        exact ⟨_, Sink.output_add s.state _, lexeme, hwrites⟩

/-- An object that opens contributes one literal, whatever happens while it is copied. -/
theorem contentResult_of_opens (hd : w.dialect? = some d) (hbinary : w.binaryDialect = d)
    (hcolumn : column.handler?.bind (·.stream?) = none)
    (h : content.Opens w.files s.state.releases) :
    ∃ lexeme, d.Writes (w.contentResult column content s).text lexeme := by
  have hreadable := h.readable
  rw [← w.isOk_opening content s.state] at hreadable
  cases hopening : w.opening content s.state with
  | error failure =>
      rw [hopening] at hreadable
      cases hreadable
  | ok copying =>
      have hwrite : w.writeContent column content s = copying s := by
        rw [w.writeContent_open hcolumn h.available h.unreleased, writePayload_eq, hopening,
          Step.bind_of_ok (Step.ofExcept_ok copying s)]
        rfl
      obtain ⟨text, houtput, hwrites⟩ := writes_of_opening hd hbinary hopening
      rw [Step.run, ← hwrite, ← Step.run] at houtput
      rwa [text_contentResult houtput]

/-- An object that does not open contributes nothing. -/
theorem contentResult_of_not_opens (hcolumn : column.handler?.bind (·.stream?) = none)
    (h : ¬content.Opens w.files s.state.releases) :
    (w.contentResult column content s).text = "" := by
  cases havailable : content.unavailable with
  | some reason => rw [contentResult_of_unavailable hcolumn havailable]
  | none =>
      cases hreleased : content.isReleased s.state.releases with
      | true => rw [contentResult_of_released hcolumn havailable hreleased]
      | false =>
          have hreadable := w.isOk_opening content s.state
          cases hopening : w.opening content s.state with
          | ok copying =>
              rw [hopening] at hreadable
              exact absurd ⟨havailable, hreleased, hreadable.symm⟩ h
          | error failure =>
              -- nothing is written before the object has been opened
              have hwrite : w.writeContent column content s = .error failure s := by
                rw [w.writeContent_open hcolumn havailable hreleased, writePayload_eq, hopening,
                  Step.bind_of_error (Step.ofExcept_error failure s)]
              rw [contentResult_of_error hwrite String.append_empty.symm]

/-! ### What a cell contributes -/

/-- Is a value that is no object written as one literal? -/
structure WritesPlain (w : CellWriter) (d : Dialect) (column : ExportColumn) (value : Value) :
    Prop where
  renders : w.Renders column value
  literal : ∃ lexeme, d.Writes (w.plainText column value) lexeme

/-- Without a handler the values that an export writes are written so, those aside that are wanted
for display and those that refer to files. -/
theorem WritesPlain.of_writesLiterals (hw : w.WritesLiterals d) (hcolumn : column.handler? = none)
    (hdisplays : w.displays column = false) (hcontent : ∀ c, value ≠ .content c)
    (hpath : ∀ p, value ≠ .path p) (hrenders : w.Renders column value) :
    w.WritesPlain d column value := by
  refine ⟨hrenders, ?_⟩
  obtain ⟨style, hrenderer, rfl⟩ := hw.renderer_eq
  by_cases hnull : value = .null
  · subst hnull
    have hplain : w.plainText column .null = "NULL" := by
      rw [plainText, nullLiteral, hw.dialect?_eq]
      rfl
    rw [hplain]
    exact ⟨_, style.dialect.writes_keyword (by decide)⟩
  · obtain ⟨text, htext⟩ : ∃ text, (w.literal column value).2 = .ok text := by
      unfold Renders at hrenders
      split at hrenders
      · exact absurd rfl hnull
      · exact absurd rfl (hcontent _)
      · exact absurd rfl (hpath _)
      · exact hrenders
    have hplain : w.plainText column value = text := by
      unfold plainText
      split
      · exact absurd rfl hnull
      · exact absurd rfl (hpath _)
      · rw [htext, hdisplays]
        rfl
    have hstyle :
        (w.literal column value).2 = style.write
        (if w.displays column then .ui else .native) value := by
      simp only [CellWriter.literal, hcolumn, hrenderer, Renderer.toSql]
    have hwrite : style.write .native value = .ok text := by
      rw [← htext, hstyle, hdisplays]
      rfl
    obtain ⟨lexeme, -, hwrites⟩ := style.exists_writes hwrite
    exact ⟨lexeme, hplain ▸ hwrites⟩

/-- A cell that is not left out, and what has been released when it is its turn. -/
structure Turn where
  column : ExportColumn
  value : Value
  releases : Releases

/-- The turns of a row, one after the other. -/
def turns (w : CellWriter) : Releases → List (ExportColumn × Value) → List Turn
  | _, [] => []
  | releases, (column, value) :: rest =>
      let later := turns w (value.release releases) rest
      if w.skips column then later else { column, value, releases } :: later

theorem length_turns (releases : Releases) (cells : List (ExportColumn × Value)) :
    (w.turns releases cells).length = (cells.filter fun cell => !w.skips cell.1).length := by
  induction cells generalizing releases with
  | nil => rfl
  | cons cell rest ih =>
      obtain ⟨column, value⟩ := cell
      rw [turns]
      by_cases hskip : w.skips column = true
      · rw [if_pos hskip, ih, List.filter_cons_of_neg (by simpa using hskip)]
      · rw [if_neg hskip, List.length_cons, ih, List.filter_cons_of_pos (by simpa using hskip),
          List.length_cons]

/-- Is this what a cell contributes: one literal, or nothing if it is an object that does not
open? -/
inductive Turn.Contributes (d : Dialect) (files : FileSystem) (turn : Turn) : String → Prop where
  | literal {text : String} {lexeme : Lexeme} (hopens : turn.value.Opens files turn.releases)
      (hwrites : d.Writes text lexeme) : Contributes d files turn text
  | nothing (hshut : ¬turn.value.Opens files turn.releases) : Contributes d files turn ""

/-- What a cell adds to its row is its contribution. -/
theorem cellResult_contributes (hd : w.dialect? = some d) (hbinary : w.binaryDialect = d)
    (hcolumn : column.handler?.bind (·.stream?) = none)
    (hplain : (∀ c, value ≠ .content c) → w.WritesPlain d column value) (s : Logged Sink) :
    Turn.Contributes d w.files { column, value, releases := s.state.releases }
      (w.cellResult column value s).text := by
  by_cases hcontent : ∃ c, value = .content c
  · obtain ⟨content, rfl⟩ := hcontent
    change Turn.Contributes d w.files _ (w.contentResult column content s).text
    by_cases hopens : content.Opens w.files s.state.releases
    · obtain ⟨lexeme, hwrites⟩ := contentResult_of_opens hd hbinary hcolumn hopens
      exact .literal hopens hwrites
    · rw [contentResult_of_not_opens hcolumn hopens]
      exact .nothing hopens
  · have hvalue : ∀ c, value ≠ .content c := fun c hc => hcontent ⟨c, hc⟩
    obtain ⟨lexeme, hwrites⟩ := (hplain hvalue).literal
    have hopens : value.Opens w.files s.state.releases := by
      unfold Value.Opens
      split
      · exact absurd rfl (hvalue _)
      · trivial
    have htext : (w.cellResult column value s).text = w.plainText column value := by
      unfold cellResult
      split
      · exact absurd rfl (hvalue _)
      · rfl
    rw [htext]
    exact .literal hopens hwrites

theorem renders_of_plain (hplain : (∀ c, value ≠ .content c) → w.WritesPlain d column value) :
    w.Renders column value := by
  by_cases hcontent : ∃ c, value = .content c
  · obtain ⟨content, rfl⟩ := hcontent
    trivial
  · exact (hplain fun c hc => hcontent ⟨c, hc⟩).renders

/-- Every cell of a row contributes as its turn says. -/
theorem results_contribute (hd : w.dialect? = some d) (hbinary : w.binaryDialect = d)
    {cells : List (ExportColumn × Value)}
    (hcolumns : ∀ cell ∈ cells, cell.1.handler?.bind (·.stream?) = none)
    (hplain : ∀ cell ∈ cells, w.skips cell.1 = false → (∀ c, cell.2 ≠ .content c) →
      w.WritesPlain d cell.1 cell.2) (started : Bool) (s : Logged Sink) :
    List.Forall₂ (Turn.Contributes d w.files) (w.turns s.state.releases cells)
      ((w.results started cells s).map CellResult.text) := by
  induction cells generalizing started s with
  | nil => exact .nil
  | cons cell rest ih =>
      obtain ⟨column, value⟩ := cell
      have hrest := ih (fun cell hcell => hcolumns cell (List.mem_cons_of_mem _ hcell))
        fun cell hcell => hplain cell (List.mem_cons_of_mem _ hcell)
      rw [turns, results]
      by_cases hskip : w.skips column = true
      · rw [if_pos hskip, if_pos hskip, Step.run_of_ok (releaseSkipped_apply value s)]
        exact hrest started
          { s with state := { s.state with releases := value.release s.state.releases } }
      · have hcell := hplain (column, value) List.mem_cons_self (Bool.eq_false_iff.2 hskip)
        obtain ⟨s₁, hcomma, hreleases₁⟩ : ∃ s₁, comma started s = .ok () s₁ ∧
            s₁.state.releases = s.state.releases := by
          cases started <;> exact ⟨_, rfl, rfl⟩
        obtain ⟨s₂, hwrite, hleaves⟩ := writeValue_leaves (renders_of_plain hcell) s₁
        rw [if_neg hskip, if_neg hskip, Step.run_of_ok hcomma,
          Step.run_of_ok hwrite, ← hreleases₁, List.map_cons, ← hleaves.releases]
        exact .cons (cellResult_contributes hd hbinary (hcolumns _ List.mem_cons_self) hcell s₁)
          (hrest true s₂)

end CellWriter

/-- One literal is at least one character. -/
theorem Dialect.Writes.ne_empty {d : Dialect} {text : String} {lexeme : Lexeme}
    (h : d.Writes text lexeme) : text ≠ "" := by
  rintro rfl
  have hread := h.read [] (by simp [Lexer.Stops])
  cases hread

namespace CellWriter

variable {d : Dialect} {files : FileSystem}

theorem Turn.Contributes.opens_iff {turn : Turn} {text : String}
    (h : turn.Contributes d files text) :
    (text ≠ "" ∧ ∃ lexeme, d.Writes text lexeme) ↔ turn.value.Opens files turn.releases := by
  cases h with
  | literal hopens hwrites => exact ⟨fun _ => hopens, fun _ => ⟨hwrites.ne_empty, _, hwrites⟩⟩
  | nothing hshut => exact ⟨fun hsome => absurd rfl hsome.1, fun hopens => absurd hopens hshut⟩

/-- No slot is empty if all objects open. -/
theorem forall_writes_iff {turns : List Turn} {texts : List String}
    (h : List.Forall₂ (Turn.Contributes d files) turns texts) :
    (∀ text ∈ texts, text ≠ "" ∧ ∃ lexeme, d.Writes text lexeme) ↔
      ∀ turn ∈ turns, turn.value.Opens files turn.releases := by
  induction h with
  | nil => simp
  | cons hcell _ ih => rw [List.forall_mem_cons, List.forall_mem_cons, hcell.opens_iff, ih]

end CellWriter

namespace Exporter

open CellWriter (Turn WritesPlain)

variable {e : Exporter} {d : Dialect}

/-- The columns of a row that has a value for each of them. -/
theorem length_filter_zip {columns : List ExportColumn} {cells : Row}
    (h : cells.length = columns.length) (p : ExportColumn → Bool) :
    ((columns.zip cells).filter fun cell => p cell.1).length = (columns.filter p).length := by
  have hcolumns : (columns.zip cells).map Prod.fst = columns := List.map_fst_zip (by omega)
  conv_rhs => rw [← hcolumns, List.filter_map, List.length_map]
  rfl

/-- A row is written as a tuple with a slot for every column that is not left out. A slot holds one
literal unless the cell has an object that does not open, and then it is empty. -/
theorem row_contributions {cells : Row} {s : Logged ExportState} (hd : e.dialect? = some d)
    (hlength : cells.length = s.state.session.columns.length)
    (hcolumns : ∀ column ∈ s.state.session.columns, column.handler?.bind (·.stream?) = none)
    (hplain : ∀ cell ∈ s.state.session.columns.zip cells, e.skips cell.1 = false →
      (∀ c, cell.2 ≠ .content c) → (e.cellWriter s.state.renderer).WritesPlain d cell.1 cell.2) :
    let turns :=
      (e.cellWriter s.state.renderer).turns s.state.sink.releases
        (s.state.session.columns.zip cells)
    ∃ t texts, e.row cells s = .ok () t ∧
      t.state.sink.output = s.state.sink.output ++ e.rowText s.state.session
      (",".intercalate texts) ∧
      texts.length = (s.state.session.columns.filter (!e.skips ·)).length ∧
      List.Forall₂ (Turn.Contributes d e.files) turns texts ∧
      ((∀ text ∈ texts, text ≠ "" ∧ ∃ lexeme, d.Writes text lexeme) ↔
        ∀ turn ∈ turns, turn.value.Opens e.files turn.releases) := by
  intro turns
  let w := e.cellWriter s.state.renderer
  let s₁ : Logged Sink :=
    { log := s.log, state := s.state.sink.addAll (e.beforeRow s.state.session) }
  have hbinary : w.binaryDialect = d := by
    change e.dialect?.getD .generic = d
    rw [hd, Option.getD_some]
  have hrenders : w.RendersRow s.state.session.columns cells := fun cell hcell hkept =>
    CellWriter.renders_of_plain (hplain cell hcell hkept)
  obtain ⟨t, hrun, houtput, -, -⟩ := CellWriter.writeCells_results hrenders false s₁
  have hcontributes := CellWriter.results_contribute (w := w) hd hbinary
    (fun cell hcell => hcolumns cell.1 (List.of_mem_zip hcell).1) hplain false s₁
  rw [Sink.releases_addAll] at hcontributes
  obtain ⟨hrow, hwritten⟩ := row_of_cells hrun houtput
  refine ⟨_, _, hrow, hwritten, ?_, hcontributes, CellWriter.forall_writes_iff hcontributes⟩
  rw [← hcontributes.length_eq, CellWriter.length_turns]
  exact length_filter_zip hlength fun column => !e.skips column

/-- A photo in a file that is missing, a note that nobody waits for, and a truth value. -/
theorem row_contributions_missing :
    let e := Exporter.make (some .mysql) {} (.empty #[])
    let photo : Content :=
      { identity := 0, isText := false, payload := .file { root := "", names := ["photo.png"] } }
    let note : Content := { identity := 1, isText := true, payload := .text "O'Re" }
    let columns : List ExportColumn :=
      [{ column := { name := "photo" } }, { column := { name := "note" } },
        { column := { name := "shown" } }]
    let cells : Row := [.content photo, .content note, .bool true]
    let s : Logged ExportState :=
      { log := {}, state :=
        { sink := { monitor? := some { patience? := some 0 } },
          session := e.openSession columns (some "t")
          renderer := .literals { dialect := .mysql } } }
    ¬photo.Opens e.files [] ∧ note.Opens e.files [0] ∧
      ∃ t texts, e.row cells s = .ok () t ∧
        t.state.sink.output = s.state.sink.output ++ e.rowText s.state.session
        (",".intercalate texts) ∧ texts.length = 3 ∧ List.Forall₂ (Turn.Contributes .mysql e.files)
          [{ column := columns[0], value := .content photo, releases := [] },
            { column := columns[1], value := .content note, releases := [0] },
            { column := columns[2], value := .bool true, releases := [1, 0] }] texts := by
  intro e photo note columns cells s
  have hplain : ∀ cell ∈ columns.zip cells, e.skips cell.1 = false → (∀ c, cell.2 ≠ .content c) →
      (e.cellWriter s.state.renderer).WritesPlain .mysql cell.1 cell.2 := by
    intro cell hcell _ hcontent
    simp only [columns, cells, List.zip_cons_cons, List.zip_nil_right, List.mem_cons,
      List.not_mem_nil, or_false] at hcell
    rcases hcell with rfl | rfl | rfl
    · exact absurd rfl (hcontent photo)
    · exact absurd rfl (hcontent note)
    · exact .of_writesLiterals ⟨rfl, rfl, _, rfl, rfl⟩ rfl rfl nofun nofun ⟨_, rfl⟩
  have hcolumns : ∀ column ∈ columns, column.handler?.bind (·.stream?) = none := by simp [columns]
  obtain ⟨t, texts, hrow, houtput, hlength, hcontributes, -⟩ :=
    row_contributions (e := e) (s := s) rfl rfl hcolumns hplain
  exact ⟨by decide, by decide, t, texts, hrow, houtput, hlength, hcontributes⟩

/-- Bytes that cannot be decoded leave their slot empty, so there is one value for two columns. -/
theorem row_undecodable_incomplete :
    let e := Exporter.make (some .generic) {} (.empty #[])
    let content : Content := { identity := 0, isText := true, payload := .bytes [0xff] }
    let columns : List ExportColumn :=
      [{ column := { name := "a" } }, { column := { name := "b" } }]
    let s : Logged ExportState :=
      { log := {}, state := { session := e.openSession columns none, renderer := .literals {} } }
    let run := (e.row [.content content, .int 1]).run s
    run.1.isOk = true ∧
      run.2.state.sink.output = s.state.sink.output ++ e.rowText s.state.session ",1" ∧
      ¬∃ texts : List String, texts.length = 2 ∧ ",".intercalate texts = ",1" ∧
      ∀ text ∈ texts, text ≠ "" := by
  intro e content columns s run
  refine ⟨by decide +kernel, by decide +kernel, ?_⟩
  rintro ⟨texts, hlength, htuple, hne⟩
  obtain ⟨first, second, rfl⟩ := List.length_eq_two.1 hlength
  have hsplit : first ++ "," ++ second = ",1" := by
    rw [← htuple]
    simp [String.intercalate_cons_cons]
  have hfirst : first.length ≠ 0 := by simpa using hne first (by simp)
  have hsecond : second.length ≠ 0 := by simpa using hne second (by simp)
  have hcount := congrArg String.length hsplit
  rw [String.length_append, String.length_append] at hcount
  change first.length + 1 + second.length = 2 at hcount
  omega

end Exporter

end InsertScript
