import InsertScript.Proofs.Cells

/-!
# Rows and the large objects in them

What a row comes to is put together from what its cells come to, one after the other
(`CellWriter.writeRow_contract`): their texts with commas between them, one record of importance for
every large object that could not be written to its end, and one release for every large object
whatever became of it.

`CellWriter.results` has the cells' results in order. A cell is written in the state that the cells
before it have left, so an object may come too late for the monitor, or find itself released; what
it comes to is `CellWriter.contentResult`. Without a record it was copied to its end
(`CellWriter.ReadsToEnd`).
-/

namespace InsertScript

open Step (Leads)
open Sink (Extends WritesOnly)

namespace CellWriter

variable {w : CellWriter} {column : ExportColumn} {content : Content} {s t u : Logged Sink}

/-! ### What a cell comes to -/

/-- What is reported when an object of a column cannot be written to its end. -/
def failureRecord (column : ExportColumn) (failure : Failure) : LogRecord :=
  { level := .warning, origin
    message := s!"Failed to write content of column {column.name}: {failure.message}" }

/-- The text of a cell, and what is reported of the large object in it. -/
structure CellResult where
  text : String
  warning? : Option LogRecord := none
deriving DecidableEq, Repr

/-- What an object comes to: the text that is written up to where it fails, if it does. -/
def contentResult (w : CellWriter) (column : ExportColumn) (content : Content) (s : Logged Sink) :
    CellResult :=
  { text := Sink.added (w.writeContent column content) s
    warning? := match ((w.writeContent column content).run s).1 with
      | .ok _ => none
      | .error failure => some (failureRecord column failure) }

/-- The text of a value that is no large object. -/
def plainText (w : CellWriter) (column : ExportColumn) : Value → String
  | .null => w.nullLiteral
  | .path path => "@" ++ (w.files.absolute path).text
  | value =>
      match (w.literal column value).2 with
      | .ok text => if w.displays column then mark ++ text ++ mark else text
      | .error _ => ""

def cellResult (w : CellWriter) (column : ExportColumn) (value : Value) (s : Logged Sink) :
    CellResult :=
  match value with
  | .content content => w.contentResult column content s
  | value => { text := w.plainText column value }

/-- The results of the cells that are not left out, each in the state that the cells before it have
left. -/
def results (w : CellWriter) : Bool → List (ExportColumn × Value) → Logged Sink → List CellResult
  | _, [], _ => []
  | started, (column, value) :: rest, s =>
      if w.skips column then results w started rest ((releaseSkipped value).run s).2
      else
        w.cellResult column value ((comma started).run s).2 ::
          results w true rest ((w.writeValue column value).run ((comma started).run s).2).2

/-- What writing a cell has left: its text, the release of its object, and what was reported. -/
structure Leaves (w : CellWriter) (column : ExportColumn) (value : Value) (s t : Logged Sink) :
    Prop where
  output : t.state.output = s.state.output ++ (w.cellResult column value s).text
  releases : t.state.releases = value.release s.state.releases
  log : ∃ records : List LogRecord, t.log = records.foldl Log.add s.log ∧
    records.filter (·.level == .warning) = (w.cellResult column value s).warning?.toList

/-- An object is released once and reported at most once, whatever becomes of it. -/
theorem writeContentSafely_leaves (w : CellWriter) (column : ExportColumn) (content : Content)
    (s : Logged Sink) :
    ∃ t, w.writeContentSafely column content s = .ok () t ∧
      w.Leaves column (.content content) s t := by
  have hwrites := w.writeContent_writesOnly column content s
  have houtput := Sink.output_run (w.writeContent_extends column content) s
  have hresult : w.cellResult column (.content content) s = w.contentResult column content s := rfl
  unfold writeContentSafely
  cases hs : w.writeContent column content s with
  | ok a t =>
      rw [Step.run_of_ok hs] at hwrites houtput
      rw [Step.bind_of_ok (Step.attempt_of_ok hs)]
      refine ⟨_, rfl, houtput, ?_, [], ?_, ?_⟩
      · exact congrArg (content.identity :: ·) hwrites.releases
      · exact hwrites.log
      · rw [hresult, contentResult, Step.run_of_ok hs]
        rfl
  | error failure t =>
      rw [Step.run_of_error hs] at hwrites houtput
      rw [Step.bind_of_ok (Step.attempt_of_error hs)]
      refine ⟨_, rfl, houtput, ?_, [failureRecord column failure], ?_, ?_⟩
      · exact congrArg (content.identity :: ·) hwrites.releases
      · exact congrArg (Log.add · (failureRecord column failure)) hwrites.log
      · rw [hresult, contentResult, Step.run_of_error hs]
        rfl

/-- Remarks about plain values are no warnings. -/
theorem level_of_literal {value : Value} {record : LogRecord}
    (h : (w.literal column value).1 = some record) : record.level = .debug := by
  have hstyle : ∀ {name : String}, LiteralStyle.remark? name value = some record →
      record.level = .debug := by
    intro name hremark
    unfold LiteralStyle.remark? at hremark
    split at hremark
    · cases hremark
    · cases hremark
      rfl
  unfold literal at h
  cases hhandler : column.handler? with
  | some handler =>
      rw [hhandler] at h
      cases h
  | none =>
      rw [hhandler] at h
      change w.renderer.remark? column.column value = some record at h
      cases hrenderer : w.renderer with
      | literals style =>
          rw [hrenderer] at h
          exact hstyle h
      | handler handler =>
          rw [hrenderer] at h
          cases h

/-- A value that whoever renders it accepts is written as its text. -/
theorem writeValue_plain_leaves {value : Value} {text : String} (hnull : value ≠ .null)
    (hcontent : ∀ c, value ≠ .content c) (hpath : ∀ p, value ≠ .path p)
    (htext : (w.literal column value).2 = .ok text) (s : Logged Sink) :
    ∃ t, w.writeValue column value s = .ok () t ∧ w.Leaves column value s t := by
  have hplain : w.plainText column value = if w.displays column then mark ++ text ++
      mark else text := by
    unfold plainText
    split
    · exact absurd rfl hnull
    · exact absurd rfl (hpath _)
    · rw [htext]
  have hresult : w.cellResult column value s = { text := w.plainText column value } := by
    unfold cellResult
    split
    · exact absurd rfl (hcontent _)
    · rfl
  refine ⟨_, w.writeValue_literal hnull hcontent hpath htext s, ?_, ?_, _, rfl, ?_⟩
  · rw [hresult, hplain, Sink.output_addAll]
    cases w.displays column <;> simp [String.append_assoc]
  · rw [Value.release_of_ne_content hcontent, Sink.releases_addAll]
  · rw [hresult, List.filter_eq_nil_iff.2]
    · rfl
    · intro record hrecord
      rw [level_of_literal (Option.mem_toList.1 hrecord)]
      decide

theorem writeValue_leaves {value : Value} (hrenders : w.Renders column value) (s : Logged Sink) :
    ∃ t, w.writeValue column value s = .ok () t ∧ w.Leaves column value s t := by
  unfold Renders at hrenders
  split at hrenders
  · exact ⟨_, rfl, rfl, rfl, [], rfl, rfl⟩
  · exact w.writeContentSafely_leaves column _ s
  · refine ⟨_, Sink.writeAll_apply _ s, ?_, Sink.releases_addAll _ _, [], rfl, rfl⟩
    simp [cellResult, plainText, String.append_assoc]
  · rename_i hnull hcontent hpath
    obtain ⟨text, htext⟩ := hrenders
    exact writeValue_plain_leaves hnull hcontent hpath htext s

/-! ### Objects that are not copied -/

/-- What an object comes to is read off a run that writes it. -/
theorem contentResult_of_ok {text : String} (hrun : w.writeContent column content s = .ok () t)
    (houtput : t.state.output = s.state.output ++ text) :
    w.contentResult column content s = { text } := by
  have hadded := Sink.output_run (w.writeContent_extends column content) s
  rw [Step.run_of_ok hrun, houtput] at hadded
  rw [contentResult, Step.run_of_ok hrun, ← (String.append_right_inj _).1 hadded]

theorem contentResult_of_error {failure : Failure} {text : String}
    (hrun : w.writeContent column content s = .error failure t)
    (houtput : t.state.output = s.state.output ++ text) :
    w.contentResult column content s =
      { text, warning? := some (failureRecord column failure) } := by
  have hadded := Sink.output_run (w.writeContent_extends column content) s
  rw [Step.run_of_error hrun, houtput] at hadded
  rw [contentResult, Step.run_of_error hrun, ← (String.append_right_inj _).1 hadded]

/-- An object that cannot be obtained leaves no text, but a warning. -/
theorem contentResult_of_unavailable {reason : String}
    (hcolumn : column.handler?.bind (·.stream?) = none)
    (hreason : content.unavailable = some reason) (s : Logged Sink) :
    w.contentResult column content s =
      { text := "", warning? := some (failureRecord column (.unavailable reason)) } := by
  have hrun : w.writeContent column content s = .error (.unavailable reason) s := by
    simp only [writeContent, hcolumn, Content.payload?, hreason]
    rfl
  exact contentResult_of_error hrun String.append_empty.symm

/-- An object that has been released before leaves nothing at all. -/
theorem contentResult_of_released (hcolumn : column.handler?.bind (·.stream?) = none)
    (havailable : content.unavailable = none)
    (hreleased : content.isReleased s.state.releases = true) :
    w.contentResult column content s = { text := "" } := by
  have hrun : w.writeContent column content s = .ok () s := by
    simp only [writeContent, hcolumn]
    rw [Step.bind_of_ok (Step.current_apply s), Content.payload?_of_isReleased hreleased havailable]
    rfl
  exact contentResult_of_ok hrun String.append_empty.symm

/-! ### Objects that are copied to their end -/

theorem checkCancelled_inv (h : checkCancelled s = .ok () t) :
    t = { s with state := s.state.asked } := by
  by_cases hout : s.state.patience? = some 0
  · rw [checkCancelled_of_impatient hout] at h
    cases h
  · rw [checkCancelled_of_patient hout] at h
    cases h
    rfl

theorem quoting_inv {step : Step Sink Unit} (h : quoting step s = .ok () u) :
    ∃ t, step { s with state := s.state.add mark } = .ok () t ∧
      u = { t with state := t.state.add mark } := by
  obtain ⟨_, s', hopen, h⟩ := Step.ok_of_bind h
  cases hopen
  obtain ⟨t, hstep, hclose⟩ := Step.ok_of_ensuring h
  cases hclose
  exact ⟨t, hstep, rfl⟩

/-- Pieces that are copied without a failure are all there is to copy. -/
theorem copyPieces_inv {ending : Option Failure} {parts : List (List Char)}
    (h : w.copyPieces ending parts s = .ok () t) :
    ending = none ∧ t.state.output = s.state.output ++ String.ofList (w.escape parts.flatten) := by
  induction parts generalizing s with
  | nil =>
      obtain ⟨_, s₁, hasked, h⟩ := Step.ok_of_bind h
      rw [checkCancelled_inv hasked] at h
      cases ending with
      | none =>
          cases h
          exact ⟨rfl, by simp⟩
      | some failure => cases h
  | cons piece rest ih =>
      obtain ⟨_, s₁, hasked, h⟩ := Step.ok_of_bind h
      obtain ⟨_, s₂, hwritten, h⟩ := Step.ok_of_bind h
      cases checkCancelled_inv hasked
      cases hwritten
      obtain ⟨hending, houtput⟩ := ih h
      refine ⟨hending, ?_⟩
      rw [houtput, Sink.output_add, List.flatten_cons, escape_append,
        String.ofList_append, ← String.append_assoc]
      rfl

/-- Is this the text of the file that the script goes to, read piece by piece until nothing was left
although every piece made the file longer? -/
inductive GrowsToEnd (w : CellWriter) : Nat → TextReader → Sink → List Char → Prop where
  | finished {known : Nat} {reader rest : TextReader} {sink : Sink}
      (hread : (sink.extendReader known reader).read transferSize = .ok ([], rest)) :
      GrowsToEnd w known reader sink []
  | piece {known : Nat} {reader rest : TextReader} {sink : Sink} {piece text : List Char}
      (hread : (sink.extendReader known reader).read transferSize = .ok (piece, rest))
      (hrest : GrowsToEnd w sink.flow.stored rest
      (sink.asked.add (String.ofList (w.escape piece))) text) :
      GrowsToEnd w known reader sink (piece ++ text)

/-- A copy of the script's own file that succeeds has written all of such a text. -/
theorem copyGrowing_inv {limit known : Nat} {reader : TextReader}
    (h : w.copyGrowing limit known reader s = .ok () t) :
    ∃ text, w.GrowsToEnd known reader s.state text ∧
      t.state.output = s.state.output ++ String.ofList (w.escape text) := by
  induction limit generalizing known reader s with
  | zero => cases h
  | succ limit ih =>
      obtain ⟨_, s₁, hasked, h⟩ := Step.ok_of_bind h
      obtain ⟨sink, s₂, hcurrent, h⟩ := Step.ok_of_bind h
      cases checkCancelled_inv hasked
      cases hcurrent
      -- the monitor has no part in what is read
      have hsame : s.state.asked.extendReader known reader = s.state.extendReader known reader :=
        rfl
      rw [hsame] at h
      cases hread : (s.state.extendReader known reader).read transferSize with
      | error fault =>
          rw [hread] at h
          cases h
      | ok portion =>
          obtain ⟨piece, rest⟩ := portion
          rw [hread] at h
          cases piece with
          | nil =>
              cases h
              exact ⟨[], .finished hread, by simp⟩
          | cons c piece =>
              obtain ⟨_, s₃, hwritten, h⟩ := Step.ok_of_bind h
              cases hwritten
              obtain ⟨text, hgrows, houtput⟩ := ih h
              refine ⟨c :: piece ++ text, .piece hread hgrows, ?_⟩
              rw [houtput, Sink.output_add, escape_append,
                String.ofList_append, ← String.append_assoc]
              rfl

/-- Is this the text that an object comes to when it is read to its end? -/
inductive ReadsToEnd (w : CellWriter) (content : Content) (sink : Sink) : List Char → Prop where
  | whole (reader : TextReader) (text : List Char) (hown : w.ownTarget? content.payload = none)
      (hreader : content.payload.reader w.files content.encoding = .ok reader)
      (hdrain : reader.drain = (text, none)) : ReadsToEnd w content sink text
  | growing (target : Nat) (reader : TextReader) (text : List Char)
      (hown : w.ownTarget? content.payload = some target)
      (hreader : content.payload.reader (sink.storeInto target w.files) content.encoding =
        .ok reader)
      (hgrows : w.GrowsToEnd sink.flow.stored reader (sink.add mark) text) :
      ReadsToEnd w content sink text

theorem copyText_inv {reader : TextReader} (h : w.copyText reader s = .ok () t) :
    ∃ text, reader.drain = (text, none) ∧
      t.state.output = s.state.output ++ String.ofList (w.escape text) := by
  have hcopy : w.copyPieces (readPieces reader).2 (readPieces reader).1 s = .ok () t := h
  obtain ⟨hending, houtput⟩ := copyPieces_inv hcopy
  rcases hdrain : reader.drain with ⟨text, fault?⟩
  rw [readPieces, hdrain] at hending houtput
  cases fault? with
  | none => exact ⟨text, rfl, by rw [houtput, flatten_pieces]⟩
  | some fault => cases hending

/-- A text object that is written without a failure is read to its end. -/
theorem writeContent_inv (hcolumn : column.handler?.bind (·.stream?) = none)
    (htext : content.isText = true) (hopen : content.isReleased s.state.releases = false)
    (h : w.writeContent column content s = .ok () t) :
    ∃ text, w.ReadsToEnd content s.state text ∧
      t.state.output = s.state.output ++ (mark ++ String.ofList (w.escape text) ++ mark) := by
  cases havailable : content.unavailable with
  | some reason =>
      -- it cannot even be obtained
      unfold writeContent at h
      simp only [hcolumn] at h
      obtain ⟨sink, s₁, hcurrent, h⟩ := Step.ok_of_bind h
      obtain ⟨payload?, s₂, hpayload, -⟩ := Step.ok_of_bind h
      have hnone := (Step.ok_of_ofExcept hpayload).1
      rw [Content.payload?, havailable] at hnone
      cases hnone
  | none =>
      rw [w.writeContent_open hcolumn havailable hopen] at h
      obtain ⟨sink, s₁, hcurrent, h⟩ := Step.ok_of_bind h
      cases hcurrent
      simp only [htext, if_true] at h
      obtain ⟨reader, s₂, hreader, h⟩ := Step.ok_of_bind h
      obtain ⟨hreader, rfl⟩ := Step.ok_of_ofExcept hreader
      obtain ⟨u, hcopy, rfl⟩ := quoting_inv h
      have hmarks : ∀ text, u.state.output = (s₂.state.add mark).output ++ String.ofList
          (w.escape text) →
          (u.state.add mark).output = s₂.state.output ++
            (mark ++ String.ofList (w.escape text) ++ mark) := by
        intro text houtput
        rw [Sink.output_add, houtput, Sink.output_add]
        simp only [String.append_assoc]
      cases hown : w.ownTarget? content.payload with
      | none =>
          rw [hown] at hreader hcopy
          obtain ⟨text, hdrain, houtput⟩ := copyText_inv hcopy
          exact ⟨text, .whole reader text hown hreader hdrain, hmarks text houtput⟩
      | some target =>
          rw [hown] at hreader hcopy
          obtain ⟨text, hgrows, houtput⟩ := copyGrowing_inv hcopy
          exact ⟨text, .growing target reader text hown hreader hgrows, hmarks text houtput⟩

/-- A text object that nothing is reported of has been copied to its end. -/
theorem contentResult_of_silent (hcolumn : column.handler?.bind (·.stream?) = none)
    (htext : content.isText = true) (hopen : content.isReleased s.state.releases = false)
    (hsilent : (w.contentResult column content s).warning? = none) :
    ∃ text, w.ReadsToEnd content s.state text ∧
      w.contentResult column content s =
        { text := mark ++ String.ofList (w.escape text) ++ mark } := by
  cases hs : w.writeContent column content s with
  | error failure t =>
      rw [contentResult, Step.run_of_error hs] at hsilent
      cases hsilent
  | ok a t =>
      obtain ⟨text, hreads, hwritten⟩ := writeContent_inv hcolumn htext hopen hs
      exact ⟨text, hreads, contentResult_of_ok hs hwritten⟩

/-! ### Rows -/

/-- How many cells hold the object. -/
def occurrences (content : Content) (cells : List (ExportColumn × Value)) : Nat :=
  cells.countP fun cell => match cell.2 with
    | .content other => other.identity == content.identity
    | _ => false

theorem occurrences_cons (content : Content) (column : ExportColumn) (value : Value)
    (cells : List (ExportColumn × Value)) :
    occurrences content ((column, value) :: cells) =
      occurrences content [(column, value)] + occurrences content cells := by
  rw [occurrences, ← List.singleton_append, List.countP_append]
  rfl

/-- Every object is released once for each cell that holds it. -/
theorem releaseCount_releaseAll (content : Content) (cells : List (ExportColumn × Value))
    (releases : Releases) :
    content.releaseCount (Value.releaseAll releases (cells.map Prod.snd)) =
      content.releaseCount releases + occurrences content cells := by
  induction cells generalizing releases with
  | nil => rfl
  | cons cell cells ih =>
      obtain ⟨column, value⟩ := cell
      have hcell : content.releaseCount (value.release releases) =
          content.releaseCount releases + occurrences content [(column, value)] := by
        cases value with
        | content other =>
            by_cases hsame : other.identity = content.identity
            · simp [Value.release, occurrences, hsame]
            · simp [Value.release, occurrences, hsame, Content.releaseCount_cons_of_ne]
        | _ => simp [Value.release, occurrences]
      rw [occurrences_cons, ← Nat.add_assoc, ← hcell]
      exact ih (value.release releases)

/-- The cells of a row come to their results, with commas between them. -/
theorem writeCells_results {cells : List (ExportColumn × Value)}
    (hrenders : ∀ cell ∈ cells, w.skips cell.1 = false → w.Renders cell.1 cell.2) (started : Bool)
    (s : Logged Sink) :
    ∃ t, w.writeCells started cells s = .ok () t ∧
      t.state.output = s.state.output ++ listed started
      ((w.results started cells s).map CellResult.text) ∧
      t.state.releases = Value.releaseAll s.state.releases (cells.map Prod.snd) ∧
      ∃ records : List LogRecord, t.log = records.foldl Log.add s.log ∧
        records.filter (·.level == .warning) =
          (w.results started cells s).filterMap CellResult.warning? := by
  induction cells generalizing started s with
  | nil => exact ⟨s, rfl, by cases started <;> simp [listed, results], rfl, [], rfl, rfl⟩
  | cons cell cells ih =>
      obtain ⟨column, value⟩ := cell
      have hcells := fun cell hcell => hrenders cell (List.mem_cons_of_mem (column, value) hcell)
      rw [writeCells_cons, results]
      by_cases hskip : w.skips column = true
      · -- a cell that is left out has no result, and a comma is due behind it as it was before
        rw [if_pos hskip, if_pos hskip, Step.run_of_ok (releaseSkipped_apply value s),
          Step.bind_of_ok (releaseSkipped_apply value s)]
        exact ih hcells started _
      · have hvalue : w.Renders column value :=
          hrenders (column, value) List.mem_cons_self (Bool.eq_false_iff.2 hskip)
        obtain ⟨s₁, hcomma, houtput₁, hreleases₁, hlog₁⟩ : ∃ s₁, comma started s = .ok () s₁ ∧
            s₁.state.output = s.state.output ++ (if started then "," else "") ∧
            s₁.state.releases = s.state.releases ∧ s₁.log = s.log := by
          cases started <;> exact ⟨_, rfl, by simp, rfl, rfl⟩
        obtain ⟨s₂, hwrite, houtput₂, hreleases₂, records₂, hlog₂, hwarning₂⟩ :=
          writeValue_leaves hvalue s₁
        obtain ⟨t, hrest, houtput, hreleases, records, hlog, hwarnings⟩ := ih hcells true s₂
        rw [if_neg hskip, if_neg hskip, Step.run_of_ok hcomma, Step.run_of_ok hwrite,
          Step.bind_of_ok hcomma, Step.bind_of_ok hwrite]
        refine ⟨t, hrest, ?_, ?_, records₂ ++ records, ?_, ?_⟩
        · rw [houtput, houtput₂, houtput₁, List.map_cons, listed_cons]
          simp only [String.append_assoc]
        · rw [hreleases, hreleases₂, hreleases₁]
          rfl
        · rw [hlog, hlog₂, hlog₁, List.foldl_append]
        · rw [List.filter_append, hwarning₂, hwarnings, List.filterMap_cons]
          cases (w.cellResult column value s₁).warning? with
          | none => rfl
          | some record => rfl

/-- The result of a cell stands behind those of the cells before it, and its object is as these have
left it. -/
theorem results_append {before : List (ExportColumn × Value)}
    (after : List (ExportColumn × Value)) (value : Value)
    (hrenders : ∀ cell ∈ before, w.skips cell.1 = false → w.Renders cell.1 cell.2)
    (hkept : w.skips column = false) (started : Bool) (s : Logged Sink) :
    ∃ u, (w.results started (before ++ (column, value) :: after) s)[(before.filter fun cell =>
        !w.skips cell.1).length]? = some (w.cellResult column value u) ∧
      u.state.releases = Value.releaseAll s.state.releases (before.map Prod.snd) := by
  induction before generalizing started s with
  | nil =>
      have hkept' : ¬ w.skips column = true := Bool.eq_false_iff.1 hkept
      rw [List.nil_append, results, if_neg hkept']
      refine ⟨_, rfl, ?_⟩
      cases started <;> rfl
  | cons cell before ih =>
      obtain ⟨first, other⟩ := cell
      have hbefore := fun cell hcell => hrenders cell (List.mem_cons_of_mem (first, other) hcell)
      rw [List.cons_append, results]
      by_cases hskip : w.skips first = true
      · rw [if_pos hskip, Step.run_of_ok (releaseSkipped_apply other s),
          List.filter_cons_of_neg (by simpa using hskip)]
        exact ih hbefore started _
      · have hother : w.Renders first other :=
          hrenders (first, other) List.mem_cons_self (Bool.eq_false_iff.2 hskip)
        obtain ⟨s₁, hcomma, hreleases₁⟩ : ∃ s₁, comma started s = .ok () s₁ ∧
            s₁.state.releases = s.state.releases := by
          cases started <;> exact ⟨_, rfl, rfl⟩
        obtain ⟨s₂, hwrite, -, hreleases₂, -⟩ := writeValue_leaves hother s₁
        obtain ⟨u, hresult, hreleases⟩ := ih hbefore true s₂
        rw [if_neg hskip, Step.run_of_ok hcomma, Step.run_of_ok hwrite,
          List.filter_cons_of_pos (by simpa using hskip)]
        refine ⟨u, hresult, ?_⟩
        rw [hreleases, hreleases₂, hreleases₁]
        rfl

/-- What a row of cells comes to. -/
structure RowWritten (w : CellWriter) (cells : List (ExportColumn × Value)) (s t : Logged Sink) :
    Prop where
  /-- The texts of the cells that are not left out, with commas between them. -/
  output : t.state.output =
    s.state.output ++ ",".intercalate ((w.results false cells s).map CellResult.text)
  /-- Every object is released once for each cell that holds it, one that is left out included. -/
  released : ∀ content : Content, content.releaseCount t.state.releases =
    content.releaseCount s.state.releases + occurrences content cells
  /-- The warnings are those about the objects that could not be written to their end. -/
  reported : ∃ records : List LogRecord, t.log = records.foldl Log.add s.log ∧
    records.filter (·.level == .warning) = (w.results false cells s).filterMap CellResult.warning?
  /-- Without a warning every text object that is open at the beginning and that only this cell
  holds is copied to its end. -/
  copied : (w.results false cells s).filterMap CellResult.warning? = [] →
    ∀ before column content after, cells = before ++ (column, .content content) :: after →
      w.skips column = false → column.handler?.bind (·.stream?) = none → content.isText = true →
      content.isReleased s.state.releases = false → occurrences content cells = 1 →
      ∃ sink text, w.ReadsToEnd content sink text ∧
        (w.results false cells s)[(before.filter fun cell => !w.skips cell.1).length]? =
          some { text := mark ++ String.ofList (w.escape text) ++ mark }

/-- A row whose plain values can be rendered is written to its end, whatever becomes of the objects
in it. -/
theorem writeRow_contract (w : CellWriter) (columns : List ExportColumn) (row : Row)
    (hrenders : w.RendersRow columns row) (s : Logged Sink) :
    ∃ t, w.writeRow columns row s = .ok () t ∧ w.RowWritten (columns.zip row) s t := by
  obtain ⟨t, hrun, houtput, hreleases, hreported⟩ := writeCells_results hrenders false s
  refine ⟨t, hrun, houtput, ?_, hreported, ?_⟩
  · intro content
    rw [hreleases]
    exact releaseCount_releaseAll content _ _
  · intro hsilent before column content after hcells hkept hcolumn htext hopen honce
    have hbefore : ∀ cell ∈ before, w.skips cell.1 = false → w.Renders cell.1 cell.2 := by
      intro cell hcell
      refine hrenders cell ?_
      rw [hcells]
      exact List.mem_append_left _ hcell
    obtain ⟨u, hresult, hturn⟩ := results_append after (.content content) hbefore hkept false s
    rw [hcells] at honce hsilent ⊢
    -- nothing before this cell has released the object
    have hstill : content.isReleased u.state.releases = false := by
      have hnone : occurrences content before = 0 := by
        rw [occurrences, List.countP_append, List.countP_cons] at honce
        simp only [beq_self_eq_true, if_true] at honce
        rw [occurrences]
        omega
      rw [Content.isReleased, hturn, releaseCount_releaseAll, hnone, Nat.add_zero]
      exact hopen
    have hquiet : (w.contentResult column content u).warning? = none :=
      List.filterMap_eq_nil_iff.1 hsilent _ (List.mem_of_getElem? hresult)
    obtain ⟨text, hreads, hcopied⟩ := contentResult_of_silent hcolumn htext hstill hquiet
    exact ⟨u.state, text, hreads, hresult.trans (congrArg some hcopied)⟩

/-- An object in a column that is left out, one whose handler fails half way, and one that the
monitor has patience for. -/
theorem writeRow_contract_objects :
    let failing : Handler :=
      { toSql := fun _ _ _ => .ok "", stream? := some fun _ _ => ("half", some .cancelled) }
    let w : CellWriter :=
      { dialect? := some .generic, binaryDialect := .generic, nativeFormat := true
        skips := fun column => column.column.isPseudo
        renderer := .literals {}, files := .empty #[] }
    let columns : List ExportColumn :=
      [{ column := { name := "flag" } }, { column := { name := "ctid", isPseudo := true } },
       { column := { name := "doc" }, handler? := some failing }, { column := { name := "note" } }]
    let object (identity : Nat) : Content := { identity, isText := true, payload := .text "O'Re" }
    let row : Row := [.bool true, .content (object 0), .content (object 1), .content (object 2)]
    let s : Logged Sink := { log := {}, state := { monitor? := some { patience? := some 2 } } }
    w.RendersRow columns row ∧
      ∃ t, w.writeRow columns row s = .ok () t ∧ w.RowWritten (columns.zip row) s t := by
  intro failing w columns object row s
  have hrenders : w.RendersRow columns row := by
    intro cell hcell _
    simp only [columns, row, List.zip_cons_cons, List.mem_cons, List.zip_nil_right,
      List.not_mem_nil, or_false] at hcell
    rcases hcell with rfl | rfl | rfl | rfl
    · exact ⟨"TRUE", rfl⟩
    · trivial
    · trivial
    · trivial
  exact ⟨hrenders, writeRow_contract w columns row hrenders s⟩

end CellWriter

end InsertScript
