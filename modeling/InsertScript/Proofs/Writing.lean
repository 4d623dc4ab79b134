import InsertScript.Export.Cell
import InsertScript.Proofs.Steps

/-!
# What is written

Cells only ever add text at the end of the output, whatever becomes of them (`writeRow_extends`). So
there is such a thing as the text that a step writes, `Sink.added`, also for a step that fails.

Whether a row can be written is decided by its plain values: a value that cannot be rendered ends
the row (`CellWriter.Renders`), a large object never does (`writeContentSafely_ok`).
-/

namespace InsertScript

open Step (Keeps Leads Respects)

namespace Sink

/-! ### Adding text -/

/-- A sink with more texts. -/
def addAll (s : Sink) (texts : List String) : Sink := texts.foldl add s

@[simp] theorem addAll_nil (s : Sink) : s.addAll [] = s := rfl

@[simp] theorem addAll_cons (s : Sink) (text : String) (texts : List String) :
    s.addAll (text :: texts) = (s.add text).addAll texts := rfl

@[simp] theorem output_add (s : Sink) (text : String) : (s.add text).output = s.output ++ text :=
  rfl

@[simp] theorem releases_add (s : Sink) (text : String) : (s.add text).releases = s.releases := rfl

@[simp] theorem monitor?_add (s : Sink) (text : String) : (s.add text).monitor? = s.monitor? := rfl

@[simp] theorem output_addAll (s : Sink) (texts : List String) :
    (s.addAll texts).output = s.output ++ String.join texts := by
  induction texts generalizing s with
  | nil => simp
  | cons text texts ih => rw [addAll_cons, ih, output_add, String.join_cons, String.append_assoc]

@[simp] theorem releases_addAll (s : Sink) (texts : List String) :
    (s.addAll texts).releases = s.releases := by
  induction texts generalizing s with
  | nil => rfl
  | cons text texts ih => rw [addAll_cons, ih, releases_add]

@[simp] theorem monitor?_addAll (s : Sink) (texts : List String) :
    (s.addAll texts).monitor? = s.monitor? := by
  induction texts generalizing s with
  | nil => rfl
  | cons text texts ih => rw [addAll_cons, ih, monitor?_add]

@[simp] theorem write_apply (text : String) (s : Logged Sink) :
    write text s = .ok () { s with state := s.state.add text } := rfl

@[simp] theorem writeAll_apply (texts : List String) (s : Logged Sink) :
    writeAll texts s = .ok () { s with state := s.state.addAll texts } := by
  induction texts generalizing s with
  | nil => rfl
  | cons text texts ih => rw [writeAll, Step.bind_of_ok (write_apply text s), ih, addAll_cons]

/-! ### Output that only grows -/

/-- Has the second sink the text of the first one and maybe more behind it? -/
def Extends (s t : Sink) : Prop := ∃ text, t.output = s.output ++ text

instance : IsPreorder Sink Extends where
  refl s := ⟨"", by simp⟩
  trans s t u := by
    rintro ⟨a, ha⟩ ⟨b, hb⟩
    exact ⟨a ++ b, by rw [hb, ha, String.append_assoc]⟩

/-- The text that a step adds to the output. -/
def added (step : Step Sink Unit) (s : Logged Sink) : String :=
  String.ofList ((step.run s).2.state.output.toList.drop s.state.output.length)

/-- A step that only adds leaves the old output with what it added. -/
theorem output_run {step : Step Sink Unit} (h : Keeps Extends step) (s : Logged Sink) :
    (step.run s).2.state.output = s.state.output ++ added step s := by
  obtain ⟨text, htext⟩ := h s
  rw [added, htext, String.toList_append, String.length]
  simp

theorem write_extends (text : String) : Keeps Extends (write text) :=
  Keeps.change fun s => ⟨text, output_add s text⟩

theorem writeAll_extends (texts : List String) : Keeps Extends (writeAll texts) := by
  intro s
  rw [Step.run_of_ok (writeAll_apply texts s)]
  exact ⟨String.join texts, output_addAll s.state texts⟩

theorem release_extends (c : Content) : Keeps Extends (release c) :=
  Keeps.change fun _ => ⟨"", by simp⟩

/-! ### Steps that do nothing but write -/

/-- Does the second one differ from the first one in nothing but more text, and what the monitor was
asked? -/
structure WritesOnly (s t : Logged Sink) : Prop where
  log : t.log = s.log
  output : Extends s.state t.state
  releases : t.state.releases = s.state.releases

instance : IsPreorder (Logged Sink) WritesOnly where
  refl s := ⟨rfl, refl_of Extends s.state, rfl⟩
  trans _ _ _ h k :=
    ⟨k.log.trans h.log, trans_of Extends h.output k.output, k.releases.trans h.releases⟩

theorem write_writesOnly (text : String) : Leads WritesOnly (write text) :=
  Leads.change fun s => ⟨rfl, ⟨text, output_add s.state text⟩, rfl⟩

theorem enquire_writesOnly : Leads WritesOnly enquire := by
  intro s
  cases h : s.state.monitor? with
  | none =>
      exact ⟨by simp [Step.run, enquire, h], ⟨"", by simp [Step.run, enquire, h]⟩,
        by simp [Step.run, enquire, h]⟩
  | some m =>
      exact ⟨by simp [Step.run, enquire, h], ⟨"", by simp [Step.run, enquire, h]⟩,
        by simp [Step.run, enquire, h]⟩

end Sink

/-- The releases after the value has been dealt with. -/
def Value.release (releases : Releases) : Value → Releases
  | .content c => c.identity :: releases
  | _ => releases

theorem Value.release_of_ne_content {value : Value} (h : ∀ c, value ≠ .content c)
    (releases : Releases) : value.release releases = releases := by
  unfold release
  split
  · exact absurd rfl (h _)
  · rfl

namespace CellWriter

open Sink (Extends WritesOnly write_extends writeAll_extends release_extends write_writesOnly
  enquire_writesOnly)

variable (w : CellWriter)

/-! ### Cells add text -/

theorem checkCancelled_writesOnly : Leads WritesOnly checkCancelled := by
  refine enquire_writesOnly.bind fun stop => ?_
  cases stop with
  | false => exact Leads.pure ()
  | true => exact Leads.throw .cancelled

theorem copyPieces_writesOnly (ending : Option Failure) (parts : List (List Char)) :
    Leads WritesOnly (w.copyPieces ending parts) := by
  induction parts with
  | nil =>
      refine checkCancelled_writesOnly.bind fun _ => ?_
      cases ending with
      | none => exact Leads.pure ()
      | some failure => exact Leads.throw failure
  | cons piece rest ih =>
      exact checkCancelled_writesOnly.bind fun _ => (write_writesOnly _).bind fun _ => ih

theorem copyGrowing_writesOnly (limit known : Nat) (reader : TextReader) :
    Leads WritesOnly (w.copyGrowing limit known reader) := by
  induction limit generalizing known reader with
  | zero => exact Leads.throw .fullFile
  | succ limit ih =>
      refine checkCancelled_writesOnly.bind fun _ => Leads.current.bind fun sink => ?_
      split
      · exact Leads.throw _
      · exact Leads.pure ()
      · exact (write_writesOnly _).bind fun _ => ih _ _

theorem quoting_writesOnly {step : Step Sink Unit} (h : Leads WritesOnly step) :
    Leads WritesOnly (quoting step) :=
  (write_writesOnly mark).bind fun _ => h.ensuring (write_writesOnly mark)

theorem writePayload_writesOnly (content : Content) (payload : Payload) :
    Leads WritesOnly (w.writePayload content payload) := by
  refine Leads.current.bind fun sink => ?_
  dsimp only
  split
  · refine (Leads.ofExcept _).bind fun reader => quoting_writesOnly ?_
    split
    · exact w.copyGrowing_writesOnly _ _ reader
    · exact w.copyPieces_writesOnly _ _
  · exact (Leads.ofExcept _).bind fun data => write_writesOnly _

/-- An object is neither released nor reported while it is written. -/
theorem writeContent_writesOnly (column : ExportColumn) (content : Content) :
    Leads WritesOnly (w.writeContent column content) := by
  unfold writeContent
  split
  · refine (write_writesOnly _).bind fun _ => ?_
    split
    · exact Leads.throw _
    · exact Leads.pure ()
  · refine Leads.current.bind fun sink => (Leads.ofExcept _).bind fun payload? => ?_
    cases payload? with
    | some payload => exact w.writePayload_writesOnly content payload
    | none => exact Leads.pure ()

theorem writeContent_extends (column : ExportColumn) (content : Content) :
    Keeps Extends (w.writeContent column content) :=
  fun s => (w.writeContent_writesOnly column content s).output

theorem writeContentSafely_extends (column : ExportColumn) (content : Content) :
    Keeps Extends (w.writeContentSafely column content) := by
  refine (w.writeContent_extends column content).attempt.bind fun outcome => ?_
  cases outcome with
  | ok => exact (Keeps.pure ()).bind fun _ => release_extends content
  | error failure => exact (Keeps.note _).bind fun _ => release_extends content

theorem writeValue_extends (column : ExportColumn) (value : Value) :
    Keeps Extends (w.writeValue column value) := by
  unfold writeValue
  split
  · exact write_extends _
  · exact w.writeContentSafely_extends column _
  · exact writeAll_extends _
  · exact (Keeps.noteAll _).bind fun _ => (Keeps.ofExcept _).bind fun _ => writeAll_extends _

theorem releaseSkipped_extends (value : Value) : Keeps Extends (releaseSkipped value) := by
  unfold releaseSkipped
  split
  · exact release_extends _
  · exact Keeps.pure ()

theorem releaseSkipped_apply (value : Value) (s : Logged Sink) :
    releaseSkipped value s
      = .ok () { s with state := { s.state with releases := value.release s.state.releases } } := by
  cases value <;> rfl

/-- The comma before a cell, if one has been written before. -/
def comma (started : Bool) : Step Sink Unit := if started then Sink.write "," else pure ()

theorem comma_extends (started : Bool) : Keeps Extends (comma started) := by
  cases started with
  | false => exact Keeps.pure ()
  | true => exact write_extends ","

/-- One cell and the others: the cell is left out, or it comes after its comma. -/
theorem writeCells_cons (started : Bool) (column : ExportColumn) (value : Value)
    (rest : List (ExportColumn × Value)) :
    w.writeCells started ((column, value) :: rest) =
      if w.skips column then releaseSkipped value >>= fun _ => w.writeCells started rest
      else comma started >>= fun _ => w.writeValue column value >>= fun _ =>
        w.writeCells true rest := by
  rw [writeCells]
  cases started <;> rfl

theorem writeCells_extends (started : Bool) (cells : List (ExportColumn × Value)) :
    Keeps Extends (w.writeCells started cells) := by
  induction cells generalizing started with
  | nil => exact Keeps.pure ()
  | cons cell rest ih =>
      obtain ⟨column, value⟩ := cell
      rw [writeCells_cons]
      split
      · exact (releaseSkipped_extends value).bind fun _ => ih started
      · exact (comma_extends started).bind fun _ =>
          (w.writeValue_extends column value).bind fun _ => ih true

theorem writeRow_extends (columns : List ExportColumn) (row : Row) :
    Keeps Extends (w.writeRow columns row) :=
  w.writeCells_extends false (columns.zip row)

end CellWriter

/-! ### Writing side by side -/

namespace Sink

/-- Is a relation between sinks one that writing keeps, and do the monitors of related sinks answer
alike? -/
structure Indifferent (r : Sink → Sink → Prop) : Prop where
  write : ∀ text, Respects r (Sink.write text)
  enquire : Respects r Sink.enquire

namespace Indifferent

variable {r : Sink → Sink → Prop} (h : Indifferent r)
include h

theorem writeAll (texts : List String) : Respects r (Sink.writeAll texts) := by
  induction texts with
  | nil => exact Respects.pure ()
  | cons text texts ih => exact (h.write text).bind fun _ => ih

theorem checkCancelled : Respects r CellWriter.checkCancelled := by
  refine h.enquire.bind fun stop => ?_
  cases stop with
  | false => exact Respects.pure ()
  | true => exact Respects.throw .cancelled

theorem copyPieces (w : CellWriter) (ending : Option Failure) (parts : List (List Char)) :
    Respects r (w.copyPieces ending parts) := by
  induction parts with
  | nil =>
      refine h.checkCancelled.bind fun _ => ?_
      cases ending with
      | none => exact Respects.pure ()
      | some failure => exact Respects.throw failure
  | cons piece rest ih => exact h.checkCancelled.bind fun _ => (h.write _).bind fun _ => ih

theorem quoting {step : Step Sink Unit} (hstep : Respects r step) :
    Respects r (CellWriter.quoting step) :=
  (h.write CellWriter.mark).bind fun _ => hstep.ensuring (h.write CellWriter.mark)

/-- How far the script has come does not matter to a payload other than the file that it goes to. -/
theorem writePayload {w : CellWriter} {payload : Payload} (content : Content)
    (hown : w.ownTarget? payload = none) : Respects r (w.writePayload content payload) := by
  unfold CellWriter.writePayload
  simp only [hown, Option.isSome_none, Bool.false_eq_true, if_false]
  refine Respects.current_bind (fun _ _ _ => rfl) fun _ => ?_
  split
  · exact (Respects.ofExcept _).bind fun reader => h.quoting (h.copyPieces w _ _)
  · exact (Respects.ofExcept _).bind fun data => h.write _

/-- An object is written alike if its payload is, and if it has been released on both sides or on
neither. -/
theorem writeContent {w : CellWriter} {content : Content} (column : ExportColumn)
    (hpayload : Respects r (w.writePayload content content.payload))
    (hreleases : ∀ a b, r a b → content.payload? a.releases = content.payload? b.releases) :
    Respects r (w.writeContent column content) := by
  unfold CellWriter.writeContent
  split
  · refine (h.write _).bind fun _ => ?_
    split
    · exact Respects.throw _
    · exact Respects.pure ()
  · refine Respects.current_bind ?_ fun sink => ?_
    · intro a b hab
      rw [hreleases a b hab]
    unfold Content.payload?
    cases content.unavailable with
    | some reason => exact fun _ _ hst => ⟨rfl, hst⟩
    | none =>
        cases content.isReleased sink.releases with
        | true => exact Respects.pure ()
        | false => exact hpayload

omit h in
theorem writeContentSafely {w : CellWriter} {column : ExportColumn} {content : Content}
    (hwrite : Respects r (w.writeContent column content))
    (hrelease : Respects r (Sink.release content)) :
    Respects r (w.writeContentSafely column content) := by
  refine hwrite.attempt.bind fun outcome => ?_
  cases outcome with
  | ok => exact (Respects.pure ()).bind fun _ => hrelease
  | error failure => exact (Respects.note _).bind fun _ => hrelease

theorem writeValue {w : CellWriter} {column : ExportColumn} {value : Value}
    (hcontent : ∀ content, value = .content content →
      Respects r (w.writeContentSafely column content)) :
    Respects r (w.writeValue column value) := by
  unfold CellWriter.writeValue
  split
  · exact h.write _
  · exact hcontent _ rfl
  · exact h.writeAll _
  · exact (Respects.noteAll _).bind fun _ => (Respects.ofExcept _).bind fun _ => h.writeAll _

theorem comma (started : Bool) : Respects r (CellWriter.comma started) := by
  cases started with
  | false => exact Respects.pure ()
  | true => exact h.write ","

theorem writeCells {w : CellWriter}
    (hvalue : ∀ column value, Respects r (w.writeValue column value))
    (hskipped : ∀ value, Respects r (CellWriter.releaseSkipped value)) (started : Bool)
    (cells : List (ExportColumn × Value)) : Respects r (w.writeCells started cells) := by
  induction cells generalizing started with
  | nil => exact Respects.pure ()
  | cons cell rest ih =>
      obtain ⟨column, value⟩ := cell
      rw [CellWriter.writeCells_cons]
      split
      · exact (hskipped value).bind fun _ => ih started
      · exact (h.comma started).bind fun _ => (hvalue column value).bind fun _ => ih true

end Indifferent

end Sink

namespace CellWriter

variable (w : CellWriter)

/-! ### Cells that can be written -/

/-- Can a value of the column be written? Only a plain value can be refused, by whoever renders
it. -/
def Renders (column : ExportColumn) : Value → Prop
  | .null | .content _ | .path _ => True
  | value => ∃ text, (w.literal column value).2 = .ok text

/-- Can all the cells of a row be written that are not left out? -/
def RendersRow (columns : List ExportColumn) (row : Row) : Prop :=
  ∀ cell ∈ columns.zip row, w.skips cell.1 = false → w.Renders cell.1 cell.2

/-- A large object never ends a row. -/
theorem writeContentSafely_ok (column : ExportColumn) (content : Content) (s : Logged Sink) :
    ∃ t, w.writeContentSafely column content s = .ok () t := by
  unfold writeContentSafely
  cases hs : w.writeContent column content s with
  | ok a t => exact ⟨_, by rw [Step.bind_of_ok (Step.attempt_of_ok hs)]; rfl⟩
  | error failure t => exact ⟨_, by rw [Step.bind_of_ok (Step.attempt_of_error hs)]; rfl⟩

/-- A plain value is written as its literal, with the marks around it that the column asks for. -/
theorem writeValue_literal {column : ExportColumn} {value : Value} {text : String}
    (hnull : value ≠ .null) (hcontent : ∀ c, value ≠ .content c) (hpath : ∀ p, value ≠ .path p)
    (htext : (w.literal column value).2 = .ok text) (s : Logged Sink) :
    w.writeValue column value s = .ok ()
      { log := (w.literal column value).1.toList.foldl Log.add s.log
        state := s.state.addAll (if w.displays column then [mark, text, mark] else [text]) } := by
  -- a remark only goes into the log
  rcases hliteral : w.literal column value with ⟨remark?, outcome⟩
  obtain rfl : outcome = .ok text := by rw [hliteral] at htext; exact htext
  unfold writeValue
  split
  · exact absurd rfl hnull
  · exact absurd rfl (hcontent _)
  · exact absurd rfl (hpath _)
  · simp only [hliteral]
    rw [Step.bind_of_ok (Step.noteAll_apply remark? s), Step.bind_of_ok (Step.ofExcept_ok _ _),
      Sink.writeAll_apply]

theorem writeValue_ok {column : ExportColumn} {value : Value} (h : w.Renders column value)
    (s : Logged Sink) : ∃ t, w.writeValue column value s = .ok () t := by
  unfold Renders at h
  split at h
  · exact ⟨_, rfl⟩
  · exact w.writeContentSafely_ok column _ s
  · exact ⟨_, Sink.writeAll_apply _ s⟩
  · rename_i hnull hcontent hpath
    obtain ⟨text, htext⟩ := h
    exact ⟨_, w.writeValue_literal hnull hcontent hpath htext s⟩

theorem comma_ok (started : Bool) (s : Logged Sink) : ∃ t, comma started s = .ok () t := by
  cases started <;> exact ⟨_, rfl⟩

/-- Cells that render are all written. -/
theorem writeCells_ok {cells : List (ExportColumn × Value)}
    (h : ∀ cell ∈ cells, w.skips cell.1 = false → w.Renders cell.1 cell.2) (started : Bool)
    (s : Logged Sink) : ∃ t, w.writeCells started cells s = .ok () t := by
  induction cells generalizing started s with
  | nil => exact ⟨s, rfl⟩
  | cons cell rest ih =>
      obtain ⟨column, value⟩ := cell
      rw [writeCells_cons]
      have hrest := ih fun cell hcell => h cell (List.mem_cons_of_mem _ hcell)
      by_cases hskip : w.skips column = true
      · rw [if_pos hskip, Step.bind_of_ok (releaseSkipped_apply value s)]
        exact hrest started _
      · have hvalue := h (column, value) List.mem_cons_self (by simpa using hskip)
        obtain ⟨t, ht⟩ := comma_ok started s
        obtain ⟨u, hu⟩ := w.writeValue_ok hvalue t
        rw [if_neg hskip, Step.bind_of_ok ht, Step.bind_of_ok hu]
        exact hrest true u

/-- A row whose plain values can be rendered is written to its end. -/
theorem writeRow_ok {columns : List ExportColumn} {row : Row} (h : w.RendersRow columns row)
    (s : Logged Sink) : ∃ t, w.writeRow columns row s = .ok () t :=
  w.writeCells_ok h false s

end CellWriter

end InsertScript
