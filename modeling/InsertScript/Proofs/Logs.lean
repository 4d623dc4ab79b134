import InsertScript.Proofs.Thresholds

/-!
# The log and what is written

What is reported has no part in what is done: whatever the log is, and however important a record
has to be to be kept, an export has the same outcome and leaves the same text
(`Exporter.script_respects_eq`). For each step this is read off its parts; a step looks at its state
only.

The export may not go to a file that it reads itself, because how far it has come would be part of
that file.
-/

namespace InsertScript

open Step (Respects)

/-! ### Cells and rows -/

namespace Sink

theorem eq_indifferent : Indifferent Eq where
  write text := Respects.eq_change _
  enquire := by
    intro s t hst
    rw [Step.run_of_ok (enquire_apply s), Step.run_of_ok (enquire_apply t), hst]
    exact ⟨rfl, rfl⟩

end Sink

namespace CellWriter

variable {w : CellWriter}

/-- Without a file that the script goes to no large object is this file. -/
theorem ownTarget?_of_none (htarget : w.target? = none) (payload : Payload) :
    w.ownTarget? payload = none := by
  cases payload with
  | text s => rfl
  | bytes data => rfl
  | file path => simp [ownTarget?, htarget]

theorem writeValue_respects_eq (htarget : w.target? = none) (column : ExportColumn)
    (value : Value) : Respects Eq (w.writeValue column value) := by
  refine Sink.eq_indifferent.writeValue fun content _ => ?_
  refine Sink.Indifferent.writeContentSafely ?_ (Respects.eq_change _)
  refine Sink.eq_indifferent.writeContent column ?_ fun a b hab => by rw [hab]
  exact Sink.eq_indifferent.writePayload content (ownTarget?_of_none htarget _)

theorem writeRow_respects_eq (htarget : w.target? = none)
    (columns : List ExportColumn) (row : Row) : Respects Eq (w.writeRow columns row) := by
  refine Sink.eq_indifferent.writeCells (w.writeValue_respects_eq htarget) (fun value => ?_) false _
  cases value with
  | content c =>
      have hrelease : Respects Eq (Sink.release c) := Respects.eq_change _
      exact hrelease
  | _ => exact Respects.pure ()

end CellWriter

namespace Exporter

variable {σ : Type} {e : Exporter}

theorem writeAll_respects_eq (texts : List String) : Respects Eq (onSink (Sink.writeAll texts)) :=
  (Sink.eq_indifferent.writeAll texts).eq_zoom

theorem row_respects_eq (htarget : e.target? = none) (cells : Row) : Respects Eq (e.row cells) := by
  refine Respects.eq_current_bind fun state => (writeAll_respects_eq _).bind fun _ =>
    (Respects.eq_change _).bind fun _ => Respects.bind ?_ fun _ => writeAll_respects_eq _
  have hwriter : (e.cellWriter state.renderer).target? = none := htarget
  exact (CellWriter.writeRow_respects_eq hwriter _ _).eq_zoom

theorem takeRow_respects_eq (htarget : e.target? = none) (cells : Row) :
    Respects Eq (e.takeRow cells) := by
  refine Sink.eq_indifferent.enquire.eq_zoom.bind fun stop => ?_
  cases stop with
  | true =>
      exact Respects.eq_current_bind fun _ => (Respects.note _).bind fun _ => Respects.pure false
  | false =>
      exact (row_respects_eq htarget cells).bind fun _ =>
          (Respects.eq_change _).eq_zoom.bind fun _ =>
        Respects.pure true

theorem rows_respects_eq (htarget : e.target? = none) (deliveries : List Delivery) :
    Respects Eq (e.rows deliveries) := by
  induction deliveries with
  | nil => exact Respects.pure ()
  | cons delivery rest ih =>
      cases delivery with
      | row cells =>
          refine (takeRow_respects_eq htarget cells).bind fun goesOn => ?_
          cases goesOn with
          | true => exact ih
          | false => exact Respects.pure ()
      | failure f => exact Respects.throw f
      | cancellation => exact (Respects.eq_change _).eq_zoom.bind fun _ => ih

end Exporter

/-! ### Whole scripts -/

/-- Does nothing that a source does depend on the log? -/
structure RowSource.RespectsEq {σ : Type} (source : RowSource σ) : Prop where
  columns : Respects Eq source.columns
  tableName : ∀ bare, Respects Eq (source.tableName bare)
  start : Respects Eq source.start
  stop : Respects Eq source.stop

namespace Exporter

variable {σ : Type} {e : Exporter} {source : RowSource σ}

theorem findTable_respects_eq (hsource : source.RespectsEq) : Respects Eq (e.findTable source) := by
  unfold findTable
  cases e.userTable? with
  | some name => exact Respects.pure none
  | none => exact hsource.tableName _

theorem prepare_respects_eq (hsource : source.RespectsEq) : Respects Eq (e.prepare source) := by
  refine (Respects.noteAll _).bind fun _ => hsource.columns.eq_zoom.bind fun columns =>
    (findTable_respects_eq hsource).eq_zoom.bind fun found? => Respects.bind ?_ fun _ =>
      Respects.eq_current_bind fun state => (Respects.note _).bind fun _ => Respects.pure _
  have hheader : Respects Eq (e.header columns found?) :=
    (Respects.eq_change _).bind fun _ => Respects.note _
  exact hheader.eq_zoom

theorem finish_respects_eq (tableName : String) :
    Respects Eq (e.finish tableName : Step (Sourced σ) ExportResult) := by
  have hfooter : Respects Eq e.footer := by
    refine Respects.eq_current_bind fun state => ?_
    dsimp only
    split
    · exact Respects.pure ()
    · exact (writeAll_respects_eq _).bind fun _ => Respects.note _
  refine hfooter.eq_zoom.bind fun _ =>
    Sink.eq_indifferent.enquire.eq_zoom.eq_zoom.bind fun isCancelled => ?_
  exact Respects.eq_current_bind fun state => (Respects.note _).bind fun _ => Respects.pure _

/-- The log has no part in a script. -/
theorem script_respects_eq (htarget : e.target? = none) (hsource : source.RespectsEq) :
    Respects Eq (e.script source) := by
  rw [script_eq]
  refine (prepare_respects_eq hsource).bind fun tableName => Respects.bind ?_ fun _ =>
    finish_respects_eq tableName
  exact hsource.start.eq_zoom.bind fun deliveries =>
    (rows_respects_eq htarget deliveries).eq_zoom.ensuring hsource.stop.eq_zoom

end Exporter

/-! ### Files and queries -/

namespace CsvFile

theorem columns_respects_eq (csv : CsvFile) (files : FileSystem) :
    Respects Eq (csv.columns files) := by
  refine Respects.eq_current_bind fun header => ?_
  cases header with
  | some columns => exact Respects.pure columns
  | none =>
      exact (Respects.ofExcept _).bind fun columns => (Respects.eq_change _).bind fun _ =>
        Respects.pure columns

theorem source_respects_eq (csv : CsvFile) (files : FileSystem) :
    (csv.source files).RespectsEq where
  columns := (csv.columns_respects_eq files).bind fun _ => Respects.pure _
  tableName _ := Respects.pure _
  start :=
    (csv.columns_respects_eq files).bind fun _ =>
      (Respects.ofExcept _).bind fun _ => Respects.pure _
  stop := Respects.pure ()

end CsvFile

namespace Client

theorem refuse_respects_eq (error? : Option DatabaseError) : Respects Eq (refuse error?) := by
  cases error? with
  | some e => exact Respects.throw _
  | none => exact Respects.pure ()

theorem getPassword_respects_eq : Respects Eq getPassword := by
  have hfind : Respects Eq findPassword := by
    refine Respects.eq_current_bind fun c => ?_
    split
    · exact Respects.pure _
    · exact (Respects.eq_change _).bind fun _ => Respects.pure _
  refine Respects.eq_current_bind fun c => ?_
  split
  · exact Respects.pure _
  · exact hfind.bind fun _ => (Respects.eq_change _).bind fun _ => Respects.pure _

theorem openConnection_respects_eq (parameters : ConnectionParameters) :
    Respects Eq (openConnection parameters) := by
  refine getPassword_respects_eq.bind fun password => Respects.eq_current_bind fun c =>
    (Respects.eq_change _).bind fun _ => (Respects.eq_change _).bind fun _ => ?_
  split
  · exact Respects.throw _
  · exact Respects.pure _

theorem closeConnection_respects_eq (connection : Nat) : Respects Eq (closeConnection connection) :=
  (Respects.eq_change _).bind fun _ => Respects.eq_current_bind fun _ => refuse_respects_eq _

theorem close_respects_eq : Respects Eq close := by
  refine Respects.eq_current_bind fun c => ?_
  split
  · exact Respects.pure ()
  · exact (closeConnection_respects_eq _).ensuring (Respects.eq_change _)

theorem restrict_respects_eq (connection : Nat) : Respects Eq (restrict connection) := by
  refine (Respects.eq_change _).bind fun _ => (Respects.eq_change _).bind fun _ =>
      (Respects.eq_change _).bind fun _ =>
    Respects.eq_current_bind fun c => ?_
  split
  · exact Respects.eq_change _
  · exact (closeConnection_respects_eq _).bind fun _ => Respects.throw _

theorem holdConnection_respects_eq (plan : ConnectionPlan) : Respects Eq (holdConnection plan) := by
  have hconnect : Respects Eq (connect plan) :=
    (Respects.note _).bind fun _ => (openConnection_respects_eq _).bind fun _ =>
        (restrict_respects_eq _).bind fun _ =>
      Respects.pure _
  refine Respects.eq_current_bind fun c => ?_
  split
  · exact Respects.pure _
  · exact hconnect.bind fun _ => (Respects.eq_change _).bind fun _ => Respects.pure _

theorem getConnection_respects_eq (plan : ConnectionPlan) : Respects Eq (getConnection plan) := by
  have hdrop : Respects Eq (dropExpired plan) := by
    refine Respects.eq_current_bind fun c => ?_
    split
    · exact (Respects.note _).bind fun _ => close_respects_eq
    · exact Respects.pure ()
  exact hdrop.bind fun _ => (Respects.eq_change _).bind fun _ =>
      (holdConnection_respects_eq plan).bind fun _ =>
    (Respects.eq_change _).bind fun _ => (Respects.eq_change _).bind fun _ => Respects.pure _

end Client

namespace Query

theorem ensureExecuted_respects_eq (q : Query) : Respects Eq q.ensureExecuted := by
  have hexecute (connection : Nat) : Respects Eq (q.execute connection) := by
    refine (Respects.eq_change _).eq_zoom.bind fun _ => (Respects.ofExcept _).bind fun shown =>
      (Respects.note _).bind fun _ => (Respects.eq_change _).eq_zoom.bind fun _ =>
        Respects.eq_current_bind fun state => ?_
    split
    · exact (Respects.eq_change _).eq_zoom.bind fun _ => Respects.throw _
    · exact Respects.eq_change _
  refine Respects.eq_current_bind fun state => ?_
  split
  · exact Respects.pure ()
  · exact (Client.getConnection_respects_eq q.plan).eq_zoom.bind hexecute

theorem columns_respects_eq (q : Query) : Respects Eq q.columns := by
  refine Respects.eq_current_bind fun state => ?_
  dsimp only
  split
  · exact Respects.pure _
  · refine q.ensureExecuted_respects_eq.bind fun _ => Respects.eq_current_bind fun state => ?_
    split
    · exact Respects.throw _
    · exact (Respects.eq_change _).bind fun _ => Respects.pure _

theorem source_respects_eq (q : Query) : q.source.RespectsEq where
  columns := q.columns_respects_eq.bind fun _ => Respects.pure _
  tableName _ := Respects.ofExcept _
  start :=
    q.ensureExecuted_respects_eq.bind fun _ => Respects.eq_current_bind fun _ => Respects.pure _
  stop := stop_respects

end Query

end InsertScript
