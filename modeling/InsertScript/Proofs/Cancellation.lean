import InsertScript.Export.Script
import InsertScript.Proofs.Layout
import InsertScript.Proofs.Streaming
import InsertScript.Source.Table

/-!
# Cancelled exports

A monitor that never says yes leaves no trace in what is written: whatever is written with one such
monitor is written with any other, and with none (`Sink.Apart`, `CellWriter.writeRow_respects`). So
an export that is cancelled is, up to this moment, an export of the rows before it; and as the
footer ends the last statement in either case, the two write the same script (`script_cancelled`).
-/

namespace InsertScript

open Step (Respects)

/-! ### Calm monitors -/

/-- Will the monitor never say yes? -/
def Monitor.IsCalm (m : Monitor) : Prop := m.isCancelled = false ∧ m.patience? = none

/-- Is there no monitor, or one that will never say yes? -/
def Monitor.Calm (m? : Option Monitor) : Prop := ∀ m ∈ m?, m.IsCalm

namespace Monitor

variable {m? : Option Monitor}

theorem calm_none : Calm none := by simp [Calm]

theorem calm_fresh : Calm (some {}) := by simp [Calm, IsCalm]

theorem calm_worked (h : Calm m?) (rows : Int) : Calm (m?.map (·.worked rows)) := by
  intro m hm
  obtain ⟨m', hm', rfl⟩ := Option.map_eq_some_iff.1 hm
  exact h m' hm'

theorem worked_zero (m : Monitor) : m.worked 0 = m := by simp [worked]

/-- Rows are counted one by one. -/
theorem map_worked_length_cons {α : Type} (row : α) (rows : List α) :
    m?.map (·.worked ((row :: rows).length : Nat))
      = (m?.map (·.worked 1)).map (·.worked rows.length) := by
  cases m? with
  | none => rfl
  | some m =>
      simp only [Option.map_some, worked, List.length_cons]
      rw [show ((rows.length + 1 : Nat) : Int) = 1 + rows.length by omega, Int.add_assoc]

end Monitor

open Monitor (Calm calm_none calm_fresh calm_worked worked_zero map_worked_length_cons)

namespace Sink

/-- A calm monitor says no and stays as it is. -/
theorem enquire_of_calm {s : Logged Sink} (h : Calm s.state.monitor?) :
    enquire s = .ok false s := by
  obtain ⟨log, ⟨output, flow, releases, monitor?⟩⟩ := s
  rcases monitor? with _ | ⟨rowsDone, isCancelled, patience?⟩
  · rfl
  · obtain ⟨rfl, rfl⟩ := h _ rfl
    rfl

theorem patience?_of_calm {s : Sink} (h : Calm s.monitor?) : s.patience? = none := by
  unfold Sink.patience?
  cases hs : s.monitor? with
  | none => rfl
  | some m =>
      obtain ⟨hcancelled, hpatience⟩ := h m hs
      simp [hcancelled, hpatience]

/-- Are two sinks equal but for their monitors, which are these? -/
def Apart (m? m'? : Option Monitor) (s t : Sink) : Prop :=
  s.monitor? = m? ∧ t = { s with monitor? := m'? }

variable {m? m'? : Option Monitor}

theorem Apart.output_eq {s t : Sink} (h : Apart m? m'? s t) : t.output = s.output := by rw [h.2]

theorem Apart.monitor?_left {s t : Sink} (h : Apart m? m'? s t) : s.monitor? = m? := h.1

theorem Apart.monitor?_right {s t : Sink} (h : Apart m? m'? s t) : t.monitor? = m'? := by rw [h.2]

theorem Apart.change_monitor {s t : Sink} (h : Apart m? m'? s t) (f : Monitor → Monitor) :
    Apart (m?.map f) (m'?.map f) { s with monitor? := s.monitor?.map f }
      { t with monitor? := t.monitor?.map f } := by
  obtain ⟨rfl, rfl⟩ := h
  exact ⟨rfl, rfl⟩

theorem release_respects (c : Content) : Respects (Apart m? m'?) (release c) := by
  refine Respects.change ?_
  rintro s t ⟨rfl, rfl⟩
  exact ⟨rfl, rfl⟩

/-- Writing does not tell a calm monitor from another one. -/
theorem apart_indifferent (hm : Calm m?) (hm' : Calm m'?) : Indifferent (Apart m? m'?) where
  write text := by
    refine Respects.change ?_
    rintro s t ⟨rfl, rfl⟩
    exact ⟨rfl, rfl⟩
  enquire := by
    intro s t h
    have hs := enquire_of_calm (s := s) (by rw [h.monitor?_left]; exact hm)
    have ht := enquire_of_calm (s := t) (by rw [h.monitor?_right]; exact hm')
    rw [Step.run_of_ok hs, Step.run_of_ok ht]
    exact ⟨rfl, h⟩

end Sink

/-! ### Cells beside a calm monitor -/

namespace CellWriter

open Sink (Apart apart_indifferent release_respects)

variable {m? m'? : Option Monitor} (w : CellWriter) (hm : Calm m?) (hm' : Calm m'?)
include hm hm'

theorem copyGrowing_respects (limit known : Nat) (reader : TextReader) :
    Respects (Apart m? m'?) (w.copyGrowing limit known reader) := by
  have happart := apart_indifferent hm hm'
  induction limit generalizing known reader with
  | zero => exact Respects.throw .fullFile
  | succ limit ih =>
      refine happart.checkCancelled.bind fun _ => Respects.current_bind ?_ fun sink => ?_
      · rintro a b ⟨rfl, rfl⟩
        rfl
      · split
        · exact Respects.throw _
        · exact Respects.pure ()
        · exact (happart.write _).bind fun _ => ih _ _

theorem writePayload_respects (content : Content) (payload : Payload) :
    Respects (Apart m? m'?) (w.writePayload content payload) := by
  have happart := apart_indifferent hm hm'
  cases hown : w.ownTarget? payload with
  | none => exact happart.writePayload content hown
  | some target =>
      unfold writePayload
      simp only [hown, Option.isSome_some, if_true]
      refine Respects.current_bind ?_ fun sink => ?_
      · rintro a b ⟨rfl, rfl⟩
        rfl
      split
      · exact (Respects.ofExcept _).bind fun reader =>
          happart.quoting (w.copyGrowing_respects hm hm' _ _ reader)
      · exact (Respects.ofExcept _).bind fun data => happart.write _

theorem writeValue_respects (column : ExportColumn) (value : Value) :
    Respects (Apart m? m'?) (w.writeValue column value) := by
  have happart := apart_indifferent hm hm'
  refine happart.writeValue fun content _ => ?_
  refine Sink.Indifferent.writeContentSafely ?_ (release_respects content)
  refine happart.writeContent column (w.writePayload_respects hm hm' content content.payload) ?_
  rintro a b ⟨rfl, rfl⟩
  rfl

omit hm hm' in
theorem releaseSkipped_respects (value : Value) :
    Respects (Apart m? m'?) (releaseSkipped value) := by
  unfold releaseSkipped
  split
  · exact release_respects _
  · exact Respects.pure ()

theorem writeCells_respects (started : Bool) (cells : List (ExportColumn × Value)) :
    Respects (Apart m? m'?) (w.writeCells started cells) :=
  (apart_indifferent hm hm').writeCells (w.writeValue_respects hm hm')
    releaseSkipped_respects started cells

/-- Which calm monitor there is makes no difference to a row. -/
theorem writeRow_respects (columns : List ExportColumn) (row : Row) :
    Respects (Apart m? m'?) (w.writeRow columns row) :=
  w.writeCells_respects hm hm' false (columns.zip row)

end CellWriter

/-! ### Rows beside a calm monitor -/

/-- The rows that are delivered before the work is cancelled. -/
def Delivery.inTime : List Delivery → List Row
  | .row cells :: rest => cells :: inTime rest
  | _ => []

/-- Without a failure what comes after the rows in time is a cancellation, if anything. -/
theorem Delivery.exists_rest {deliveries : List Delivery} (h : ∀ f, .failure f ∉ deliveries) :
    ∃ rest, deliveries = (inTime deliveries).map .row ++ rest ∧
      (rest = [] ∨ ∃ rest', rest = .cancellation :: rest') := by
  induction deliveries with
  | nil => exact ⟨[], rfl, .inl rfl⟩
  | cons delivery deliveries ih =>
      cases delivery with
      | row cells =>
          obtain ⟨rest, hrest, hshape⟩ := ih fun f hf => h f (List.mem_cons_of_mem _ hf)
          refine ⟨rest, ?_, hshape⟩
          rw [inTime, List.map_cons, List.cons_append, ← hrest]
      | failure f => exact absurd List.mem_cons_self (h f)
      | cancellation => exact ⟨_, rfl, .inr ⟨_, rfl⟩⟩

/-- Are two exports equal but for the monitors, which are these? -/
def ExportState.Apart (m? m'? : Option Monitor) (s t : ExportState) : Prop :=
  s.sink.Apart m? m'? t.sink ∧ t = { s with sink := t.sink }

/-- The export after its monitor, if there is one, has been told something. -/
def ExportState.tell (s : ExportState) (f : Monitor → Monitor) : ExportState :=
  { s with sink := { s.sink with monitor? := s.sink.monitor?.map f } }

theorem ExportState.Apart.tell {m? m'? : Option Monitor} {s t : ExportState}
    (h : ExportState.Apart m? m'? s t) (f : Monitor → Monitor) :
    ExportState.Apart (m?.map f) (m'?.map f) (s.tell f) (t.tell f) :=
  ⟨h.1.change_monitor f, by rw [h.2]; rfl⟩

namespace Exporter

variable {e : Exporter} {m? m'? : Option Monitor}

theorem tell_ok (f : Monitor → Monitor) (s : Logged ExportState) :
    onSink (Sink.changeMonitor f) s = .ok () { s with state := s.state.tell f } := rfl

theorem onSink_respects {α : Type} {step : Step Sink α} (h : Respects (Sink.Apart m? m'?) step) :
    Respects (ExportState.Apart m? m'?) (onSink step) := by
  refine h.zoom (fun a b hab => hab.1) ?_
  rintro a b x y ⟨-, hsame⟩ hxy
  exact ⟨hxy, by rw [hsame]⟩

theorem row_respects (hm : Calm m?) (hm' : Calm m'?) (cells : Row) :
    Respects (ExportState.Apart m? m'?) (e.row cells) := by
  refine Respects.current_bind ?_ fun state => ?_
  · rintro a b ⟨-, hsame⟩
    rw [hsame]
  have hwriteAll (texts : List String) :
      Respects (ExportState.Apart m? m'?) (onSink (Sink.writeAll texts)) :=
    onSink_respects ((Sink.apart_indifferent hm hm').writeAll texts)
  refine (hwriteAll _).bind fun _ => Respects.bind ?_ fun _ =>
    (onSink_respects (CellWriter.writeRow_respects _ hm hm' _ _)).bind fun _ => hwriteAll _
  refine Respects.change ?_
  rintro a b ⟨hsink, hsame⟩
  exact ⟨hsink, by rw [hsame]⟩

/-- With a calm monitor the next row is written and counted. -/
theorem takeRow_ok {cells : Row} {s t : Logged ExportState} (h : Calm s.state.sink.monitor?)
    (hrow : e.row cells s = .ok () t) :
    e.takeRow cells s = .ok true { t with state := t.state.tell (·.worked 1) } := by
  rw [takeRow, Step.bind_of_ok (onSink_ok (Sink.enquire_of_calm h))]
  simp only [Bool.false_eq_true, if_false]
  rw [Step.bind_of_ok hrow, Step.bind_of_ok (tell_ok _ t), Step.pure_apply]

/-- A row that fails is not counted as done. -/
theorem takeRow_error {cells : Row} {s t : Logged ExportState} {failure : Failure}
    (h : Calm s.state.sink.monitor?) (hrow : e.row cells s = .error failure t) :
    e.takeRow cells s = .error failure t := by
  rw [takeRow, Step.bind_of_ok (onSink_ok (Sink.enquire_of_calm h))]
  simp only [Bool.false_eq_true, if_false]
  rw [Step.bind_of_error hrow]

/-- Two exports take their rows side by side. Either the same row fails in both, or they come to
what each has to do afterwards. -/
theorem rows_apart (rows : List Row) (rest rest' : List Delivery) {s t : Logged ExportState}
    (hm : Calm m?) (hm' : Calm m'?) (h : ExportState.Apart m? m'? s.state t.state) :
    (∃ failure s' t', e.rows (rows.map .row ++ rest) s = .error failure s' ∧
        e.rows (rows.map .row ++ rest') t = .error failure t' ∧
        t'.state.sink.output = s'.state.sink.output) ∨
      ∃ s' t', e.rows (rows.map .row ++ rest) s = e.rows rest s' ∧
        e.rows (rows.map .row ++ rest') t = e.rows rest' t' ∧
        ExportState.Apart (m?.map (·.worked rows.length)) (m'?.map (·.worked rows.length))
          s'.state t'.state := by
  induction rows generalizing m? m'? s t with
  | nil => exact .inr ⟨s, t, rfl, rfl, by simpa [worked_zero] using h⟩
  | cons cells rows ih =>
      have hs : Calm s.state.sink.monitor? := by rw [h.1.monitor?_left]; exact hm
      have ht : Calm t.state.sink.monitor? := by rw [h.1.monitor?_right]; exact hm'
      simp only [List.map_cons, List.cons_append, Exporter.rows]
      cases hrow : e.row cells s with
      | error failure s' =>
          -- a row does not look at a calm monitor, so it fails on the other side as well
          obtain ⟨t', hrow', h'⟩ := (row_respects hm hm' cells).of_error h hrow
          exact .inl ⟨failure, s', t', Step.bind_of_error (takeRow_error hs hrow),
            Step.bind_of_error (takeRow_error ht hrow'), h'.1.output_eq⟩
      | ok a s' =>
          obtain ⟨t', hrow', h'⟩ := (row_respects hm hm' cells).of_ok h hrow
          rw [Step.bind_of_ok (takeRow_ok hs hrow), Step.bind_of_ok (takeRow_ok ht hrow'),
            map_worked_length_cons, map_worked_length_cons]
          exact ih (calm_worked hm 1) (calm_worked hm' 1) (h'.tell _)

/-- A row does not touch a calm monitor. -/
theorem monitor?_of_row_ok {cells : Row} {s t : Logged ExportState} (h : Calm s.state.sink.monitor?)
    (hrow : e.row cells s = .ok () t) : t.state.sink.monitor? = s.state.sink.monitor? := by
  obtain ⟨t', -, happart⟩ := (row_respects h h cells).of_ok (t := s) ⟨⟨rfl, rfl⟩, rfl⟩ hrow
  exact happart.1.monitor?_left

/-- Rows that can be written are all counted, by the session and by the monitor. -/
theorem rows_ok (rows : List Row) (rest : List Delivery) {s : Logged ExportState}
    (hm : Calm s.state.sink.monitor?)
    (hrows : ∀ cells ∈ rows,
      (e.cellWriter s.state.renderer).RendersRow s.state.session.columns cells) :
    ∃ t, e.rows (rows.map .row ++ rest) s = e.rows rest t ∧
      t.state.session = e.countRow^[rows.length] s.state.session ∧
      t.state.sink.monitor? = s.state.sink.monitor?.map (·.worked rows.length) := by
  induction rows generalizing s with
  | nil => exact ⟨s, rfl, rfl, by simp [worked_zero]⟩
  | cons cells rows ih =>
      obtain ⟨log, sink, hrow, -⟩ := row_ok (hrows cells List.mem_cons_self)
      have hmonitor : sink.monitor? = s.state.sink.monitor? := monitor?_of_row_ok hm hrow
      have htake := takeRow_ok hm hrow
      obtain ⟨t, hrest, hsession, hdone⟩ := ih
        (s := { log, state :=
          { s.state with
            sink, session := e.countRow s.state.session : ExportState }.tell (·.worked 1) })
        (by rw [← hmonitor] at hm; exact calm_worked hm 1)
        fun next hnext => hrows next (List.mem_cons_of_mem _ hnext)
      refine ⟨t, ?_, hsession, ?_⟩
      · simp only [List.map_cons, List.cons_append, Exporter.rows]
        rw [Step.bind_of_ok htake]
        exact hrest
      · rw [hdone, map_worked_length_cons, ← hmonitor]
        rfl

/-- A cancelled export writes no more rows. -/
theorem rows_of_cancelled {deliveries : List Delivery} (hfailure : ∀ f, .failure f ∉ deliveries)
    {s : Logged ExportState} {m : Monitor} (hs : s.state.sink.monitor? = some m.cancel) :
    ∃ log, e.rows deliveries s = .ok () { s with log } := by
  induction deliveries with
  | nil => exact ⟨s.log, rfl⟩
  | cons delivery rest ih =>
      cases delivery with
      | failure f => exact absurd List.mem_cons_self (hfailure f)
      | cancellation =>
          -- it was cancelled before
          have htell : s.state.tell Monitor.cancel = s.state := by
            obtain ⟨log, ⟨⟨output, flow, releases, monitor?⟩, session, renderer⟩⟩ := s
            obtain rfl : monitor? = some m.cancel := hs
            rfl
          obtain ⟨log, hlog⟩ := ih fun f hf => hfailure f (List.mem_cons_of_mem _ hf)
          refine ⟨log, ?_⟩
          rw [Exporter.rows, Step.bind_of_ok (tell_ok _ s), htell, hlog]
      | row cells =>
          have hyes : Sink.enquire { log := s.log, state := s.state.sink }
              = .ok true { log := s.log, state := s.state.sink } := by
            obtain ⟨log, ⟨⟨output, flow, releases, monitor?⟩, session, renderer⟩⟩ := s
            obtain rfl : monitor? = some m.cancel := hs
            simp [Sink.enquire]
          have htake : ∃ log, e.takeRow cells s = .ok false { s with log } := by
            rw [takeRow, Step.bind_of_ok (onSink_ok hyes)]
            exact ⟨_, rfl⟩
          obtain ⟨log, hlog⟩ := htake
          refine ⟨log, ?_⟩
          rw [Exporter.rows, Step.bind_of_ok hlog]
          rfl

/-- What is delivered after the rows in time only cancels the work. -/
theorem rows_rest {rest : List Delivery} (hfailure : ∀ f, .failure f ∉ rest)
    (hshape : rest = [] ∨ ∃ rest', rest = .cancellation :: rest')
    {s : Logged ExportState} {m : Monitor} (hs : s.state.sink.monitor? = some m) :
    ∃ log, e.rows rest s = .ok ()
      { log, state := if rest.isEmpty then s.state else s.state.tell Monitor.cancel } := by
  rcases hshape with rfl | ⟨rest, rfl⟩
  · exact ⟨s.log, rfl⟩
  · have htold : (s.state.tell Monitor.cancel).sink.monitor? = some m.cancel := by
      simp [ExportState.tell, hs]
    obtain ⟨log, hlog⟩ := rows_of_cancelled (e := e)
      (s := { s with state := s.state.tell Monitor.cancel })
      (fun f hf => hfailure f (List.mem_cons_of_mem _ hf)) htold
    refine ⟨log, ?_⟩
    rw [Exporter.rows, Step.bind_of_ok (tell_ok _ s), hlog]
    rfl

/-! ### Whole exports -/

variable {σ : Type} (e : Exporter)

/-- The table that an export asks its source for. -/
def findTable (source : RowSource σ) : Step σ (Option String) :=
  match e.userTable? with
  | some _ => pure none
  | none => source.tableName e.settings.omitSchema

/-- Does a source in a state offer an export these columns, this table and these deliveries? -/
def Offers (source : RowSource σ) (state : σ) (columns : List ExportColumn) (found? : Option String)
    (deliveries : List Delivery) : Prop :=
  ∃ s₁ s₂ s₃ s₄, source.columns.Answers state columns s₁ ∧
    (e.findTable source).Answers s₁ found? s₂ ∧
    source.start.Answers s₂ deliveries s₃ ∧ source.stop.Answers s₃ () s₄

/-- What an export does before the rows; its answer is the table. -/
def prepare (source : RowSource σ) : Step (Sourced σ) String := do
  Step.noteAll e.remark?
  let columns ← onSource source.columns
  let found? ← onSource (e.findTable source)
  onExport (e.header columns found?)
  let tableName := e.tableIdentifier (← Step.current).1.session
  let dialectName := (e.dialect?.getD .generic).name
  Step.report .info scriptOrigin s!"Exporting rows of {tableName} as {dialectName} SQL"
  return tableName

/-- What an export does after the rows. -/
def finish (tableName : String) : Step (Sourced σ) ExportResult := do
  onExport e.footer
  let isCancelled ← onExport (onSink Sink.enquire)
  let session := (← Step.current).1.session
  Step.report .info scriptOrigin
    s!"Exported {session.rowCount} rows in {session.statementCount} statements"
  return { tableName, rowCount := session.rowCount, statementCount := session.statementCount,
           isCancelled }

/-- The state that an export leaves after these rows. -/
def finished (s : ExportState) : ExportState :=
  { s with sink := (s.sink.addAll (e.closing s.session.rowCount)).asked }

variable {e}

theorem script_eq (source : RowSource σ) :
    e.script source = e.prepare source >>= fun tableName =>
      e.rowsOf source >>= fun _ => e.finish tableName := by
  unfold script scriptAround prepare finish findTable
  cases e.userTable? with
  | some name => simp only [bind_assoc, pure_bind]; rfl
  | none => simp only [bind_assoc, pure_bind]

theorem onSource_ok {α : Type} {step : Step σ α} {s : Logged (Sourced σ)} {t : Logged σ} {a : α}
    (h : step { log := s.log, state := s.state.2 } = .ok a t) :
    onSource step s = .ok a { log := t.log, state := (s.state.1, t.state) } :=
  Step.zoom_of_ok h

theorem onSource_error {α : Type} {step : Step σ α} {s : Logged (Sourced σ)} {t : Logged σ}
    {failure : Failure} (h : step { log := s.log, state := s.state.2 } = .error failure t) :
    onSource step s = .error failure { log := t.log, state := (s.state.1, t.state) } :=
  Step.zoom_of_error h

theorem onExport_ok {α : Type} {step : Step ExportState α} {s : Logged (Sourced σ)}
    {t : Logged ExportState} {a : α} (h : step { log := s.log, state := s.state.1 } = .ok a t) :
    onExport step s = .ok a { log := t.log, state := (t.state, s.state.2) } :=
  Step.zoom_of_ok h

theorem onExport_error {α : Type} {step : Step ExportState α} {s : Logged (Sourced σ)}
    {t : Logged ExportState} {failure : Failure}
    (h : step { log := s.log, state := s.state.1 } = .error failure t) :
    onExport step s = .error failure { log := t.log, state := (t.state, s.state.2) } :=
  Step.zoom_of_error h

/-- What an export finds out at the end. -/
theorem finish_ok (tableName : String) (s : Logged (Sourced σ)) :
    ∃ log, e.finish tableName s = .ok
      { tableName, rowCount := s.state.1.session.rowCount
        statementCount := s.state.1.session.statementCount
        isCancelled := decide (s.state.1.sink.patience? = some 0) }
      { log, state := (e.finished s.state.1, s.state.2) } := by
  obtain ⟨log, hfooter⟩ := footer_ok (e := e) { log := s.log, state := s.state.1 }
  unfold finish
  rw [Step.bind_of_ok (onExport_ok hfooter),
    Step.bind_of_ok (onExport_ok (onSink_ok (Sink.enquire_apply _))),
    Step.bind_of_ok (Step.current_apply _), Step.bind_of_ok (Step.report_apply _ _ _ _),
    Step.pure_apply, finished]
  simp only [Sink.patience?_addAll]
  exact ⟨_, rfl⟩

variable {source : RowSource σ} {columns : List ExportColumn} {found? : Option String}
  {deliveries : List Delivery}

/-- Before the rows an export only opens its session. -/
theorem prepare_ok {s : Logged (Sourced σ)} {s₁ s₂ : σ}
    (hcolumns : source.columns.Answers s.state.2 columns s₁)
    (hfind : (e.findTable source).Answers s₁ found? s₂) :
    ∃ log, e.prepare source s = .ok (e.tableIdentifier (e.openSession columns found?))
      { log, state := ((e.begun columns found? { log := s.log, state := s.state.1 }).state,
        s₂) } := by
  have hremark := Step.noteAll_apply e.remark? s
  obtain ⟨log₁, hcolumns⟩ := hcolumns (e.remark?.toList.foldl Log.add s.log)
  obtain ⟨log₂, hfind⟩ := hfind log₁
  unfold prepare
  rw [Step.bind_of_ok hremark, Step.bind_of_ok (onSource_ok hcolumns),
    Step.bind_of_ok (onSource_ok hfind),
    Step.bind_of_ok (onExport_ok (header_ok columns found? _)),
      Step.bind_of_ok (Step.current_apply _),
    Step.bind_of_ok (Step.report_apply _ _ _ _), Step.pure_apply]
  exact ⟨_, rfl⟩

theorem rowsOf_ok {s : Logged (Sourced σ)} {t : Logged ExportState} {log : Log} {s₃ s₄ : σ}
    (hstart : source.start { log := s.log, state := s.state.2 } =
      .ok deliveries { log, state := s₃ }) (hstop : source.stop.Answers s₃ () s₄)
    (hrows : e.rows deliveries { log, state := s.state.1 } = .ok () t) :
    ∃ log, e.rowsOf source s = .ok () { log, state := (t.state, s₄) } := by
  obtain ⟨log', hstop⟩ := hstop t.log
  refine ⟨log', ?_⟩
  rw [rowsOf, Step.bind_of_ok (onSource_ok hstart)]
  exact Step.ensuring_of_ok (onExport_ok hrows)
    (onSource_ok (s := { log := t.log, state := (t.state, s₃) })
      (t := { log := log', state := s₄ }) hstop)

/-- The source is stopped even if a row fails. -/
theorem rowsOf_error {s : Logged (Sourced σ)} {t : Logged ExportState} {log : Log} {s₃ s₄ : σ}
    {failure : Failure}
    (hstart : source.start { log := s.log, state := s.state.2 } =
      .ok deliveries { log, state := s₃ }) (hstop : source.stop.Answers s₃ () s₄)
    (hrows : e.rows deliveries { log, state := s.state.1 } = .error failure t) :
    ∃ log, e.rowsOf source s = .error failure { log, state := (t.state, s₄) } := by
  obtain ⟨log', hstop⟩ := hstop t.log
  refine ⟨log', ?_⟩
  rw [rowsOf, Step.bind_of_ok (onSource_ok hstart)]
  exact Step.ensuring_of_error (onExport_error hrows)
    (onSource_ok (s := { log := t.log, state := (t.state, s₃) })
      (t := { log := log', state := s₄ }) hstop)

/-- With what a source offers it depends on the rows alone how an export ends. -/
theorem script_of_offers {s : Logged (Sourced σ)}
    (h : e.Offers source s.state.2 columns found? deliveries) :
    ∃ begun : Logged ExportState,
      begun.state = (e.begun columns found? { log := s.log, state := s.state.1 }).state ∧
      (∀ failure t, e.rows deliveries begun = .error failure t →
        ∃ u, e.script source s = .error failure u ∧ u.state.1 = t.state) ∧
      ∀ t, e.rows deliveries begun = .ok () t → ∃ u, e.script source s = .ok
        { tableName := e.tableIdentifier (e.openSession columns found?)
          rowCount := t.state.session.rowCount
          statementCount := t.state.session.statementCount
          isCancelled := decide (t.state.sink.patience? = some 0) } u ∧
            u.state.1 = e.finished t.state := by
  obtain ⟨s₁, s₂, s₃, s₄, hcolumns, hfind, hstart, hstop⟩ := h
  obtain ⟨log, hprepare⟩ := prepare_ok hcolumns hfind
  obtain ⟨log₁, hstart⟩ := hstart log
  generalize (e.begun columns found? { log := s.log, state := s.state.1 }).state =
    begun at hprepare ⊢
  refine ⟨{ log := log₁, state := begun }, rfl, fun failure t hrows => ?_, fun t hrows => ?_⟩
  · obtain ⟨log₂, hrowsOf⟩ := rowsOf_error (s := { log, state := (begun, s₂) }) hstart hstop hrows
    refine ⟨{ log := log₂, state := (t.state, s₄) }, ?_, rfl⟩
    rw [script_eq, Step.bind_of_ok hprepare, Step.bind_of_error hrowsOf]
  · obtain ⟨log₂, hrowsOf⟩ := rowsOf_ok (s := { log, state := (begun, s₂) }) hstart hstop hrows
    obtain ⟨log₃, hfinish⟩ := finish_ok (e := e) (e.tableIdentifier (e.openSession columns found?))
      { log := log₂, state := (t.state, s₄) }
    refine ⟨{ log := log₃, state := (e.finished t.state, s₄) }, ?_, rfl⟩
    rw [script_eq, Step.bind_of_ok hprepare, Step.bind_of_ok hrowsOf, hfinish]

theorem rowsDone_finished (s : ExportState) :
    (e.finished s).sink.monitor?.map (·.rowsDone) = s.sink.monitor?.map (·.rowsDone) := by
  cases h : s.sink.monitor? <;> simp [finished, Sink.asked, h]

/-- Two exports, one of which is cancelled after the rows that are all there is for the other one,
write the same. -/
theorem output_script_apart {τ : Type} {source' : RowSource τ} {m : Monitor}
    {s : Logged (Sourced σ)} {t : Logged (Sourced τ)} (hm : m.IsCalm) (hm' : Calm m'?)
    (hfailure : ∀ f, .failure f ∉ deliveries)
    (hsource : e.Offers source s.state.2 columns found? deliveries)
    (hsource' : e.Offers source' t.state.2 columns found? ((Delivery.inTime deliveries).map .row))
    (happart : ExportState.Apart (some m) m'? s.state.1 t.state.1) :
    ((e.script source).run s).2.state.1.sink.output
      = ((e.script source').run t).2.state.1.sink.output := by
  obtain ⟨rest, hdeliveries, hshape⟩ := Delivery.exists_rest hfailure
  obtain ⟨begun, hbegun, herror, hok⟩ := script_of_offers hsource
  obtain ⟨begun', hbegun', herror', hok'⟩ := script_of_offers hsource'
  have hbegins : ExportState.Apart (some m) m'? begun.state begun'.state := by
    rw [hbegun, hbegun']
    obtain ⟨hsink, hsame⟩ := happart
    exact ⟨hsink, by rw [hsame]; rfl⟩
  have hcalm : Calm (some m) := by
    rintro _ ⟨⟩
    exact hm
  have hboth := rows_apart (e := e) (Delivery.inTime deliveries) rest [] hcalm hm' hbegins
  rw [← hdeliveries, List.append_nil] at hboth
  -- a failure ends both scripts without a footer
  rcases hboth with ⟨failure, s', t', hs, ht, houtput⟩ | ⟨s', t', hs, ht, hends⟩
  · obtain ⟨u, hu, hstate⟩ := herror _ _ hs
    obtain ⟨u', hu', hstate'⟩ := herror' _ _ ht
    rw [Step.run_of_error hu, Step.run_of_error hu', hstate, hstate', houtput]
  · have hrest : ∀ f, .failure f ∉ rest := fun f hf =>
      hfailure f (by rw [hdeliveries]; exact List.mem_append_right _ hf)
    obtain ⟨log, hlast⟩ := rows_rest (e := e) hrest hshape hends.1.monitor?_left
    obtain ⟨u, hu, hstate⟩ := hok _ (hs.trans hlast)
    obtain ⟨u', hu', hstate'⟩ := hok' _ ht
    rw [Step.run_of_ok hu, Step.run_of_ok hu', hstate, hstate']
    have hfinished (x : ExportState) (f : Monitor → Monitor) :
        (e.finished (x.tell f)).sink.output = (e.finished x).sink.output := by
      simp [finished, ExportState.tell]
    have hsame : (e.finished t'.state).sink.output = (e.finished s'.state).sink.output := by
      rw [finished, finished, Sink.output_asked, Sink.output_asked, Sink.output_addAll,
        Sink.output_addAll, hends.1.output_eq, hends.2]
    rw [hsame]
    cases rest.isEmpty with
    | false => exact hfinished _ _
    | true => rfl

end Exporter

/-- The export without its monitor; nobody can cancel it. -/
def ExportState.alone (s : ExportState) : ExportState :=
  { s with sink := { s.sink with monitor? := none } }

namespace Exporter

/-- An export that its source cancels writes exactly what an uncancelled export of the rows before
it writes, and counts these rows. If it was not cancelled, it has written all rows as if nobody
could cancel it. -/
theorem script_cancelled {σ τ : Type} (e : Exporter) {source : RowSource σ} {source' : RowSource τ}
    {columns : List ExportColumn} {found? : Option String} {deliveries : List Delivery}
    {m'? : Option Monitor} (s : Logged (Sourced σ)) (t : Logged (Sourced τ))
    (hsize : 1 ≤ e.rowsInStatement) (hfailure : ∀ f, .failure f ∉ deliveries)
    (hsource : e.Offers source s.state.2 columns found? deliveries)
    (hsource' : e.Offers source' t.state.2 columns found? ((Delivery.inTime deliveries).map .row))
    (hm' : Calm m'?) (happart : ExportState.Apart (some {}) m'? s.state.1 t.state.1) :
    ((e.script source).run s).2.state.1.sink.output
        = ((e.script source').run t).2.state.1.sink.output ∧
      ((∀ cells ∈ Delivery.inTime deliveries, (e.cellWriter (e.begun columns found?
          { log := s.log, state := s.state.1 }).state.renderer).RendersRow columns cells) →
        ∃ result u, e.script source s = .ok result u ∧
          result.rowCount = (Delivery.inTime deliveries).length ∧
          u.state.1.sink.monitor?.map (·.rowsDone) =
            some ((Delivery.inTime deliveries).length : Int) ∧
          result.statementCount
            = ((Delivery.inTime deliveries).length + e.rowsInStatement - 1) / e.rowsInStatement ∧
          (result.isCancelled = false →
            deliveries = (Delivery.inTime deliveries).map .row ∧
            u.state.1.sink.output = ((e.script source).run
              { s with state := (s.state.1.alone, s.state.2) }).2.state.1.sink.output)) := by
  refine ⟨output_script_apart (by exact ⟨rfl, rfl⟩) hm' hfailure hsource hsource' happart,
    fun hrows => ?_⟩
  obtain ⟨rest, hdeliveries, hshape⟩ := Delivery.exists_rest hfailure
  have hrest : ∀ f, .failure f ∉ rest := fun f hf =>
    hfailure f (by rw [hdeliveries]; exact List.mem_append_right _ hf)
  obtain ⟨begun, hbegun, -, hok⟩ := script_of_offers hsource
  have hmonitor : begun.state.sink.monitor? = some {} := by
    rw [hbegun]
    exact happart.1.monitor?_left
  have hsession : begun.state.session = e.openSession columns found? := by rw [hbegun]; rfl
  obtain ⟨s', hs, hcount, hdone⟩ := rows_ok (e := e) (Delivery.inTime deliveries) rest (s := begun)
    (by rw [hmonitor]; exact calm_fresh)
    (by rw [hsession, hbegun]; exact hrows)
  rw [hmonitor] at hdone
  rw [hsession] at hcount
  obtain ⟨log, hlast⟩ := rows_rest (e := e) hrest hshape hdone
  obtain ⟨u, hu, hstate⟩ := hok _ ((congrArg (e.rows · begun) hdeliveries).trans (hs.trans hlast))
  -- a cancellation after the rows in time changes the monitor and nothing else
  have hsame : ∀ x : ExportState, (x = s'.state ∨ x = s'.state.tell Monitor.cancel) →
      x.session.rowCount = (Delivery.inTime deliveries).length ∧
      x.session.statementCount
        = ((Delivery.inTime deliveries).length + e.rowsInStatement - 1) / e.rowsInStatement ∧
      (e.finished x).sink.monitor?.map (·.rowsDone)
        = some ((Delivery.inTime deliveries).length : Int) := by
    have hrowCount : s'.state.session.rowCount = (Delivery.inTime deliveries).length := by
      rw [hcount, rowCount_iterate]
      exact Nat.zero_add _
    have hzero : (e.openSession columns found?).rowCount = 0 := rfl
    have hstatements :=
      hcount ▸ statementCount_iterate hsize (Delivery.inTime deliveries).length hzero rfl
    rintro x (rfl | rfl)
    · exact ⟨hrowCount, hstatements, by simp [rowsDone_finished, hdone, Monitor.worked]⟩
    · exact ⟨hrowCount, hstatements, by
        simp [rowsDone_finished, ExportState.tell, hdone, Monitor.worked, Monitor.cancel]⟩
  rcases hshape with rfl | ⟨rest', rfl⟩
  · obtain ⟨hrowCount, hstatements, hrowsDone⟩ := hsame _ (.inl rfl)
    refine ⟨_, u, hu, hrowCount, hstate ▸ hrowsDone, hstatements, fun _ => ?_⟩
    rw [List.append_nil] at hdeliveries
    refine ⟨hdeliveries, ?_⟩
    have halone := output_script_apart (s := s)
      (t := { s with state := (s.state.1.alone, s.state.2) })
        (by exact ⟨rfl, rfl⟩) calm_none hfailure
      hsource (by rw [← hdeliveries]; exact hsource) ⟨⟨happart.1.monitor?_left, rfl⟩, rfl⟩
    rw [← halone, Step.run_of_ok hu]
  · obtain ⟨hrowCount, hstatements, hrowsDone⟩ := hsame _ (.inr rfl)
    refine ⟨_, u, hu, hrowCount, hstate ▸ hrowsDone, hstatements, fun hcancelled => ?_⟩
    simp [Sink.patience?, ExportState.tell, hdone, Monitor.cancel] at hcancelled

/-- Three rows in batches of two, cancelled while the third one is being fetched. -/
theorem script_cancelled_beforeThird :
    let e := Exporter.make (some .postgresql) { rowsInStatement := 2 } (.empty #[])
    let rows : List Row := [[.text "a"], [.null], [.text "c"]]
    let table : RowTable :=
      { columns := [{ column := { name := "id" } }], rows, name? := some "t", cancelAt? := some 2 }
    let shorter : RowTable := { table with rows := rows.take 2, cancelAt? := none }
    let begun : ExportState :=
      { renderer := .literals { dialect := .postgresql }, sink := { monitor? := some {} } }
    let s : Logged (Sourced Unit) := { log := {}, state := (begun, ()) }
    let t : Logged (Sourced Unit) := { log := {}, state := (begun.alone, ()) }
    1 ≤ e.rowsInStatement ∧ (∀ f, .failure f ∉ table.deliveries) ∧
      e.Offers table.source s.state.2 table.columns (some "t") table.deliveries ∧
      e.Offers shorter.source t.state.2 table.columns (some "t")
        ((Delivery.inTime table.deliveries).map .row) ∧
      Calm none ∧ ExportState.Apart (some {}) none s.state.1 t.state.1 ∧
      ((e.script table.source).run s).2.state.1.sink.output
        = ((e.script shorter.source).run t).2.state.1.sink.output ∧
      ∃ result u, e.script table.source s = .ok result u ∧ result.rowCount = 2 ∧
        u.state.1.sink.monitor?.map (·.rowsDone) = some 2 ∧
        result.statementCount = (2 + 2 - 1) / 2 := by
  intro e rows table shorter begun s t
  have hfailure : ∀ f, .failure f ∉ table.deliveries := by
    intro f hf
    simp [table, rows, RowTable.deliveries, RowTable.before] at hf
  have hsource : e.Offers table.source () table.columns (some "t") table.deliveries :=
    ⟨(), (), (), (), fun log => ⟨log, rfl⟩, fun log => ⟨log, rfl⟩, fun log => ⟨log, rfl⟩,
      fun log => ⟨log, rfl⟩⟩
  have hshorter : e.Offers shorter.source () table.columns (some "t")
      ((Delivery.inTime table.deliveries).map .row) :=
    ⟨(), (), (), (), fun log => ⟨log, rfl⟩, fun log => ⟨log, rfl⟩, fun log => ⟨log, rfl⟩,
      fun log => ⟨log, rfl⟩⟩
  have happart : ExportState.Apart (some {}) none s.state.1 t.state.1 := ⟨⟨rfl, rfl⟩, rfl⟩
  obtain ⟨houtput, hcounts⟩ :=
    script_cancelled e s t (by decide) hfailure hsource hshorter calm_none happart
  have hrows : ∀ cells ∈ Delivery.inTime table.deliveries,
      (e.cellWriter (e.begun table.columns (some "t")
        { log := s.log, state := s.state.1 }).state.renderer).RendersRow table.columns cells := by
    intro cells hcells cell hcell _
    have hinTime : Delivery.inTime table.deliveries = [[.text "a"], [.null]] := rfl
    rw [hinTime] at hcells
    simp only [List.mem_cons, List.not_mem_nil, or_false] at hcells
    rcases hcells with rfl | rfl
    · obtain rfl : cell = (_, .text "a") := by simpa [table] using hcell
      exact ⟨_, rfl⟩
    · obtain rfl : cell = (_, .null) := by simpa [table] using hcell
      trivial
  obtain ⟨result, u, hu, hrowCount, hdone, hstatements, -⟩ := hcounts hrows
  exact ⟨by decide, hfailure, hsource, hshorter, calm_none, happart, houtput, result,
    u, hu, hrowCount, hdone, hstatements⟩

end Exporter

end InsertScript
