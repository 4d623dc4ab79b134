import InsertScript.Proofs.Cancellation
import InsertScript.Proofs.Rows

/-!
# Releases over a whole export

Every cell that is dealt with releases the large object in it once, whether its column is left out,
the object is written, or writing it fails. But not every cell of a row is dealt with: a row ends at
the first value that cannot be rendered (`CellWriter.handled`), and the row that finds the work
cancelled is dropped. `Exporter.dealt` has all cells that are dealt with in the rows of an export,
and an object is released as often as it occurs in them (`Exporter.releaseCount_rows`). So an object
in a row is released exactly if the row comes to its cell (`Exporter.releaseCount_script`).
-/

namespace InsertScript

open Step (Keeps Same)

namespace CellWriter

variable {w : CellWriter} {column : ExportColumn} {value : Value} {s t : Logged Sink}

/-! ### Cells -/

theorem isOk_iff {outcome : Except Failure String} :
    outcome.isOk = true ↔ ∃ text, outcome = .ok text := by
  cases outcome with
  | ok text => exact ⟨fun _ => ⟨text, rfl⟩, fun _ => rfl⟩
  | error failure => exact ⟨nofun, nofun⟩

instance (column : ExportColumn) (value : Value) : Decidable (w.Renders column value) :=
  decidable_of_iff ((match value with
      | .null | .content _ | .path _ => true
      | value => (w.literal column value).2.isOk) = true) <| by
    cases value with
    | null | content | path => exact ⟨fun _ => trivial, fun _ => rfl⟩
    | _ => exact isOk_iff

theorem occurrences_append (content : Content) (cells cells' : List (ExportColumn × Value)) :
    occurrences content (cells ++ cells') = occurrences content cells +
      occurrences content cells' :=
  List.countP_append

/-- Does the row go on behind the cell? It does not if its value is to be written and cannot be. -/
def passes (w : CellWriter) (cell : ExportColumn × Value) : Bool :=
  w.skips cell.1 || decide (w.Renders cell.1 cell.2)

/-- The cells of a row that are dealt with, up to the first one that ends it. -/
def handled (w : CellWriter) (cells : List (ExportColumn × Value)) : List (ExportColumn × Value) :=
  cells.takeWhile w.passes

theorem handled_cons_of_pos {cell : ExportColumn × Value} (h : w.passes cell = true)
    (cells : List (ExportColumn × Value)) : w.handled (cell :: cells) = cell :: w.handled cells :=
  List.takeWhile_cons_of_pos h

theorem handled_cons_of_neg {cell : ExportColumn × Value} (h : ¬w.passes cell = true)
    (cells : List (ExportColumn × Value)) : w.handled (cell :: cells) = [] :=
  List.takeWhile_cons_of_neg h

/-- A cell is dealt with if no cell before it ends the row and it does not end it itself. -/
theorem handled_of_passes {cells : List (ExportColumn × Value)} {j : Nat} (hj : j < cells.length)
    (hbefore : ∀ cell ∈ cells.take j, w.passes cell = true) (hpasses : w.passes cells[j] = true) :
    w.handled cells = cells.take j ++ cells[j] :: w.handled (cells.drop (j + 1)) := by
  have hsplit : cells = cells.take j ++ cells[j] :: cells.drop (j + 1) := by
    rw [← List.drop_eq_getElem_cons hj, List.take_append_drop]
  rw [← handled_cons_of_pos hpasses]
  conv_lhs => rw [hsplit]
  exact List.takeWhile_append_of_pos hbefore

/-- What is dealt with ends before a cell that does not exist and behind one that ends the row. -/
theorem handled_sublist_take {cells : List (ExportColumn × Value)} {j : Nat}
    (h : cells.length ≤ j ∨ ∃ cell ∈ cells.take j, ¬w.passes cell = true) :
    (w.handled cells).Sublist (cells.take j) := by
  rcases h with hlength | ⟨cell, hcell, hends⟩
  · rw [List.take_of_length_le hlength]
    exact List.takeWhile_sublist _
  · have hstops : (w.handled (cells.take j)).length ≠ (cells.take j).length := by
      intro hall
      have hwhole := (List.takeWhile_prefix w.passes).eq_of_length hall
      rw [← hwhole] at hcell
      exact hends (List.all_eq_true.1 List.all_takeWhile cell hcell)
    have hhandled : w.handled cells = w.handled (cells.take j) := by
      conv_lhs => rw [handled, ← List.take_append_drop j cells, List.takeWhile_append]
      exact if_neg hstops
    rw [hhandled]
    exact List.takeWhile_sublist _

/-- A value that cannot be rendered ends the row and releases nothing. -/
theorem writeValue_refused (h : ¬w.Renders column value) (s : Logged Sink) :
    ∃ failure t, w.writeValue column value s = .error failure t ∧ t.state = s.state := by
  unfold Renders at h
  split at h
  · exact absurd trivial h
  · exact absurd trivial h
  · exact absurd trivial h
  · rename_i hnull hcontent hpath
    rcases hliteral : w.literal column value with ⟨remark?, outcome⟩
    rw [hliteral] at h
    cases outcome with
    | ok text => exact absurd ⟨text, rfl⟩ h
    | error failure =>
        refine ⟨failure, { s with log := remark?.toList.foldl Log.add s.log }, ?_, rfl⟩
        unfold writeValue
        split
        · exact absurd rfl hnull
        · exact absurd rfl (hcontent _)
        · exact absurd rfl (hpath _)
        · simp only [hliteral]
          rw [Step.bind_of_ok (Step.noteAll_apply remark? s),
            Step.bind_of_error (Step.ofExcept_error _ _)]

/-- Every object is released once for each cell that is dealt with and holds it, however the row
ends. -/
theorem releaseCount_writeCells (content : Content) (cells : List (ExportColumn × Value))
    (started : Bool) (s : Logged Sink) :
    content.releaseCount ((w.writeCells started cells).run s).2.state.releases
      = content.releaseCount s.state.releases + occurrences content (w.handled cells) := by
  induction cells generalizing started s with
  | nil => rfl
  | cons cell cells ih =>
      obtain ⟨column, value⟩ := cell
      -- a cell that does not end the row has released its object before the others begin
      have hcell {t : Logged Sink} (ht : t.state.releases = value.release s.state.releases)
          (started : Bool) (hpasses : w.passes (column, value) = true) :
          content.releaseCount ((w.writeCells started cells).run t).2.state.releases
            = content.releaseCount s.state.releases + occurrences content
              (w.handled ((column, value) :: cells)) := by
        have hone := releaseCount_releaseAll content [(column, value)] s.state.releases
        rw [ih, ht, handled_cons_of_pos hpasses, occurrences_cons, ← Nat.add_assoc, ← hone]
        rfl
      rw [writeCells_cons]
      by_cases hskip : w.skips column = true
      · rw [if_pos hskip, Step.run, Step.bind_of_ok (releaseSkipped_apply value s)]
        exact hcell rfl started (by simp [passes, hskip])
      · obtain ⟨s₁, hcomma, hreleases⟩ : ∃ s₁, comma started s = .ok () s₁ ∧
            s₁.state.releases = s.state.releases := by
          cases started <;> exact ⟨_, rfl, rfl⟩
        rw [if_neg hskip, Step.run, Step.bind_of_ok hcomma]
        by_cases hrenders : w.Renders column value
        · obtain ⟨s₂, hwrite, hleaves⟩ := writeValue_leaves hrenders s₁
          rw [Step.bind_of_ok hwrite]
          exact hcell (by rw [hleaves.releases, hreleases]) true (by simp [passes, hrenders])
        · obtain ⟨failure, s₂, hwrite, hstate⟩ := writeValue_refused hrenders s₁
          rw [Step.bind_of_error hwrite, handled_cons_of_neg (by simp [passes, hskip, hrenders]),
            hstate, hreleases]
          rfl

end CellWriter

/-! ### Rows -/

/-- Does none of the values hold the object? -/
def Lacks (values : List Value) (content : Content) : Prop :=
  ∀ other, .content other ∈ values → other.identity ≠ content.identity

theorem Lacks.occurrences {content : Content} {cells : List (ExportColumn × Value)}
    {values : List Value} (h : Lacks values content) (hcells : ∀ cell ∈ cells, cell.2 ∈ values) :
    CellWriter.occurrences content cells = 0 := by
  refine List.countP_eq_zero.2 fun cell hcell hholds => ?_
  have hvalue := hcells cell hcell
  obtain ⟨column, value⟩ := cell
  cases value with
  | content other => exact h other hvalue (by simpa using hholds)
  | _ => cases hholds

/-- Does a row hold the object in the cell at this position, and in no other cell? -/
structure HoldsOnce (cells : Row) (j : Nat) (content : Content) : Prop where
  cell : cells[j]? = some (.content content)
  others : Lacks (cells.eraseIdx j) content

namespace HoldsOnce

variable {w : CellWriter} {columns : List ExportColumn} {cells : Row} {content : Content} {j : Nat}

theorem occurrences_take (columns : List ExportColumn) (h : HoldsOnce cells j content) :
    CellWriter.occurrences content ((columns.zip cells).take j) = 0 := by
  refine h.others.occurrences fun cell hcell => ?_
  rw [List.zip, List.take_zipWith] at hcell
  rw [List.eraseIdx_eq_take_drop_succ]
  exact List.mem_append_left _ (List.of_mem_zip hcell).2

theorem occurrences_drop (columns : List ExportColumn) (h : HoldsOnce cells j content) :
    CellWriter.occurrences content ((columns.zip cells).drop (j + 1)) = 0 := by
  refine h.others.occurrences fun cell hcell => ?_
  rw [List.zip, List.drop_zipWith] at hcell
  rw [List.eraseIdx_eq_take_drop_succ]
  exact List.mem_append_right _ (List.of_mem_zip hcell).2

/-- The object occurs in what a row deals with if the row comes to its cell, -/
theorem occurrences_handled (h : HoldsOnce cells j content) (hcolumn : j < columns.length)
    (hbefore : ∀ cell ∈ (columns.zip cells).take j, w.passes cell = true) :
    CellWriter.occurrences content (w.handled (columns.zip cells)) = 1 := by
  have hj : j < cells.length := (List.getElem?_eq_some_iff.1 h.cell).1
  have hzip : j < (columns.zip cells).length := by
    rw [List.length_zip]
    omega
  have hcell : (columns.zip cells)[j] = (columns[j], .content content) := by
    rw [List.getElem_zip, (List.getElem?_eq_some_iff.1 h.cell).2]
  have hpasses : w.passes (columns[j], .content content) = true := by
    rw [CellWriter.passes, decide_eq_true (show w.Renders _ (.content content) from trivial),
      Bool.or_true]
  have hbehind :
      CellWriter.occurrences content (w.handled ((columns.zip cells).drop (j + 1))) = 0 :=
    Nat.eq_zero_of_le_zero (h.occurrences_drop columns ▸ (List.takeWhile_sublist _).countP_le)
  rw [CellWriter.handled_of_passes hzip hbefore (by rw [hcell]; exact hpasses), hcell]
  rw [CellWriter.occurrences_append, h.occurrences_take, CellWriter.occurrences_cons, hbehind]
  simp [CellWriter.occurrences]

/-- and otherwise not. -/
theorem occurrences_handled_of_not (h : HoldsOnce cells j content)
    (hends : columns.length ≤ j ∨ ∃ cell ∈ (columns.zip cells).take j, ¬w.passes cell = true) :
    CellWriter.occurrences content (w.handled (columns.zip cells)) = 0 := by
  have hsublist : (w.handled (columns.zip cells)).Sublist ((columns.zip cells).take j) :=
    CellWriter.handled_sublist_take (hends.imp_left fun hcolumn => by rw [List.length_zip]; omega)
  exact Nat.eq_zero_of_le_zero (h.occurrences_take columns ▸ hsublist.countP_le)

end HoldsOnce

namespace Exporter

variable {e : Exporter}

theorem writeAll_same (texts : List String) : Keeps (Same Sink.releases) (Sink.writeAll texts) := by
  intro s
  rw [Step.run_of_ok (Sink.writeAll_apply texts s)]
  exact Sink.releases_addAll s.state texts

theorem onSink_same {α : Type} {step : Step Sink α} (h : Keeps (Same Sink.releases) step) :
    Keeps (Same fun state : ExportState => state.sink.releases) (onSink step) :=
  h.zoom fun _ _ hsame => hsame

/-- The cells of a row that an export deals with. -/
def handled (e : Exporter) (state : ExportState) (cells : Row) : List (ExportColumn × Value) :=
  (e.cellWriter state.renderer).handled (state.session.columns.zip cells)

/-- However a row ends, what is dealt with in it is released. -/
theorem releaseCount_row (content : Content) (cells : Row) (s : Logged ExportState) :
    content.releaseCount ((e.row cells).run s).2.state.sink.releases
      = content.releaseCount s.state.sink.releases
        + CellWriter.occurrences content (e.handled s.state cells) := by
  let cellStep := onSink ((e.cellWriter s.state.renderer).writeRow s.state.session.columns cells)
  let t : Logged ExportState := { log := s.log, state :=
    { s.state with
      sink := s.state.sink.addAll (e.beforeRow s.state.session)
      session := e.countRow s.state.session } }
  have hbegin : e.row cells s = (cellStep >>= fun _ => onSink (Sink.writeAll e.afterRow)) t := by
    rw [row, Step.bind_of_ok (Step.current_apply s),
      Step.bind_of_ok (onSink_ok (Sink.writeAll_apply _ _)),
      Step.bind_of_ok (Step.change_apply _ _)]
  have hends :
      ((cellStep >>= fun _ => onSink (Sink.writeAll e.afterRow)).run t).2.state.sink.releases
      = (cellStep.run t).2.state.sink.releases :=
    Keeps.after_bind (fun _ : Unit => onSink_same (writeAll_same e.afterRow)) cellStep t
  have hsink : (cellStep.run t).2.state.sink =
      (((e.cellWriter s.state.renderer).writeRow s.state.session.columns
      cells).run { log := s.log, state := t.state.sink }).2.state :=
    congrArg ExportState.sink (Step.state_run_zoom _ _ _ t)
  -- what stands before the cells releases nothing, and neither does what stands behind them
  have hbefore : t.state.sink.releases = s.state.sink.releases := Sink.releases_addAll _ _
  rw [Step.run, hbegin, ← Step.run, hends, hsink, ← hbefore]
  exact CellWriter.releaseCount_writeCells content (s.state.session.columns.zip cells) false _

/-- A row that finds the work cancelled is dropped. -/
theorem takeRow_impatient {s : Logged ExportState}
    (h : s.state.sink.patience? = some 0) (cells : Row) :
    ∃ t, e.takeRow cells s = .ok false t ∧ t.state.sink.releases = s.state.sink.releases := by
  have henquire := onSink_ok (Sink.enquire_apply { log := s.log, state := s.state.sink })
  simp only [h, decide_true] at henquire
  rw [takeRow, Step.bind_of_ok henquire]
  exact ⟨_, rfl, rfl⟩

/-- Any other row is written, and the rows go on if that succeeds. -/
theorem takeRow_patient {s : Logged ExportState}
    (h : s.state.sink.patience? ≠ some 0) (cells : Row) :
    e.takeRow cells s = (e.row cells >>= fun _ => onSink (Sink.changeMonitor (·.worked 1)) >>=
      fun _ => pure true) { s with state := { s.state with sink := s.state.sink.asked } } := by
  have henquire := onSink_ok (Sink.enquire_apply { log := s.log, state := s.state.sink })
  simp only [h, decide_false] at henquire
  rw [takeRow, Step.bind_of_ok henquire]
  rfl

theorem eq_true_of_takeRow {s t : Logged ExportState} {cells : Row} {goesOn : Bool}
    (h : s.state.sink.patience? ≠ some 0) (htake : e.takeRow cells s = .ok goesOn t) :
    goesOn = true := by
  rw [takeRow_patient h cells] at htake
  obtain ⟨-, s₁, -, hworked⟩ := Step.ok_of_bind htake
  obtain ⟨-, s₂, -, hpure⟩ := Step.ok_of_bind hworked
  cases hpure
  rfl

/-- Taking a row releases an object as often as the row deals with it, unless the work is cancelled.
-/
theorem releaseCount_takeRow {s : Logged ExportState} (h : s.state.sink.patience? ≠ some 0)
    (content : Content) (cells : Row) :
    content.releaseCount ((e.takeRow cells).run s).2.state.sink.releases
      = content.releaseCount s.state.sink.releases + CellWriter.occurrences content
        (e.handled s.state cells) := by
  let t : Logged ExportState := { s with state := { s.state with sink := s.state.sink.asked } }
  have hworked : Keeps (Same fun state : ExportState => state.sink.releases)
      (onSink (Sink.changeMonitor (·.worked 1)) >>= fun _ => pure true) :=
    (onSink_same (Keeps.change fun _ => rfl)).bind fun _ => Keeps.pure true
  have hrow : content.releaseCount ((e.row cells).run t).2.state.sink.releases
      = content.releaseCount s.state.sink.releases + CellWriter.occurrences content
        (e.handled s.state cells) :=
    releaseCount_row content cells t
  rw [Step.run, takeRow_patient h cells, ← hrow]
  exact congrArg content.releaseCount (Keeps.after_bind (fun _ : Unit => hworked) (e.row cells) t)

/-! ### Deliveries -/

/-- The cells that an export deals with in what is delivered. -/
def dealt (e : Exporter) : List Delivery → Logged ExportState → List (ExportColumn × Value)
  | [], _ => []
  | .cancellation :: rest, s => dealt e rest { s with state := s.state.tell Monitor.cancel }
  | .failure _ :: _, _ => []
  | .row cells :: rest, s =>
      if s.state.sink.patience? = some 0 then []
      else e.handled s.state cells ++
        match e.takeRow cells s with
        | .ok _ t => dealt e rest t
        | .error _ _ => []

/-- An export releases an object as often as it occurs in the cells that it deals with. -/
theorem releaseCount_rows (content : Content) (deliveries : List Delivery)
    (s : Logged ExportState) :
    content.releaseCount ((e.rows deliveries).run s).2.state.sink.releases
      = content.releaseCount s.state.sink.releases + CellWriter.occurrences content
        (e.dealt deliveries s) := by
  induction deliveries generalizing s with
  | nil => rfl
  | cons delivery rest ih =>
      cases delivery with
      | failure f => rfl
      | cancellation =>
          rw [rows, Step.run, Step.bind_of_ok (tell_ok _ s)]
          exact ih _
      | row cells =>
          rw [rows, dealt]
          by_cases hpatience : s.state.sink.patience? = some 0
          · obtain ⟨t, htake, hreleases⟩ := takeRow_impatient (e := e) hpatience cells
            rw [if_pos hpatience, Step.run, Step.bind_of_ok htake]
            exact congrArg content.releaseCount hreleases
          · have hrow := releaseCount_takeRow (e := e) hpatience content cells
            rw [if_neg hpatience, CellWriter.occurrences_append, ← Nat.add_assoc, ← hrow]
            cases htake : e.takeRow cells s with
            | error failure t =>
                rw [Step.run_of_error htake, Step.run, Step.bind_of_error htake]
                rfl
            | ok goesOn t =>
                obtain rfl := eq_true_of_takeRow hpatience htake
                rw [Step.run_of_ok htake, Step.run, Step.bind_of_ok htake]
                exact ih t

/-! ### Whole exports -/

/-- Does an export begin by taking these deliveries from its source? -/
def Begins {σ : Type} (e : Exporter) (source : RowSource σ) (s : Logged (Sourced σ))
    (deliveries : List Delivery) (u : Logged (Sourced σ)) : Prop :=
  (e.prepare source >>= fun _ => onSource source.start) s = .ok deliveries u

/-- Does an export take all of these deliveries and then go on? -/
inductive Takes (e : Exporter) : List Delivery → Logged ExportState →
    Logged ExportState → Prop where
  | nil (s : Logged ExportState) : Takes e [] s s
  | row {cells : Row} {rest : List Delivery} {s t u : Logged ExportState}
      (htake : e.takeRow cells s = .ok true t)
      (hrest : Takes e rest t u) : Takes e (.row cells :: rest) s u
  | cancellation {rest : List Delivery} {s u : Logged ExportState}
      (hrest : Takes e rest { s with state := s.state.tell Monitor.cancel } u) :
      Takes e (.cancellation :: rest) s u

theorem Takes.rows_append {before : List Delivery} {s t : Logged ExportState}
    (h : e.Takes before s t) (after : List Delivery) :
    e.rows (before ++ after) s = e.rows after t := by
  induction h with
  | nil => rfl
  | row htake _ ih =>
      rw [List.cons_append, rows, Step.bind_of_ok htake]
      exact ih
  | cancellation _ ih =>
      rw [List.cons_append, rows, Step.bind_of_ok (tell_ok _ _)]
      exact ih

variable {σ : Type} {source : RowSource σ} {s u : Logged (Sourced σ)} {deliveries : List Delivery}

theorem finish_same (tableName : String) :
    Keeps (Same fun state : Sourced σ => state.1.sink.releases) (e.finish tableName) := by
  intro s
  obtain ⟨log, hfinish⟩ := finish_ok (e := e) tableName s
  rw [Step.run_of_ok hfinish]
  exact Sink.releases_addAll s.state.1.sink (e.closing s.state.1.session.rowCount)

theorem onSource_same {α : Type} (step : Step σ α) :
    Keeps (Same fun state : Sourced σ => state.1.sink.releases) (onSource step) :=
  Keeps.zoom (r := fun _ _ => True) (fun _ => trivial) fun _ _ _ => rfl

/-- Nothing is released behind the rows. -/
theorem releases_script (h : e.Begins source s deliveries u) :
    ((e.script source).run s).2.state.1.sink.releases
      = ((e.rows deliveries).run { log := u.log, state := u.state.1 }).2.state.sink.releases := by
  obtain ⟨tableName, s₁, hprepare, hstart⟩ := Step.ok_of_bind h
  have hrowsOf : e.rowsOf source s₁ = Step.ensuring (onExport (e.rows deliveries))
      (onSource source.stop) u := by
    rw [rowsOf, Step.bind_of_ok hstart]
  have hfinish : ((e.script source).run s).2.state.1.sink.releases
      = ((e.rowsOf source).run s₁).2.state.1.sink.releases := by
    rw [script_eq, Step.run, Step.bind_of_ok hprepare]
    exact Keeps.after_bind (fun _ => finish_same tableName) (e.rowsOf source) s₁
  have hstop := Keeps.after_ensuring (onSource_same source.stop) (onExport (e.rows deliveries)) u
  rw [hfinish, Step.run, hrowsOf]
  refine hstop.trans ?_
  rw [onExport, Step.state_run_zoom]

/-- Does a row come to one of its cells? It has to find the work not cancelled, there has to be a
column for the cell, and no cell before it may end the row. -/
structure Reaches (e : Exporter) (state : ExportState) (cells : Row) (j : Nat) : Prop where
  patient : state.sink.patience? ≠ some 0
  column : j < state.session.columns.length
  passes : ∀ cell ∈ (state.session.columns.zip cells).take j,
    (e.cellWriter state.renderer).passes cell = true

/-- What is dealt with was delivered. -/
theorem occurrences_dealt_eq_zero {deliveries : List Delivery} {content : Content}
    (h : ∀ row, .row row ∈ deliveries → Lacks row content) (s : Logged ExportState) :
    CellWriter.occurrences content (e.dealt deliveries s) = 0 := by
  induction deliveries generalizing s with
  | nil => rfl
  | cons delivery rest ih =>
      have hrest := ih fun row hrow => h row (List.mem_cons_of_mem _ hrow)
      cases delivery with
      | failure f => rfl
      | cancellation => exact hrest _
      | row cells =>
          have hhandled : CellWriter.occurrences content (e.handled s.state cells) = 0 :=
            (h cells List.mem_cons_self).occurrences fun cell hcell =>
              (List.of_mem_zip ((List.takeWhile_sublist _).subset hcell)).2
          rw [dealt]
          split
          · rfl
          · rw [CellWriter.occurrences_append, hhandled, Nat.zero_add]
            split
            · exact hrest _
            · rfl

/-- A row that comes to the cell of an object deals with the object once, and any other row does
not. -/
theorem occurrences_dealt {cells : Row} {after : List Delivery} {t : Logged ExportState}
    {content : Content} {j : Nat} (honce : HoldsOnce cells j content)
    (hafter : ∀ row, .row row ∈ after → Lacks row content) :
    (e.Reaches t.state cells j →
        CellWriter.occurrences content (e.dealt (.row cells :: after) t) = 1) ∧
      (¬e.Reaches t.state cells j →
        CellWriter.occurrences content (e.dealt (.row cells :: after) t) = 0) := by
  have hlater : CellWriter.occurrences content
      (match e.takeRow cells t with
        | .ok _ u => e.dealt after u
        | .error _ _ => []) = 0 := by
    split
    · exact occurrences_dealt_eq_zero hafter _
    · rfl
  have hrow (hpatient : t.state.sink.patience? ≠ some 0) :
      CellWriter.occurrences content (e.dealt (.row cells :: after) t)
        = CellWriter.occurrences content (e.handled t.state cells) := by
    rw [dealt, if_neg hpatient, CellWriter.occurrences_append, hlater, Nat.add_zero]
  refine ⟨fun hreaches => ?_, fun hreaches => ?_⟩
  · rw [hrow hreaches.patient]
    exact honce.occurrences_handled hreaches.column hreaches.passes
  · by_cases hpatient : t.state.sink.patience? = some 0
    · rw [dealt, if_pos hpatient]
      rfl
    · rw [hrow hpatient]
      refine honce.occurrences_handled_of_not ?_
      by_contra hends
      obtain ⟨hcolumn, hpasses⟩ := not_or.1 hends
      refine hreaches ⟨hpatient, Nat.lt_of_not_le hcolumn, fun cell hcell => ?_⟩
      by_contra hcellEnds
      exact hpasses ⟨cell, hcell, hcellEnds⟩

/-- A large object that occurs once in a row is released once if the row comes to its cell, and
otherwise never. -/
theorem releaseCount_script (e : Exporter) (source : RowSource σ) {s u : Logged (Sourced σ)}
    {before after : List Delivery} {cells : Row} {t : Logged ExportState}
    {content : Content} {j : Nat} (hbegins : e.Begins source s (before ++ .row cells :: after) u)
    (htakes : e.Takes before { log := u.log, state := u.state.1 } t)
    (honce : HoldsOnce cells j content) (hafter : ∀ row, .row row ∈ after → Lacks row content) :
    (content.releaseCount ((e.script source).run s).2.state.1.sink.releases
        = content.releaseCount t.state.sink.releases + 1 ↔ e.Reaches t.state cells j) ∧
      (¬e.Reaches t.state cells j → content.releaseCount
        ((e.script source).run s).2.state.1.sink.releases
        = content.releaseCount t.state.sink.releases) := by
  have hcount : content.releaseCount ((e.script source).run s).2.state.1.sink.releases
      = content.releaseCount t.state.sink.releases
        + CellWriter.occurrences content (e.dealt (.row cells :: after) t) := by
    rw [releases_script hbegins, Step.run, htakes.rows_append, ← Step.run, releaseCount_rows]
  obtain ⟨hreached, hmissed⟩ := occurrences_dealt (e := e) (t := t) honce hafter
  rw [hcount]
  refine ⟨⟨fun h => ?_, fun h => by rw [hreached h]⟩, fun h => by rw [hmissed h, Nat.add_zero]⟩
  by_contra hnot
  rw [hmissed hnot] at h
  omega

/-- A row whose second cell cannot be rendered. The object before it is released, and the one behind
it is not. -/
theorem releaseCount_script_refused :
    let refusing : Handler := { toSql := fun _ _ _ => .error .cancelled }
    let e := Exporter.make (some .generic) {} (.empty #[])
    let object (identity : Nat) : Content := { identity, isText := true, payload := .text "O'Re" }
    let cells : Row := [.content (object 0), .bool true, .content (object 1)]
    let table : RowTable :=
      { columns := [{ column := { name := "doc" } },
          { column := { name := "flag" }, handler? := some refusing },
          { column := { name := "note" } }]
        rows := [cells], name? := some "t" }
    let begun : ExportState := { renderer := .literals {}, sink := { monitor? := some {} } }
    let s : Logged (Sourced Unit) := { log := {}, state := (begun, ()) }
    ∃ u t, e.Begins table.source s [.row cells] u ∧
      e.Takes [] { log := u.log, state := u.state.1 } t ∧
      HoldsOnce cells 0 (object 0) ∧ HoldsOnce cells 2 (object 1) ∧
      (object 0).releaseCount ((e.script table.source).run s).2.state.1.sink.releases
        = (object 0).releaseCount t.state.sink.releases + 1 ∧
      (object 1).releaseCount ((e.script table.source).run s).2.state.1.sink.releases
        = (object 1).releaseCount t.state.sink.releases := by
  intro refusing e object cells table begun s
  have hfirst : HoldsOnce cells 0 (object 0) := ⟨rfl, by simp [Lacks, cells, object]⟩
  have hthird : HoldsOnce cells 2 (object 1) := ⟨rfl, by simp [Lacks, cells, object]⟩
  have hbegins : e.Begins table.source s ([] ++ .row cells :: []) _ := rfl
  refine ⟨_, _, hbegins, .nil _, hfirst, hthird, ?_, ?_⟩
  · have hreleased := releaseCount_script e table.source hbegins (.nil _) hfirst nofun
    exact hreleased.1.2 ⟨by decide, by decide, nofun⟩
  · have hmissed := releaseCount_script e table.source hbegins (.nil _) hthird nofun
    refine hmissed.2 fun hreaches => ?_
    have hpasses := hreaches.passes _ (List.mem_cons_of_mem _ List.mem_cons_self)
    revert hpasses
    decide

/-- The work is cancelled before the only row, whose object is not released. -/
theorem not_released_cancelled :
    let e := Exporter.make (some .generic) {} (.empty #[])
    let content : Content := { identity := 0, isText := true, payload := .text "x" }
    let table : RowTable :=
      { columns := [{ column := { name := "a" } }], rows := [[.content content]], name? := none,
        cancelAt? := some 0 }
    let begun : ExportState := { renderer := .literals {}, sink := { monitor? := some {} } }
    let s : Logged (Sourced Unit) := { log := {}, state := (begun, ()) }
    ∃ u t, e.Begins table.source s ([.cancellation] ++ [.row [.content content]]) u ∧
      e.Takes [.cancellation] { log := u.log, state := u.state.1 } t ∧
      HoldsOnce [.content content] 0 content ∧
      content.releaseCount ((e.script table.source).run s).2.state.1.sink.releases
        ≠ content.releaseCount t.state.sink.releases + 1 := by
  intro e content table begun s
  exact ⟨_, _, rfl, .cancellation (.nil _), ⟨rfl, nofun⟩, by decide⟩

end Exporter

end InsertScript
