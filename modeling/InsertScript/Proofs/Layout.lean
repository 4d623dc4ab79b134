import Mathlib.Logic.Function.Iterate
import InsertScript.Export.Statement
import InsertScript.Proofs.Writing

/-!
# The layout of a script

Rows are written as they come, and the end of a statement is left to whoever comes next: the row
that begins another statement, or the footer. `Exporter.layout` says what stands there in the end,
from the texts of the cells of all rows: statement after statement, in one of three layouts
(`statements`).

`output_writeScript` is the equality of the two. Its invariant is that the text so far is a script
without the end of its last statement (`openStatement`); `streamed_append_closing` carries it along
the batches.
-/

namespace InsertScript.Exporter

variable (e : Exporter)

/-! ### The layout -/

/-- The keywords, the table and the columns in front of a row. -/
def opening (session : Session) (startsBatch : Bool) : String :=
  e.variant.opening e.settings.keywordCase startsBatch ++
    " " ++ e.tableIdentifier session ++ " (" ++ session.columnList ++ ") " ++
    Variant.valuesKeyword e.settings.keywordCase

/-- The statement of a single row. -/
def singleStatement (session : Session) (value : String) : String :=
  e.opening session true ++ " (" ++ value ++ ")" ++ e.conflictClause ++ ";"

/-- The rows of a statement, on lines of their own or all on one line. -/
def groupedRows (batch : List String) : String :=
  if e.settings.lineBeforeRows then
    e.settings.lineSeparator ++
      ("," ++ e.settings.lineSeparator).intercalate (batch.map fun value => "\t(" ++ value ++ ")")
  else " " ++ ",".intercalate (batch.map fun value => "(" ++ value ++ ")")

/-- The statement of several rows. -/
def groupedStatement (session : Session) (batch : List String) : String :=
  e.opening session true ++ e.groupedRows batch ++ e.conflictClause ++ ";"

/-- A row of an `INSERT ALL` with the table it goes to. -/
def clause (session : Session) (startsBatch : Bool) (value : String) : String :=
  e.opening session startsBatch ++ " (" ++ value ++ ")"

/-- The rows of an `INSERT ALL`, of which the first one has its keywords. -/
def clauses (session : Session) : List String → List String
  | [] => []
  | value :: rest => e.clause session true value :: rest.map (e.clause session false)

/-- The `INSERT ALL` of several rows. -/
def multiTableStatement (session : Session) (batch : List String) : String :=
  e.rowBreak.intercalate (e.clauses session batch) ++
    e.settings.lineSeparator ++ e.closingSelect ++ ";"

/-- The statements of a script. -/
def statements (session : Session) (values : List String) : List String :=
  if e.variant.isMultiTable then
    (pieces e.rowsInStatement values).map (e.multiTableStatement session)
  else if e.rowsInStatement = 1 then values.map (e.singleStatement session)
  else (pieces e.rowsInStatement values).map (e.groupedStatement session)

/-- The script of rows whose cells have these texts. -/
def layout (session : Session) (values : List String) : String :=
  if values = [] then ""
  else e.rowBreak.intercalate (e.statements session values) ++ e.settings.lineSeparator

/-! ### Texts that are written row by row -/

/-- What is written for a row. -/
def rowText (session : Session) (value : String) : String :=
  String.join (e.beforeRow session) ++ value ++ String.join e.afterRow

/-- What is written for several rows. -/
def streamed (session : Session) : List String → String
  | [] => ""
  | value :: rest => e.rowText session value ++ streamed (e.countRow session) rest

/-- What ends a statement when the next one begins or the script ends. -/
def ending : String :=
  if e.variant.isMultiTable then e.settings.lineSeparator ++ e.closingSelect ++ ";"
  else if e.rowsInStatement = 1 then "" else e.conflictClause ++ ";"

/-- A statement without its end. -/
def openStatement (session : Session) (batch : List String) : String :=
  if e.variant.isMultiTable then e.rowBreak.intercalate (e.clauses session batch)
  else if e.rowsInStatement = 1 then String.join (batch.map (e.singleStatement session))
  else e.opening session true ++ e.groupedRows batch

/-- What is written for a row that does not begin a statement or a batch. -/
def laterRow (session : Session) (value : String) : String :=
  if e.variant.isMultiTable then e.rowBreak ++ e.clause session false value
  else "," ++ e.rowBreak ++ (if e.settings.lineBeforeRows then "\t(" else "(") ++ value ++ ")"

/-- What stands in front of a statement: the end of the one before, if there is one, and a line
break. -/
def lead (rowCount : Nat) : String := if rowCount = 0 then "" else e.ending ++ e.rowBreak

variable {e} {session : Session}

/-- Texts with something between them are the first one and the others with it in front. -/
theorem intercalate_cons_eq_join (separator text : String) (rest : List String) :
    separator.intercalate (text :: rest)
      = text ++ String.join (rest.map fun next => separator ++ next) := by
  induction rest generalizing text with
  | nil => simp
  | cons next rest ih =>
      rw [String.intercalate_cons_cons, ih, List.map_cons, String.join_cons]
      simp only [String.append_assoc]

theorem startsBatch_iff {rowCount : Nat} :
    e.startsBatch rowCount = true ↔ e.rowsInStatement ∣ rowCount := by
  rw [startsBatch, beq_iff_eq, Nat.dvd_iff_mod_eq_zero]

/-- With single rows every row begins a batch. -/
theorem startsBatch_of_single (h : e.rowsInStatement = 1) (rowCount : Nat) :
    e.startsBatch rowCount = true := by
  rw [startsBatch_iff, h]
  exact Nat.one_dvd rowCount

theorem endPrevious_of_startsBatch {rowCount : Nat} (h : e.startsBatch rowCount = true) :
    e.endPrevious rowCount = e.lead rowCount := by
  unfold endPrevious lead ending
  by_cases hzero : rowCount = 0
  · rw [if_pos hzero, if_pos hzero]
  · rw [if_neg hzero, if_neg hzero]
    by_cases hmulti : e.variant.isMultiTable = true
    · simp [hmulti, h]
    · by_cases hone : e.rowsInStatement = 1 <;> simp [writesSingleRows, hmulti, hone]

/-- The row that begins a batch opens a statement. -/
theorem rowText_of_startsBatch (h : e.startsBatch session.rowCount = true) (value : String) :
    e.rowText session value = e.lead session.rowCount ++ e.openStatement session [value] := by
  have hprevious := endPrevious_of_startsBatch h
  have hpreamble : e.preamble session = e.opening session true := by rw [preamble, h]; rfl
  have hbegin : e.beginRow session.rowCount = .startStatement := by simp [beginRow, h]
  unfold rowText beforeRow afterRow openStatement
  rw [hbegin, hprevious, hpreamble]
  by_cases hmulti : e.variant.isMultiTable = true
  · simp [hmulti, writesSingleRows, clauses, clause, String.append_assoc]
  · by_cases hone : e.rowsInStatement = 1
    · simp [hmulti, hone, writesSingleRows, singleStatement, String.append_assoc]
    · by_cases hline : e.settings.lineBeforeRows = true <;>
        simp [hmulti, hone, hline, writesSingleRows, groupedRows, rowBreak, String.append_assoc,
          ← show " " ++ "(" = " (" from rfl, -String.reduceAppend]

/-- Any other row continues it. -/
theorem rowText_of_not_startsBatch (h : ¬ e.startsBatch session.rowCount = true) (value : String) :
    e.rowText session value = e.laterRow session value := by
  have hone : e.rowsInStatement ≠ 1 := fun hone => h (startsBatch_of_single hone _)
  have hpos : session.rowCount ≠ 0 :=
    fun hzero => h (by rw [startsBatch_iff, hzero]; exact Nat.dvd_zero _)
  have hpreamble : e.preamble session = e.opening session false := by
    rw [preamble, Bool.eq_false_iff.2 h]; rfl
  unfold rowText beforeRow afterRow laterRow
  by_cases hmulti : e.variant.isMultiTable = true
  · rw [show e.beginRow session.rowCount = .startStatement by simp [beginRow, hmulti], hpreamble]
    simp [hmulti, h, hpos, writesSingleRows, clause, endPrevious, String.append_assoc]
  · rw [show e.beginRow session.rowCount = .continueBatch by
      simp [beginRow, hmulti, h, hone, writesSingleRows]]
    simp [hone, hmulti, writesSingleRows, String.append_assoc]

/-- An open statement grows row by row. -/
theorem openStatement_cons (value : String) (rest : List String)
    (h : rest = [] ∨ e.rowsInStatement ≠ 1) :
    e.openStatement session (value :: rest)
      = e.openStatement session [value] ++ String.join (rest.map (e.laterRow session)) := by
  rcases h with rfl | hone
  · simp
  · unfold openStatement laterRow
    by_cases hmulti : e.variant.isMultiTable = true
    · simp only [hmulti, if_true, clauses, List.map_nil, String.intercalate_singleton]
      rw [intercalate_cons_eq_join, List.map_map]
      rfl
    · simp only [hmulti, hone, if_false, Bool.false_eq_true, groupedRows, rowBreak]
      by_cases hline : e.settings.lineBeforeRows = true
      · simp only [hline, if_true, List.map_cons, List.map_nil, String.intercalate_singleton]
        rw [intercalate_cons_eq_join, List.map_map]
        simp [Function.comp_def, String.append_assoc]
      · simp only [hline, if_false, Bool.false_eq_true, List.map_cons, List.map_nil,
          String.intercalate_singleton]
        rw [intercalate_cons_eq_join, List.map_map]
        simp [Function.comp_def, String.append_assoc, -String.reduceAppend]

/-! ### From rows to statements -/

@[simp] theorem rowCount_iterate (n : Nat) :
    (e.countRow^[n] session).rowCount = session.rowCount + n := by
  induction n generalizing session with
  | zero => rfl
  | succ n ih => rw [Function.iterate_succ_apply, ih]; simp only [countRow]; omega

/-- A statement begins with every batch. -/
theorem statementCount_iterate (hsize : 1 ≤ e.rowsInStatement) (n : Nat)
    (hrows : session.rowCount = 0) (hstatements : session.statementCount = 0) :
    (e.countRow^[n] session).statementCount = (n + e.rowsInStatement - 1) / e.rowsInStatement := by
  induction n with
  | zero =>
      rw [Nat.div_eq_of_lt (by omega)]
      exact hstatements
  | succ n ih =>
      have hcount : (e.countRow^[n] session).rowCount = n := by
        rw [rowCount_iterate, hrows, Nat.zero_add]
      have hnext : n + 1 + e.rowsInStatement - 1 = n + e.rowsInStatement - 1 + 1 := by omega
      have hlast : n + e.rowsInStatement - 1 + 1 = n + e.rowsInStatement := by omega
      rw [Function.iterate_succ_apply', hnext, Nat.succ_div, hlast, ← ih, countRow, hcount]
      -- both sides grow at the multiples of the number of rows in a statement
      by_cases hstarts : e.startsBatch n = true
      · rw [if_pos (Nat.dvd_add (startsBatch_iff.1 hstarts) (Nat.dvd_refl _)), hstarts]
        rfl
      · rw [if_neg (mt (Nat.dvd_add_left (Nat.dvd_refl _)).1 (mt startsBatch_iff.2 hstarts)),
          Bool.eq_false_iff.2 hstarts]
        rfl

/-- Rows that have been counted change nothing about later statements. -/
theorem openStatement_iterate (n : Nat) :
    e.openStatement (e.countRow^[n] session) = e.openStatement session := by
  induction n generalizing session with
  | zero => rfl
  | succ n ih => rw [Function.iterate_succ_apply, ih]; rfl

theorem streamed_append (first second : List String) :
    e.streamed session (first ++ second)
      = e.streamed session first ++ e.streamed (e.countRow^[first.length] session) second := by
  induction first generalizing session with
  | nil => simp [streamed]
  | cons value first ih =>
      simp only [List.cons_append, streamed, ih, List.length_cons, Function.iterate_succ_apply,
        String.append_assoc]

/-- Rows within a batch continue its statement. -/
theorem streamed_within (values : List String)
    (h : ∀ j < values.length, ¬ e.startsBatch (session.rowCount + j) = true) :
    e.streamed session values = String.join (values.map (e.laterRow session)) := by
  induction values generalizing session with
  | nil => rfl
  | cons value values ih =>
      have hvalue := h 0 (by simp)
      have hrest : ∀ j < values.length, ¬ e.startsBatch ((e.countRow session).rowCount + j) =
          true := by
        intro j hj
        have := h (j + 1) (by simpa using hj)
        rwa [show session.rowCount + (j + 1) = (e.countRow session).rowCount + j by
          simp only [countRow]; omega] at this
      rw [streamed, rowText_of_not_startsBatch hvalue, ih hrest, List.map_cons, String.join_cons]
      rfl

/-- The rows of a batch are a statement without its end. -/
theorem streamed_batch {value : String} {rest : List String}
    (h : e.startsBatch session.rowCount = true) (hlength : rest.length < e.rowsInStatement) :
    e.streamed session (value :: rest)
      = e.lead session.rowCount ++ e.openStatement session (value :: rest) := by
  have hdvd := startsBatch_iff.1 h
  have hwithin : ∀ j < rest.length, ¬ e.startsBatch ((e.countRow session).rowCount + j) = true := by
    intro j hj hstarts
    rw [startsBatch_iff, show (e.countRow session).rowCount + j = session.rowCount + (j + 1) by
      simp only [countRow]; omega] at hstarts
    have := Nat.le_of_dvd (by omega) ((Nat.dvd_add_right hdvd).1 hstarts)
    omega
  -- a batch of single rows has no further ones
  have hone : rest = [] ∨ e.rowsInStatement ≠ 1 := by
    rcases rest with _ | ⟨next, rest⟩
    · exact .inl rfl
    · simp only [List.length_cons] at hlength
      exact .inr (by omega)
  rw [streamed, rowText_of_startsBatch h, streamed_within rest hwithin,
    openStatement_cons value rest hone, String.append_assoc]
  rfl

/-- All rows, with the end of the last statement, are statements with a break between them. -/
theorem streamed_append_ending (hsize : 1 ≤ e.rowsInStatement) {values : List String}
    (hvalues : values ≠ []) (h : e.startsBatch session.rowCount = true) :
    e.streamed session values ++ e.ending
      = e.lead session.rowCount ++ e.rowBreak.intercalate
          ((pieces e.rowsInStatement values).map fun batch =>
            e.openStatement session batch ++ e.ending) := by
  -- along the batches: what ends one of them stands in front of the next one
  fun_induction pieces e.rowsInStatement values generalizing session with
  | case1 => exact absurd rfl hvalues
  | case2 value rest ih =>
      have hsplit : value :: rest
          = (value :: rest.take (e.rowsInStatement - 1)) ++ rest.drop (e.rowsInStatement - 1) := by
        rw [List.cons_append, List.take_append_drop]
      have htake : (rest.take (e.rowsInStatement - 1)).length < e.rowsInStatement := by
        rw [List.length_take]; omega
      rw [hsplit, streamed_append, streamed_batch h htake, List.map_cons]
      by_cases hdrop : rest.drop (e.rowsInStatement - 1) = []
      · rw [hdrop, pieces]
        simp [streamed, String.append_assoc]
      · -- more rows follow, so the batch is full and the next row begins another one
        have hfull : (value :: rest.take (e.rowsInStatement - 1)).length = e.rowsInStatement := by
          have := mt List.drop_eq_nil_of_le hdrop
          rw [List.length_cons, List.length_take]
          omega
        have hnext : e.startsBatch
            (e.countRow^[(value :: rest.take (e.rowsInStatement - 1)).length] session).rowCount
              = true := by
          rw [rowCount_iterate, hfull, startsBatch_iff]
          exact Nat.dvd_add (startsBatch_iff.1 h) (Nat.dvd_refl _)
        have hlead : e.lead
            (e.countRow^[(value :: rest.take (e.rowsInStatement - 1)).length] session).rowCount
              = e.ending ++ e.rowBreak := by
          rw [rowCount_iterate, hfull, lead, if_neg (by omega)]
        have hpieces : pieces e.rowsInStatement (rest.drop (e.rowsInStatement - 1)) ≠ [] := by
          intro hnil
          have := flatten_pieces e.rowsInStatement (rest.drop (e.rowsInStatement - 1))
          rw [hnil] at this
          exact hdrop this.symm
        rw [String.append_assoc, ih hdrop hnext, hlead, openStatement_iterate,
          String.intercalate_cons_of_ne_nil (by simpa using hpieces)]
        simp only [String.append_assoc]

theorem statements_eq (values : List String) :
    e.statements session values = (pieces e.rowsInStatement values).map fun batch =>
      e.openStatement session batch ++ e.ending := by
  unfold statements openStatement ending
  by_cases hmulti : e.variant.isMultiTable = true
  · simp [hmulti, multiTableStatement, String.append_assoc]
  · by_cases hone : e.rowsInStatement = 1
    · simp [hmulti, hone, pieces_one, Function.comp_def]
    · simp [hmulti, hone, groupedStatement, String.append_assoc]

theorem length_statements (hsize : 1 ≤ e.rowsInStatement) (values : List String) :
    (e.statements session values).length
      = (values.length + e.rowsInStatement - 1) / e.rowsInStatement := by
  rw [statements_eq, List.length_map, length_pieces hsize]

theorem join_closing {rowCount : Nat} (h : rowCount ≠ 0) :
    String.join (e.closing rowCount) = e.ending ++ e.settings.lineSeparator := by
  unfold closing ending
  rw [if_neg h]
  by_cases hmulti : e.variant.isMultiTable = true
  · simp [hmulti, String.append_assoc]
  · by_cases hone : e.rowsInStatement = 1 <;>
      simp [hmulti, hone, writesSingleRows, String.append_assoc]

/-- What is written row by row and at the end is the script. -/
theorem streamed_append_closing (hsize : 1 ≤ e.rowsInStatement) (values : List String)
    (hzero : session.rowCount = 0) :
    e.streamed session values ++ String.join (e.closing values.length) =
      e.layout session values := by
  unfold layout
  by_cases hvalues : values = []
  · simp [hvalues, streamed, closing]
  · have hbegins : e.startsBatch session.rowCount = true := by
      rw [startsBatch_iff, hzero]
      exact Nat.dvd_zero _
    have hstreamed := streamed_append_ending hsize hvalues hbegins
    rw [join_closing (by simpa using hvalues), ← String.append_assoc, hstreamed, if_neg hvalues,
      statements_eq, hzero, lead, if_pos rfl, String.empty_append]

/-! ### Runs -/

variable (e)

/-- The text that the cells of the next row are written as. -/
def cellsText (cells : Row) (s : Logged ExportState) : String :=
  Sink.added ((e.cellWriter s.state.renderer).writeRow s.state.session.columns cells)
    { log := s.log, state := s.state.sink.addAll (e.beforeRow s.state.session) }

/-- Writes rows one after the other. -/
def writeRows : List Row → Step ExportState Unit
  | [] => pure ()
  | cells :: rest => do
      e.row cells
      writeRows rest

/-- The texts that the cells of several rows are written as. -/
def rowTexts : List Row → Logged ExportState → List String
  | [], _ => []
  | cells :: rest, s => e.cellsText cells s :: rowTexts rest ((e.row cells).run s).2

/-- The state when a session has begun. -/
def begun (columns : List ExportColumn) (found? : Option String) (s : Logged ExportState) :
    Logged ExportState :=
  ((e.header columns found?).run s).2

/-- Writes a whole script. -/
def writeScript (columns : List ExportColumn) (found? : Option String) (rows : List Row) :
    Step ExportState Unit := do
  e.header columns found?
  e.writeRows rows
  e.footer

variable {e}

@[simp] theorem length_rowTexts (rows : List Row) (s : Logged ExportState) :
    (e.rowTexts rows s).length = rows.length := by
  induction rows generalizing s with
  | nil => rfl
  | cons cells rest ih => rw [rowTexts, List.length_cons, List.length_cons, ih]

theorem onSink_ok {α : Type} {step : Step Sink α} {s : Logged ExportState} {t : Logged Sink} {a : α}
    (h : step { log := s.log, state := s.state.sink } = .ok a t) :
    onSink step s = .ok a { log := t.log, state := { s.state with sink := t.state } } :=
  Step.zoom_of_ok h

/-- A row is written around its cells, and is counted. -/
theorem row_of_cells {cells : Row} {s : Logged ExportState} {t : Logged Sink} {text : String}
    (h : (e.cellWriter s.state.renderer).writeRow s.state.session.columns cells
      { log := s.log, state := s.state.sink.addAll (e.beforeRow s.state.session) } = .ok () t)
    (htext : t.state.output = (s.state.sink.addAll (e.beforeRow s.state.session)).output ++ text) :
    e.row cells s = .ok () { log := t.log, state :=
        { s.state with
          sink := t.state.addAll e.afterRow, session := e.countRow s.state.session } } ∧
      (t.state.addAll e.afterRow).output = s.state.sink.output ++
        e.rowText s.state.session text := by
  constructor
  · rw [row, Step.bind_of_ok (Step.current_apply s),
      Step.bind_of_ok (onSink_ok (Sink.writeAll_apply _ _)),
        Step.bind_of_ok (Step.change_apply _ _),
      Step.bind_of_ok (onSink_ok h), onSink_ok (Sink.writeAll_apply _ _)]
  · rw [Sink.output_addAll, htext, Sink.output_addAll, rowText]
    simp only [String.append_assoc]

/-- A row that can be written adds its text, and is counted. -/
theorem row_ok {cells : Row} {s : Logged ExportState}
    (h : (e.cellWriter s.state.renderer).RendersRow s.state.session.columns cells) :
    ∃ log sink, e.row cells s = .ok ()
        { log, state := { s.state with sink, session := e.countRow s.state.session } } ∧
      sink.output = s.state.sink.output ++ e.rowText s.state.session (e.cellsText cells s) := by
  obtain ⟨t, ht⟩ := CellWriter.writeRow_ok (e.cellWriter s.state.renderer) h
    { log := s.log, state := s.state.sink.addAll (e.beforeRow s.state.session) }
  have hadded := Sink.output_run ((e.cellWriter s.state.renderer).writeRow_extends
    s.state.session.columns cells)
    { log := s.log, state := s.state.sink.addAll (e.beforeRow s.state.session) }
  rw [Step.run_of_ok ht] at hadded
  obtain ⟨hrow, houtput⟩ := row_of_cells ht hadded
  exact ⟨t.log, t.state.addAll e.afterRow, hrow, houtput⟩

/-- Rows that can be written add their texts. -/
theorem writeRows_ok {rows : List Row} {s : Logged ExportState}
    (h : ∀ cells ∈ rows,
      (e.cellWriter s.state.renderer).RendersRow s.state.session.columns cells) :
    ∃ log sink, e.writeRows rows s = .ok ()
        { log, state :=
          { s.state with sink, session := e.countRow^[rows.length] s.state.session } } ∧
      sink.output = s.state.sink.output ++ e.streamed s.state.session (e.rowTexts rows s) := by
  induction rows generalizing s with
  | nil => exact ⟨s.log, s.state.sink, rfl, by simp [rowTexts, streamed]⟩
  | cons cells rest ih =>
      obtain ⟨log, sink, hrow, houtput⟩ := row_ok (h cells List.mem_cons_self)
      obtain ⟨log', sink', hrest, houtput'⟩ := ih
        (s := { log, state := { s.state with sink, session := e.countRow s.state.session } })
        fun next hnext => h next (List.mem_cons_of_mem _ hnext)
      refine ⟨log', sink', ?_, ?_⟩
      · rw [writeRows, Step.bind_of_ok hrow, hrest]
        rfl
      · rw [houtput', houtput, rowTexts, Step.run_of_ok hrow, streamed, String.append_assoc]

/-- A header opens a session and writes nothing. -/
theorem header_ok (columns : List ExportColumn) (found? : Option String) (s : Logged ExportState) :
    e.header columns found? s = .ok () (e.begun columns found? s) := rfl

theorem footer_ok (s : Logged ExportState) :
    ∃ log, e.footer s = .ok ()
      { log, state :=
        { s.state with sink := s.state.sink.addAll (e.closing s.state.session.rowCount) } } := by
  unfold footer
  rw [Step.bind_of_ok (Step.current_apply s)]
  by_cases hzero : s.state.session.rowCount = 0
  · exact ⟨s.log, by simp [hzero, closing]⟩
  · rw [if_neg hzero, Step.bind_of_ok (onSink_ok (Sink.writeAll_apply _ _))]
    exact ⟨_, rfl⟩

/-- Writing the rows of a session one by one, from whatever state, adds their script to the output
and nothing else. -/
theorem output_writeScript (e : Exporter) (columns : List ExportColumn) (found? : Option String)
    (rows : List Row) (s : Logged ExportState) (hsize : 1 ≤ e.rowsInStatement)
    (hrows : ∀ cells ∈ rows,
      (e.cellWriter (e.begun columns found? s).state.renderer).RendersRow columns cells) :
    ∃ t, e.writeScript columns found? rows s = .ok () t ∧
      t.state.sink.output = s.state.sink.output ++
        e.layout (e.openSession columns found?) (e.rowTexts rows (e.begun columns found? s)) ∧
      (e.statements (e.openSession columns found?)
          (e.rowTexts rows (e.begun columns found? s))).length
        = (rows.length + e.rowsInStatement - 1) / e.rowsInStatement := by
  obtain ⟨log, sink, hrun, houtput⟩ := writeRows_ok (s := e.begun columns found? s) hrows
  obtain ⟨log', hfooter⟩ := footer_ok (e := e)
    { log, state := { (e.begun columns found? s).state with
      sink, session := e.countRow^[rows.length] (e.begun columns found? s).state.session } }
  refine ⟨_, by rw [writeScript, Step.bind_of_ok (header_ok columns found? s),
    Step.bind_of_ok hrun, hfooter], ?_, by rw [length_statements hsize, length_rowTexts]⟩
  have hsession : (e.begun columns found? s).state.session = e.openSession columns found? := rfl
  have hcount : (e.openSession columns found?).rowCount = 0 := rfl
  have hlayout := streamed_append_closing hsize (e.rowTexts rows (e.begun columns found? s)) hcount
  rw [length_rowTexts] at hlayout
  simp only [Sink.output_addAll, houtput, rowCount_iterate, hsession, hcount,
    Nat.zero_add, ← hlayout, String.append_assoc]
  rfl

/-- Three rows in batches of two, each with its own table, behind what an earlier session has
left. -/
theorem output_writeScript_insertAll :
    let e := Exporter.make (some .oracle) { variant := .insertAll, rowsInStatement := 2 }
      (.empty #[])
    let columns := [{ column := { name := "id" } }, { column := { name := "note" } }]
    let rows := [[.bool true, .text "it's"], [.null, .text ")"], [.bool false, .text ""]]
    let s : Logged ExportState :=
      { log := {}, state :=
        { renderer := .literals { dialect := .oracle }, sink := { output := "-- earlier\n" }
          session := { rowCount := 5 } } }
    1 ≤ e.rowsInStatement ∧
      (∀ cells ∈ rows,
        (e.cellWriter (e.begun columns none s).state.renderer).RendersRow columns cells) ∧
      ∃ t, e.writeScript columns none rows s = .ok () t ∧
        t.state.sink.output = s.state.sink.output ++
          e.layout (e.openSession columns none) (e.rowTexts rows (e.begun columns none s)) ∧
        (e.statements (e.openSession columns none)
          (e.rowTexts rows (e.begun columns none s))).length
          = (rows.length + e.rowsInStatement - 1) / e.rowsInStatement := by
  intro e columns rows s
  have hrows : ∀ cells ∈ rows,
      (e.cellWriter (e.begun columns none s).state.renderer).RendersRow columns cells := by
    intro cells hcells cell hcell _
    simp only [rows, List.mem_cons, List.not_mem_nil, or_false] at hcells
    rcases hcells with rfl | rfl | rfl <;>
      simp only [columns, List.zip_cons_cons, List.zip_nil_left, List.mem_cons, List.not_mem_nil,
        or_false] at hcell <;>
      rcases hcell with rfl | rfl <;>
      first | exact ⟨_, rfl⟩ | trivial
  exact ⟨by decide, hrows, output_writeScript e columns none rows s (by decide) hrows⟩

end InsertScript.Exporter
