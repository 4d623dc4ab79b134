import Mathlib.Data.List.DropRight
import InsertScript.Proofs.Layout

/-!
# Sessions

An exporter may be asked for anything in any order, and a row may fail at any of its cells while the
export goes on. `Exporter.after` is the state after any sequence of such calls.

What the rows have in common whether or not they fail is `row_leaves`: the row is counted, and the
text before its cells stays with what was written of them. From it and the other calls follows by
induction what holds since the last header:

* the session is the one that the header opened, with every row counted (`session_after`);
* where rows are grouped into statements, the text is made of pieces (`output_after_grouped`), and a
  statement begins only behind the end of the one before (`follows_written`).
-/

namespace InsertScript.Exporter

/-- What an exporter is asked for. -/
inductive Call where
  | header (columns : List ExportColumn) (found? : Option String)
  | beginRow
  | row (cells : Row)
  | footer

namespace Call

def isHeader : Call → Bool
  | .header _ _ => true
  | _ => false

def isRow : Call → Bool
  | .row _ => true
  | _ => false

end Call

/-- The calls up to the last header. -/
def untilHeader (calls : List Call) : List Call := calls.rdropWhile fun call => !call.isHeader

/-- The calls since the last header, or all of them if there is none. -/
def sinceHeader (calls : List Call) : List Call := calls.rtakeWhile fun call => !call.isHeader

/-- The number of rows since the last header, the failed ones included. -/
def rowsSince (calls : List Call) : Nat := (sinceHeader calls).countP Call.isRow

variable (e : Exporter)

/-- Does what a call asks for. Only the question about the next row has an answer. -/
def perform : Call → Step ExportState (Option RowAction)
  | .header columns found? => do
      e.header columns found?
      return none
  | .beginRow => return some (e.beginRow (← Step.current).session.rowCount)
  | .row cells => do
      e.row cells
      return none
  | .footer => do
      e.footer
      return none

/-- The state after calls of which any may have failed. -/
def after (calls : List Call) (s : Logged ExportState) : Logged ExportState :=
  calls.foldl (fun s call => ((e.perform call).run s).2) s

/-- Is the row written to its end? -/
def completes (cells : Row) (s : Logged ExportState) : Bool := ((e.row cells).run s).1.isOk

/-! ### Grouped rows piece by piece -/

/-- A piece of a script whose rows are grouped into statements. -/
inductive Piece where
  /-- The keywords, the table and the columns of a statement. -/
  | preamble
  /-- What ends a statement: the clause for conflicting keys and the terminator. -/
  | ending
  | rowBreak
  | comma
  /-- The line separator at the end of a script. -/
  | lineEnd
  /-- The cells of a row in brackets; the second one is missing from a row that failed. -/
  | tuple (isFirst : Bool) (cells : String) (isComplete : Bool)
deriving DecidableEq, Repr

/-- The text of a piece. -/
def Piece.text (session : Session) : Piece → String
  | .preamble => e.opening session true
  | .ending => e.conflictClause ++ ";"
  | .rowBreak => e.rowBreak
  | .comma => ","
  | .lineEnd => e.settings.lineSeparator
  | .tuple isFirst cells isComplete =>
      (if e.settings.lineBeforeRows then "\t(" else if isFirst then " (" else "(") ++ cells ++
        if isComplete then ")" else ""

/-- The pieces that a call adds. -/
def piecesOf (s : Logged ExportState) : Call → List Piece
  | .header _ _ | .beginRow => []
  | .row cells =>
      let count := s.state.session.rowCount
      let isFirst := e.startsBatch count
      (if isFirst then (if count = 0 then [] else [.ending, .rowBreak]) ++ [.preamble, .rowBreak]
       else [.comma, .rowBreak])
        ++ [.tuple isFirst (e.cellsText cells s) (e.completes cells s)]
  | .footer => if s.state.session.rowCount = 0 then [] else [.ending, .lineEnd]

/-- The pieces that calls add one after the other. -/
def written : List Call → Logged ExportState → List Piece
  | [], _ => []
  | call :: rest, s => e.piecesOf s call ++ written rest ((e.perform call).run s).2

variable {e}

/-! ### Single calls -/

theorem onSink_error {α : Type} {step : Step Sink α} {s : Logged ExportState} {t : Logged Sink}
    {failure : Failure} (h : step { log := s.log, state := s.state.sink } = .error failure t) :
    onSink step s = .error failure { log := t.log, state := { s.state with sink := t.state } } :=
  Step.zoom_of_error h

/-- However a row ends, it is counted, and what stands before its cells stays with what was written
of them. -/
theorem row_leaves (cells : Row) (s : Logged ExportState) :
    ∃ log sink, ((e.row cells).run s).2
        = { log, state := { s.state with sink, session := e.countRow s.state.session } } ∧
      sink.output = s.state.sink.output ++ (String.join (e.beforeRow s.state.session) ++
        e.cellsText cells s ++ if e.completes cells s then String.join e.afterRow else "") := by
  let begun : Logged Sink :=
    { log := s.log, state := s.state.sink.addAll (e.beforeRow s.state.session) }
  have hadded := Sink.output_run ((e.cellWriter s.state.renderer).writeRow_extends
    s.state.session.columns cells) begun
  cases hcells : (e.cellWriter s.state.renderer).writeRow s.state.session.columns cells begun with
  | ok a t =>
      rw [Step.run_of_ok hcells] at hadded
      obtain ⟨hrow, houtput⟩ := row_of_cells hcells hadded
      have hcompletes : e.completes cells s = true := by rw [completes, Step.run_of_ok hrow]; rfl
      refine ⟨t.log, t.state.addAll e.afterRow, by rw [Step.run_of_ok hrow], ?_⟩
      rw [houtput, hcompletes, if_pos rfl]
      rfl
  | error failure t =>
      rw [Step.run_of_error hcells] at hadded
      have hrow : e.row cells s = .error failure { log := t.log, state :=
          { s.state with sink := t.state, session := e.countRow s.state.session } } := by
        rw [row, Step.bind_of_ok (Step.current_apply s),
          Step.bind_of_ok (onSink_ok (Sink.writeAll_apply _ _)),
            Step.bind_of_ok (Step.change_apply _ _),
          Step.bind_of_error (onSink_error hcells)]
      have hcompletes : e.completes cells s = false := by
        rw [completes, Step.run_of_error hrow]; rfl
      refine ⟨t.log, t.state, by rw [Step.run_of_error hrow], ?_⟩
      rw [hadded, hcompletes, Sink.output_addAll, if_neg Bool.false_ne_true, String.append_empty,
        String.append_assoc]
      rfl

theorem run_perform_row (cells : Row) (s : Logged ExportState) :
    ((e.perform (.row cells)).run s).2 = ((e.row cells).run s).2 := by
  cases h : e.row cells s with
  | ok a t => rw [perform, Step.run_bind_of_ok h, Step.run_of_ok h]; rfl
  | error failure t => rw [perform, Step.run_bind_of_error h, Step.run_of_error h]

theorem perform_beginRow (s : Logged ExportState) :
    e.perform .beginRow s = .ok (some (e.beginRow s.state.session.rowCount)) s := rfl

theorem perform_footer (s : Logged ExportState) :
    ∃ log, e.perform .footer s = .ok none { log, state :=
      { s.state with sink := s.state.sink.addAll (e.closing s.state.session.rowCount) } } := by
  obtain ⟨log, hfooter⟩ := footer_ok (e := e) s
  exact ⟨log, by rw [perform, Step.bind_of_ok hfooter]; rfl⟩

/-- A statement begins with every row of its own, and otherwise with every batch. -/
theorem beginRow_eq_startStatement_iff (rowCount : Nat) :
    e.beginRow rowCount = .startStatement ↔ e.variant.isMultiTable = true ∨
      e.rowsInStatement ∣ rowCount := by
  rw [← startsBatch_iff]
  by_cases hmulti : e.variant.isMultiTable = true
  · simp [beginRow, hmulti]
  · by_cases hone : e.rowsInStatement = 1
    · simp [beginRow, writesSingleRows, hone, startsBatch_of_single hone]
    · simp [beginRow, writesSingleRows, hone, hmulti]

/-- What a call other than a header leaves of a session: a row is counted. -/
theorem session_perform {call : Call} (hcall : call.isHeader = false) (s : Logged ExportState) :
    ((e.perform call).run s).2.state.session
      = if call.isRow then e.countRow s.state.session else s.state.session := by
  cases call with
  | header columns found? => cases hcall
  | beginRow => rfl
  | row cells =>
      obtain ⟨log, sink, hrow, -⟩ := row_leaves (e := e) cells s
      rw [run_perform_row, hrow]
      rfl
  | footer =>
      obtain ⟨log, hfooter⟩ := perform_footer (e := e) s
      rw [Step.run_of_ok hfooter]
      rfl

/-- Only a header concerns the renderer. -/
theorem renderer_perform (call : Call) (s : Logged ExportState) :
    ((e.perform call).run s).2.state.renderer
      = if call.isHeader && e.settings.nativeFormat then s.state.renderer.useNative else
        s.state.renderer := by
  cases call with
  | header columns found? => rfl
  | beginRow => rfl
  | row cells =>
      obtain ⟨log, sink, hrow, -⟩ := row_leaves (e := e) cells s
      rw [run_perform_row, hrow]
      rfl
  | footer =>
      obtain ⟨log, hfooter⟩ := perform_footer (e := e) s
      rw [Step.run_of_ok hfooter]
      rfl

/-! ### Sequences of calls -/

@[simp] theorem after_nil (s : Logged ExportState) : e.after [] s = s := rfl

@[simp] theorem after_cons (call : Call) (calls : List Call) (s : Logged ExportState) :
    e.after (call :: calls) s = e.after calls ((e.perform call).run s).2 := rfl

theorem after_append (first second : List Call) (s : Logged ExportState) :
    e.after (first ++ second) s = e.after second (e.after first s) := List.foldl_append

theorem after_since (calls : List Call) (s : Logged ExportState) :
    e.after calls s = e.after (sinceHeader calls) (e.after (untilHeader calls) s) := by
  rw [← after_append, untilHeader, sinceHeader, List.rdropWhile_append_rtakeWhile]

theorem isHeader_of_mem_since {calls : List Call} {call : Call} (h : call ∈ sinceHeader calls) :
    call.isHeader = false := by
  have := List.mem_rtakeWhile_imp h
  simpa using this

/-- What stands before the calls since a header ends in that header. -/
theorem untilHeader_cases (calls : List Call) :
    untilHeader calls = [] ∨
      ∃ earlier columns found?, untilHeader calls = earlier ++ [.header columns found?] := by
  by_cases hnil : untilHeader calls = []
  · exact .inl hnil
  · have hlast := List.rdropWhile_last_not (fun call : Call => !call.isHeader) calls hnil
    have hsplit := List.dropLast_append_getLast hnil
    unfold untilHeader at hsplit hnil
    cases hcall : (calls.rdropWhile fun call => !call.isHeader).getLast hnil with
    | header columns found? =>
        rw [hcall] at hsplit
        exact .inr ⟨_, columns, found?, hsplit.symm⟩
    | beginRow => rw [hcall] at hlast; exact absurd rfl hlast
    | row cells => rw [hcall] at hlast; exact absurd rfl hlast
    | footer => rw [hcall] at hlast; exact absurd rfl hlast

/-- A session has counted nothing when it begins. -/
theorem counts_untilHeader (calls : List Call) {s : Logged ExportState}
    (hs : s.state.session = {}) :
    (e.after (untilHeader calls) s).state.session.rowCount = 0 ∧
      (e.after (untilHeader calls) s).state.session.statementCount = 0 := by
  rcases untilHeader_cases calls with hnil | ⟨earlier, columns, found?, huntil⟩
  · rw [hnil, after_nil, hs]
    exact ⟨rfl, rfl⟩
  · rw [huntil, after_append]
    exact ⟨rfl, rfl⟩

/-- Calls without a header count their rows. -/
theorem session_after {calls : List Call} (hcalls : ∀ call ∈ calls, call.isHeader = false)
    (s : Logged ExportState) :
    (e.after calls s).state.session = e.countRow^[calls.countP Call.isRow] s.state.session := by
  induction calls generalizing s with
  | nil => rfl
  | cons call calls ih =>
      have hcall := session_perform (e := e) (hcalls call List.mem_cons_self) s
      have hrest :=
        ih (fun call hmem => hcalls call (List.mem_cons_of_mem _ hmem)) ((e.perform call).run s).2
      rw [after_cons, hrest, hcall, List.countP_cons]
      cases call.isRow with
      | false => rfl
      | true => rfl

/-- A header anywhere settles the form of dates and times for good. -/
theorem renderer_after (calls : List Call) (s : Logged ExportState) :
    (e.after calls s).state.renderer
      = if calls.any Call.isHeader && e.settings.nativeFormat then s.state.renderer.useNative
        else s.state.renderer := by
  induction calls generalizing s with
  | nil => rfl
  | cons call calls ih =>
      rw [after_cons, ih, renderer_perform, List.any_cons]
      cases call.isHeader <;> cases calls.any Call.isHeader <;>
        cases e.settings.nativeFormat <;> simp

/-! ### Texts of grouped rows -/

/-- A session with more rows has the same texts. -/
theorem text_countRow (session : Session) (piece : Piece) :
    piece.text e (e.countRow session) = piece.text e session := by
  cases piece <;> rfl

theorem text_iterate (n : Nat) (session : Session) :
    Piece.text e (e.countRow^[n] session) = Piece.text e session := by
  induction n with
  | zero => rfl
  | succ n ih =>
      rw [Function.iterate_succ_apply', ← ih]
      exact funext (text_countRow _)

variable (hmulti : e.variant.isMultiTable = false) (hsize : 1 < e.rowsInStatement)
include hmulti hsize

/-- What stands before the cells of a row is the end of a statement and the beginning of the next
one, or a comma. -/
theorem before_cells (session : Session) :
    String.join (e.beforeRow session)
      = String.join (((if e.startsBatch session.rowCount then
          (if session.rowCount = 0 then [] else [.ending, .rowBreak]) ++ [.preamble, .rowBreak]
         else [.comma, .rowBreak]).map (Piece.text e session)) ++
        [if e.settings.lineBeforeRows then "\t(" else if e.startsBatch session.rowCount then
          " (" else "("]) := by
  have hone : e.rowsInStatement ≠ 1 := by omega
  have hsingle : e.writesSingleRows = false := by simp [writesSingleRows, hone]
  by_cases hstarts : e.startsBatch session.rowCount = true
  · have hpreamble : e.preamble session = e.opening session true := by rw [preamble, hstarts]; rfl
    have hbegin : e.beginRow session.rowCount = .startStatement := by simp [beginRow, hstarts]
    simp only [beforeRow, hbegin, hstarts, if_true]
    by_cases hzero : session.rowCount = 0 <;>
      simp [hzero, hpreamble, hsingle, hmulti, endPrevious, Piece.text, String.append_assoc]
  · have hbegin : e.beginRow session.rowCount = .continueBatch := by
      simp [beginRow, hstarts, hsingle, hmulti]
    rw [beforeRow, hbegin]
    simp [hstarts, Piece.text]

/-- A call other than a header adds the texts of its pieces. -/
theorem output_perform_grouped {call : Call} (hcall : call.isHeader = false)
    (s : Logged ExportState) :
    ((e.perform call).run s).2.state.sink.output
      = s.state.sink.output ++ String.join
        ((e.piecesOf s call).map (Piece.text e s.state.session)) := by
  have hone : e.rowsInStatement ≠ 1 := by omega
  have hsingle : e.writesSingleRows = false := by simp [writesSingleRows, hone]
  cases call with
  | header columns found? => cases hcall
  | beginRow => simp [piecesOf, perform_beginRow, Step.run]
  | row cells =>
      obtain ⟨log, sink, hrow, houtput⟩ := row_leaves (e := e) cells s
      rw [run_perform_row, hrow]
      simp only [houtput]
      rw [before_cells hmulti hsize]
      simp only [piecesOf, List.map_append, List.map_cons, List.map_nil, String.join_append,
        String.join_cons, String.join_nil, Piece.text]
      cases e.completes cells s <;> simp [afterRow, hsingle, String.append_assoc]
  | footer =>
      obtain ⟨log, hfooter⟩ := perform_footer (e := e) s
      rw [Step.run_of_ok hfooter]
      simp only [Sink.output_addAll]
      by_cases hzero : s.state.session.rowCount = 0
      · simp [piecesOf, closing, hzero]
      · simp [piecesOf, closing, hzero, hmulti, hsingle, Piece.text, String.append_assoc]

/-- Calls without a header add the texts of their pieces. -/
theorem output_after_grouped {calls : List Call} (hcalls : ∀ call ∈ calls, call.isHeader = false)
    (s : Logged ExportState) :
    (e.after calls s).state.sink.output
      = s.state.sink.output ++ String.join
        ((e.written calls s).map (Piece.text e s.state.session)) := by
  induction calls generalizing s with
  | nil => simp [written]
  | cons call calls ih =>
      have hcall := hcalls call List.mem_cons_self
      have hsession := session_perform (e := e) hcall s
      have htexts : Piece.text e ((e.perform call).run s).2.state.session
          = Piece.text e s.state.session := by
        rw [hsession]
        split
        · exact text_iterate 1 s.state.session
        · rfl
      rw [after_cons, ih (fun call hmem => hcalls call (List.mem_cons_of_mem _ hmem)), htexts,
        output_perform_grouped hmulti hsize hcall, written, List.map_append, String.join_append,
        String.append_assoc]

omit hmulti hsize

/-! ### Where statements begin -/

/-- A statement begins with each batch. -/
theorem count_preamble_piecesOf {call : Call} (hcall : call.isHeader = false)
    (s : Logged ExportState) :
    ((e.perform call).run s).2.state.session.statementCount
      = s.state.session.statementCount + (e.piecesOf s call).count .preamble := by
  rw [session_perform hcall]
  cases call with
  | header columns found? => cases hcall
  | beginRow => rfl
  | row cells =>
      simp only [Call.isRow, if_true, countRow, piecesOf]
      cases e.startsBatch s.state.session.rowCount with
      | true => by_cases hzero : s.state.session.rowCount = 0 <;> simp [hzero]
      | false => simp
  | footer => by_cases hzero : s.state.session.rowCount = 0 <;> simp [Call.isRow, piecesOf, hzero]

/-- The preambles are as many as the statements that have been counted. -/
theorem count_preamble_written {calls : List Call} (hcalls : ∀ call ∈ calls, call.isHeader = false)
    (s : Logged ExportState) :
    (e.after calls s).state.session.statementCount
      = s.state.session.statementCount + (e.written calls s).count .preamble := by
  induction calls generalizing s with
  | nil => rfl
  | cons call calls ih =>
      rw [after_cons, ih (fun call hmem => hcalls call (List.mem_cons_of_mem _ hmem)), written,
        List.count_append, count_preamble_piecesOf (hcalls call List.mem_cons_self), Nat.add_assoc]

/-- Does every preamble stand behind the end of a statement, unless it stands at the very beginning
and may? -/
def Follows (mayBegin : Prop) (pieces : List Piece) : Prop :=
  ∀ front rest, pieces = front ++ .preamble :: rest → [.ending, .rowBreak] <:+ front ∨
    mayBegin ∧ front = []

/-- Later pieces may begin with a preamble only if nothing stands before them. -/
theorem Follows.append {mayBegin later : Prop} {first second : List Piece}
    (hfirst : Follows mayBegin first) (hsecond : Follows later second)
    (hlater : later → mayBegin ∧ first = []) :
    Follows mayBegin (first ++ second) := by
  intro front rest hsplit
  rcases List.append_eq_append_iff.1 hsplit with ⟨between, hfront, hrest⟩ | ⟨between, hfront, hrest⟩
  · -- the preamble stands among the later pieces
    subst hfront
    rcases hsecond between rest hrest with hsuffix | ⟨hmay, hnil⟩
    · exact .inl (hsuffix.trans (List.suffix_append first between))
    · obtain ⟨hbegins, hfirst⟩ := hlater hmay
      exact .inr ⟨hbegins, by rw [hfirst, hnil, List.nil_append]⟩
  · cases between with
    | nil =>
        rw [List.append_nil] at hfront
        rcases hsecond [] rest hrest.symm with hsuffix | ⟨hmay, -⟩
        · exact absurd (List.suffix_nil.1 hsuffix) (List.cons_ne_nil _ _)
        · obtain ⟨hbegins, hfirst⟩ := hlater hmay
          exact .inr ⟨hbegins, by rw [← hfront, hfirst]⟩
    | cons piece between =>
        obtain ⟨rfl, -⟩ := List.cons.inj hrest
        exact hfirst front between hfront

theorem Follows.of_notMem {mayBegin : Prop} {pieces : List Piece} (h : .preamble ∉ pieces) :
    Follows mayBegin pieces := by
  intro front rest hsplit
  exact absurd (hsplit ▸ List.mem_append_right front List.mem_cons_self) h

/-- One preamble is in its place if what stands before it is. -/
theorem Follows.of_single {mayBegin : Prop} {before behind : List Piece}
    (hbefore : .preamble ∉ before) (hbehind : .preamble ∉ behind)
    (h : [.ending, .rowBreak] <:+ before ∨ mayBegin ∧ before = []) :
    Follows mayBegin (before ++ .preamble :: behind) := by
  intro front rest hsplit
  obtain ⟨rfl, -, -⟩ := (List.append_cons_inj_of_notMem hbefore hbehind).1 hsplit
  exact h

/-- The pieces of one call may begin with a preamble only before the first row. -/
theorem follows_piecesOf (s : Logged ExportState) (call : Call) :
    Follows (s.state.session.rowCount = 0) (e.piecesOf s call) := by
  cases call with
  | header columns found? => exact .of_notMem (by simp [piecesOf])
  | beginRow => exact .of_notMem (by simp [piecesOf])
  | row cells =>
      rw [piecesOf]
      by_cases hstarts : e.startsBatch s.state.session.rowCount = true
      · let before : List Piece := if s.state.session.rowCount = 0 then [] else [.ending, .rowBreak]
        have hbefore : .preamble ∉ before ∧
            ([.ending, .rowBreak] <:+ before ∨ s.state.session.rowCount = 0 ∧ before = []) := by
          by_cases hzero : s.state.session.rowCount = 0 <;> simp [before, hzero]
        have hsingle : Follows (s.state.session.rowCount = 0)
            (before ++ .preamble :: [.rowBreak,
              .tuple true (e.cellsText cells s) (e.completes cells s)]) :=
          .of_single hbefore.1 (by simp) hbefore.2
        simpa [hstarts, before] using hsingle
      · exact .of_notMem (by simp [hstarts])
  | footer =>
      exact .of_notMem (by by_cases hzero : s.state.session.rowCount = 0 <;> simp [piecesOf, hzero])

/-- Every statement begins behind the end of the one before it. -/
theorem follows_written {calls : List Call} (hcalls : ∀ call ∈ calls, call.isHeader = false)
    (s : Logged ExportState) : Follows (s.state.session.rowCount = 0) (e.written calls s) := by
  induction calls generalizing s with
  | nil => exact .of_notMem (by simp [written])
  | cons call calls ih =>
      have hcall := hcalls call List.mem_cons_self
      refine (follows_piecesOf s call).append
        (ih (fun call hmem => hcalls call (List.mem_cons_of_mem _ hmem))
          ((e.perform call).run s).2) ?_
      -- only a call that adds nothing leaves a session without rows
      intro hzero
      rw [session_perform hcall] at hzero
      cases call with
      | header columns found? => cases hcall
      | beginRow => exact ⟨hzero, rfl⟩
      | row cells => simp [Call.isRow, countRow] at hzero
      | footer =>
          have hzero : s.state.session.rowCount = 0 := hzero
          exact ⟨hzero, by simp [piecesOf, hzero]⟩

/-! ### The counts of a session -/

/-- Whatever was asked for before and whichever rows have failed, the counts of a session are those
of its rows, the answer about the next row follows from them, asking for it or ending the script
leaves them alone, and where rows are grouped there are as many preambles as statements have been
counted, each behind the end of the one before. -/
theorem counts_after_calls (e : Exporter) (hsize : 1 ≤ e.rowsInStatement) (calls : List Call)
    (s : Logged ExportState) (hs : s.state.session = {}) :
    (e.after calls s).state.session.rowCount = rowsSince calls ∧
      (e.after calls s).state.session.statementCount
        = (rowsSince calls + e.rowsInStatement - 1) / e.rowsInStatement ∧
      (∃ action, e.perform .beginRow (e.after calls s) = .ok (some action) (e.after calls s) ∧
        (action = .startStatement ↔ e.variant.isMultiTable = true ∨
          e.rowsInStatement ∣ rowsSince calls)) ∧
      (∃ log sink, e.perform .footer (e.after calls s)
        = .ok none { log, state := { (e.after calls s).state with sink } }) ∧
      (e.variant.isMultiTable = false → 1 < e.rowsInStatement →
        let begun := e.after (untilHeader calls) s
        let pieces := e.written (sinceHeader calls) begun
        (e.after calls s).state.sink.output
            = begun.state.sink.output ++ String.join
              (pieces.map (Piece.text e begun.state.session)) ∧
          pieces.count .preamble = (e.after calls s).state.session.statementCount ∧
          ∀ front rest, pieces = front ++ .preamble :: rest → front = [] ∨
            [.ending, .rowBreak] <:+ front) := by
  obtain ⟨hrows, hstatements⟩ := counts_untilHeader (e := e) calls hs
  have hsince : ∀ call ∈ sinceHeader calls, call.isHeader = false :=
    fun _ hmem => isHeader_of_mem_since hmem
  have hsession := session_after (e := e) hsince (e.after (untilHeader calls) s)
  rw [← after_since, ← rowsSince] at hsession
  have hcount : (e.after calls s).state.session.rowCount = rowsSince calls := by
    rw [hsession, rowCount_iterate, hrows, Nat.zero_add]
  refine ⟨hcount, ?_, ⟨_, perform_beginRow _, ?_⟩, ?_, ?_⟩
  · rw [hsession, statementCount_iterate hsize _ hrows hstatements]
  · rw [hcount, beginRow_eq_startStatement_iff]
  · obtain ⟨log, hfooter⟩ := perform_footer (e := e) (e.after calls s)
    exact ⟨log, _, hfooter⟩
  · intro hmulti hgroups
    have hpreambles := count_preamble_written (e := e) hsince (e.after (untilHeader calls) s)
    rw [← after_since, hstatements, Nat.zero_add] at hpreambles
    have houtput := output_after_grouped hmulti hgroups hsince (e.after (untilHeader calls) s)
    rw [← after_since] at houtput
    refine ⟨houtput, hpreambles.symm, ?_⟩
    intro front rest hsplit
    exact (follows_written hsince _ front rest hsplit).symm.imp_left And.right

/-- Two rows in a statement, of which the second one fails behind its comma; the script is ended and
goes on. -/
theorem counts_after_calls_failing_row :
    let refusing : Handler := { toSql := fun _ _ _ => .error .cancelled }
    let e := Exporter.make (some .postgresql)
      { rowsInStatement := 2, variant := .onConflict, onConflict := "DO NOTHING" } (.empty #[])
    let columns :=
      [{ column := { name := "id" } }, { column := { name := "note" }, handler? := some refusing }]
    let calls : List Call :=
      [.header columns none, .row [.bool true, .null], .row [.bool false, .text "it's"],
      .footer, .beginRow, .row [.null, .null]]
    let s : Logged ExportState :=
      { log := {}, state := { renderer := .literals { dialect := .postgresql } } }
    1 ≤ e.rowsInStatement ∧ s.state.session = {} ∧
      e.completes [.bool false, .text "it's"] (e.after (calls.take 2) s) = false ∧
      (e.after calls s).state.session.rowCount = 3 ∧
      (e.after calls s).state.session.statementCount = 2 ∧
      (e.written (sinceHeader calls) (e.after (untilHeader calls) s)).count .preamble = 2 := by
  intro refusing e columns calls s
  obtain ⟨hrows, hstatements, -, -, hgrouped⟩ := counts_after_calls e (by decide) calls s rfl
  obtain ⟨-, hpreambles, -⟩ := hgrouped rfl (by decide)
  have hsince : rowsSince calls = 3 := rfl
  have hgroup : e.rowsInStatement = 2 := rfl
  rw [hsince] at hrows
  rw [hsince, hgroup] at hstatements
  exact ⟨by decide, rfl, rfl, hrows, hstatements, hpreambles.trans hstatements⟩

end InsertScript.Exporter
