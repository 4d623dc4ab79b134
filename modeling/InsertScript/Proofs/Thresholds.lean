import InsertScript.Proofs.Connections
import InsertScript.Proofs.LargeObjects
import InsertScript.Source.Csv

/-!
# Thresholds

The threshold of a source says which texts are delivered as large objects. For a file and for a
query it makes no difference to the script (`sameScript_of_thresholds`).

A file is first read into plain values (`CsvFile.plainRows`); these are set apart as those of a
query are, and numbers have been told from texts before. The rows of a query are those of its
database, which answers as before whatever is asked of it (`Query.SameDatabase`).
-/

namespace InsertScript

open Step (Keeps Respects)
open Query (nextIdentity)
open Monitor (Calm)

/-! ### Delimited files -/

namespace CsvFile

/-- The value of a cell before large texts are set apart: no text is longer than itself. -/
def plain (cell : String) : Except Failure Value := CsvFile.convert cell.length 0 cell

/-- The row of a record before large texts are set apart; nothing for an empty record. -/
def plainRow? (path : Path) (width number : Nat) (record : List String) :
    Except Failure (Option Row) :=
  if record.isEmpty then .ok none
  else if record.length ≠ width then .error (.wrongWidth path number width record.length)
  else (record.mapM plain).map some

/-- Reads a record as a plain row. -/
def readPlain (path : Path) (width : Nat) (delimiter : Char) (number : Nat) (reader : TextReader) :
    Except Failure (Option (Option Row × TextReader)) :=
  match Delimited.readRecord delimiter reader with
  | .error failure => .error failure
  | .ok (none, _) => .ok none
  | .ok (some record, rest) =>
      (plainRow? path width number record).map fun row? => some (row?, rest)

theorem readPlain_before {path : Path} {width number : Nat} {delimiter : Char}
    {reader rest : TextReader} {row? : Option Row}
    (h : readPlain path width delimiter number reader = .ok (some (row?, rest))) :
    rest.Before reader := by
  unfold readPlain at h
  split at h
  · cases h
  · cases h
  · rename_i record after hrecord
    cases hrow : plainRow? path width number record with
    | error failure =>
        rw [hrow] at h
        cases h
    | ok found =>
        rw [hrow] at h
        cases h
        exact Delimited.readRecord_before hrecord

/-- The plain rows that a reader hands out from a record on, and the failure that they end in. -/
def plainRows (path : Path) (width : Nat) (delimiter : Char) (number : Nat) (reader : TextReader) :
    List (Except Failure Row) :=
  match _h : readPlain path width delimiter number reader with
  | .error failure => [.error failure]
  | .ok none => []
  | .ok (some (none, rest)) => plainRows path width delimiter (number + 1) rest
  | .ok (some (some row, rest)) => .ok row :: plainRows path width delimiter (number + 1) rest
termination_by (reader.debt, reader.ready.length)
decreasing_by all_goals exact (readPlain_before _h).lex

variable {csv : CsvFile} {threshold : Int} {count : Nat}

/-- Large texts are set apart after everything else has been told by its looks. -/
theorem convert_eq (threshold : Int) (identity : Nat) (cell : String) :
    CsvFile.convert threshold identity cell =
      (plain cell).map (Query.convert threshold identity) := by
  unfold plain CsvFile.convert
  split
  · rfl
  · split
    · cases (Numeral.readInteger cell).mapError Failure.integer <;> rfl
    · split
      · cases (Decimal.ofString cell).mapError fun fault => Failure.malformed (.decimal fault) <;>
          rfl
      · rw [if_neg (Int.lt_irrefl _)]
        simp only [Except.map, Query.convert]
        split <;> rfl

theorem countContent_eq (count : Nat) (value : Value) :
    countContent count value = nextIdentity count value := by
  cases value <;> rfl

/-- Cells can be converted in two passes: to plain values, and then by the threshold. -/
theorem convertCells_eq (threshold : Int) (count : Nat) (done : Row) (cells : List String) :
    CsvFile.convertCells threshold count done cells = (cells.mapM plain).map fun row =>
      (done.reverse ++ (Query.convertCells threshold count row).1,
        (Query.convertCells threshold count row).2) := by
  induction cells generalizing count done with
  | nil => simp [CsvFile.convertCells, Query.convertCells, Except.map, pure, Except.pure]
  | cons cell cells ih =>
      rw [CsvFile.convertCells, convert_eq, List.mapM_cons]
      cases plain cell with
      | error failure => rfl
      | ok value =>
          simp only [Except.map, countContent_eq, ih]
          cases cells.mapM plain with
          | error failure => rfl
          | ok row => simp [Query.convertCells, bind, Except.bind, pure, Except.pure]

/-- The delivered row, and the number of large objects after it. -/
def setApart (threshold : Int) (count : Nat) : Option Row → Option Row × Nat
  | none => (none, count)
  | some row =>
      (some (Query.convertCells threshold count row).1, (Query.convertCells threshold count row).2)

theorem rowOf_eq (csv : CsvFile) (width number count : Nat) (record : List String) :
    csv.rowOf width number count record
      = (plainRow? csv.path width number record).map (setApart csv.threshold count) := by
  unfold rowOf plainRow?
  split
  · rfl
  · split
    · rfl
    · rw [convertCells_eq]
      cases record.mapM plain <;> rfl

theorem readRow_eq (csv : CsvFile) (width : Nat) (c : Cursor) :
    csv.readRow width c = (readPlain csv.path width c.delimiter c.number c.reader).map
      (Option.map fun found =>
        ((setApart csv.threshold c.count found.1).1,
          { c with
            reader := found.2, number := c.number + 1
            count := (setApart csv.threshold c.count found.1).2 })) := by
  unfold readRow readPlain
  rcases Delimited.readRecord c.delimiter c.reader with failure | ⟨_ | record, rest⟩
  · rfl
  · rfl
  · simp only [rowOf_eq]
    cases plainRow? csv.path width c.number record <;> rfl

theorem deliver_eq_match (csv : CsvFile) (width : Nat) (done : List Delivery) (c : Cursor) :
    csv.deliver width done c = match csv.readRow width c with
      | .error failure => done.reverseAux [.failure failure]
      | .ok none => done.reverse
      | .ok (some (none, after)) => csv.deliver width done after
      | .ok (some (some row, after)) => csv.deliver width (.row row :: done) after := by
  rw [deliver]
  split <;> rename_i h <;> rw [h]

/-- What a file delivers is what its plain rows deliver when large texts are set apart. -/
theorem deliver_eq (csv : CsvFile) (width : Nat) (done : List Delivery) (c : Cursor) :
    csv.deliver width done c = done.reverse ++
      Query.deliver csv.threshold c.count
        (plainRows csv.path width c.delimiter c.number c.reader) := by
  obtain ⟨file, reader, delimiter, number, count⟩ := c
  dsimp only
  fun_induction plainRows csv.path width delimiter number reader generalizing done count with
  | case1 number reader failure hread =>
      simp [deliver_eq_match, readRow_eq, hread, Except.map, Query.deliver]
  | case2 number reader hread =>
      simp [deliver_eq_match, readRow_eq, hread, Except.map, Query.deliver]
  | case3 number reader rest hread ih =>
      rw [deliver_eq_match, readRow_eq]
      simp only [hread]
      exact ih done count
  | case4 number reader row rest hread ih =>
      rw [deliver_eq_match, readRow_eq]
      simp only [hread]
      refine (ih (.row (Query.convertCells csv.threshold count row).1 :: done) _).trans ?_
      simp [Query.deliver, setApart]

/-- The rows of a file before large texts are set apart. -/
def gather (csv : CsvFile) (files : FileSystem) : Step CsvHeader (List (Except Failure Row)) := do
  let width := (← csv.columns files).length
  let cursor ← Step.ofExcept (csv.begin files)
  return plainRows csv.path width cursor.delimiter cursor.number cursor.reader

theorem count_of_begin {files : FileSystem} {cursor : Cursor} (h : csv.begin files = .ok cursor) :
    cursor.count = 0 := by
  obtain ⟨opened, hopen, h⟩ := Step.ok_of_bind_except h
  obtain ⟨header, -, h⟩ := Step.ok_of_bind_except h
  cases h
  obtain ⟨file, -, hopen⟩ := Step.ok_of_bind_except hopen
  obtain ⟨encoding, -, hopen⟩ := Step.ok_of_bind_except hopen
  obtain ⟨delimiter, -, hopen⟩ := Step.ok_of_bind_except hopen
  cases hopen
  rfl

/-- The large objects of a file are numbered from zero on. -/
theorem source_threshold (csv : CsvFile) (files : FileSystem) (threshold : Int) :
    { csv with threshold : CsvFile }.source files
      = (csv.source files).sifted (csv.gather files) (fun _ => 0) threshold := by
  have hstart : ({ csv with threshold : CsvFile }.start files)
      = csv.gather files >>= fun rows => pure (Query.deliver threshold 0 rows) := by
    unfold start gather
    rw [bind_assoc]
    refine congrArg (csv.columns files >>= ·) (funext fun columns => ?_)
    dsimp only
    cases hbegin : csv.begin files with
    | error failure =>
        have hthreshold : { csv with threshold : CsvFile }.begin files = .error failure := hbegin
        rw [hthreshold]
        rfl
    | ok cursor =>
        have hthreshold : { csv with threshold : CsvFile }.begin files = .ok cursor := hbegin
        rw [hthreshold]
        change (pure ({ csv with threshold : CsvFile }.deliver columns.length [] cursor)
          : Step CsvHeader (List Delivery)) = _
        rw [deliver_eq, count_of_begin hbegin]
        rfl
  rw [source, hstart]
  rfl

theorem kind_of_readHeader {files : FileSystem} {columns : List Column}
    (h : csv.readHeader files = .ok columns) : ∀ column ∈ columns, column.kind = .string := by
  obtain ⟨cursor, -, h⟩ := Step.ok_of_bind_except h
  obtain ⟨⟨header?, reader⟩, -, h⟩ := Step.ok_of_bind_except h
  rcases header? with _ | _ | ⟨name, names⟩
  · cases h
  · cases h
  · cases h
    intro column hcolumn
    obtain ⟨name, -, rfl⟩ := List.mem_map.1 hcolumn
    rfl

/-- The columns of a file are texts, as long as those are that are known already. -/
theorem kind_of_columns {files : FileSystem} {s t : Logged CsvHeader} {columns : List Column}
    (h : csv.columns files s = .ok columns t)
    (hknown : ∀ column ∈ s.state.getD [], column.kind = .string) :
    ∀ column ∈ columns, column.kind = .string := by
  obtain ⟨header, s', hcurrent, h⟩ := Step.ok_of_bind h
  cases hcurrent
  cases hheader : s.state with
  | some found =>
      rw [hheader] at h hknown
      cases h
      exact hknown
  | none =>
      rw [hheader] at h
      obtain ⟨found, s'', hread, h⟩ := Step.ok_of_bind h
      cases h
      exact kind_of_readHeader (Step.ok_of_ofExcept hread).1

/-- No cell of a file is a large object. -/
theorem ne_content_of_plain {cell : String} {value : Value} (h : plain cell = .ok value)
    (content : Content) : value ≠ .content content := by
  rintro rfl
  unfold plain CsvFile.convert at h
  split at h
  · cases h
  · split at h
    · cases hnumber : (Numeral.readInteger cell).mapError Failure.integer <;>
        rw [hnumber] at h <;> cases h
    · split at h
      · cases hnumber : (Decimal.ofString cell).mapError fun fault =>
          Failure.malformed (.decimal fault) <;>
          rw [hnumber] at h <;> cases h
      · rw [if_neg (Int.lt_irrefl _)] at h
        cases h

theorem ne_content_of_mapM {cells : List String} {row : Row} (h : cells.mapM plain = .ok row)
    {value : Value} (hvalue : value ∈ row) (content : Content) : value ≠ .content content := by
  induction cells generalizing row with
  | nil =>
      cases h
      cases hvalue
  | cons cell cells ih =>
      rw [List.mapM_cons] at h
      obtain ⟨first, hfirst, h⟩ := Step.ok_of_bind_except h
      obtain ⟨rest, hrest, h⟩ := Step.ok_of_bind_except h
      cases h
      rcases List.mem_cons.1 hvalue with rfl | hvalue
      · exact ne_content_of_plain hfirst content
      · exact ih hrest hvalue

/-- A row has no large objects before the threshold is looked at. -/
theorem ne_content_of_readPlain {path : Path} {width number : Nat} {delimiter : Char}
    {reader rest : TextReader} {row : Row}
    (h : readPlain path width delimiter number reader = .ok (some (some row, rest))) {value : Value}
    (hvalue : value ∈ row) (content : Content) : value ≠ .content content := by
  unfold readPlain at h
  split at h
  · cases h
  · cases h
  · rename_i record after hrecord
    unfold plainRow? at h
    split at h
    · cases h
    · split at h
      · cases h
      · cases hcells : record.mapM plain with
        | error failure =>
            rw [hcells] at h
            cases h
        | ok cells =>
            rw [hcells] at h
            cases h
            exact ne_content_of_mapM hcells hvalue content

theorem ne_content_of_mem_plainRows {path : Path} {width number : Nat} {delimiter : Char}
    {reader : TextReader} {row : Row} (h : .ok row ∈ plainRows path width delimiter number reader)
    {value : Value} (hvalue : value ∈ row) (content : Content) : value ≠ .content content := by
  fun_induction plainRows path width delimiter number reader with
  | case1 number reader failure hread => simp at h
  | case2 number reader hread => cases h
  | case3 number reader rest hread ih => exact ih h
  | case4 number reader found rest hread ih =>
      rcases List.mem_cons.1 h with hfound | h
      · cases hfound
        exact ne_content_of_readPlain hread hvalue content
      · exact ih h

end CsvFile

/-! ### Queries -/

namespace Query

variable {q : Query} {s t : Logged QueryState}

/-- The columns of the result in a state: the ones that are known already, or those that the
database describes. -/
def resultColumns (state : QueryState) : List Column :=
  state.columns?.getD ((state.client.database.description?.getD []).map fun (name, type) =>
    columnOf name type)

/-- The rows of the result. -/
def gather (q : Query) : Step QueryState (List (Except Failure Row)) := do
  q.ensureExecuted
  return (← Step.current).client.database.rows

theorem source_threshold (q : Query) (threshold : Int) :
    { q with threshold : Query }.source = q.source.sifted q.gather firstIdentity threshold := by
  have hstart : { q with threshold : Query }.start
      = q.gather >>= fun rows => pure (deliver threshold (firstIdentity rows) rows) := by
    unfold start gather
    simp only [bind_assoc, pure_bind]
    rfl
  rw [source, hstart]
  rfl

theorem mem_contentsOfAll {content : Content} {row : Row} (h : .content content ∈ row) :
    content ∈ Value.contentsOfAll row := by
  induction row with
  | nil => cases h
  | cons value row ih =>
      rw [Value.contentsOfAll, List.mem_append]
      rcases List.mem_cons.1 h with rfl | h
      · exact .inl (by simp [Value.contents])
      · exact .inr (ih h)

theorem le_foldl_identity (contents : List Content) (first : Nat) :
    first ≤ contents.foldl (fun first c => max first (c.identity + 1)) first ∧
      ∀ content ∈ contents,
        content.identity < contents.foldl (fun first c => max first (c.identity + 1)) first := by
  induction contents generalizing first with
  | nil => simp
  | cons c contents ih =>
      obtain ⟨hfirst, hrest⟩ := ih (max first (c.identity + 1))
      rw [List.foldl_cons]
      refine ⟨by omega, fun content hcontent => ?_⟩
      rcases List.mem_cons.1 hcontent with rfl | hcontent
      · omega
      · exact hrest content hcontent

/-- The numbers of new objects are not those of the objects in the rows. -/
theorem identity_lt_firstIdentity {rows : List (Except Failure Row)} {row : Row} {content : Content}
    (hrow : .ok row ∈ rows) (hcontent : .content content ∈ row) :
    content.identity < firstIdentity rows := by
  refine (le_foldl_identity _ 0).2 content (List.mem_flatMap.2 ⟨.ok row, hrow, ?_⟩)
  exact mem_contentsOfAll hcontent

/-! The database answers as before, whatever is asked. -/

def SameDatabase (a b : QueryState) : Prop := b.client.database = a.client.database

instance : IsPreorder QueryState SameDatabase where
  refl _ := rfl
  trans _ _ _ h k := k.trans h

theorem ask_keeps (event : DatabaseEvent) : Keeps SameDatabase (onClient (Client.ask event)) :=
  fun _ => rfl

theorem getConnection_keeps (plan : ConnectionPlan) :
    Keeps SameDatabase (onClient (Client.getConnection plan)) := by
  have hclient : Keeps (fun a b => b.database = a.database) (Client.getConnection plan) := by
    intro s
    obtain ⟨outcome, log, c, hrun, hgetting⟩ := Client.getConnection_getting plan s.log s.state
    rw [hrun]
    exact hgetting.follows.1
  exact hclient.zoom fun _ _ h => h

theorem ensureExecuted_keeps (q : Query) : Keeps SameDatabase q.ensureExecuted := by
  have hexecute (connection : Nat) : Keeps SameDatabase (q.execute connection) := by
    refine (ask_keeps _).bind fun _ => (Keeps.ofExcept _).bind fun shown =>
        (Keeps.note _).bind fun _ =>
      (ask_keeps _).bind fun _ => Keeps.current.bind fun state => ?_
    cases state.client.database.queryError? with
    | some e => exact (ask_keeps _).bind fun _ => Keeps.throw _
    | none => exact Keeps.change fun _ => rfl
  refine Keeps.current.bind fun state => ?_
  cases state.cursor? with
  | some connection => exact Keeps.pure ()
  | none => exact (getConnection_keeps q.plan).bind hexecute

theorem database_of_ensureExecuted (h : q.ensureExecuted s = .ok () t) :
    t.state.client.database = s.state.client.database := by
  have hkept := q.ensureExecuted_keeps s
  rwa [Step.run_of_ok h] at hkept

theorem columns_inv {columns : List Column} (h : q.columns s = .ok columns t) :
    columns = resultColumns s.state ∧ t.state.client.database = s.state.client.database := by
  obtain ⟨state, s', hcurrent, h⟩ := Step.ok_of_bind h
  cases hcurrent
  unfold resultColumns
  cases hknown : s.state.columns? with
  | some known =>
      rw [hknown] at h
      cases h
      exact ⟨rfl, rfl⟩
  | none =>
      rw [hknown] at h
      obtain ⟨_, s', hexecuted, h⟩ := Step.ok_of_bind h
      have hdatabase := database_of_ensureExecuted hexecuted
      obtain ⟨state, s'', hcurrent, h⟩ := Step.ok_of_bind h
      cases hcurrent
      rw [← hdatabase]
      cases hdescribed : s'.state.client.database.description? with
      | none =>
          rw [hdescribed] at h
          cases h
      | some described =>
          rw [hdescribed] at h
          cases h
          exact ⟨rfl, rfl⟩

theorem gather_inv {rows : List (Except Failure Row)} (h : q.gather s = .ok rows t) :
    rows = s.state.client.database.rows := by
  obtain ⟨_, s', hexecuted, h⟩ := Step.ok_of_bind h
  cases h
  rw [database_of_ensureExecuted hexecuted]

theorem stop_respects : Respects Eq stop := by
  refine Respects.eq_current_bind fun state => ?_
  cases state.cursor? with
  | none => exact Respects.pure ()
  | some connection => exact (Respects.eq_change _).eq_zoom.bind fun _ => Respects.eq_change _

end Query

/-! ### Scripts and thresholds -/

namespace Exporter

/-- The columns of a file or a query come without handlers. -/
theorem mem_zip_exportColumns {columns : List Column} {row : Row} {cell : ExportColumn × Value}
    (h : cell ∈ (columns.map fun column => ({ column } : ExportColumn)).zip row) :
    ∃ column value, (column, value) ∈ columns.zip row ∧ cell = ({ column }, value) := by
  rw [List.zip_map_left] at h
  obtain ⟨⟨column, value⟩, hzip, rfl⟩ := List.mem_map.1 h
  exact ⟨column, value, hzip, rfl⟩

theorem state_of_findTable {e : Exporter} {q : Query} {found? : Option String}
    {u u' : Logged QueryState} (h : e.findTable q.source u = .ok found? u') :
    u'.state = u.state := by
  unfold findTable at h
  cases huser : e.userTable? with
  | some name =>
      rw [huser] at h
      cases h
      rfl
  | none =>
      rw [huser] at h
      rw [(Step.ok_of_ofExcept h).2]

variable {e : Exporter} {d : Dialect} {style : LiteralStyle}

/-- The script of a delimited file is the same for two thresholds. -/
theorem csv_sameScript (hdialect : e.dialect? = some d) (hstyle : style.dialect = d) (csv : CsvFile)
    (files : FileSystem) (threshold threshold' : Int) (s : Logged (Sourced CsvHeader))
    (hfresh : s.state.1.IsFresh style)
    (hheader : ∀ column ∈ s.state.2.getD [], column.kind = .string) :
    SameScript ((e.script ({ csv with threshold : CsvFile }.source files)).run s)
      ((e.script ({ csv with threshold := threshold' : CsvFile }.source files)).run s) := by
  rw [CsvFile.source_threshold csv files threshold, CsvFile.source_threshold csv files threshold']
  refine sameScript_sifted (csv.source files) hdialect hstyle hfresh
    (Respects.pure ()) ?_ threshold threshold'
  intro log log' columns found? rows u u' v hcolumns _ hgather renderer row hrow cell hcell
  obtain ⟨columns, s', hread, hmap⟩ := Step.ok_of_bind hcolumns
  cases hmap
  have hkind := CsvFile.kind_of_columns hread hheader
  obtain ⟨column, value, hzip, rfl⟩ := mem_zip_exportColumns hcell
  obtain ⟨hcolumn, hvalue⟩ := List.of_mem_zip hzip
  -- the rows are plain rows of the file
  obtain ⟨_, _, -, hgather⟩ := Step.ok_of_bind hgather
  obtain ⟨cursor, _, -, hgather⟩ := Step.ok_of_bind hgather
  cases hgather
  have hplain := CsvFile.ne_content_of_mem_plainRows hrow hvalue
  refine ⟨rfl, fun c hc => absurd hc (hplain c), fun c hc => absurd hc (hplain c),
    fun hdisplays => ?_⟩
  simp [CellWriter.displays, hkind column hcolumn] at hdisplays

/-- The script of a query is the same for two thresholds if no text stands in a date column and no
object is in the script's own file. -/
theorem query_sameScript (hdialect : e.dialect? = some d) (hstyle : style.dialect = d) (q : Query)
    (threshold threshold' : Int) (s : Logged (Sourced QueryState))
    (hfresh : s.state.1.IsFresh style)
    (hdisplayed : e.settings.nativeFormat = true ∨ ∀ row, .ok row ∈ s.state.2.client.database.rows →
      ∀ cell ∈ (Query.resultColumns s.state.2).zip row, cell.1.kind = .datetime →
        ∀ text, cell.2 ≠ .text text)
    (hforeign : ∀ row, .ok row ∈ s.state.2.client.database.rows →
      ∀ content, .content content ∈ row →
      (e.cellWriter s.state.1.renderer).ownTarget? content.payload = none) :
    SameScript ((e.script { q with threshold : Query }.source).run s)
      ((e.script { q with threshold := threshold' : Query }.source).run s) := by
  rw [Query.source_threshold q threshold, Query.source_threshold q threshold']
  refine sameScript_sifted q.source hdialect hstyle hfresh Query.stop_respects ?_
    threshold threshold'
  intro log log' columns found? rows u u' v hcolumns hfind hgather renderer row hrow cell hcell
  obtain ⟨columns, s', hread, hmap⟩ := Step.ok_of_bind hcolumns
  cases hmap
  obtain ⟨rfl, hdatabase⟩ := Query.columns_inv hread
  -- the rows are those that the database had from the beginning
  have hrows := Query.gather_inv hgather
  rw [state_of_findTable hfind, hdatabase] at hrows
  have hresult : .ok row ∈ s.state.2.client.database.rows := by rwa [hrows] at hrow
  obtain ⟨column, value, hzip, rfl⟩ := mem_zip_exportColumns hcell
  have hvalue := (List.of_mem_zip hzip).2
  have hcontent (content : Content) (hc : value = .content content) : .content content ∈ row :=
    hc ▸ hvalue
  refine ⟨rfl, fun c hc => Query.identity_lt_firstIdentity hrow (hcontent c hc),
    fun c hc => hforeign row hresult c (hcontent c hc), fun hdisplays => ?_⟩
  simp only [CellWriter.displays, cellWriter, Bool.and_eq_true, Bool.not_eq_true',
    beq_iff_eq] at hdisplays
  rcases hdisplayed with hnative | htexts
  · rw [hnative] at hdisplays
    cases hdisplays.1
  · exact htexts row hresult (column, value) hzip hdisplays.2

/-- The threshold of a file or a query makes no difference to the script, as long as no text is
wanted for display and no large object of the rows is the file that the script goes to. A large
object is written as the plain value that it stands for. -/
theorem sameScript_of_thresholds (e : Exporter) {d : Dialect} {style : LiteralStyle}
    (hdialect : e.dialect? = some d) (hstyle : style.dialect = d) :
    (∀ (csv : CsvFile) (files : FileSystem) (threshold threshold' : Int)
      (s : Logged (Sourced CsvHeader)),
      s.state.1.IsFresh style → (∀ column ∈ s.state.2.getD [], column.kind = .string) →
      SameScript ((e.script ({ csv with threshold : CsvFile }.source files)).run s)
        ((e.script ({ csv with threshold := threshold' : CsvFile }.source files)).run s)) ∧
    (∀ (q : Query) (threshold threshold' : Int) (s : Logged (Sourced QueryState)),
      s.state.1.IsFresh style →
      (e.settings.nativeFormat = true ∨ ∀ row, .ok row ∈ s.state.2.client.database.rows →
        ∀ cell ∈ (Query.resultColumns s.state.2).zip row, cell.1.kind = .datetime →
          ∀ text, cell.2 ≠ .text text) →
      (∀ row, .ok row ∈ s.state.2.client.database.rows → ∀ content, .content content ∈ row →
        (e.cellWriter s.state.1.renderer).ownTarget? content.payload = none) →
      SameScript ((e.script { q with threshold : Query }.source).run s)
        ((e.script { q with threshold := threshold' : Query }.source).run s)) ∧
    ∀ (w : CellWriter) (column : ExportColumn) (content : Content) (value : Value)
      (s : Logged Sink),
      w.WritesLiterals d → column.handler? = none → w.displays column = false →
      content.plain? = some value →
      content.unavailable = none → content.isReleased s.state.releases = false →
      Calm s.state.monitor? →
      ∃ t t', w.writeValue column (.content content) s = .ok () t ∧
        w.writeValue column value s = .ok () t' ∧ t.state.output = t'.state.output := by
  refine ⟨csv_sameScript hdialect hstyle, query_sameScript hdialect hstyle, ?_⟩
  intro w column content value s hw hcolumn hdisplays hplain havailable hopen hcalm
  obtain ⟨text, htext⟩ : ∃ text, Query.literal? d value = some text := by
    unfold Content.plain? at hplain
    split at hplain
    · cases hplain
      exact ⟨_, rfl⟩
    · cases hplain
      exact ⟨_, rfl⟩
    · cases hplain
  obtain ⟨t, ht, hwritten⟩ :=
    w.writeValue_plain? (s := s) hw hcolumn hcalm hplain havailable hopen htext
  obtain ⟨t', ht', hwritten'⟩ := w.writeValue_literal? (s := s) hw hcolumn hdisplays htext
  exact ⟨t, t', ht, ht', by rw [hwritten.output, hwritten'.output]⟩

/-- A file and a query with short texts that are large all the same under a negative threshold. -/
theorem sameScript_of_thresholds_short :
    let files : FileSystem :=
      { FileSystem.empty #[] with
        entries := [(#["notes.csv"], .file 0)]
        contents := ["id,note\n1,it's\n2,\n".toUTF8.toList] }
    let e := Exporter.make (some .mysql) { nativeFormat := false } files
    let csv : CsvFile := { path := { names := ["notes.csv"] } }
    let q : Query :=
      { plan := { parameters := { host := "db", port := 5432, database := "shop", user := "reader" }
                  lifetime := { days := 0, seconds := 300, microseconds := 0 } }
        statement := .text "SELECT * FROM notes" }
    let object : Content := { identity := 4, isText := true, payload := .text "old \\ one" }
    let database : Database :=
      { description? := some [("at", 1114), ("note", 25), ("data", 17)]
        rows :=
          [.ok [.null, .text "it's", .bytes [0, 255]], .ok [.null, .content object, .view [39]]] }
    let begun : ExportState :=
      { renderer := .literals { dialect := .mysql }, sink := { monitor? := some {} } }
    let s : Logged (Sourced CsvHeader) := { log := {}, state := (begun, none) }
    let t : Logged (Sourced QueryState) :=
      { log := {}, state := (begun, { client := { database } }) }
    let column : ExportColumn := { column := { name := "note" } }
    e.dialect? = some .mysql ∧ begun.IsFresh { dialect := .mysql } ∧
      (∀ column ∈ s.state.2.getD [], column.kind = .string) ∧
      (∀ row, .ok row ∈ t.state.2.client.database.rows →
        ∀ cell ∈ (Query.resultColumns t.state.2).zip row, cell.1.kind = .datetime →
          ∀ text, cell.2 ≠ .text text) ∧
      (∀ row, .ok row ∈ t.state.2.client.database.rows → ∀ content, .content content ∈ row →
        (e.cellWriter begun.renderer).ownTarget? content.payload = none) ∧
      (e.cellWriter begun.renderer).WritesLiterals .mysql ∧
      (e.cellWriter begun.renderer).displays column = false ∧
      object.plain? = some (.text "old \\ one") ∧
      object.isReleased begun.sink.releases = false ∧ Calm begun.sink.monitor? ∧
      SameScript ((e.script ({ csv with threshold := -1 : CsvFile }.source files)).run s)
        ((e.script (csv.source files)).run s) ∧
      SameScript ((e.script { q with threshold := 0 : Query }.source).run t)
      ((e.script q.source).run t) ∧
      ∃ u u', (e.cellWriter begun.renderer).writeValue column (.content object)
          { log := {}, state := begun.sink } = .ok () u ∧
        (e.cellWriter begun.renderer).writeValue column (.text "old \\ one")
          { log := {}, state := begun.sink } = .ok () u' ∧
        u.state.output = u'.state.output := by
  intro files e csv q object database begun s t column
  have hfresh : begun.IsFresh { dialect := .mysql } := ⟨rfl, rfl, Monitor.calm_fresh⟩
  have hheader : ∀ column ∈ s.state.2.getD [], column.kind = .string := by
    intro column hcolumn
    cases hcolumn
  have hdisplayed : ∀ row, .ok row ∈ t.state.2.client.database.rows →
      ∀ cell ∈ (Query.resultColumns t.state.2).zip row, cell.1.kind = .datetime →
        ∀ text, cell.2 ≠ .text text := by
    have hnote : (Query.columnOf "note" 25).kind ≠ .datetime := by decide
    intro row hrow cell hcell hkind text htext
    simp only [t, database, List.mem_cons, List.not_mem_nil, or_false, Except.ok.injEq] at hrow
    -- only the second column of the first row holds a text
    rcases hrow with rfl | rfl
    · simp only [t, database, Query.resultColumns, Option.getD_none, Option.getD_some,
        List.map_cons, List.map_nil,
        List.zip_cons_cons, List.zip_nil_right, List.mem_cons, List.not_mem_nil, or_false] at hcell
      rcases hcell with rfl | rfl | rfl
      · cases htext
      · exact hnote hkind
      · cases htext
    · have hvalue := (List.of_mem_zip hcell).2
      rw [htext] at hvalue
      simp at hvalue
  have hforeign : ∀ row, .ok row ∈ t.state.2.client.database.rows →
      ∀ content, .content content ∈ row →
      (e.cellWriter begun.renderer).ownTarget? content.payload = none := by
    intro row hrow content hcontent
    simp only [t, database, List.mem_cons, List.not_mem_nil, or_false, Except.ok.injEq] at hrow
    rcases hrow with rfl | rfl
    · simp at hcontent
    · obtain rfl : content = object := by simpa using hcontent
      rfl
  have hwriter : (e.cellWriter begun.renderer).WritesLiterals .mysql := ⟨rfl, rfl, _, rfl, rfl⟩
  have hstyle : ({ dialect := .mysql } : LiteralStyle).dialect = .mysql := rfl
  obtain ⟨hcsv, hquery, hvalue⟩ := sameScript_of_thresholds e rfl hstyle
  exact ⟨rfl, hfresh, hheader, hdisplayed, hforeign, hwriter, rfl, rfl, rfl, Monitor.calm_fresh,
    hcsv csv files (-1) 4000 s hfresh hheader, hquery q 0 4000 t hfresh (.inr hdisplayed) hforeign,
    hvalue _ column object _ _ hwriter rfl rfl rfl rfl rfl Monitor.calm_fresh⟩

end Exporter

end InsertScript
