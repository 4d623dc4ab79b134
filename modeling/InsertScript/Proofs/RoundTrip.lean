import InsertScript.Proofs.Cancellation
import InsertScript.Proofs.Cells
import InsertScript.Proofs.Names
import InsertScript.Proofs.Statements

/-!
# Scripts are read back

What an export writes is read back as the rows that were exported, each of them once, in their
order, and with every value in its column (`read_script`). The text is the layout of the rows, and
each row has been written as literals that stand for its values (`rows_spelled`).
-/

namespace InsertScript

open Monitor (Calm calm_worked)

/-! ### Open objects -/

namespace Value

/-- The large objects of different values, if there are any, are different ones. -/
def Distinct (first second : Value) : Prop :=
  ∀ c c', first = .content c → second = .content c' → c.identity ≠ c'.identity

theorem isOpen_release {releases : Releases} {first second : Value} (h : Distinct first second)
    (hopen : second.IsOpen releases) : second.IsOpen (first.release releases) := by
  cases second with
  | content c' =>
      cases first with
      | content c =>
          have hne : c.identity ≠ c'.identity := h c c' rfl rfl
          have hcount := Content.releaseCount_cons_of_ne releases hne
          simp only [IsOpen, Content.isReleased, release] at hopen ⊢
          rwa [hcount]
      | _ => exact hopen
  | _ => trivial

/-- Different objects that are open at first are still open when their turn comes. -/
theorem allOpen_of_pairwise {releases : Releases} {values : List Value}
    (hvalues : values.Pairwise Distinct) (hopen : ∀ value ∈ values, value.IsOpen releases) :
    AllOpen releases values := by
  induction hvalues generalizing releases with
  | nil => trivial
  | @cons value values hvalue hvalues ih =>
      refine ⟨hopen value List.mem_cons_self, ih fun other hother => ?_⟩
      exact isOpen_release (hvalue other hother) (hopen other (List.mem_cons_of_mem value hother))

end Value

/-! ### Rows -/

namespace Exporter

variable {e : Exporter} {d : Dialect}

/-- The rows of an export are written as literals that stand for their values. -/
theorem rows_spelled (rows : List Row) {s : Logged ExportState} (hcalm : Calm s.state.sink.monitor?)
    (hwriter : (e.cellWriter s.state.renderer).WritesLiterals d)
    (hcolumns : ∀ column ∈ s.state.session.columns,
      column.handler? = none ∧ (e.cellWriter s.state.renderer).displays column = false)
    (hlength : ∀ row ∈ rows, row.length = s.state.session.columns.length)
    (hvalues : ∀ row ∈ rows, ∀ value ∈ row, (value.literal? d).isSome)
    (hopen : Value.AllOpen s.state.sink.releases rows.flatten) :
    ∃ t values, e.rows (rows.map .row) s = .ok () t ∧
      t.state.session = e.countRow^[rows.length] s.state.session ∧
      t.state.sink.output = s.state.sink.output ++ e.streamed s.state.session values ∧
      List.Forall₂ d.SpellsRow values (rows.map
        (Row.literals d e.skips s.state.session.columns)) := by
  induction rows generalizing s with
  | nil => exact ⟨s, [], rfl, rfl, by simp [streamed], .nil⟩
  | cons cells rows ih =>
      rw [List.flatten_cons, Value.allOpen_append] at hopen
      obtain ⟨t, text, hcells, houtput, hreleases, hspells⟩ := CellWriter.writeRow_spells hwriter
        (s := { log := s.log, state := s.state.sink.addAll (e.beforeRow s.state.session) })
        (hlength cells List.mem_cons_self) hcolumns (hvalues cells List.mem_cons_self)
        (by rwa [Sink.monitor?_addAll]) (by rw [Sink.releases_addAll]; exact hopen.1)
      obtain ⟨hrow, htext⟩ := row_of_cells hcells houtput
      have hmonitor : (t.state.addAll e.afterRow).monitor? = s.state.sink.monitor? :=
        monitor?_of_row_ok hcalm hrow
      -- the monitor is told about the row, and the objects in it are released
      obtain ⟨u, values, hrest, hsession, hadded, hmore⟩ := ih
        (s := { log := t.log, state :=
          { s.state with
            sink := t.state.addAll e.afterRow
            session := e.countRow s.state.session : ExportState }.tell (·.worked 1) })
        (by rw [← hmonitor] at hcalm; exact calm_worked hcalm 1) hwriter hcolumns
        (fun row hrow => hlength row (List.mem_cons_of_mem cells hrow))
        (fun row hrow => hvalues row (List.mem_cons_of_mem cells hrow))
        (by
          simp only [ExportState.tell, Sink.releases_addAll, hreleases]
          exact hopen.2)
      refine ⟨u, text :: values, ?_, hsession, ?_, .cons hspells hmore⟩
      · rw [List.map_cons, Exporter.rows, Step.bind_of_ok (takeRow_ok hcalm hrow)]
        exact hrest
      · rw [hadded, streamed, ← String.append_assoc, ← htext]
        rfl

end Exporter

/-! ### Whole scripts -/

/-- The rows that a statement inserts. -/
def Statement.rows (statement : Statement) : List (List Literal) :=
  statement.insertions.flatMap (·.rows)

namespace Exporter

variable {e : Exporter} {d : Dialect}

/-- Every row of the batches is in one of their statements. -/
theorem flatMap_rows_statementOf (table columns : List Name)
    (batches : List (List (List Literal))) :
    (batches.map (e.statementOf table columns)).flatMap Statement.rows = batches.flatten := by
  induction batches with
  | nil => rfl
  | cons batch batches ih =>
      have hbatch : (e.statementOf table columns batch).rows = batch := by
        unfold statementOf Statement.rows
        by_cases hmulti : e.variant.isMultiTable = true
        · simp [hmulti, List.flatMap_map]
        · simp [hmulti]
      rw [List.map_cons, List.flatMap_cons, hbatch, ih, List.flatten_cons]

/-- Do the settings put nothing into a script that cannot be read? -/
structure IsPlain (e : Exporter) (d : Dialect) : Prop where
  dialect? : e.dialect? = some d
  userTable? : e.userTable? = none
  separator : e.settings.lineSeparator.toList.all Unicode.isBlank = true
  onConflict : d.Unmarked e.settings.onConflict.toList

/-- Is a column written by the export itself, as it is, and with a name that can be read? -/
structure IsPlainColumn (e : Exporter) (d : Dialect) (column : ExportColumn) : Prop where
  handler? : column.handler? = none
  native : e.settings.nativeFormat = true ∨ column.column.kind ≠ .datetime
  no_feed : column.name.toList.getLast? ≠ some '\n'
  not_quoted : d.isQuoted column.name.toList = false

theorem IsPlainColumn.displays_eq {column : ExportColumn} (h : e.IsPlainColumn d column)
    (renderer : Renderer) : (e.cellWriter renderer).displays column = false := by
  rcases h.native with hnative | hkind
  · simp [CellWriter.displays, cellWriter, hnative]
  · simp [CellWriter.displays, hkind]

/-- A script is read back as the exported rows, batch by batch, under the names of its source. -/
theorem read_script {σ : Type} (e : Exporter) {source : RowSource σ} {columns : List ExportColumn}
    {found? : Option String} {rows : List Row} {parts : List String} {style : LiteralStyle}
    (s : Logged (Sourced σ)) (hsize : 1 ≤ e.rowsInStatement) (hplain : e.IsPlain d)
    (hcolumns : ∀ column ∈ columns, e.IsPlainColumn d column)
    (hne : parts ≠ []) (hparts : ∀ part ∈ parts, Identifier.IsPart d part)
    (hfound : found?.getD defaultTable = ".".intercalate parts)
    (hlength : ∀ row ∈ rows, row.length = columns.length)
    (hvalues : ∀ row ∈ rows, ∀ value ∈ row, (value.literal? d).isSome)
    (hopen : Value.AllOpen s.state.1.sink.releases rows.flatten)
    (hrenderer : s.state.1.renderer = .literals style) (hstyle : style.dialect = d)
    (hcalm : Calm s.state.1.sink.monitor?)
    (hsource : e.Offers source s.state.2 columns found? (rows.map .row)) :
    ∃ result u text table names statements, e.script source s = .ok result u ∧
      u.state.1.sink.output = s.state.1.sink.output ++ text ∧
      List.Forall₂ (Name.Denotes e.settings.identifierCase) parts table ∧
      List.Forall₂ (Name.Denotes e.settings.identifierCase)
        ((e.exported columns).map ExportColumn.name) names ∧
      d.read text = some statements ∧
      statements = (pieces e.rowsInStatement (rows.map (Row.literals d e.skips columns))).map
        (e.statementOf table names) ∧
      statements.flatMap Statement.rows = rows.map (Row.literals d e.skips columns) ∧
      statements.length = (rows.length + e.rowsInStatement - 1) / e.rowsInStatement := by
  obtain ⟨begun, hbegun, -, hok⟩ := script_of_offers hsource
  have hsession : begun.state.session = e.openSession columns found? := by rw [hbegun]; rfl
  have hsink : begun.state.sink = s.state.1.sink := by rw [hbegun]; rfl
  have hwriter : (e.cellWriter begun.state.renderer).WritesLiterals d := by
    rw [hbegun]
    exact CellWriter.WritesLiterals.of_exporter hplain.dialect? hrenderer hstyle
  obtain ⟨t, values, hrows, hcounted, houtput, hspells⟩ := e.rows_spelled rows (s := begun)
    (by rwa [hsink]) hwriter
    (by
      rw [hsession]
      intro column hcolumn
      exact ⟨(hcolumns column hcolumn).handler?, (hcolumns column hcolumn).displays_eq _⟩)
    (by rwa [hsession]) hvalues (by rwa [hsink])
  rw [hsession] at hcounted houtput hspells
  obtain ⟨u, hu, hstate⟩ := hok t hrows
  -- the names are the same in all statements
  obtain ⟨table, htable, hspellsTable⟩ :=
    Identifier.spells_table e.settings.identifierCase hne hparts
  obtain ⟨names, hnames, hspellsNames⟩ := spells_columnList hplain.dialect?
    fun column hcolumn => ⟨(hcolumns column hcolumn).no_feed, (hcolumns column hcolumn).not_quoted⟩
  rw [← tableIdentifier_openSession hplain.dialect? hplain.userTable? hne
    (fun part hpart => (hparts part hpart).ne_empty)
      (fun part hpart => (hparts part hpart).whole) hfound]
    at hspellsTable
  have hreadable : e.Readable d (e.openSession columns found?) table names :=
    { separator := hplain.separator
      onConflict := hplain.onConflict
      table := hspellsTable
      columns := hspellsNames }
  -- with the footer the rows make up the layout, which is read back
  have hread := hreadable.read_layout hspells
  have hcount : values.length = rows.length := by rw [hspells.length_eq, List.length_map]
  have htext : u.state.1.sink.output
      = s.state.1.sink.output ++ e.layout (e.openSession columns found?) values := by
    have hrowCount : t.state.session.rowCount = values.length := by
      rw [hcounted, rowCount_iterate, hcount]
      exact Nat.zero_add _
    rw [hstate, finished, Sink.output_asked, Sink.output_addAll, houtput, hrowCount, hsink,
      String.append_assoc, streamed_append_closing hsize values rfl]
  refine ⟨_, u, _, table, names, _, hu, htext, htable, hnames, hread, rfl, ?_, ?_⟩
  · rw [flatMap_rows_statementOf, flatten_pieces]
    rfl
  · simp [length_pieces hsize]

/-- Three rows in batches of two, with large objects, odd names and texts that look like parts of a
script. -/
theorem read_script_onDuplicate :
    let e := Exporter.make (some .mysql)
      { rowsInStatement := 2, variant := .onDuplicate, onConflict := "n = n + 1" } (.empty #[])
    let columns := [{ column := { name := "id" } }, { column := { name := "odd name" } }]
    let rows := [[.text "it's \\ (1, 2); --", .null], [.bool true, .bytes [0, 255]],
      [.content { identity := 0, isText := true, payload := .text "a\nb" },
        .content { identity := 1, isText := false, payload := .bytes [39] }]]
    let t : RowTable := { columns, rows, name? := some "shop.order" }
    let begun : ExportState :=
      { renderer := .literals { dialect := .mysql }
        sink := { output := "-- before\n", monitor? := some {} } }
    let s : Logged (Sourced Unit) := { log := {}, state := (begun, ()) }
    1 ≤ e.rowsInStatement ∧ e.IsPlain .mysql ∧ (∀ column ∈ columns, e.IsPlainColumn .mysql column) ∧
      (∀ part ∈ ["shop", "order"], Identifier.IsPart .mysql part) ∧
      (∀ row ∈ rows, row.length = columns.length) ∧
      (∀ row ∈ rows, ∀ value ∈ row, (value.literal? .mysql).isSome) ∧
      Value.AllOpen [] rows.flatten ∧ Calm (some {}) ∧
      e.Offers t.source () columns (some "shop.order") (rows.map .row) ∧
      ∃ result u text table names statements, e.script t.source s = .ok result u ∧
        u.state.1.sink.output = "-- before\n" ++ text ∧
        List.Forall₂ (Name.Denotes .upper) ["shop", "order"] table ∧
        List.Forall₂ (Name.Denotes .upper) ["id", "odd name"] names ∧
        Dialect.mysql.read text = some statements ∧
        statements.flatMap Statement.rows = rows.map (Row.literals .mysql e.skips columns) ∧
        statements.length = 2 := by
  intro e columns rows t begun s
  have hminus : '-' ∉ "n = n + 1".toList := by decide
  have hslash : '/' ∉ "n = n + 1".toList := by decide
  have hexpression : Dialect.mysql.Unmarked "n = n + 1".toList :=
    { no_quote := by simp [Dialect.textQuote]
      no_comment := ⟨fun h => absurd (h.subset List.mem_cons_self) hminus,
        fun h => absurd (h.subset List.mem_cons_self) hslash, fun _ => by decide⟩ }
  have hplain : e.IsPlain .mysql :=
    { dialect? := rfl
      userTable? := rfl
      separator := by decide
      onConflict := hexpression }
  have hcolumns : ∀ column ∈ columns, e.IsPlainColumn .mysql column := by
    intro column hcolumn
    simp only [columns, List.mem_cons, List.not_mem_nil, or_false] at hcolumn
    rcases hcolumn with rfl | rfl
    · exact { handler? := rfl, native := .inl rfl, no_feed := by decide, not_quoted := by decide }
    · exact { handler? := rfl, native := .inl rfl, no_feed := by decide, not_quoted := by decide }
  have hparts : ∀ part ∈ ["shop", "order"], Identifier.IsPart .mysql part := by
    intro part hpart
    simp only [List.mem_cons, List.not_mem_nil, or_false] at hpart
    rcases hpart with rfl | rfl
    · exact
        { ne_empty := by decide, no_dot := by decide, no_quote := by decide, no_feed := by decide }
    · exact
        { ne_empty := by decide, no_dot := by decide, no_quote := by decide, no_feed := by decide }
  have hopen : Value.AllOpen [] rows.flatten := by
    refine Value.allOpen_of_pairwise ?_ ?_
    · simp [rows, Value.Distinct]
    · simp [rows, Value.IsOpen, Content.isReleased, Content.releaseCount]
  have hsource : e.Offers t.source () columns (some "shop.order") (rows.map .row) :=
    ⟨(), (), (), (), fun log => ⟨log, rfl⟩, fun log => ⟨log, rfl⟩, fun log => ⟨log, rfl⟩,
      fun log => ⟨log, rfl⟩⟩
  have hlength : ∀ row ∈ rows, row.length = columns.length := by decide
  have hvalues : ∀ row ∈ rows, ∀ value ∈ row, (value.literal? .mysql).isSome := by decide
  obtain ⟨result, u, text, table, names, statements, hrun, houtput, htable, hnames, hread, -, hrows,
      hcount⟩ :=
    read_script e s (by decide) hplain hcolumns (by simp) hparts rfl hlength hvalues hopen rfl rfl
      Monitor.calm_fresh hsource
  exact ⟨by decide, hplain, hcolumns, hparts, hlength, hvalues, hopen, Monitor.calm_fresh, hsource,
    result, u, text, table, names, statements, hrun, houtput, htable, hnames, hread, hrows,
    hcount.trans (by decide)⟩

end Exporter

end InsertScript
