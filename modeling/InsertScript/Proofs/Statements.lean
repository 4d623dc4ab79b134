import InsertScript.Proofs.Keywords
import InsertScript.Proofs.Layout

/-!
# Statements are read back

The layout of a script is read as its batches (`Readable.read_layout`), if the cells of each row are
read as literals. This needs the statements in all three layouts (`Readable.spells_statements`): the
single row and the grouped rows are the same statement around different blanks (`spells_rows`), and
an `INSERT ALL` is a list of insertions in which the keyword `INTO` takes the place of a comma.
-/

namespace InsertScript

open Dialect (Spells SpellsFully Breaks Ends)

/-! ### Rows -/

namespace Dialect

/-- Are the cells of a row, between brackets, read as these literals wherever they stand? -/
def SpellsRow (d : Dialect) (value : String) (literals : List Literal) : Prop :=
  d.SpellsAlways (Reader.list Reader.literal) ("(" ++ value ++ ")").toList literals

/-- Are rows read as these literals unless a comma follows, and do they break off what stands before
them? -/
structure SpellsRows (d : Dialect) (text : String) (literals : List (List Literal)) : Prop where
  spells : d.Spells (fun _ => True) Reader.rows (Reader.NotNext (· == .sign ','))
    text.toList literals
  breaks : ∀ rest, d.Breaks (text.toList ++ rest)

theorem breaks_blanks_append {d : Dialect} {blanks rest : List Char}
    (hblanks : blanks.all Unicode.isBlank = true) (hrest : d.Breaks rest) :
    d.Breaks (blanks ++ rest) := by
  cases blanks with
  | nil => exact hrest
  | cons c blanks => exact breaks_of_isBlank (Bool.and_eq_true_iff.1 hblanks).1 (blanks ++ rest)

end Dialect

variable {d : Dialect} {letters : LetterCase} {lead separator indent : String}

/-- Rows, each after blanks, with commas between them are read one by one. -/
theorem spells_rows (hlead : lead.toList.all Unicode.isBlank = true)
    (hseparator : separator.toList.all Unicode.isBlank = true)
    (hindent : indent.toList.all Unicode.isBlank = true) {values : List String}
    {literals : List (List Literal)} (hvalues : List.Forall₂ d.SpellsRow values literals)
    (hne : values ≠ []) :
    d.SpellsRows (lead ++ ("," ++ separator).intercalate
      (values.map fun value => indent ++ "(" ++ value ++ ")")) literals where
  spells := by
    have hcomma : d.ReadsAlways ("," ++ separator).toList [.sign ','] := by
      rw [String.toList_append]
      exact (Dialect.readsAlways_sign (d.isSign_of_mem (by decide))).append_before
        (Dialect.readsAlways_blanks hseparator)
    have hitems : List.Forall₂ (d.SpellsAlways (Reader.list Reader.literal))
        ((values.map fun value => indent ++ "(" ++ value ++ ")").map String.toList) literals := by
      rw [List.map_map, List.forall₂_map_left_iff]
      refine hvalues.imp fun value row hrow => ?_
      rw [Function.comp_apply, String.append_assoc, String.append_assoc, String.toList_append,
        ← String.append_assoc]
      exact hrow.blanks hindent
    have hrows : d.Spells (fun _ => True) Reader.rows
        (fun rest => True ∧ Reader.NotNext (· == .sign ',') rest) _ literals :=
      Dialect.Spells.separated hcomma (fun _ => trivial) rfl (fun _ => trivial) hitems
        (by simpa using hne)
    rw [String.toList_append, String.toList_intercalate]
    exact (hrows.blanks hlead).mono (fun _ h => h) fun rest h => ⟨trivial, h⟩
  breaks rest := by
    -- the first row begins with its bracket
    obtain ⟨value, more, rfl⟩ := List.exists_cons_of_ne_nil hne
    rw [List.map_cons, Exporter.intercalate_cons_eq_join]
    simp only [String.toList_append, List.append_assoc]
    exact Dialect.breaks_blanks_append hlead
      (Dialect.breaks_blanks_append hindent
        (Dialect.breaks_of_isSign (d.isSign_of_mem (by decide)) _))

/-! ### Insertions -/

/-- The texts of a table, its columns and rows for them, behind the verb of a statement. -/
def insertionText (table columns values rows : String) : String :=
  table ++ " (" ++ columns ++ ") " ++ values ++ rows

/-- A table, its columns and rows for them are read back as such. -/
theorem spells_insertion {table columns rows : String} {tables names : List Name}
    {literals : List (List Literal)}
    (htable : d.Spells d.Breaks Reader.table (Reader.NotNext (· == .sign '.')) table.toList tables)
    (hcolumns : d.SpellsAlways (Reader.list Reader.name) ("(" ++ columns ++ ")").toList names)
    (hrows : d.SpellsRows rows literals) :
    d.Spells (fun _ => True) Reader.insertion (Reader.NotNext (· == .sign ','))
      (insertionText table columns (letters.transform "VALUES") rows).toList
      { table := tables, columns := names, rows := literals } := by
  obtain ⟨tokens, hreads, hread⟩ := htable
  obtain ⟨tokens₁, hreads₁, hread₁⟩ := hcolumns
  obtain ⟨tokens₂, hreads₂, hread₂⟩ := hrows.spells
  obtain ⟨hvalues, hfold⟩ := reads_keyword d letters (by decide : IsCapital "VALUES")
  have hrest := hvalues.append hreads₂ fun rest _ => hrows.breaks rest
  have hall : d.ReadsAlways (table.toList ++ ([' '] ++ (("(" ++ columns ++ ")").toList ++
      ([' '] ++ ((letters.transform "VALUES").toList ++ rows.toList)))))
      (tokens ++ (tokens₁ ++ ([.word (letters.transform "VALUES")] ++ tokens₂))) :=
    Dialect.Reads.blanks_append hreads (by decide) (by decide)
      (Dialect.ReadsAlways.append_before hreads₁ (Dialect.readsAlways_blank.append_before hrest))
  refine ⟨tokens ++ (tokens₁ ++ ([.word (letters.transform "VALUES")] ++ tokens₂)), ?_, ?_⟩
  · have htext : (insertionText table columns (letters.transform "VALUES") rows).toList
        = table.toList ++ ([' '] ++ (("(" ++ columns ++ ")").toList ++
          ([' '] ++ ((letters.transform "VALUES").toList ++ rows.toList)))) := by
      simp [insertionText]
    rw [htext]
    exact hall
  · intro rest hcomma
    have hcolumns := hread₁ ([.word (letters.transform "VALUES")] ++ tokens₂ ++ rest) trivial
    -- the bracket of the columns ends the name of the table
    have hhead := Reader.head?_of_list hcolumns
    have hname := hread (tokens₁ ++ ([.word (letters.transform "VALUES")] ++ tokens₂ ++ rest)) (by
      rw [Reader.NotNext, hhead]
      rintro _ ⟨⟩
      rfl)
    have hliterals := hread₂ rest hcomma
    rw [Reader.insertion, List.append_assoc, List.append_assoc, hname]
    simp only [Option.bind_eq_bind, Option.bind_some, hcolumns]
    rw [List.append_assoc, List.singleton_append, Reader.keyword, if_pos hfold, Option.bind_some,
      hliterals]
    rfl

/-! ### Statements -/

namespace Exporter

variable {e : Exporter} {session : Session} {table columns : List Name} {rows : String}
  {literals : List (List Literal)}

/-- Are the table and the columns of a session read as these names, and is there nothing between and
behind the rows that could be taken for something else? -/
structure Readable (e : Exporter) (d : Dialect) (session : Session) (table columns : List Name) :
    Prop where
  separator : e.settings.lineSeparator.toList.all Unicode.isBlank = true
  onConflict : d.Unmarked e.settings.onConflict.toList
  table : d.Spells d.Breaks Reader.table (Reader.NotNext (· == .sign '.'))
    (e.tableIdentifier session).toList table
  columns : d.SpellsAlways (Reader.list Reader.name)
    ("(" ++ session.columnList ++ ")").toList columns

theorem Readable.isBlank_rowBreak (h : e.Readable d session table columns) :
    e.rowBreak.toList.all Unicode.isBlank = true := by
  unfold rowBreak
  split
  · exact h.separator
  · simp

/-- What a statement has after its verb. -/
def insertion (e : Exporter) (session : Session) (rows : String) : String :=
  insertionText (e.tableIdentifier session) session.columnList
    (e.settings.keywordCase.transform "VALUES") rows

theorem opening_append (startsBatch : Bool) :
    e.opening session startsBatch ++ rows
      = e.variant.opening e.settings.keywordCase startsBatch ++ " " ++
        e.insertion session rows := by
  simp [opening, insertion, insertionText, Variant.valuesKeyword, String.append_assoc]

theorem Readable.spells_insertion (h : e.Readable d session table columns)
    (hrows : d.SpellsRows rows literals) :
    d.Spells (fun _ => True) Reader.insertion (Reader.NotNext (· == .sign ','))
      (e.insertion session rows).toList { table, columns, rows := literals } :=
  InsertScript.spells_insertion h.table h.columns hrows

/-- A statement with one table is read up to its semicolon. -/
theorem Readable.spells_statement (h : e.Readable d session table columns)
    (hvariant : e.variant ≠ .insertAll) (hrows : d.SpellsRows rows literals) :
    d.SpellsAlways Reader.statement (e.opening session true ++ rows ++
      e.conflictClause ++ ";").toList
      { verb := e.variant.verb, insertions := [{ table, columns, rows := literals }] } := by
  obtain ⟨tokens, hreads, hread⟩ := e.variant.spells_opening d e.settings.keywordCase
  obtain ⟨tokens₁, hreads₁, hread₁⟩ := h.spells_insertion hrows
  obtain ⟨tokens₂, hreads₂, hends, hcomma⟩ :=
    e.variant.exists_tokens_conflictClause e.settings.keywordCase h.onConflict
  have hsemicolon := d.isSign_of_mem (by decide : ';' ∈ _)
  have hend : d.ReadsAlways (e.conflictClause.toList ++ [';']) (tokens₂ ++ [.sign ';']) :=
    hreads₂.append (Dialect.readsAlways_sign hsemicolon) fun rest _ => rfl
  have hall : d.ReadsAlways ((e.variant.opening e.settings.keywordCase true).toList ++
      ([' '] ++ ((e.insertion session rows).toList ++ (e.conflictClause.toList ++ [';']))))
      (tokens ++ (tokens₁ ++ (tokens₂ ++ [.sign ';']))) :=
    Dialect.Reads.blanks_append hreads (by decide) (by decide)
      (Dialect.ReadsAlways.append_before hreads₁ hend)
  refine ⟨tokens ++ (tokens₁ ++ (tokens₂ ++ [.sign ';'])), ?_, ?_⟩
  · rw [opening_append]
    simp only [String.toList_append, List.append_assoc] at hall ⊢
    exact hall
  · intro rest _
    have hverb := hread (tokens₁ ++ (tokens₂ ++ [.sign ';']) ++ rest) trivial
    have hnext : Reader.NotNext (· == .sign ',') (tokens₂ ++ [.sign ';'] ++ rest) := by
      cases tokens₂ with
      | nil =>
          rintro _ ⟨⟩
          rfl
      | cons token tokens₂ =>
          rintro _ ⟨⟩
          simpa using hcomma
    have hinsertion := hread₁ (tokens₂ ++ [.sign ';'] ++ rest) hnext
    have hleave := Reader.leave_append hends rest
    have hall : e.variant.verb ≠ ["INSERT", "ALL"] := by
      cases hv : e.variant with
      | insertAll => exact absurd hv hvariant
      | _ => decide
    rw [Reader.statement, List.append_assoc, hverb]
    simp only [Option.bind_eq_bind, Option.bind_some, if_neg hall]
    rw [List.append_assoc, hinsertion, Option.bind_some, List.append_assoc,
      List.singleton_append, hleave]
    rfl

/-! ### Statements with several tables -/

/-- A row on the line of its table is read as such. -/
theorem spells_single {value : String} {row : List Literal} (h : d.SpellsRow value row) :
    d.SpellsRows (" (" ++ value ++ ")") [row] := by
  have htext : " (" ++ value ++ ")"
      = " " ++ ("," ++ "").intercalate ([value].map fun value => "" ++ "(" ++ value ++ ")") := by
    simp [← show " " ++ "(" = " (" from rfl, -String.reduceAppend, String.append_assoc]
  rw [htext]
  exact spells_rows (by decide) (by decide) (by decide) (.cons h .nil) (by simp)

/-- What stands between the rows of an `INSERT ALL`. -/
def intoNext (e : Exporter) : String :=
  e.rowBreak ++ "\t" ++ e.settings.keywordCase.transform "INTO" ++ " "

/-- A statement for several tables is one opening with all insertions behind it, and the selection
that closes it. -/
theorem multiTableStatement_eq (hvariant : e.variant = .insertAll) {values : List String}
    (hne : values ≠ []) :
    e.multiTableStatement session values
      = e.variant.opening e.settings.keywordCase true ++ " " ++
        e.intoNext.intercalate (values.map fun value =>
          e.insertion session (" (" ++ value ++ ")")) ++
          e.settings.lineSeparator ++ e.closingSelect ++ ";" := by
  have hclause (startsBatch : Bool) (value : String) : e.clause session startsBatch value
      = e.variant.opening e.settings.keywordCase startsBatch ++ " " ++
        e.insertion session (" (" ++ value ++ ")") := by
    have hopening : e.clause session startsBatch value
        = e.opening session startsBatch ++ (" (" ++ value ++ ")") := by
      simp only [clause, String.append_assoc]
    rw [hopening, opening_append]
  have hlater : e.variant.opening e.settings.keywordCase false
      = "\t" ++ e.settings.keywordCase.transform "INTO" := by rw [hvariant]; rfl
  obtain ⟨value, rest, rfl⟩ := List.exists_cons_of_ne_nil hne
  rw [multiTableStatement, clauses, List.map_cons, intercalate_cons_eq_join,
    intercalate_cons_eq_join, List.map_map, List.map_map, hclause]
  simp only [Function.comp_def, hclause, hlater, intoNext, String.append_assoc]

/-- The end of an `INSERT ALL` is passed over, and is no further row. -/
theorem Readable.exists_tokens_closing (h : e.Readable d session table columns) :
    ∃ tokens, d.ReadsAlways
        (e.settings.lineSeparator.toList ++ (e.closingSelect.toList ++ [';'])) tokens ∧
      ∀ rest, Reader.NotNext (· == .sign ',') (tokens ++ rest) ∧
        Reader.NotNext Reader.isInto (tokens ++ rest) ∧
        (Reader.closingQuery.foldlM (fun tokens word => Reader.keyword word tokens)
          (tokens ++ rest)).bind Reader.leave = some rest := by
  have hquery := Variant.reads_closingSelect d e.settings.keywordCase
  have hsemicolon := d.isSign_of_mem (by decide : ';' ∈ _)
  have hselect := (reads_keyword d e.settings.keywordCase (by decide : IsCapital "SELECT")).2
  refine ⟨_, (Dialect.readsAlways_blanks h.separator).append_before (hquery.append_before
    (Dialect.readsAlways_sign hsemicolon) (Dialect.breaks_of_isSign hsemicolon []) (by simp)), ?_⟩
  intro rest
  refine ⟨?_, ?_, ?_⟩
  · rintro _ ⟨⟩
    rfl
  · rintro _ ⟨⟩
    simp [Reader.isInto, Reader.keyword, hselect]
  · have hfold := Reader.keywords_foldlM e.settings.keywordCase
      (by decide : ∀ word ∈ Reader.closingQuery, IsCapital word) (.sign ';' :: rest)
    rw [List.nil_append, List.append_assoc, List.singleton_append, hfold]
    rfl

theorem Readable.readsAlways_intoNext (h : e.Readable d session table columns) :
    d.ReadsAlways e.intoNext.toList [.word (e.settings.keywordCase.transform "INTO")] := by
  have hblanks : (e.rowBreak ++ "\t").toList.all Unicode.isBlank = true := by
    rw [String.toList_append, List.all_append, h.isBlank_rowBreak]
    decide
  have hinto := (reads_keyword d e.settings.keywordCase (by decide : IsCapital "INTO")).1
  have hword :=
    hinto.append_before Dialect.readsAlways_blank (Dialect.breaks_of_isBlank (by decide) [])
      (by simp)
  have htext : e.intoNext.toList = (e.rowBreak ++ "\t").toList ++
      ((e.settings.keywordCase.transform "INTO").toList ++ [' ']) := by
    simp [intoNext, String.append_assoc]
  rw [htext]
  exact (Dialect.readsAlways_blanks hblanks).append_before hword

/-- The rows of an `INSERT ALL` are read one by one, each with its table. -/
theorem Readable.spells_insertions (h : e.Readable d session table columns) {values : List String}
    (hvalues : List.Forall₂ d.SpellsRow values literals) (hne : values ≠ []) :
    d.Spells (fun _ => True) (Reader.separated Reader.insertion Reader.isInto)
      (fun rest => Reader.NotNext (· == .sign ',') rest ∧ Reader.NotNext Reader.isInto rest)
      (e.intoNext.intercalate (values.map fun value =>
        e.insertion session (" (" ++ value ++ ")"))).toList
      (literals.map fun row => { table, columns, rows := [row] }) := by
  have hfold := (reads_keyword d e.settings.keywordCase (by decide : IsCapital "INTO")).2
  have hinto : Reader.isInto (.word (e.settings.keywordCase.transform "INTO")) = true := by
    simp [Reader.isInto, Reader.keyword, hfold]
  have hnext : ∀ rest, Reader.NotNext (· == .sign ',')
      (.word (e.settings.keywordCase.transform "INTO") :: rest) := by
    rintro rest _ ⟨⟩
    rfl
  have hitems : List.Forall₂
      (d.Spells (fun _ => True) Reader.insertion (Reader.NotNext (· == .sign ',')))
      ((values.map fun value => e.insertion session (" (" ++ value ++ ")")).map String.toList)
      (literals.map fun row => { table, columns, rows := [row] }) := by
    rw [List.map_map, List.forall₂_map_left_iff, List.forall₂_map_right_iff]
    exact hvalues.imp fun value row hrow => h.spells_insertion (spells_single hrow)
  rw [String.toList_intercalate]
  exact Dialect.Spells.separated h.readsAlways_intoNext (fun _ => trivial) hinto hnext hitems
    (by simpa using hne)

/-- An `INSERT ALL` is read with an insertion for every row. -/
theorem Readable.spells_multiTableStatement (h : e.Readable d session table columns)
    (hvariant : e.variant = .insertAll) {values : List String}
    (hvalues : List.Forall₂ d.SpellsRow values literals) (hne : values ≠ []) :
    d.SpellsAlways Reader.statement (e.multiTableStatement session values).toList
      { verb := e.variant.verb
        insertions := literals.map fun row => { table, columns, rows := [row] } } := by
  obtain ⟨tokens, hreads, hread⟩ := e.variant.spells_opening d e.settings.keywordCase
  obtain ⟨tokens₁, hreads₁, hread₁⟩ := h.spells_insertions hvalues hne
  obtain ⟨tokens₂, hreads₂, hclosing⟩ := h.exists_tokens_closing
  have hall : d.ReadsAlways ((e.variant.opening e.settings.keywordCase true).toList ++
      ([' '] ++ (_ ++ (e.settings.lineSeparator.toList ++ (e.closingSelect.toList ++ [';'])))))
      (tokens ++ (tokens₁ ++ tokens₂)) :=
    Dialect.Reads.blanks_append hreads (by decide) (by decide)
      (Dialect.ReadsAlways.append_before hreads₁ hreads₂)
  refine ⟨tokens ++ (tokens₁ ++ tokens₂), ?_, ?_⟩
  · rw [multiTableStatement_eq hvariant hne]
    simp only [String.toList_append, List.append_assoc] at hall ⊢
    exact hall
  · intro rest _
    obtain ⟨hcomma, hinto, hleave⟩ := hclosing rest
    have hverb := hread (tokens₁ ++ tokens₂ ++ rest) trivial
    have hinsertions := hread₁ (tokens₂ ++ rest) ⟨hcomma, hinto⟩
    have hall : e.variant.verb = ["INSERT", "ALL"] := by rw [hvariant]; rfl
    rw [Reader.statement, List.append_assoc, hverb]
    simp only [Option.bind_eq_bind, Option.bind_some, if_pos hall]
    rw [List.append_assoc, hinsertions, Option.bind_some, ← Option.bind_assoc, hleave]
    rfl

/-! ### Scripts -/

/-- Lists whose items belong together have pieces that do so. -/
theorem forall₂_pieces {α β : Type} {r : α → β → Prop} (size : Nat) {items : List α}
    {others : List β} (h : List.Forall₂ r items others) :
    List.Forall₂ (fun piece other => piece ≠ [] ∧ List.Forall₂ r piece other) (pieces size items)
      (pieces size others) := by
  fun_induction pieces size items generalizing others with
  | case1 =>
      cases h
      rw [pieces]
      exact .nil
  | case2 item rest ih =>
      cases h with
      | cons hitem hrest =>
          rw [pieces]
          have hpiece := List.Forall₂.cons hitem (List.forall₂_take (size - 1) hrest)
          exact .cons ⟨by simp, hpiece⟩ (ih (List.forall₂_drop (size - 1) hrest))

/-- What is read of a batch of rows. -/
def statementOf (e : Exporter) (table columns : List Name) (batch : List (List Literal)) :
    Statement :=
  { verb := e.variant.verb
    insertions :=
      if e.variant.isMultiTable then batch.map fun row => { table, columns, rows := [row] }
      else [{ table, columns, rows := batch }] }

/-- The rows of a statement are read one by one, on one line or on lines of their own. -/
theorem Readable.spells_groupedRows (h : e.Readable d session table columns) {values : List String}
    (hvalues : List.Forall₂ d.SpellsRow values literals) (hne : values ≠ []) :
    d.SpellsRows (e.groupedRows values) literals := by
  -- the rows differ in their blanks only
  by_cases hline : e.settings.lineBeforeRows = true
  · have htext : e.groupedRows values = e.settings.lineSeparator ++
        ("," ++ e.settings.lineSeparator).intercalate
          (values.map fun value => "\t" ++ "(" ++ value ++ ")") := by
      rw [groupedRows, if_pos hline]
      rfl
    rw [htext]
    exact spells_rows h.separator h.separator (by decide) hvalues hne
  · have htext : e.groupedRows values
        = " " ++ ("," ++ "").intercalate (values.map fun value => "" ++ "(" ++ value ++ ")") := by
      rw [groupedRows, if_neg hline]
      rfl
    rw [htext]
    exact spells_rows (by decide) (by decide) (by decide) hvalues hne

/-- Every batch of rows is read as a statement with these rows. -/
theorem Readable.spells_statements (h : e.Readable d session table columns) {values : List String}
    (hvalues : List.Forall₂ d.SpellsRow values literals) :
    List.Forall₂ (fun text statement => d.SpellsAlways Reader.statement text.toList statement)
      (e.statements session values)
      ((pieces e.rowsInStatement literals).map (e.statementOf table columns)) := by
  unfold statements
  by_cases hmulti : e.variant.isMultiTable = true
  · have hvariant : e.variant = .insertAll := by simpa [Variant.isMultiTable] using hmulti
    rw [if_pos hmulti, List.forall₂_map_left_iff, List.forall₂_map_right_iff]
    refine (forall₂_pieces e.rowsInStatement hvalues).imp fun piece batch ⟨hne, hbatch⟩ => ?_
    rw [statementOf, if_pos hmulti]
    exact h.spells_multiTableStatement hvariant hbatch hne
  · have hvariant : e.variant ≠ .insertAll := by simpa [Variant.isMultiTable] using hmulti
    rw [if_neg hmulti]
    by_cases hone : e.rowsInStatement = 1
    · -- single rows are batches of one row
      rw [if_pos hone, hone, pieces_one, List.map_map, List.forall₂_map_left_iff,
        List.forall₂_map_right_iff]
      refine hvalues.imp fun value row hrow => ?_
      have hstatement := h.spells_statement hvariant (spells_single hrow)
      rw [Function.comp_apply, statementOf, if_neg hmulti, singleStatement]
      simpa only [String.append_assoc] using hstatement
    · rw [if_neg hone, List.forall₂_map_left_iff, List.forall₂_map_right_iff]
      refine (forall₂_pieces e.rowsInStatement hvalues).imp fun piece batch ⟨hne, hbatch⟩ => ?_
      rw [statementOf, if_neg hmulti]
      exact h.spells_statement hvariant (h.spells_groupedRows hbatch hne)

/-- A statement is read, and then those behind it. -/
theorem statements_append {tokens more : List Token} {first : Statement} {rest : List Statement}
    (hfirst : ∀ left, Reader.statement (tokens ++ left) = some (first, left))
    (hrest : Reader.statements more = some rest) :
    Reader.statements (tokens ++ more) = some (first :: rest) := by
  cases tokens with
  | nil => cases hfirst []  -- no statement is read from nothing
  | cons token tokens =>
      have hread := hfirst more
      rw [List.cons_append] at hread ⊢
      rw [Reader.statements, hread]
      simp only [List.length_append, Nat.le_add_left, if_true, hrest, Option.map_some]

/-- Statements with blanks between them are read one after the other. -/
theorem exists_tokens_statements {separator : String}
    (hseparator : separator.toList.all Unicode.isBlank = true) {texts : List String}
    {statements : List Statement}
    (h : List.Forall₂ (fun text statement => d.SpellsAlways Reader.statement text.toList statement)
      texts statements) :
    ∃ tokens, d.ReadsAlways (separator.intercalate texts).toList tokens ∧
      Reader.statements tokens = some statements := by
  induction h with
  | nil => exact ⟨[], Dialect.readsAlways_nil, by rw [Reader.statements]⟩
  | @cons text statement texts statements hfirst hmore ih =>
      obtain ⟨tokens, hreads, hread⟩ := hfirst
      cases texts with
      | nil =>
          cases hmore
          have hlast : Reader.statements (tokens ++ []) = some [statement] :=
            statements_append (fun left => hread left trivial) (by rw [Reader.statements])
          rw [List.append_nil] at hlast
          exact ⟨tokens, by rw [String.intercalate_singleton]; exact hreads, hlast⟩
      | cons next texts =>
          obtain ⟨more, hmore, hrest⟩ := ih
          refine ⟨tokens ++ more, ?_, statements_append (fun left => hread left trivial) hrest⟩
          rw [String.intercalate_cons_cons, String.toList_append, String.toList_append,
            List.append_assoc]
          exact Dialect.ReadsAlways.append_before hreads
            ((Dialect.readsAlways_blanks hseparator).append_before hmore)

/-- A script is read as its statements. -/
theorem Readable.read_layout (h : e.Readable d session table columns) {values : List String}
    (hvalues : List.Forall₂ d.SpellsRow values literals) :
    d.read (e.layout session values)
      = some ((pieces e.rowsInStatement literals).map (e.statementOf table columns)) := by
  obtain ⟨tokens, hreads, hread⟩ :=
    exists_tokens_statements h.isBlank_rowBreak (h.spells_statements hvalues)
  have htokens : d.tokens (e.layout session values).toList = some tokens := by
    by_cases hempty : values = []
    · have hnone : e.statements session values = [] := by simp [hempty, statements, pieces]
      have hall := hreads [] trivial
      rw [hnone] at hall
      rw [layout, if_pos hempty]
      simpa using hall
    · have hall := hreads.append_before (Dialect.readsAlways_blanks h.separator) [] trivial
      rw [layout, if_neg hempty, String.toList_append]
      simpa using hall
  rw [Dialect.read, htokens]
  exact hread

end Exporter

end InsertScript
