import InsertScript.Source.Csv
import Mathlib.Data.List.TakeWhile
import InsertScript.Proofs.Cancellation
import InsertScript.Proofs.QueryTables
import InsertScript.Proofs.DottedNames

/-!
# Tables without their schema

A source leaves out the schema by taking what follows the last dot of the table's name, and a table
is written part by part, with dots between quotes inside of the parts. The two agree exactly if the
last part has no dot (`splitName_stripSchema_iff`). Dots between the quotes of the qualifier do no
harm.
-/

namespace InsertScript

/-! ### What follows the last dot -/

/-- Can it be a part of a dotted name: a word without dots and double quotes, or anything between
double quotes, its own ones doubled? -/
inductive IsTablePart : List Char → Prop
  | bare {word : List Char} (hne : word ≠ []) (hdot : '.' ∉ word) (hquote : '"' ∉ word) :
      IsTablePart word
  | delimited (inner : List Char) : IsTablePart ('"' :: Dialect.generic.doubleQuotes inner ++ ['"'])

theorem IsTablePart.whole {part : List Char} (h : IsTablePart part) :
    Dialect.generic.Whole part := by
  cases h with
  | bare _ hdot hquote =>
      refine Dialect.whole_of_plain fun c hc => ⟨?_, ?_⟩
      · rintro rfl
        exact hdot hc
      · rintro rfl
        exact hquote hc
  | delimited inner => exact Dialect.generic.whole_delimited inner

/-- A part does not end in a dot. -/
theorem IsTablePart.exists_getLast? {part : List Char} (h : IsTablePart part) :
    ∃ c, part.getLast? = some c ∧ c ≠ '.' := by
  cases h with
  | bare hne hdot =>
      refine ⟨part.getLast hne, List.getLast?_eq_some_getLast hne, ?_⟩
      rintro heq
      exact hdot (heq ▸ List.getLast_mem hne)
  | delimited inner => exact ⟨'"', List.getLast?_concat, by decide⟩

theorem toList_stripSchema (name : String) :
    (stripSchema name).toList = (name.toList.reverse.takeWhile (· ≠ '.')).reverse := by
  rw [stripSchema, String.toList_ofList]

theorem dot_not_mem_stripSchema (name : String) : '.' ∉ (stripSchema name).toList := by
  rw [toList_stripSchema, List.mem_reverse]
  intro hdot
  exact absurd (List.all_eq_true.1 List.all_takeWhile '.' hdot) (by decide)

/-- Something follows the last dot of a name that does not end in a dot. -/
theorem stripSchema_ne_empty {name : String} {c : Char} (hlast : name.toList.getLast? = some c)
    (hc : c ≠ '.') : stripSchema name ≠ "" := by
  obtain ⟨before, hname⟩ := List.getLast?_eq_some_iff.1 hlast
  rw [Ne, ← String.toList_inj, toList_stripSchema, hname, List.reverse_append,
    List.reverse_singleton, List.singleton_append, List.takeWhile_cons_of_pos (by simpa using hc)]
  simp

theorem intercalate_append_singleton (before : List (List Char)) (last : List Char) :
    ['.'].intercalate (before ++ [last]) = last ∨
      ∃ qualifier, ['.'].intercalate (before ++ [last]) = qualifier ++ '.' :: last := by
  induction before with
  | nil => exact .inl List.intercalate_singleton
  | cons part before ih =>
      obtain ⟨next, more, hmore⟩ : ∃ next more, before ++ [last] = next :: more :=
        List.exists_cons_of_ne_nil (by simp)
      rw [hmore] at ih
      rw [List.cons_append, hmore, List.intercalate_cons_cons]
      rcases ih with hlast | ⟨qualifier, hlast⟩
      · exact .inr ⟨part, by rw [hlast]; simp⟩
      · exact .inr ⟨part ++ '.' :: qualifier, by rw [hlast]; simp⟩

/-- What follows the last dot is the last part exactly if that part has no dot. -/
theorem stripSchema_eq_iff {name : String} {before : List (List Char)} {last : List Char}
    (h : name.toList = ['.'].intercalate (before ++ [last])) :
    (stripSchema name).toList = last ↔ '.' ∉ last := by
  constructor
  · rintro rfl
    exact dot_not_mem_stripSchema name
  · intro hdot
    have hrun : ∀ c ∈ last.reverse, decide (c ≠ '.') = true := by
      intro c hc
      rw [decide_eq_true_eq]
      rintro rfl
      exact hdot (List.mem_reverse.1 hc)
    rw [toList_stripSchema, h]
    rcases intercalate_append_singleton before last with hlast | ⟨qualifier, hlast⟩
    · rw [hlast, List.takeWhile_eq_self_iff.2 hrun, List.reverse_reverse]
    · rw [hlast, List.reverse_append, List.reverse_cons, List.append_assoc,
        TableName.takeWhile_append_of_stop hrun (by simp), List.reverse_reverse]

/-! ### Parts as they are written -/

namespace Dialect

variable {d : Dialect}

/-- Quoting adds no dot and takes none away. -/
theorem dot_mem_quoteName {name : List Char} : '.' ∈ d.quoteName name ↔ '.' ∈ name := by
  have hquote : '.' ≠ d.quote := by cases d <;> decide
  unfold quoteName
  split
  · exact Iff.rfl
  · split
    · exact Iff.rfl
    · simp [hquote, mem_doubleQuotes]

end Dialect

namespace Exporter

variable {e : Exporter} {name : String} {part : List Char} {σ : Type}

/-- The rules by which the parts of a table's name are told apart. -/
def splitter (e : Exporter) : Dialect := e.dialect?.getD .generic

/-- A part of the name of a source's table as it is written. -/
def writtenPart (e : Exporter) (part : List Char) : List Char :=
  match e.dialect? with
  | none => part
  | some d => Identifier.writtenPart d e.settings.identifierCase part

/-- Dots are neither added nor lost where a part is written. -/
theorem dot_mem_writtenPart : '.' ∈ e.writtenPart part ↔ '.' ∈ part := by
  unfold writtenPart
  cases e.dialect? with
  | none => exact Iff.rfl
  | some d =>
      rcases Identifier.writtenPart_cases d e.settings.identifierCase part with ⟨-, hwritten⟩ | ⟨-,
        -, hplain, hwritten⟩
      · simp only [hwritten, Dialect.dot_mem_quoteName]
      · -- a plain part has no dot in any letter case
        simp only [hwritten]
        have hnone := d.plain_change .mixed hplain (c := '.')
        refine iff_of_false ?_ fun hdot => (hnone hdot).1 rfl
        intro hdot
        obtain ⟨c, hc, hchanged⟩ := List.mem_map.1 hdot
        exact (d.plain_change e.settings.identifierCase hplain hc).1 hchanged

/-- The table of a source is written part by part. -/
theorem splitName_tableIdentifier (columns : List ExportColumn) (huser : e.userTable? = none)
    (hname : name ≠ "") :
    e.splitter.splitName (e.tableIdentifier (e.openSession columns (some name))).toList
      = (e.splitter.splitName name.toList).map e.writtenPart := by
  unfold splitter writtenPart
  cases hd : e.dialect? with
  | none =>
      have htable : e.tableIdentifier (e.openSession columns (some name)) = name := by
        unfold tableIdentifier
        simp only [hd, openSession, tableName, huser, quoteFound, hname, if_false]
      rw [htable]
      simp
  | some d =>
      rw [tableIdentifier_some hd huser hname]
      exact Identifier.splitName_transformTable d e.settings.identifierCase name

/-- An export that leaves out the schema, or does not. -/
def omitting (e : Exporter) (omits : Bool) : Exporter :=
  { e with settings := { e.settings with omitSchema := omits } }

/-- Does an export of a source in a state write into this table? -/
def WritesInto (e : Exporter) (source : RowSource σ) (state : σ) (columns : List ExportColumn)
    (table : String) : Prop :=
  ∃ found? after, (e.findTable source).Answers state found? after ∧
    table = e.tableIdentifier (e.openSession columns found?)

/-- Does an export that leaves out the schema write into the same table as one that keeps it,
without the parts in front of the last one? -/
def OmitsQualifier (e : Exporter) (source : RowSource σ) (state : σ) (columns : List ExportColumn) :
    Prop :=
  ∃ bare full qualifier, (e.omitting true).WritesInto source state columns bare ∧
    (e.omitting false).WritesInto source state columns full ∧
    e.splitter.splitName bare.toList = [bare.toList] ∧
    e.splitter.splitName full.toList = qualifier ++ [bare.toList]

end Exporter

/-- Does a source name this table, with the schema that it may have? -/
inductive NamesTable : {σ : Type} → RowSource σ → String → Prop
  | csv (csv : CsvFile) (files : FileSystem) : NamesTable (csv.source files) (csv.tableName false)
  | query {q : Query} {name : String} (h : q.findTableName false = .ok (some name)) :
      NamesTable q.source name

theorem CsvFile.tableName_eq (csv : CsvFile) (bare : Bool) :
    csv.tableName bare = if bare then stripSchema (csv.tableName false) else
      csv.tableName false := by
  cases bare <;> rfl

theorem Query.findTableName_eq_map (q : Query) (bare : Bool) :
    q.findTableName bare = (q.findTableName false).map fun name? =>
      if bare then name?.map stripSchema else name? := by
  simp only [findTableName]
  cases q.tableName?.filter (· ≠ "") with
  | some name => cases bare <;> rfl
  | none => cases q.statement <;> cases bare <;> rfl

theorem NamesTable.tableName_eq {σ : Type} {source : RowSource σ} {name : String}
    (h : NamesTable source name) (bare : Bool) :
    source.tableName bare = pure (some (if bare then stripSchema name else name)) := by
  cases h with
  | csv csv files =>
      show pure (some (csv.tableName bare)) = _
      rw [csv.tableName_eq]
  | query h =>
      show Step.ofExcept _ = _
      rw [Query.findTableName_eq_map, h]
      cases bare <;> rfl

namespace Exporter

variable {e : Exporter} {columns : List ExportColumn} {name : String} {σ : Type}
  {source : RowSource σ} {state : σ}

/-- An export writes into the table that the source names, with or without its schema. -/
theorem writesInto_iff (huser : e.userTable? = none)
    (hsource : NamesTable source name) (omits : Bool)
    {table : String} :
    (e.omitting omits).WritesInto source state columns table ↔
      table = e.tableIdentifier (e.openSession columns
        (some (if omits then stripSchema name else name))) := by
  have hfind : (e.omitting omits).findTable source =
      pure (some (if omits then stripSchema name else name)) := by
    have huser' : (e.omitting omits).userTable? = none := huser
    rw [findTable, huser']
    exact hsource.tableName_eq omits
  unfold WritesInto
  rw [hfind]
  constructor
  · rintro ⟨found?, after, hanswers, rfl⟩
    obtain ⟨log, hanswer⟩ := hanswers {}
    cases hanswer
    rfl
  · rintro rfl
    exact ⟨_, state, fun log => ⟨log, rfl⟩, rfl⟩

/-- The qualifier is left out exactly if the last part of the name has no dot. -/
theorem omitsQualifier_iff (huser : e.userTable? = none) (hsource : NamesTable source name)
    (hstripped : stripSchema name ≠ "") :
    e.OmitsQualifier source state columns ↔
      ∀ last ∈ (e.splitter.splitName name.toList).getLast?, '.' ∉ last := by
  have hname : name ≠ "" := by
    rintro rfl
    exact hstripped (by decide)
  obtain ⟨before, last, hsplit⟩ := e.splitter.exists_splitName_eq_append name.toList
  have hstrip := stripSchema_eq_iff ((e.splitter.intercalate_splitName name.toList).symm.trans
    (congrArg (['.'].intercalate ·) hsplit))
  have hfull := splitName_tableIdentifier columns huser hname
  rw [hsplit, List.map_append, List.map_singleton] at hfull
  -- the name without its schema has no dot, also as it is written
  have hbare := splitName_tableIdentifier columns huser hstripped
  rw [Dialect.splitName_of_not_mem (dot_not_mem_stripSchema name), List.map_singleton] at hbare
  have htext := e.splitter.intercalate_splitName
    (e.tableIdentifier (e.openSession columns (some (stripSchema name)))).toList
  rw [hbare, List.intercalate_singleton] at htext
  simp only [OmitsQualifier, writesInto_iff huser hsource, if_true, Bool.false_eq_true,
    if_false, hsplit, List.getLast?_concat, Option.mem_some_iff, forall_eq']
  constructor
  · rintro ⟨_, _, qualifier, rfl, rfl, -, hparts⟩ hdot
    have hwritten : e.writtenPart last = e.writtenPart (stripSchema name).toList := by
      rw [htext]
      exact (List.append_singleton_inj.1 (hfull.symm.trans hparts)).2
    rw [← dot_mem_writtenPart (e := e), hwritten, dot_mem_writtenPart] at hdot
    exact dot_not_mem_stripSchema name hdot
  · intro hdot
    obtain rfl := hstrip.2 hdot
    refine ⟨_, _, before.map e.writtenPart, rfl, rfl, ?_, ?_⟩
    · rw [hbare, ← htext]
    · rw [hfull, ← htext]

end Exporter

/-! ### Names in parts -/

/-- A name is made up of parts. -/
structure IsDotted (name : String) (parts : List (List Char)) : Prop where
  parts_ne_nil : parts ≠ []
  isTablePart : ∀ part ∈ parts, IsTablePart part
  toList_eq : name.toList = ['.'].intercalate parts

namespace IsDotted

variable {name : String} {parts : List (List Char)}

theorem exists_eq_append (h : IsDotted name parts) : ∃ before last, parts = before ++ [last] :=
  ⟨parts.dropLast, parts.getLast h.parts_ne_nil, (List.dropLast_append_getLast h.parts_ne_nil).symm⟩

theorem splitName_eq (h : IsDotted name parts) : Dialect.generic.splitName name.toList = parts := by
  obtain ⟨before, last, rfl⟩ := h.exists_eq_append
  have hareParts : Dialect.generic.AreParts (before ++ [last]) :=
    ⟨before, last, rfl, fun part hpart => (h.isTablePart part (List.mem_append_left _ hpart)).whole,
      (h.isTablePart last (by simp)).whole.unsplit⟩
  rw [h.toList_eq, hareParts.splitName_intercalate]

theorem stripSchema_ne_empty (h : IsDotted name parts) : stripSchema name ≠ "" := by
  obtain ⟨before, last, rfl⟩ := h.exists_eq_append
  obtain ⟨c, hlast, hc⟩ := (h.isTablePart last (by simp)).exists_getLast?
  refine InsertScript.stripSchema_ne_empty ?_ hc
  rw [h.toList_eq]
  rcases intercalate_append_singleton before last with heq | ⟨qualifier, heq⟩
  · rw [heq, hlast]
  · rw [heq, List.append_cons, List.getLast?_append, hlast, Option.some_or]

end IsDotted

/-- What follows the last dot of a name is its last part exactly if that part has no dot. Leaving
out the schema keeps the table exactly if this is so by the rules of the script. -/
theorem splitName_stripSchema_iff {name : String} {parts : List (List Char)}
    (h : IsDotted name parts) :
    ((Dialect.generic.splitName name.toList).getLast? = some (stripSchema name).toList ↔
        ∀ last ∈ parts.getLast?, '.' ∉ last) ∧
      ∀ {σ : Type} (source : RowSource σ), NamesTable source name →
        ∀ (e : Exporter), e.userTable? = none →
        ∀ state columns, e.OmitsQualifier source state columns ↔
          ∀ last ∈ (e.splitter.splitName name.toList).getLast?, '.' ∉ last := by
  refine ⟨?_, fun source hsource e huser state columns =>
    Exporter.omitsQualifier_iff huser hsource h.stripSchema_ne_empty⟩
  obtain ⟨before, last, rfl⟩ := h.exists_eq_append
  rw [h.splitName_eq, List.getLast?_concat, Option.some_inj, eq_comm,
    stripSchema_eq_iff h.toList_eq]
  simp

/-- A dot in the qualifier does not matter. -/
theorem splitName_stripSchema_iff_orders :
    let name := "\"a.b\".Orders"
    let q : Query :=
      { plan := Exporter.anyPlan, statement := .text "SELECT id FROM \"a.b\".Orders WHERE id > 1" }
    let e := Exporter.make (some .oracle) { identifierCase := .lower } (.empty #[])
    IsDotted name ["\"a.b\"".toList, "Orders".toList] ∧
      (Dialect.generic.splitName name.toList).getLast? = some (stripSchema name).toList ∧
      NamesTable q.source name ∧ e.userTable? = none ∧
      ∀ state columns, e.OmitsQualifier q.source state columns := by
  intro name q e
  have hdotted : IsDotted name ["\"a.b\"".toList, "Orders".toList] := by
    refine ⟨List.cons_ne_nil _ _, ?_, by decide⟩
    rw [List.forall_mem_cons, List.forall_mem_singleton]
    exact ⟨.delimited "a.b".toList, .bare (by decide) (by decide) (by decide)⟩
  have hsource : NamesTable q.source name := .query (by decide)
  obtain ⟨hstrip, homits⟩ := splitName_stripSchema_iff hdotted
  refine ⟨hdotted, hstrip.2 (by decide), hsource, rfl, fun state columns => ?_⟩
  exact (homits q.source hsource e rfl state columns).2 (by decide)

/-- A dot in the last part is taken for the one behind the schema, so another table is written
into. -/
theorem not_omitsQualifier_my_table :
    let name := "public.\"my.table\""
    let csv : CsvFile := { path := { names := ["orders.csv"] }, tableName? := some name }
    let e := Exporter.make (some .generic) {} (.empty #[])
    IsDotted name ["public".toList, "\"my.table\"".toList] ∧
      NamesTable (csv.source (.empty #[])) name ∧
      (Dialect.generic.splitName name.toList).getLast? = some "\"my.table\"".toList ∧
      stripSchema name = "table\"" ∧
      (e.omitting true).WritesInto (csv.source (.empty #[])) none [] "\"table\"\"\"" ∧
      (e.omitting false).WritesInto (csv.source (.empty #[])) none [] "PUBLIC.\"my.table\"" ∧
      ¬e.OmitsQualifier (csv.source (.empty #[])) none [] := by
  intro name csv e
  have hdotted : IsDotted name ["public".toList, "\"my.table\"".toList] := by
    refine ⟨List.cons_ne_nil _ _, ?_, by decide⟩
    rw [List.forall_mem_cons, List.forall_mem_singleton]
    exact ⟨.bare (by decide) (by decide) (by decide), .delimited "my.table".toList⟩
  have hsource : NamesTable (csv.source (.empty #[])) name := .csv csv (.empty #[])
  refine ⟨hdotted, hsource, by decide, by decide,
    (Exporter.writesInto_iff rfl hsource true).2 (by decide),
    (Exporter.writesInto_iff rfl hsource false).2 (by decide), ?_⟩
  rw [Exporter.omitsQualifier_iff rfl hsource hdotted.stripSchema_ne_empty]
  decide

end InsertScript
