import InsertScript.Proofs.Names

/-!
# Names that come delimited

A name that starts and ends with the quote character is taken to be delimited already and is written
as it is. This is right if it is complete (`Dialect.IsDelimited`): its inner quote characters are
doubled, so the second delimiter is the first quote character that ends it. Any other such name
falls apart into several tokens, because what is read as a delimited name always ends where the name
is complete (`readQuoted_inv`). So a list of columns is read as one name for each column exactly if
all their names are complete (`Exporter.columnList_read_iff`).
-/

namespace InsertScript

namespace Dialect

variable {d : Dialect} {name : List Char}

/-! ### Complete names -/

/-- Is this a name between delimiters, its own quote characters doubled? -/
def IsDelimited (d : Dialect) (name : List Char) : Prop :=
  ∃ inner, name = d.quote :: d.doubleQuotes inner ++ [d.quote]

/-- Are the characters one token, up to the last of them, if what follows breaks it off? -/
def IsToken (d : Dialect) : List Char → Token → Prop
  | [], _ => False
  | c :: chars, token =>
      ∀ rest, d.Breaks rest → d.readToken c (chars ++ rest) = some (some token, rest)

/-- What is read up to a closing quote stood there with its quotes doubled. -/
theorem readQuoted_inv {chars text rest : List Char}
    (h : readQuoted d.quote false chars = some (text, rest)) :
    chars = d.doubleQuotes text ++ d.quote :: rest := by
  -- a quote is either the closing one or the first of two
  fun_induction readQuoted d.quote false chars generalizing text rest with
  | case1 => cases h
  | case2 =>
      cases h
      rfl
  | case3 => cases h
  | case4 chars ih =>
      obtain ⟨⟨text', rest'⟩, hread, heq⟩ := Option.map_eq_some_iff.1 h
      cases heq
      simp [ih hread, doubleQuotes_cons]
  | case5 next chars hnext =>
      cases h
      rfl
  | case6 c next chars hquote hescape => exact absurd hescape.1 (by decide)
  | case7 c next chars hquote _ ih =>
      obtain ⟨⟨text', rest'⟩, hread, heq⟩ := Option.map_eq_some_iff.1 h
      cases heq
      simp [ih hread, doubleQuotes_cons, hquote]

/-- A complete name is the token that stands for what is between its delimiters. -/
theorem isToken_delimited (d : Dialect) (inner : List Char) :
    d.IsToken (d.quote :: d.doubleQuotes inner ++ [d.quote]) (.name (.ofList inner)) := by
  intro rest hrest
  have happend : d.doubleQuotes inner ++ [d.quote] ++ rest = d.doubleQuotes inner ++
      d.quote :: rest :=
    List.append_cons _ _ _ |>.symm
  exact happend ▸ d.readToken_delimited inner hrest

/-- Only a complete name is one token. -/
theorem isDelimited_of_isToken {spelling : String} (hquoted : d.isQuoted name = true)
    (h : d.IsToken name (.name spelling)) : d.IsDelimited name := by
  obtain ⟨c, chars, rfl⟩ : ∃ c chars, name = c :: chars := by
    refine List.exists_cons_of_ne_nil ?_
    rintro rfl
    exact h
  obtain rfl : c = d.quote := by
    simp only [isQuoted, List.head?_cons, Bool.and_eq_true, beq_iff_eq,
      Option.some.injEq] at hquoted
    exact hquoted.1.2
  have hread := h [] (by simp [Breaks])
  rw [List.append_nil, readToken, if_neg (by cases d <;> decide), if_neg (by cases d <;> decide),
    if_pos rfl] at hread
  obtain ⟨⟨text, rest⟩, hquote, heq⟩ := Option.map_eq_some_iff.1 hread
  cases heq
  exact ⟨text, by rw [readQuoted_inv hquote, List.cons_append]⟩

/-- A token on its own is read wherever something breaks it off. -/
theorem IsToken.reads {token : Token} (h : d.IsToken name token) : d.Reads name [token] := by
  intro rest hrest
  cases name with
  | nil => exact h.elim
  | cons c chars =>
      rw [List.cons_append, tokens_cons (h rest hrest)]
      simp

/-- Tokens with commas between them are read one by one. -/
theorem reads_intercalate {texts : List (List Char)} {tokens : List Token}
    (h : List.Forall₂ d.IsToken texts tokens) :
    d.Reads ([','].intercalate texts) (tokens.intersperse (.sign ',')) := by
  have hcomma := d.isSign_of_mem (by decide : ',' ∈ _)
  induction h with
  | nil => exact readsAlways_nil.before
  | cons htoken hrest ih =>
      cases hrest with
      | nil =>
          rw [List.intercalate_singleton]
          exact htoken.reads
      | cons hnext hmore =>
          rw [List.intercalate_cons_cons, List.append_assoc, List.intersperse_cons_cons]
          exact htoken.reads.append_before ((readsAlways_sign hcomma).append_before ih)
            (breaks_of_isSign hcomma _) (by simp)

end Dialect

/-! ### Columns with such names -/

namespace Exporter

variable {e : Exporter} {d : Dialect} {columns : List ExportColumn}

/-- A name that looks delimited is written as it is, in every letter case. -/
theorem columnName_of_isQuoted (hd : e.dialect? = some d) {name : String}
    (hquoted : d.isQuoted name.toList = true) : e.columnName name = name := by
  simp only [columnName, hd, Identifier.column_eq_written, Identifier.written_of_isQuoted _ hquoted]

/-- Is a list of columns read as one name for each column that is not left out, with single commas
between them? -/
def ReadsColumns (e : Exporter) (d : Dialect) (columns : List ExportColumn) : Prop :=
  ∃ names : List String,
    List.Forall₂ (fun column name => d.IsToken (e.columnName column.name).toList (.name name))
      (e.exported columns) names ∧
    d.Reads (e.columnList columns).toList ((names.map Token.name).intersperse (.sign ','))

/-- Columns whose names look delimited are read back as one name each exactly if these names are
complete: every quote character inside is doubled. -/
theorem columnList_read_iff (e : Exporter) {d : Dialect} (hd : e.dialect? = some d)
    {columns : List ExportColumn}
    (hquoted : ∀ column ∈ e.exported columns, d.isQuoted column.name.toList = true) :
    e.ReadsColumns d columns ↔ ∀ column ∈ e.exported columns, d.IsDelimited column.name.toList := by
  constructor
  · rintro ⟨names, hnames, -⟩ column hcolumn
    have hcomplete := hnames.imp fun column name htoken =>
      And.intro (fun hquoted : d.isQuoted column.name.toList = true =>
        Dialect.isDelimited_of_isToken hquoted (columnName_of_isQuoted hd hquoted ▸ htoken)) htoken
    exact ((List.forall₂_and_left _ _).1 hcomplete).1 column hcolumn (hquoted column hcolumn)
  · intro hcomplete
    have htoken : ∀ column ∈ e.exported columns, ∃ name : String,
        d.IsToken (e.columnName column.name).toList (.name name) := by
      intro column hcolumn
      obtain ⟨inner, hname⟩ := hcomplete column hcolumn
      refine ⟨.ofList inner, ?_⟩
      rw [columnName_of_isQuoted hd (hquoted column hcolumn), hname]
      exact d.isToken_delimited inner
    obtain ⟨names, hnames⟩ := exists_forall₂ htoken
    refine ⟨names, hnames, ?_⟩
    rw [columnList, String.toList_intercalate]
    refine Dialect.reads_intercalate ?_
    rw [List.map_map, List.forall₂_map_left_iff, List.forall₂_map_right_iff]
    exact hnames

/-- A name with a quote character inside, beside a plain one. -/
theorem columnList_read_iff_inches :
    let e := Exporter.make (some .oracle) { identifierCase := .lower } (.empty #[])
    let columns : List ExportColumn :=
      [{ column := { name := "\"Size (24\"\"), cm\"" } }, { column := { name := "\"Id\"" } }]
    (∀ column ∈ e.exported columns, Dialect.oracle.isQuoted column.name.toList = true) ∧
      (∀ column ∈ e.exported columns, Dialect.oracle.IsDelimited column.name.toList) ∧
      e.ReadsColumns .oracle columns := by
  intro e columns
  have hquoted :
      ∀ column ∈ e.exported columns, Dialect.oracle.isQuoted column.name.toList = true := by
    decide
  have hcomplete :
      ∀ column ∈ e.exported columns, Dialect.oracle.IsDelimited column.name.toList := by
    intro column hcolumn
    have hexported : e.exported columns = columns := rfl
    simp only [hexported, columns, List.mem_cons, List.not_mem_nil, or_false] at hcolumn
    rcases hcolumn with rfl | rfl
    · exact ⟨"Size (24\"), cm".toList, by decide⟩
    · exact ⟨"Id".toList, by decide⟩
  exact ⟨hquoted, hcomplete, (columnList_read_iff e rfl hquoted).2 hcomplete⟩

/-- A name that looks delimited but is not complete: one column is read as two. -/
theorem tokens_columnList_incomplete :
    let e := Exporter.make (some .generic) {} (.empty #[])
    let columns : List ExportColumn := [{ column := { name := "\"a\",\"b\"" } }]
    (∀ column ∈ e.exported columns, Dialect.generic.isQuoted column.name.toList = true) ∧
      (e.exported columns).length = 1 ∧
      Dialect.generic.tokens (e.columnList columns).toList =
        some [.name "a", .sign ',', .name "b"] ∧ ¬ e.ReadsColumns .generic columns := by
  intro e columns
  have htext : (e.columnList columns).toList =
      [','].intercalate ["\"a\"".toList, "\"b\"".toList] := by
    decide
  have htokens : Dialect.generic.tokens (e.columnList columns).toList
      = some [.name "a", .sign ',', .name "b"] := by
    rw [htext]
    exact (Dialect.reads_intercalate (.cons (Dialect.generic.isToken_delimited ['a'])
      (.cons (Dialect.generic.isToken_delimited ['b']) .nil))).tokens_eq
  refine ⟨by decide, rfl, htokens, ?_⟩
  rintro ⟨names, hnames, hreads⟩
  obtain ⟨name, rfl⟩ := List.length_eq_one_iff.1 hnames.length_eq.symm
  have hone := hreads.tokens_eq
  rw [htokens] at hone
  simp at hone

end Exporter

end InsertScript
