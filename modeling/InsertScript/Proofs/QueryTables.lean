import InsertScript.Source.Query
import InsertScript.Proofs.FromClauses

/-!
# The table of a query in a script

The table that a query reads from is written into the script in the dialect of the script. It stays
the same table (`Exporter.KeepsTable`) if none of its parts is delimited. A delimited part stays the
same only in a dialect that delimits names by the double quote as well, and only without quotes
inside (`Exporter.keepsTable_iff`): any other dialect takes the double quotes for a part of the
name, and a name with quotes inside is not found as a whole.
-/

namespace InsertScript

namespace Name

/-- Is it the name that stands in a query? A bare word may be in another letter case. -/
inductive Keeps : Name → Name → Prop
  | delimited (name : String) : Keeps (.delimited name) (.delimited name)
  | bare {word spelling : String} (h : Reader.foldWord spelling = Reader.foldWord word) :
      Keeps (.bare word) (.bare spelling)
  | quoted {word spelling : String} (h : Reader.foldWord spelling = Reader.foldWord word) :
      Keeps (.bare word) (.delimited spelling)

/-- A delimited name is kept as it is. -/
theorem mem_of_keeps {parts names : List Name}
    (hkeeps : List.Forall₂ Keeps parts names) {name : String}
    (hname : .delimited name ∈ parts) : .delimited name ∈ names := by
  induction hkeeps with
  | nil => cases hname
  | cons hpart _ ih =>
      rcases List.mem_cons.1 hname with rfl | hmem
      · cases hpart
        exact List.mem_cons_self
      · exact List.mem_cons_of_mem _ (ih hmem)

/-- No letter case turns a word of a query into one with a double quote. -/
theorem not_mem_of_foldWord {word spelling : String} (hvalid : (bare word).IsValid)
    (hfold : Reader.foldWord spelling = Reader.foldWord word) : '"' ∉ spelling.toList := by
  intro hmem
  have heq : spelling.toList.map Char.toUpper = word.toList.map Char.toUpper :=
    String.ofList_inj.1 hfold
  have hupper : '"' ∈ word.toList.map Char.toUpper := by
    rw [← heq]
    exact List.mem_map.2 ⟨'"', hmem, rfl⟩
  obtain ⟨c, hc, hquote⟩ := List.mem_map.1 hupper
  obtain rfl := (Unicode.toUpper_eq_iff rfl).1 hquote
  exact absurd (hvalid.2 '"' hc) (by decide)

/-- What is kept of names without quotes inside has none. -/
theorem not_mem_of_keeps {parts names : List Name} (hkeeps : List.Forall₂ Keeps parts names)
    (hvalid : ∀ part ∈ parts, part.IsValid) (hsimple : ∀ part ∈ parts, part.IsSimple)
    {name : String} (hname : .delimited name ∈ names) : '"' ∉ name.toList := by
  induction hkeeps with
  | nil => cases hname
  | cons hpart _ ih =>
      rw [List.forall_mem_cons] at hvalid hsimple
      rcases List.mem_cons.1 hname with rfl | hmem
      · cases hpart with
        | delimited => exact hsimple.1
        | quoted hfold => exact not_mem_of_foldWord hvalid.1 hfold
      · exact ih hvalid.2 hsimple.2 hmem

/-- A bare word of a query has no marks of any dialect. -/
theorem isPart_of_isValid {word : String} (h : (bare word).IsValid) (d : Dialect) :
    Identifier.IsPart d word := by
  obtain ⟨hne, hchars⟩ := h
  have hmark {mark : Char} (hmark : TableName.isNameChar mark = false) : mark ∉ word.toList := by
    intro hmem
    rw [hchars mark hmem] at hmark
    cases hmark
  refine ⟨hne, hmark (by decide), hmark (by cases d <;> decide), fun hlast => ?_⟩
  exact hmark (by decide : TableName.isNameChar '\n' = false) (List.mem_of_getLast? hlast)

end Name

/-- The parts of a dotted name that is all of a text. -/
def Dialect.readTable? (d : Dialect) (text : String) : Option (List Name) :=
  match (d.tokens text.toList).bind Reader.table with
  | some (names, []) => some names
  | _ => none

namespace Dialect

variable {d : Dialect}

theorem Spells.readTable?_eq {text : String} {names : List Name}
    (h : d.Spells d.Breaks Reader.table (Reader.NotNext (· == .sign '.')) text.toList names) :
    d.readTable? text = some names := by
  obtain ⟨tokens, hreads, hread⟩ := h
  have htable := hread [] (by simp [Reader.NotNext])
  rw [List.append_nil] at htable
  rw [readTable?, Reads.tokens_eq hreads, Option.bind_some, htable]

theorem readTable?_eq_some {text : String} {names : List Name}
    (h : d.readTable? text = some names) :
    ∃ tokens, d.tokens text.toList = some tokens ∧ Reader.table tokens = some (names, []) := by
  unfold readTable? at h
  split at h
  · rename_i hread
    obtain ⟨tokens, htokens, htable⟩ := Option.bind_eq_some_iff.1 hread
    cases h
    exact ⟨tokens, htokens, htable⟩
  · cases h

/-- A delimited name at the head of a text is the first part of the table. -/
theorem head?_of_readTable? {text : String} {names : List Name} {name more : List Char}
    (htext : text.toList = d.quote :: d.doubleQuotes name ++ [d.quote] ++ more)
    (hmore : d.Breaks more) (h : d.readTable? text = some names) :
    names.head? = some (.delimited (.ofList name)) := by
  obtain ⟨tokens, htokens, htable⟩ := readTable?_eq_some h
  rw [htext, List.append_assoc, List.cons_append, List.singleton_append,
    tokens_cons (d.readToken_delimited name hmore)] at htokens
  obtain ⟨rest, -, rfl⟩ := Option.map_eq_some_iff.1 htokens
  rw [Option.toList_some, List.singleton_append, Reader.table, Reader.separated,
    Reader.name] at htable
  cases rest with
  | nil =>
      cases htable
      rfl
  | cons token rest =>
      simp only at htable
      split at htable
      · obtain ⟨⟨others, left⟩, -, heq⟩ := Option.map_eq_some_iff.1 htable
        cases heq
        rfl
      · cases htable

/-- A name in front of a dot is the first part of the table. -/
theorem exists_cons_of_readTable? {first rest : String} {names : List Name} {name : Name}
    (hfirst : d.SpellsFully Reader.name first.toList name)
    (h : d.readTable? (first ++ "." ++ rest) = some names) :
    ∃ more, names = name :: more ∧ d.readTable? rest = some more := by
  obtain ⟨tokens, htokens, htable⟩ := readTable?_eq_some h
  obtain ⟨firstTokens, hreads, hread⟩ := hfirst
  have hdot := d.isSign_of_mem (by decide : '.' ∈ _)
  have hprefix :
      d.ReadsBefore (fun _ => True) (first.toList ++ ['.']) (firstTokens ++ [.sign '.']) :=
    Reads.append_before hreads (readsAlways_sign hdot) (breaks_of_isSign hdot []) (by simp)
  rw [String.toList_append, String.toList_append, show ".".toList = ['.'] from rfl,
    hprefix _ trivial] at htokens
  obtain ⟨restTokens, hrest, rfl⟩ := Option.map_eq_some_iff.1 htokens
  rw [List.append_assoc, List.singleton_append, Reader.table, Reader.separated,
    hread _ trivial] at htable
  simp only [List.length_append, List.length_cons] at htable
  rw [if_pos ⟨by decide, by omega⟩] at htable
  obtain ⟨⟨more, left⟩, hmore, heq⟩ := Option.map_eq_some_iff.1 htable
  cases heq
  refine ⟨more, rfl, ?_⟩
  rw [readTable?, hrest, Option.bind_some, Reader.table, hmore]

end Dialect

namespace Identifier

variable {d : Dialect} {letters : LetterCase}

/-- A part of a query's table is written as what it is, if it needs no other delimiters. -/
theorem spells_inQuery (letters : LetterCase) {part : Name} (hvalid : part.IsValid)
    (hquote : d.quote = '"' ∨ ∃ word, part = .bare word) :
    d.Whole part.inQuery ∧ ∃ name, part.Keeps name ∧
      d.SpellsFully Reader.name (written d letters (.ofList part.inQuery)).toList name := by
  cases part with
  | bare word =>
      have hpart := Name.isPart_of_isValid hvalid d
      rw [Name.inQuery_bare, String.ofList_toList]
      refine ⟨hpart.whole, ?_⟩
      have hcases := written_cases letters hpart.no_feed hpart.isQuoted_eq_false
      rcases hcases with ⟨hwritten, -, hparts⟩ | hwritten
      · have hfold := letters.foldWord_transform fun c hc => Dialect.lt_of_isNamePart (hparts c hc)
        refine ⟨.bare (letters.transform word), .bare hfold, ?_⟩
        rw [hwritten]
        exact ⟨_, letters.reads_transform hpart.ne_empty hparts, fun _ _ => rfl⟩
      · refine ⟨.delimited word, .quoted rfl, ?_⟩
        have hdelimited := d.spells_delimited word.toList
        rwa [String.ofList_toList, ← hwritten] at hdelimited
  | delimited name =>
      have hquote : d.quote = '"' := by simpa using hquote
      have hinQuery : (Name.delimited name).inQuery =
          d.quote :: d.doubleQuotes name.toList ++ [d.quote] := by
        simp only [Name.inQuery, Dialect.doubleQuotes, hquote,
          show Dialect.postgresql.quote = '"' from rfl]
      have hwritten : written d letters (.ofList (Name.delimited name).inQuery)
          = .ofList (Name.delimited name).inQuery := by
        refine written_of_isQuoted letters ?_
        rw [String.toList_ofList, hinQuery]
        exact d.isQuoted_delimited _
      refine ⟨hinQuery ▸ d.whole_delimited name.toList, .delimited name, .delimited name, ?_⟩
      have hdelimited := d.spells_delimited name.toList
      rwa [String.ofList_toList, ← hinQuery, ← String.toList_ofList
        (l := (Name.delimited name).inQuery), ← hwritten] at hdelimited

/-! ### Delimiters of another dialect -/

/-- What a dotted name is written as begins with its first part. -/
theorem mapParts_eq_append (write : String → String) {name : String} {first : List Char}
    {rest : List (List Char)} (hsplit : d.splitName name.toList = first :: rest)
    (hne : write (.ofList first) ≠ "") :
    ∃ more, (mapParts d write name).toList = (write (.ofList first)).toList ++ more ∧
      (more = [] ∨ more.head? = some '.') := by
  rw [mapParts, hsplit, List.map_cons, Dialect.joinName_cons (by simpa using hne),
    String.toList_ofList]
  split
  · exact ⟨[], rfl, .inl rfl⟩
  · exact ⟨_, rfl, .inr rfl⟩

/-- A part in front of a dot is written on its own. -/
theorem mapParts_append_dot {write : String → String} {first rest : String}
    (hfirst : d.Whole first.toList) (hne : write first ≠ "")
    (hrest : mapParts d write rest ≠ "") :
    mapParts d write (first ++ "." ++ rest) = write first ++ "." ++ mapParts d write rest := by
  have hsplit : d.splitName (first ++ "." ++ rest).toList =
      first.toList :: d.splitName rest.toList := by
    rw [String.toList_append, String.toList_append, List.append_assoc]
    exact hfirst.splitName_append_dot rest.toList
  have hjoin :
      Dialect.joinName
        ((d.splitName rest.toList).map fun part => (write (.ofList part)).toList) ≠ [] := by
    simpa [mapParts] using hrest
  rw [← String.toList_inj, mapParts, hsplit, List.map_cons, String.ofList_toList,
    Dialect.joinName_cons (by simpa using hne), if_neg hjoin]
  simp [mapParts]

/-- A delimited part at the beginning stays as it is in every letter case. -/
theorem transformTable_delimited (letters : LetterCase) {name : String} {inner more : List Char}
    (hname : name.toList = d.quote :: d.doubleQuotes inner ++ [d.quote] ++ more)
    (hmore : more = [] ∨ more.head? = some '.') :
    ∃ more', (transformTable d letters name).toList = d.quote :: d.doubleQuotes inner ++
      [d.quote] ++ more' ∧ (more' = [] ∨ more'.head? = some '.') := by
  have hwhole := d.whole_delimited inner
  have hquoted := d.isQuoted_delimited (d.doubleQuotes inner)
  generalize d.quote :: d.doubleQuotes inner ++ [d.quote] = text at hname hwhole hquoted
  by_cases hmixed : letters = .mixed
  · exact ⟨more, by rw [transformTable, if_pos hmixed, hname], hmore⟩
  have hsplit : ∃ rest, d.splitName name.toList = text :: rest := by
    rw [hname]
    rcases hmore with rfl | hdot
    · exact ⟨[], by rw [List.append_nil, hwhole.splitName_eq]⟩
    · obtain ⟨rest, rfl⟩ := List.head?_eq_some_iff.1 hdot
      exact ⟨_, hwhole.splitName_append_dot rest⟩
  have htransform : transform d letters (.ofList text) = .ofList text := by
    rw [transform, String.toList_ofList, if_pos hquoted]
  obtain ⟨rest, hsplit⟩ := hsplit
  have hne : transform d letters (.ofList text) ≠ "" := by
    rw [htransform]
    rintro hempty
    have htext : text = [] := by simpa using hempty
    rw [htext] at hquoted
    cases hquoted
  obtain ⟨more', hmap, hmore'⟩ := mapParts_eq_append _ hsplit hne
  rw [htransform, String.toList_ofList] at hmap
  exact ⟨more', by rw [transformTable, if_neg hmixed, hmap], hmore'⟩

/-- What comes with double quotes is delimited once more where they do not delimit names. -/
theorem transformTable_foreign (letters : LetterCase) (hquote : d.quote ≠ '"') {name : String}
    {rest : List Char} (hname : name.toList = '"' :: rest) :
    ∃ inner more, (transformTable d letters (quoteTable d name)).toList
        = d.quote :: d.doubleQuotes ('"' :: inner) ++ [d.quote] ++ more ∧
        (more = [] ∨ more.head? = some '.') := by
  obtain ⟨inner, others, hsplit⟩ := d.splitFrom_eq_cons false ['"'] rest
  have hfirst : d.splitName name.toList = ('"' :: inner) :: others := by
    rw [hname, Dialect.splitName, Dialect.splitFrom, if_neg (Ne.symm hquote),
      if_neg (by simp), hsplit]
    rfl
  have hquoted :
      quote d (.ofList ('"' :: inner)) =
        .ofList (d.quote :: d.doubleQuotes ('"' :: inner) ++ [d.quote]) := by
    have hother : d.isQuoted ('"' :: inner) = false := by simp [Dialect.isQuoted, Ne.symm hquote]
    rw [quote, String.toList_ofList, Dialect.quoteName, hother, if_neg (by simp), if_neg]
    simp [Dialect.isPlainName, show Dialect.isNameStart '"' = false by decide]
  obtain ⟨more, htable, hmore⟩ := mapParts_eq_append (quote d) hfirst (quote_ne_empty d _)
  rw [hquoted, String.toList_ofList] at htable
  obtain ⟨more', htransform, hmore'⟩ := transformTable_delimited letters htable hmore
  exact ⟨inner, more', htransform, hmore'⟩

/-- A part in front of a dot is written on its own in every letter case. -/
theorem transformTable_append_dot {first rest : String} (hfirst : d.Whole first.toList)
    (hrest : transformTable d letters (quoteTable d rest) ≠ "") :
    transformTable d letters (quoteTable d (first ++ "." ++ rest))
      = written d letters first ++ "." ++ transformTable d letters (quoteTable d rest) := by
  have hquoted : quoteTable d (first ++ "." ++ rest) = quote d first ++ "." ++ quoteTable d rest :=
    mapParts_append_dot hfirst (quote_ne_empty d first) (quoteTable_ne_empty d rest)
  have hwhole : d.Whole (quote d first).toList := by
    rw [quote, String.toList_ofList]
    exact hfirst.quoteName
  unfold transformTable at hrest ⊢
  rw [hquoted]
  by_cases hmixed : letters = .mixed
  · subst hmixed
    simp only [if_true, written, transform, LetterCase.transform_mixed, ite_self]
  · simp only [if_neg hmixed] at hrest ⊢
    exact mapParts_append_dot hwhole (written_ne_empty d letters first) hrest

/-- Where double quotes do not delimit names, they are read as a piece of the name. -/
theorem not_keeps_of_quote (hquote : d.quote ≠ '"') {text : String} {rest : List Char}
    (htext : text.toList = '"' :: rest) {names : List Name}
    (hread : d.readTable? (transformTable d letters (quoteTable d text)) = some names)
    {part : String} (hpart : '"' ∉ part.toList) (parts : List Name) :
    ¬List.Forall₂ Name.Keeps (.delimited part :: parts) names := by
  obtain ⟨inner, more, htable, hmore⟩ := transformTable_foreign letters hquote htext
  have hbreaks : d.Breaks more := by
    rcases hmore with rfl | hdot
    · simp [Dialect.Breaks]
    · obtain ⟨rest, rfl⟩ := List.head?_eq_some_iff.1 hdot
      exact Dialect.breaks_of_isSign (d.isSign_of_mem (by decide)) rest
  have hhead := Dialect.head?_of_readTable? htable hbreaks hread
  rintro (_ | ⟨⟨⟩, -⟩)
  cases hhead
  exact hpart (by simp)

/-- No table with a delimited part is read back as what it was where double quotes do not delimit
names. -/
theorem not_keeps_of_foreign (hquote : d.quote ≠ '"') {parts : List Name}
    (htable : TableName.IsTable parts) (hsimple : ∀ part ∈ parts, part.IsSimple) {name : String}
    (hname : .delimited name ∈ parts) {names : List Name}
    (hread :
      d.readTable? (transformTable d letters (quoteTable d (.ofList (Name.tableInQuery parts)))) =
        some names) :
    ¬List.Forall₂ Name.Keeps parts names := by
  have hdelimited (part : String) : ∃ rest, (Name.delimited part).inQuery = '"' :: rest := ⟨_, rfl⟩
  obtain ⟨hlength | hlength, hvalid⟩ := htable
  · obtain ⟨part, rfl⟩ := List.length_eq_one_iff.1 hlength
    obtain rfl : .delimited name = part := List.mem_singleton.1 hname
    obtain ⟨rest, hrest⟩ := hdelimited name
    exact not_keeps_of_quote hquote (by simpa using hrest) hread (hsimple _ hname) []
  · obtain ⟨first, second, rfl⟩ := List.length_eq_two.1 hlength
    cases first with
    | delimited part =>
        obtain ⟨rest, hrest⟩ := hdelimited part
        have htext : (String.ofList (Name.tableInQuery [.delimited part, second])).toList
            = '"' :: (rest ++ '.' :: second.inQuery) := by
          rw [String.toList_ofList, Name.tableInQuery_pair, hrest, List.cons_append]
        exact not_keeps_of_quote hquote htext hread (hsimple _ List.mem_cons_self) [second]
    | bare word =>
        -- the bare part is read as one, and the rest of the table begins with the delimited part
        obtain rfl : .delimited name = second := by simpa using hname
        obtain ⟨rest, hrest⟩ := hdelimited name
        have hsecond : (String.ofList (Name.delimited name).inQuery).toList = '"' :: rest := by
          rw [String.toList_ofList, hrest]
        obtain ⟨hwhole, first, -, hspells⟩ := spells_inQuery (d := d) letters
          (hvalid _ List.mem_cons_self) (.inr ⟨word, rfl⟩)
        rw [Name.inQuery_bare] at hwhole hspells
        rw [String.ofList_toList] at hspells
        have htext : String.ofList (Name.tableInQuery [.bare word, .delimited name])
            = word ++ "." ++ .ofList (Name.delimited name).inQuery := by
          rw [← String.toList_inj]
          simp
        obtain ⟨inner, end', htable, -⟩ := transformTable_foreign letters hquote hsecond
        have hne :
            transformTable d letters (quoteTable d (.ofList (Name.delimited name).inQuery))
              ≠ "" := by
          rw [Ne, ← String.toList_inj, htable]
          simp
        rw [htext, transformTable_append_dot hwhole hne] at hread
        obtain ⟨more, rfl, hmore⟩ := Dialect.exists_cons_of_readTable? hspells hread
        rintro (_ | ⟨-, hkeeps⟩)
        exact not_keeps_of_quote hquote hsecond hmore (hsimple (.delimited name) hname) [] hkeeps

end Identifier

/-! ### The table of an export -/

namespace Exporter

variable {e : Exporter} {d : Dialect} {columns : List ExportColumn} {found? : Option String}
  {parts : List Name}

/-- A table is read back part by part if its delimiters are those of the dialect. -/
theorem exists_names_of_table (columns : List ExportColumn) (hd : e.dialect? = some d)
    (huser : e.userTable? = none) (htable : TableName.IsTable parts)
    (hquote : d.quote = '"' ∨ ∀ part ∈ parts, ∃ word, part = .bare word)
    (hfound : found?.getD defaultTable = .ofList (Name.tableInQuery parts)) :
    ∃ names, d.readTable? (e.tableIdentifier (e.openSession columns found?)) = some names ∧
      List.Forall₂ Name.Keeps parts names := by
  have hspells : ∀ part ∈ parts, d.Whole part.inQuery ∧ ∃ name, part.Keeps name ∧
      d.SpellsFully Reader.name
      (Identifier.written d e.settings.identifierCase (.ofList part.inQuery)).toList name :=
        fun part hpart =>
    Identifier.spells_inQuery e.settings.identifierCase (htable.2 part hpart)
      (hquote.imp_right (· part hpart))
  obtain ⟨names, hnames⟩ := exists_forall₂ fun part hpart => (hspells part hpart).2
  refine ⟨names, ?_, hnames.imp fun _ _ h => h.1⟩
  have hne : parts ≠ [] := by
    rintro rfl
    simp [TableName.IsTable] at htable
  have htext :
      String.ofList (Name.tableInQuery parts) =
        ".".intercalate (parts.map fun part => .ofList part.inQuery) := by
    rw [← String.toList_inj, String.toList_ofList, String.toList_intercalate, List.map_map,
      Name.tableInQuery]
    simp [Function.comp_def]
  rw [tableIdentifier_openSession hd huser (by simpa using hne) ?_ ?_ (hfound.trans htext)]
  · refine Dialect.Spells.readTable?_eq (Identifier.spells_intercalate (by simpa using hne) ?_)
    rw [List.forall₂_map_left_iff, List.forall₂_map_left_iff]
    exact hnames.imp fun _ _ h => h.2
  · simp only [List.mem_map, forall_exists_index, and_imp, forall_apply_eq_imp_iff₂]
    intro part hpart hempty
    obtain ⟨c, chars, hc, -⟩ := TableName.exists_cons_inQuery (htable.2 part hpart)
    simp [hc] at hempty
  · simp only [List.mem_map, forall_exists_index, and_imp, forall_apply_eq_imp_iff₂,
      String.toList_ofList]
    exact fun part hpart => (hspells part hpart).1

/-- Does a script of the dialect name the table whose parts stand in the query? -/
def KeepsTable (e : Exporter) (d : Dialect) (q : Query) (columns : List ExportColumn)
    (parts : List Name) : Prop :=
  ∃ found? names, q.findTableName e.settings.omitSchema = .ok found? ∧
    d.readTable? (e.tableIdentifier (e.openSession columns found?)) = some names ∧
    List.Forall₂ Name.Keeps parts names

theorem findTableName_eq {q : Query} {query : String} (hq : q.statement = .text query)
    (hname : q.tableName?.filter (· ≠ "") = none) :
    q.findTableName false = .ok (TableName.ofQuery query) := by
  rw [Query.findTableName, hname, hq]
  rfl

/-- What is found in a query has no quotes inside, and neither has the default table. -/
theorem exists_table_of_ofQuery (query : String) :
    ∃ parts, TableName.IsTable parts ∧ (∀ part ∈ parts, part.IsSimple) ∧
      (TableName.ofQuery query).getD defaultTable = .ofList (Name.tableInQuery parts) := by
  cases hfound : TableName.ofQuery query with
  | none =>
      refine ⟨[.bare defaultTable], ⟨.inl rfl, ?_⟩, by simp [Name.IsSimple], by simp⟩
      have hchars : defaultTable.toList.all TableName.isNameChar = true := by decide
      simp only [List.mem_singleton, forall_eq, Name.IsValid]
      exact ⟨by decide, List.all_eq_true.1 hchars⟩
  | some name =>
      obtain ⟨parts, htable, hsimple, rfl⟩ := TableName.exists_parts_of_ofQuery hfound
      exact ⟨parts, htable, hsimple, rfl⟩

/-- The table of a query stays the same in a script exactly if the delimiters of its parts are those
of the dialect, and no part has them inside. -/
theorem keepsTable_iff (e : Exporter) {d : Dialect} (hd : e.dialect? = some d)
    (huser : e.userTable? = none) (homit : e.settings.omitSchema = false) {q : Query}
    {query : String} (hq : q.statement = .text query) (hname : q.tableName?.filter (· ≠ "") = none)
    (columns : List ExportColumn) {parts : List Name} (hquery : TableName.Names query.toList parts)
    (hforeign : d.quote = '"' ∨ ∀ part ∈ parts, part.IsSimple) :
    e.KeepsTable d q columns parts ↔ ∀ name, .delimited name ∈ parts → d.quote = '"' ∧
    '"' ∉ name.toList := by
  have htable : TableName.IsTable parts := by
    obtain ⟨_, _, _, _, -, -, -, -, htable, -⟩ := hquery
    exact htable
  have hfind := findTableName_eq hq hname
  rw [← homit] at hfind
  constructor
  · rintro ⟨found?, names, hfound, hread, hkeeps⟩ name hpart
    obtain rfl : TableName.ofQuery query = found? := Except.ok.inj (hfind.symm.trans hfound)
    by_cases hquote : d.quote = '"'
    · refine ⟨hquote, ?_⟩
      -- what was found is read back, and it has no quotes inside
      obtain ⟨parts', htable', hsimple', hparts'⟩ := exists_table_of_ofQuery query
      obtain ⟨names', hread', hkeeps'⟩ :=
        exists_names_of_table columns hd huser htable' (.inl hquote) hparts'
      obtain rfl : names = names' := Option.some.inj (hread.symm.trans hread')
      exact Name.not_mem_of_keeps hkeeps' htable'.2 hsimple' (Name.mem_of_keeps hkeeps hpart)
    · have hsimple := hforeign.resolve_left hquote
      have hofQuery := TableName.ofQuery_of_names hquery hsimple
      have hne : String.ofList (Name.tableInQuery parts) ≠ "" := by
        obtain ⟨c, chars, htext, -⟩ := htable.exists_cons
        simp [htext]
      rw [hofQuery, tableIdentifier_some hd huser hne] at hread
      exact absurd hkeeps (Identifier.not_keeps_of_foreign hquote htable hsimple hpart hread)
  · intro h
    have hsimple : ∀ part ∈ parts, part.IsSimple := by
      rintro (word | name) hpart
      · trivial
      · exact (h name hpart).2
    have hquote : d.quote = '"' ∨ ∀ part ∈ parts, ∃ word, part = .bare word := by
      by_cases hquote : d.quote = '"'
      · exact .inl hquote
      · refine .inr ?_
        rintro (word | name) hpart
        · exact ⟨word, rfl⟩
        · exact absurd (h name hpart).1 hquote
    have hofQuery := TableName.ofQuery_of_names hquery hsimple
    obtain ⟨names, hread, hkeeps⟩ := exists_names_of_table columns hd huser htable hquote
      (show (some _).getD defaultTable = _ from rfl)
    exact ⟨_, names, hfind, hofQuery ▸ hread, hkeeps⟩

/-- The plan of a query whose connection does not matter. -/
def anyPlan : ConnectionPlan :=
  { parameters := { host := "localhost", port := 5432, database := "shop", user := "reader" }
    lifetime := { days := 0, seconds := 300, microseconds := 0 } }

/-- A table with a space in its name, behind a query in parentheses. -/
theorem keepsTable_iff_order_lines :
    let e := Exporter.make (some .oracle) { identifierCase := .lower } (.empty #[])
    let q : Query :=
      { plan := anyPlan
        statement := .text "SELECT (SELECT max(n) FROM \"x\") from \"Order Lines\";" }
    e.dialect? = some .oracle ∧ e.userTable? = none ∧ e.settings.omitSchema = false ∧
      q.tableName?.filter (· ≠ "") = none ∧
      TableName.Names "SELECT (SELECT max(n) FROM \"x\") from \"Order Lines\";".toList
      [.delimited "Order Lines"] ∧ e.KeepsTable .oracle q [] [.delimited "Order Lines"] := by
  intro e q
  have hnames : TableName.Names "SELECT (SELECT max(n) FROM \"x\") from \"Order Lines\";".toList
      [.delimited "Order Lines"] :=
    ⟨"SELECT (SELECT max(n) FROM \"x\") ".toList, "from".toList, [' '], [';'], by decide, by decide,
      .cons (.inr rfl) (.cons (.inr rfl) (.cons (.inr rfl) (.cons (.inr rfl) .nil))),
      ⟨nofun, List.forall_mem_singleton.2 (by decide)⟩, TableName.isTable_singleton (by decide),
        by decide⟩
  refine ⟨rfl, rfl, rfl, rfl, hnames, ?_⟩
  refine (keepsTable_iff e rfl rfl rfl (q := q) rfl rfl [] hnames (.inl rfl)).2 ?_
  rintro name hname
  obtain rfl : name = "Order Lines" := by simpa using hname
  exact ⟨rfl, by decide⟩

/-- MySQL takes the double quotes of a query for a piece of the name. -/
theorem not_keepsTable_order_lines :
    let e := Exporter.make (some .mysql) {} (.empty #[])
    let q : Query := { plan := anyPlan, statement := .text "SELECT id FROM \"Order Lines\"" }
    TableName.Names "SELECT id FROM \"Order Lines\"".toList [.delimited "Order Lines"] ∧
      q.findTableName false = .ok (some "\"Order Lines\"") ∧
      e.tableIdentifier (e.openSession [] (some "\"Order Lines\"")) = "`\"Order Lines\"`" ∧
      ¬e.KeepsTable .mysql q [] [.delimited "Order Lines"] := by
  intro e q
  have hfind : q.findTableName false = .ok (some "\"Order Lines\"") := by decide
  have htable : e.tableIdentifier (e.openSession [] (some "\"Order Lines\"")) =
      "`\"Order Lines\"`" := by
    decide
  refine ⟨⟨"SELECT id ".toList, "FROM".toList, [' '], [], by decide, by decide,
    .cons (.inl rfl) (.cons (.inl rfl) (.cons (.inl rfl) (.cons (.inl rfl) .nil))),
    ⟨nofun, List.forall_mem_singleton.2 (by decide)⟩, TableName.isTable_singleton (by decide),
      by decide⟩, hfind, htable, ?_⟩
  rintro ⟨found?, names, hfound, hread, hkeeps⟩
  obtain rfl : some "\"Order Lines\"" = found? := Except.ok.inj (hfind.symm.trans hfound)
  rw [htable] at hread
  have hwritten : "`\"Order Lines\"`".toList = Dialect.mysql.quote ::
      Dialect.mysql.doubleQuotes "\"Order Lines\"".toList ++ [Dialect.mysql.quote] ++ [] := by
        decide
  have hhead := Dialect.head?_of_readTable? hwritten (by simp [Dialect.Breaks]) hread
  rcases hkeeps with _ | ⟨⟨⟩, -⟩
  exact absurd (Option.some.inj hhead) (by decide)

end Exporter

end InsertScript
