import InsertScript.Proofs.Names

/-!
# The parts of a dotted name

Quoting a dotted name and bringing it into a letter case keeps its parts
(`Identifier.splitName_written`). Whether a dot splits a name depends on all the quotes before it:
the scan begins outside of quotes and every quote leads in or out. The invariant is that the scan is
outside again where a part ends. So every part but the last keeps together whatever follows it
(`Dialect.Whole`). The quotes of the last part may be unbalanced; it keeps together because nothing
follows it (`Dialect.Unsplit`).
-/

namespace InsertScript

namespace Dialect

variable {d : Dialect} {name part : List Char} {parts : List (List Char)}

/-! ### Inside and outside of quotes -/

/-- Is the scan of a dotted name inside of quotes after a character? -/
def toggled (d : Dialect) (inside : Bool) (c : Char) : Bool :=
  if c = d.quote then !inside else inside

/-- Is the scan of a dotted name inside of quotes after a text with which it has begun? -/
def endsInside (d : Dialect) (text : List Char) : Bool := text.foldl d.toggled false

theorem endsInside_append_singleton (text : List Char) (c : Char) :
    d.endsInside (text ++ [c]) = d.toggled (d.endsInside text) c := by
  simp [endsInside]

/-- Is a text passed over without a split when a dotted name begins with it? -/
def Passed (d : Dialect) (text : List Char) : Prop := ∀ part rest,
  d.splitFrom false part (text ++ rest) =
    d.splitFrom (d.endsInside text) (text.reverse ++ part) rest

theorem passed_nil (d : Dialect) : d.Passed [] := fun _ _ => rfl

theorem Passed.append_singleton {text : List Char} {c : Char} (h : d.Passed text)
    (hc : ¬(c = '.' ∧ d.toggled (d.endsInside text) c = false)) : d.Passed (text ++ [c]) := by
  intro part rest
  have hstep : d.splitFrom (d.endsInside text) (text.reverse ++ part) (c :: rest)
      = d.splitFrom (d.toggled (d.endsInside text) c) (c :: (text.reverse ++ part)) rest := by
    rw [splitFrom]
    exact if_neg hc
  rw [List.append_assoc, List.singleton_append, h, hstep, endsInside_append_singleton]
  simp

/-- What ends outside of quotes keeps together whatever follows. -/
theorem Passed.whole {text : List Char} (h : d.Passed text) (hends : d.endsInside text = false) :
    d.Whole text := by
  intro part rest
  rw [h, hends]

/-! ### Parts -/

/-- Does a name keep together when it ends a dotted name? -/
def Unsplit (d : Dialect) (name : List Char) : Prop :=
  ∀ part, d.splitFrom false part name = [part.reverse ++ name]

theorem Whole.unsplit (h : d.Whole name) : d.Unsplit name := by
  intro part
  have hsplit := h part []
  rw [List.append_nil] at hsplit
  rw [hsplit, splitFrom]
  simp

theorem Passed.unsplit (h : d.Passed name) : d.Unsplit name := by
  intro part
  have hsplit := h part []
  rw [List.append_nil] at hsplit
  rw [hsplit, splitFrom]
  simp

/-- Can these be the parts of a dotted name? -/
def AreParts (d : Dialect) (parts : List (List Char)) : Prop :=
  ∃ before last, parts = before ++ [last] ∧ (∀ part ∈ before, d.Whole part) ∧ d.Unsplit last

/-- Splitting gives parts of a dotted name, whatever has been collected of the first one. -/
theorem areParts_splitFrom (text : List Char) (inside : Bool) (part : List Char)
    (hpart : d.Passed part.reverse) (hinside : d.endsInside part.reverse = inside) :
    d.AreParts (d.splitFrom inside part text) := by
  have hquote : '.' ≠ d.quote := by cases d <;> decide
  induction text generalizing inside part with
  | nil => exact ⟨[], part.reverse, by rw [splitFrom]; rfl, nofun, hpart.unsplit⟩
  | cons c text ih =>
      rw [splitFrom]
      by_cases hdot : c = '.' ∧ d.toggled inside c = false
      · -- the part that ends here began and ends outside of quotes
        rw [if_pos (by exact hdot)]
        obtain ⟨rfl, houtside⟩ := hdot
        rw [toggled, if_neg hquote] at houtside
        subst houtside
        obtain ⟨before, last, hsplit, hbefore, hlast⟩ := ih false [] d.passed_nil rfl
        refine ⟨part.reverse :: before, last,
          by rw [if_neg hquote, hsplit, List.cons_append], ?_, hlast⟩
        intro other hother
        rcases List.mem_cons.1 hother with rfl | hother
        · exact hpart.whole hinside
        · exact hbefore other hother
      · rw [if_neg (by exact hdot)]
        subst hinside
        refine ih _ (c :: part) ?_ ?_
        · rw [List.reverse_cons]
          exact hpart.append_singleton hdot
        · rw [List.reverse_cons, endsInside_append_singleton]
          rfl

theorem areParts_splitName (d : Dialect) (name : List Char) : d.AreParts (d.splitName name) :=
  areParts_splitFrom name false [] d.passed_nil rfl

/-- Parts with dots between them are found again. -/
theorem AreParts.splitName_intercalate (h : d.AreParts parts) :
    d.splitName (['.'].intercalate parts) = parts := by
  obtain ⟨before, last, rfl, hbefore, hlast⟩ := h
  induction before with
  | nil =>
      rw [List.nil_append, List.intercalate_singleton]
      exact hlast []
  | cons part before ih =>
      have hrest : before ++ [last] ≠ [] := by simp
      obtain ⟨next, more, hmore⟩ := List.exists_cons_of_ne_nil hrest
      have hsplit := ih fun other hother => hbefore other (List.mem_cons_of_mem part hother)
      rw [List.cons_append, hmore, List.intercalate_cons_cons, List.append_assoc,
        List.singleton_append,
        (hbefore part List.mem_cons_self).splitName_append_dot, ← hmore, hsplit]

/-- What keeps names together makes parts of parts. -/
theorem AreParts.map {write : List Char → List Char} (h : d.AreParts parts)
    (hwhole : ∀ part, d.Whole part → d.Whole (write part))
    (hunsplit : ∀ part, d.Unsplit part → d.Unsplit (write part)) :
    d.AreParts (parts.map write) := by
  obtain ⟨before, last, rfl, hbefore, hlast⟩ := h
  refine ⟨before.map write, write last, by simp, fun part hpart => ?_, hunsplit last hlast⟩
  obtain ⟨other, hother, rfl⟩ := List.mem_map.1 hpart
  exact hwhole other (hbefore other hother)

/-- The parts of a name make up the name. -/
theorem intercalate_splitFrom (d : Dialect) (inside : Bool) (part text : List Char) :
    ['.'].intercalate (d.splitFrom inside part text) = part.reverse ++ text := by
  induction text generalizing inside part with
  | nil => rw [splitFrom, List.intercalate_singleton, List.append_nil]
  | cons c text ih =>
      rw [splitFrom]
      by_cases hdot : c = '.' ∧ (if c = d.quote then !inside else inside) = false
      · rw [if_pos hdot]
        obtain ⟨first, rest, hsplit⟩ :=
          d.splitFrom_eq_cons (if c = d.quote then !inside else inside) [] text
        rw [hsplit, List.intercalate_cons_cons, ← hsplit, ih, hdot.1]
        simp
      · rw [if_neg hdot, ih]
        simp

theorem intercalate_splitName (d : Dialect) (name : List Char) :
    ['.'].intercalate (d.splitName name) = name :=
  d.intercalate_splitFrom false [] name

theorem splitFrom_of_not_mem {inside : Bool} {part text : List Char} (h : '.' ∉ text) :
    d.splitFrom inside part text = [part.reverse ++ text] := by
  induction text generalizing inside part with
  | nil => rw [splitFrom, List.append_nil]
  | cons c text ih =>
      rw [List.mem_cons, not_or] at h
      rw [splitFrom, if_neg fun hdot => h.1 hdot.1.symm, ih h.2]
      simp

/-- A name without dots is its only part. -/
theorem splitName_of_not_mem {name : List Char} (h : '.' ∉ name) : d.splitName name = [name] :=
  splitFrom_of_not_mem h

theorem exists_splitName_eq_append (d : Dialect) (name : List Char) :
    ∃ before last, d.splitName name = before ++ [last] := by
  obtain ⟨before, last, hsplit, -⟩ := d.areParts_splitName name
  exact ⟨before, last, hsplit⟩

theorem joinName_of_ne_nil (h : ∀ part ∈ parts, part ≠ []) :
    joinName parts = ['.'].intercalate parts := by
  rw [joinName, List.filter_eq_self.2]
  intro part hpart
  simpa using h part hpart

/-! ### Quoted parts -/

/-- A name is quoted so that it looks quoted, or it is plain and stays as it is. -/
theorem quoteName_cases (d : Dialect) (name : List Char) : d.isQuoted (d.quoteName name) = true ∨
    (d.quoteName name = name ∧ d.isQuoted name = false ∧ isPlainName name = true) := by
  unfold quoteName
  by_cases hquoted : d.isQuoted name = true
  · rw [if_pos hquoted]
    exact .inl hquoted
  · rw [if_neg hquoted]
    by_cases hplain : (isPlainName name && !isReserved name) = true
    · rw [if_pos hplain]
      exact .inr ⟨rfl, Bool.eq_false_iff.2 hquoted, (Bool.and_eq_true_iff.1 hplain).1⟩
    · rw [if_neg hplain]
      exact .inl (isQuoted_delimited d _)

theorem quoteName_of_isQuoted (h : d.isQuoted name = true) : d.quoteName name = name := by
  rw [quoteName, if_pos h]

/-- A name that has been quoted needs no more quotes. -/
theorem quoteName_quoteName (d : Dialect) (name : List Char) :
    d.quoteName (d.quoteName name) = d.quoteName name := by
  rcases d.quoteName_cases name with hquoted | ⟨hsame, -, -⟩
  · exact quoteName_of_isQuoted hquoted
  · rw [hsame, hsame]

theorem Unsplit.quoteName (h : d.Unsplit name) : d.Unsplit (d.quoteName name) := by
  unfold Dialect.quoteName
  split
  · exact h
  · split
    · exact h
    · exact (d.whole_delimited name).unsplit

/-- A plain name has neither dots nor quotes, in any letter case. -/
theorem plain_change (d : Dialect) (letters : LetterCase) (h : isPlainName name = true) {c : Char}
    (hc : c ∈ name) : letters.change c ≠ '.' ∧ letters.change c ≠ d.quote := by
  have hpart {x : Char} (hx : isNamePart x = true ∨ x = '\n') : x ≠ '.' ∧ x ≠ d.quote := by
    rcases hx with hx | rfl
    · refine ⟨?_, ?_⟩
      · rintro rfl
        exact absurd hx (by decide)
      · rintro rfl
        exact absurd hx (by cases d <;> decide)
    · cases d <;> decide
  rcases mem_of_isPlainName h hc with hword | rfl
  · exact hpart (.inl (isNamePart_change letters hword))
  · exact hpart (.inr (by cases letters <;> decide))

end Dialect

namespace Identifier

variable {d : Dialect} {letters : LetterCase}

/-- A part of a dotted name as it is written. -/
def writtenPart (d : Dialect) (letters : LetterCase) (part : List Char) : List Char :=
  (transform d letters (.ofList (d.quoteName part))).toList

/-- A part that looks quoted is written as it is, and a plain one in the letter case. -/
theorem writtenPart_cases (d : Dialect) (letters : LetterCase) (part : List Char) :
    (d.isQuoted (d.quoteName part) = true ∧ writtenPart d letters part = d.quoteName part) ∨
      (d.quoteName part = part ∧ d.isQuoted part = false ∧ Dialect.isPlainName part = true ∧
        writtenPart d letters part = part.map letters.change) := by
  rcases d.quoteName_cases part with hquoted | ⟨hsame, hquoted, hplain⟩
  · refine .inl ⟨hquoted, ?_⟩
    rw [writtenPart, transform, String.toList_ofList, if_pos hquoted, String.toList_ofList]
  · refine .inr ⟨hsame, hquoted, hplain, ?_⟩
    have hascii : ∀ c ∈ (String.ofList part).toList, c.toNat < 128 := by
      rw [String.toList_ofList]
      exact fun c hc => Dialect.lt_of_isPlainName hplain hc
    rw [writtenPart, hsame, transform, String.toList_ofList, hquoted, if_neg Bool.false_ne_true,
      letters.toList_transform hascii, String.toList_ofList]

theorem whole_change (letters : LetterCase) {part : List Char}
    (hplain : Dialect.isPlainName part = true) : d.Whole (part.map letters.change) := by
  refine Dialect.whole_of_plain fun x hx => ?_
  obtain ⟨c, hc, rfl⟩ := List.mem_map.1 hx
  exact d.plain_change letters hplain hc

theorem whole_writtenPart (letters : LetterCase) {part : List Char} (h : d.Whole part) :
    d.Whole (writtenPart d letters part) := by
  rcases writtenPart_cases d letters part with ⟨-, hwritten⟩ | ⟨-, -, hplain, hwritten⟩
  · rw [hwritten]
    exact h.quoteName
  · rw [hwritten]
    exact whole_change letters hplain

theorem unsplit_writtenPart (letters : LetterCase) {part : List Char} (h : d.Unsplit part) :
    d.Unsplit (writtenPart d letters part) := by
  rcases writtenPart_cases d letters part with ⟨-, hwritten⟩ | ⟨-, -, hplain, hwritten⟩
  · rw [hwritten]
    exact h.quoteName
  · rw [hwritten]
    exact (whole_change letters hplain).unsplit

theorem writtenPart_ne_nil (d : Dialect) (letters : LetterCase) (part : List Char) :
    writtenPart d letters part ≠ [] := by
  have hne := written_ne_empty d letters (.ofList part)
  rw [written, quote, String.toList_ofList] at hne
  simpa [writtenPart] using hne

/-! ### Dotted names that are written -/

theorem toList_mapParts {write : String → String} {name : String}
    (h : ∀ part, (write (.ofList part)).toList ≠ []) :
    (mapParts d write name).toList
      = ['.'].intercalate ((d.splitName name.toList).map fun part =>
        (write (.ofList part)).toList) := by
  rw [mapParts, String.toList_ofList, Dialect.joinName_of_ne_nil]
  intro text htext
  obtain ⟨part, -, rfl⟩ := List.mem_map.1 htext
  exact h part

theorem toList_quoteTable (d : Dialect) (name : String) :
    (quoteTable d name).toList = ['.'].intercalate ((d.splitName name.toList).map d.quoteName) := by
  have hquote (part : List Char) : (quote d (.ofList part)).toList = d.quoteName part := by
    rw [quote, String.toList_ofList, String.toList_ofList]
  rw [quoteTable, toList_mapParts fun part => by rw [hquote]; exact d.quoteName_ne_nil part]
  simp only [hquote]

/-- The parts of a quoted name are the quoted parts of the name. -/
theorem splitName_quoteTable (d : Dialect) (name : String) :
    d.splitName (quoteTable d name).toList = (d.splitName name.toList).map d.quoteName := by
  have hparts :=
    (d.areParts_splitName name.toList).map (fun _ h => h.quoteName) (fun _ h => h.quoteName)
  rw [toList_quoteTable, hparts.splitName_intercalate]

/-- A table name is written part by part. -/
theorem toList_transformTable (d : Dialect) (letters : LetterCase) (name : String) :
    (transformTable d letters (quoteTable d name)).toList
      = ['.'].intercalate ((d.splitName name.toList).map (writtenPart d letters)) := by
  by_cases hmixed : letters = .mixed
  · subst hmixed
    have hsame : writtenPart d .mixed = d.quoteName := by
      funext part
      simp [writtenPart, transform]
    rw [transformTable, if_pos rfl, toList_quoteTable, hsame]
  · have hwritten : ∀ part, (transform d letters (.ofList (d.quoteName part))).toList ≠ [] :=
      writtenPart_ne_nil d letters
    rw [transformTable, if_neg hmixed, mapParts, String.toList_ofList,
      splitName_quoteTable, List.map_map, Dialect.joinName_of_ne_nil]
    · rfl
    · intro text htext
      obtain ⟨part, -, rfl⟩ := List.mem_map.1 htext
      exact hwritten part

/-- The parts of a name in a letter case are written one by one. -/
theorem splitName_transformTable (d : Dialect) (letters : LetterCase) (name : String) :
    d.splitName (transformTable d letters (quoteTable d name)).toList
      = (d.splitName name.toList).map (writtenPart d letters) := by
  have hparts := (d.areParts_splitName name.toList).map (fun _ h => whole_writtenPart letters h)
    (fun _ h => unsplit_writtenPart letters h)
  rw [toList_transformTable, hparts.splitName_intercalate]

/-- What is written for a part of a dotted name: what looks quoted is the quoted part, character by
character, and anything else is the part up to the letter case. -/
structure KeepsPart (d : Dialect) (part text : List Char) : Prop where
  of_isQuoted : d.isQuoted part = true → text = part
  quoted : d.isQuoted text = true → text = d.quoteName part
  bare : d.isQuoted text = false → Reader.foldWord (.ofList text) = Reader.foldWord (.ofList part)

/-- A part is kept when it is written. -/
theorem keepsPart_writtenPart (d : Dialect) (letters : LetterCase) (part : List Char) :
    KeepsPart d part (writtenPart d letters part) := by
  rcases writtenPart_cases d letters part with ⟨hquoted, hwritten⟩ | ⟨hsame, hquoted,
    hplain, hwritten⟩
  · rw [hwritten]
    refine ⟨fun h => Dialect.quoteName_of_isQuoted h, fun _ => rfl, fun h => ?_⟩
    exact absurd (h.symm.trans hquoted) Bool.false_ne_true
  · refine ⟨fun h => absurd (hquoted.symm.trans h) Bool.false_ne_true, fun h => ?_, fun _ => ?_⟩
    · -- a plain name has no quote in any letter case
      have hhead : (part.map letters.change).head? ≠ some d.quote := by
        intro hhead
        obtain ⟨c, hc, hchanged⟩ := List.mem_map.1 (List.mem_of_mem_head? hhead)
        exact (d.plain_change letters hplain hc).2 hchanged
      rw [hwritten, Dialect.isQuoted, beq_eq_false_iff_ne.2 hhead] at h
      simp at h
    · rw [hwritten, Reader.foldWord, Reader.foldWord, String.toList_ofList,
        String.toList_ofList, List.map_map]
      exact congrArg String.ofList (List.map_congr_left fun c hc =>
        letters.toUpper_change (Dialect.lt_of_isPlainName hplain hc))

/-- Quoting a dotted name quotes its parts, once and for all, and keeps them; so does a letter case
after that, which changes nothing that is quoted. -/
theorem splitName_written (d : Dialect) (letters : LetterCase) (name : String) :
    d.splitName (quoteTable d name).toList = (d.splitName name.toList).map d.quoteName ∧
      quoteTable d (quoteTable d name) = quoteTable d name ∧
      List.Forall₂ (KeepsPart d) (d.splitName name.toList)
        (d.splitName (transformTable d letters (quoteTable d name)).toList) := by
  refine ⟨splitName_quoteTable d name, ?_, ?_⟩
  · rw [← String.toList_inj, toList_quoteTable, splitName_quoteTable, List.map_map,
      toList_quoteTable]
    refine congrArg (['.'].intercalate ·) (List.map_congr_left fun part _ => ?_)
    exact d.quoteName_quoteName part
  · rw [splitName_transformTable]
    exact List.forall₂_map_right_iff.2 (List.forall₂_same.2 fun part _ =>
      keepsPart_writtenPart d letters part)

/-- The quotes are unbalanced, so the last dot does not split, and one part is empty. -/
example : Dialect.generic.splitName "a..sales.\"b.c".toList =
    ["a".toList, [], "sales".toList, "\"b.c".toList] ∧
    quoteTable .generic "a..sales.\"b.c" = "a.\"\".sales.\"\"\"b.c\"" ∧
    transformTable .generic .upper (quoteTable .generic "a..sales.\"b.c") =
      "A.\"\".SALES.\"\"\"b.c\"" := by
  decide

end Identifier

end InsertScript
