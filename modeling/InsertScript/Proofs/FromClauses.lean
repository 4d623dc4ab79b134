import InsertScript.Source.TableName
import InsertScript.Proofs.Names

/-!
# The table in a query

A query names its table behind the first `FROM` outside of parentheses (`TableName.Names`). The
search finds that table if no part of it has quotes inside (`TableName.ofQuery_of_names`): on its
way it may find tables between parentheses, but these end in front of the closing parenthesis,
whatever stands behind it (`TableName.Passes.clause?_between`), so the search goes through the way
as if it were the whole text (`TableName.search_append`). Whatever it finds has one or two parts,
and no part has quotes inside (`TableName.exists_parts_of_ofQuery`).
-/

namespace InsertScript

/-! ### Names in a query -/

namespace Name

/-- The name as it stands in a query: as it is, or between double quotes, its own ones doubled. -/
def inQuery : Name → List Char
  | .bare word => word.toList
  | .delimited name =>
      Dialect.postgresql.quote :: Dialect.postgresql.doubleQuotes name.toList ++
        [Dialect.postgresql.quote]

/-- Can the name stand in a query? -/
def IsValid : Name → Prop
  | .bare word => word ≠ "" ∧ ∀ c ∈ word.toList, TableName.isNameChar c = true
  | .delimited name => name ≠ ""

/-- Has the name no quotes inside? -/
def IsSimple : Name → Prop
  | .bare _ => True
  | .delimited name => '"' ∉ name.toList

instance : (name : Name) → Decidable name.IsValid
  | .bare word =>
      decidable_of_iff (word ≠ "" ∧ word.toList.all TableName.isNameChar = true) (by simp [IsValid])
  | .delimited name => inferInstanceAs (Decidable (name ≠ ""))

instance : (name : Name) → Decidable name.IsSimple
  | .bare _ => inferInstanceAs (Decidable True)
  | .delimited name => inferInstanceAs (Decidable ('"' ∉ name.toList))

/-- A dotted name as it stands in a query. -/
def tableInQuery (parts : List Name) : List Char := ['.'].intercalate (parts.map inQuery)

@[simp] theorem inQuery_bare (word : String) : (bare word).inQuery = word.toList := rfl

theorem inQuery_delimited {name : String} (h : '"' ∉ name.toList) :
    (delimited name).inQuery = '"' :: name.toList ++ ['"'] := by
  rw [inQuery, Dialect.doubleQuotes_eq_self h]
  rfl

@[simp] theorem tableInQuery_singleton (part : Name) : tableInQuery [part] = part.inQuery :=
  List.intercalate_singleton

@[simp] theorem tableInQuery_pair (first second : Name) :
    tableInQuery [first, second] = first.inQuery ++ '.' :: second.inQuery := by
  simp [tableInQuery]

end Name

namespace TableName

open Name (tableInQuery)

/-- Are these the parts of a table: one or two that can stand in a query? -/
def IsTable (parts : List Name) : Prop :=
  (parts.length = 1 ∨ parts.length = 2) ∧ ∀ part ∈ parts, part.IsValid

theorem isTable_singleton {part : Name} (hvalid : part.IsValid) : IsTable [part] :=
  ⟨.inl rfl, List.forall_mem_singleton.2 hvalid⟩

theorem isNameChar_of_isBlank {c : Char} (h : Unicode.isBlank c = true) : isNameChar c = false := by
  have hcodes : ∀ code ∈ Unicode.blankCodes, isNameChar (Char.ofNat code) = false := by
    decide +kernel
  have := hcodes c.toNat (by simpa [Unicode.isBlank] using h)
  rwa [Char.ofNat_toNat] at this

/-- Can a part begin with the character? -/
def BeginsPart (c : Char) : Prop := isNameChar c = true ∨ c = '"'

instance (c : Char) : Decidable (BeginsPart c) := inferInstanceAs (Decidable (_ ∨ _))

theorem BeginsPart.isBlank {c : Char} (h : BeginsPart c) : Unicode.isBlank c = false := by
  rw [← Bool.not_eq_true]
  intro hblank
  rcases h with hchar | rfl
  · rw [isNameChar_of_isBlank hblank] at hchar
    cases hchar
  · exact absurd hblank (by decide)

theorem exists_cons_inQuery {part : Name} (hvalid : part.IsValid) :
    ∃ c chars, part.inQuery = c :: chars ∧ BeginsPart c := by
  cases part with
  | bare word =>
      obtain ⟨c, chars, hword⟩ :=
        List.exists_cons_of_ne_nil (by simpa using hvalid.1 : word.toList ≠ [])
      exact ⟨c, chars, hword, .inl (hvalid.2 c (hword ▸ List.mem_cons_self))⟩
  | delimited name => exact ⟨'"', _, rfl, .inr rfl⟩

/-- The text of a table name is not empty, and a part begins with its first character. -/
theorem IsTable.exists_cons {parts : List Name} (h : IsTable parts) :
    ∃ c chars, tableInQuery parts = c :: chars ∧ BeginsPart c := by
  obtain ⟨hlength | hlength, hvalid⟩ := h
  · obtain ⟨part, rfl⟩ := List.length_eq_one_iff.1 hlength
    rw [Name.tableInQuery_singleton]
    exact exists_cons_inQuery (hvalid part (by simp))
  · obtain ⟨first, second, rfl⟩ := List.length_eq_two.1 hlength
    obtain ⟨c, chars, hfirst, hc⟩ := exists_cons_inQuery (hvalid first (by simp))
    exact ⟨c, _, by rw [Name.tableInQuery_pair, hfirst, List.cons_append], hc⟩

/-! ### What ends a name -/

instance decidableHead (p : Char → Prop) [DecidablePred p] :
    (text : List Char) → Decidable (∀ c ∈ text.head?, p c)
  | [] => isTrue nofun
  | c :: _ => decidable_of_iff (p c) (by simp)

/-- Is nothing that a word could go on with at the head of the text? -/
def BreaksWord (text : List Char) : Prop := ∀ c ∈ text.head?, isNameChar c = false

instance (text : List Char) : Decidable (BreaksWord text) := decidableHead _ text

/-- Can a dotted name end in front of the text? -/
def EndsTable (text : List Char) : Prop :=
  BreaksWord text ∧ text.head? ≠ some '"' ∧ (text.dropWhile Unicode.isBlank).head? ≠ some '.'

instance (text : List Char) : Decidable (EndsTable text) := inferInstanceAs (Decidable (_ ∧ _ ∧ _))

/-- What stands behind a table name does not continue it with another part. -/
theorem EndsTable.head?_ne {text : List Char} (h : EndsTable text) : text.head? ≠ some '.' := by
  cases text with
  | nil => simp
  | cons c text =>
      rintro ⟨⟩
      exact h.2.2 (by rw [List.dropWhile_cons_of_neg (by decide)]; rfl)

/-- A run ends where the text behind it does not continue it. -/
theorem takeWhile_append_of_stop {p : Char → Bool} {run rest : List Char}
    (hrun : ∀ c ∈ run, p c = true) (hrest : ∀ c ∈ rest.head?, p c = false) :
    (run ++ rest).takeWhile p = run := by
  rw [List.takeWhile_append_of_pos hrun]
  cases rest with
  | nil => simp
  | cons c rest => simp [hrest c rfl]

/-! ### Parts -/

/-- A part without a quote in front of it is a run of name characters. -/
theorem partLength?_of_ne {c : Char} {rest run : List Char} (hc : c ≠ '"')
    (hrun : (c :: rest).takeWhile isNameChar = run) :
    partLength? (c :: rest) = if run.isEmpty then none else some run.length := by
  rw [partLength?, hrun]
  rintro _ heq
  exact hc (List.cons.inj heq).1

/-- A part between quotes goes up to the next quote, the quotes counted in. -/
theorem partLength?_quoted {name : List Char} (hname : '"' ∉ name) (rest : List Char) :
    partLength? ('"' :: (name ++ '"' :: rest)) =
      if name.isEmpty then none else some (name.length + 2) := by
  have hinner : (name ++ '"' :: rest).takeWhile (fun c => decide (c ≠ '"')) = name :=
    takeWhile_append_of_stop
      (fun c hc => by simpa using fun h : c = '"' => hname (h ▸ hc)) (by simp)
  rw [partLength?, hinner]
  simp

/-- A part is found up to its end. -/
theorem partLength?_append {part : Name} (hvalid : part.IsValid) (hsimple : part.IsSimple)
    {rest : List Char} (hrest : BreaksWord rest) :
    partLength? (part.inQuery ++ rest) = some part.inQuery.length := by
  cases part with
  | bare word =>
      obtain ⟨hne, hchars⟩ := hvalid
      have hrun := takeWhile_append_of_stop hchars hrest
      obtain ⟨c, chars, hword⟩ := List.exists_cons_of_ne_nil (by simpa using hne : word.toList ≠ [])
      have hquote : c ≠ '"' := by
        rintro rfl
        exact absurd (hchars '"' (by simp [hword])) (by decide)
      simp only [Name.inQuery_bare, hword, List.cons_append] at hrun ⊢
      rw [partLength?_of_ne hquote hrun]
      rfl
  | delimited name =>
      have hne : name.toList ≠ [] := by simpa [Name.IsValid] using hvalid
      rw [Name.inQuery_delimited hsimple, List.append_assoc, List.cons_append,
        List.singleton_append, partLength?_quoted hsimple]
      simp [hne]

/-- What is found as a part is one, without quotes inside. -/
theorem part_of_partLength? {text : List Char} {length : Nat} (h : partLength? text = some length) :
    ∃ part : Name, ∃ rest, part.IsValid ∧ part.IsSimple ∧ text = part.inQuery ++ rest ∧
      part.inQuery.length = length := by
  unfold partLength? at h
  split at h
  · rename_i rest
    have hinner : ∀ c ∈ rest.takeWhile (fun c => decide (c ≠ '"')), c ≠ '"' := fun c hc => by
      simpa using (List.all_eq_true.1 List.all_takeWhile) c hc
    have hsplit := List.takeWhile_append_dropWhile (p := fun c => decide (c ≠ '"')) (l := rest)
    generalize hname : rest.takeWhile (fun c => decide (c ≠ '"')) = name at h hinner hsplit
    simp only [Option.ite_none_left_eq_some, Bool.or_eq_true, List.isEmpty_iff,
      decide_eq_true_eq, not_or, Option.some.injEq] at h
    obtain ⟨⟨hne, hlength⟩, rfl⟩ := h
    -- the text goes on behind what has no quotes, so it does with a quote
    obtain ⟨c, more, hmore⟩ : ∃ c more, rest.dropWhile (fun c => decide (c ≠ '"')) = c :: more := by
      refine List.exists_cons_of_ne_nil fun hnil => hlength ?_
      rw [hnil, List.append_nil] at hsplit
      rw [hsplit]
    have hquote : c = '"' := by
      have := List.head?_dropWhile_not (fun c => decide (c ≠ '"')) rest
      rw [hmore] at this
      simpa using this
    have hsimple : '"' ∉ (String.ofList name).toList :=
      fun hmem => hinner '"' (by simpa using hmem) rfl
    refine ⟨.delimited (.ofList name), more, by simpa [Name.IsValid] using hne, hsimple, ?_, ?_⟩
    · rw [Name.inQuery_delimited hsimple, ← hsplit, hmore, hquote]
      simp
    · rw [Name.inQuery_delimited hsimple]
      simp
  · have hchars : ∀ c ∈ text.takeWhile isNameChar, isNameChar c = true :=
      List.all_eq_true.1 List.all_takeWhile
    have hsplit := List.takeWhile_append_dropWhile (p := isNameChar) (l := text)
    simp only [Option.ite_none_left_eq_some, List.isEmpty_iff, Option.some.injEq] at h
    obtain ⟨hne, rfl⟩ := h
    refine ⟨.bare (.ofList (text.takeWhile isNameChar)), text.dropWhile isNameChar, ?_,
      trivial, ?_, ?_⟩
    · exact ⟨by simpa using hne, by simpa using hchars⟩
    · rw [Name.inQuery_bare, String.toList_ofList, hsplit]
    · rw [Name.inQuery_bare, String.toList_ofList]

/-! ### Dotted names -/

/-- A dotted name is found up to its end. -/
theorem nameLength?_append {parts : List Name} (htable : IsTable parts)
    (hsimple : ∀ part ∈ parts, part.IsSimple) {tail : List Char} (htail : BreaksWord tail)
    (hdot : tail.head? ≠ some '.') :
    nameLength? (tableInQuery parts ++ tail) = some (tableInQuery parts).length := by
  obtain ⟨hlength | hlength, hvalid⟩ := htable
  · obtain ⟨part, rfl⟩ := List.length_eq_one_iff.1 hlength
    have hfirst := partLength?_append (hvalid part (by simp)) (hsimple part (by simp)) htail
    rw [Name.tableInQuery_singleton, nameLength?, hfirst, Option.map_some, List.drop_left]
    split
    · exact absurd rfl hdot
    · rfl
  · obtain ⟨first, second, rfl⟩ := List.length_eq_two.1 hlength
    have hbreaks : BreaksWord ('.' :: (second.inQuery ++ tail)) := by
      rintro _ ⟨⟩
      decide
    have hfirst := partLength?_append (hvalid first (by simp)) (hsimple first (by simp)) hbreaks
    have hsecond := partLength?_append (hvalid second (by simp)) (hsimple second (by simp)) htail
    rw [Name.tableInQuery_pair, List.append_assoc, List.cons_append, nameLength?, hfirst,
      Option.map_some, List.drop_left]
    simp only [hsecond, List.length_append, List.length_cons, Option.some.injEq]
    omega

/-- What is found is a dotted name whose parts have no quotes inside. -/
theorem parts_of_nameLength? {text : List Char} {length : Nat}
    (h : nameLength? text = some length) :
    ∃ parts rest, IsTable parts ∧ (∀ part ∈ parts, part.IsSimple) ∧
      text = tableInQuery parts ++ rest ∧ (tableInQuery parts).length = length := by
  obtain ⟨firstLength, hfirst, heq⟩ := Option.map_eq_some_iff.1 h
  obtain ⟨first, rest, hvalid, hsimple, rfl, rfl⟩ := part_of_partLength? hfirst
  have hone : ∃ parts more, IsTable parts ∧ (∀ part ∈ parts, part.IsSimple) ∧
      first.inQuery ++ rest = tableInQuery parts ++ more ∧
      (tableInQuery parts).length = first.inQuery.length :=
    ⟨[first], rest, ⟨.inl rfl, by simpa using hvalid⟩, by simpa using hsimple, by simp, by simp⟩
  rw [List.drop_left] at heq
  split at heq
  · rename_i rest
    split at heq
    · rename_i secondLength hsecond
      obtain ⟨second, rest, hvalid', hsimple', rfl, rfl⟩ := part_of_partLength? hsecond
      refine ⟨[first, second], rest, ⟨.inr rfl, by simp [hvalid, hvalid']⟩,
        by simp [hsimple, hsimple'], by simp, ?_⟩
      rw [← heq, Name.tableInQuery_pair, List.length_append, List.length_cons]
      omega
    · exact heq ▸ hone
  · exact heq ▸ hone

/-! ### Clauses -/

/-- Is a character the letter, in one of the two cases? -/
def IsLetter (c : Char) (letter : Char × Char) : Prop := c = letter.1 ∨ c = letter.2

/-- Is it the word `FROM` in some letter case? -/
def IsKeyword (word : List Char) : Prop := List.Forall₂ IsLetter word keyword

/-- Counting the places at which letters and text agree tells whether the text begins with the
letters, each in one of its cases. -/
theorem countP_zip_eq_length {letters : List (Char × Char)} {text : List Char} :
    (letters.zip text).countP (fun (letter, c) => c == letter.1 || c == letter.2) = letters.length ↔
      ∃ word rest, List.Forall₂ IsLetter word letters ∧ text = word ++ rest := by
  induction letters generalizing text with
  | nil => simp
  | cons letter letters ih =>
      cases text with
      | nil => simp
      | cons c text =>
          have hle :=
            List.countP_le_length (p := fun x => x.2 == x.1.1 || x.2 == x.1.2)
              (l := letters.zip text)
          have hzip : (letters.zip text).length ≤ letters.length := by
            rw [List.length_zip]
            exact Nat.min_le_left _ _
          have hmatch : (c == letter.1 || c == letter.2) = true ↔ IsLetter c letter := by
            simp [IsLetter]
          rw [List.zip_cons_cons, List.countP_cons, List.length_cons]
          by_cases hc : IsLetter c letter
          · simp only [hmatch.2 hc, if_true, Nat.add_right_cancel_iff]
            rw [ih]
            constructor
            · rintro ⟨word, rest, hword, rfl⟩
              exact ⟨c :: word, rest, .cons hc hword, rfl⟩
            · rintro ⟨_, rest, ⟨⟩ | ⟨-, hword⟩, heq⟩
              exact ⟨_, rest, hword, (List.cons.inj heq).2⟩
          · simp only [Bool.eq_false_iff.2 fun h => hc (hmatch.1 h), Bool.false_eq_true, if_false]
            refine iff_of_false (by omega) ?_
            rintro ⟨_, rest, ⟨⟩ | ⟨hc', -⟩, heq⟩
            exact hc ((List.cons.inj heq).1 ▸ hc')

theorem startsWithKeyword_iff {text : List Char} :
    startsWithKeyword text = true ↔ ∃ word rest, IsKeyword word ∧ text = word ++ rest := by
  rw [startsWithKeyword, beq_iff_eq]
  exact countP_zip_eq_length

theorem IsKeyword.length_eq {word : List Char} (h : IsKeyword word) :
    word.length = keyword.length :=
  List.Forall₂.length_eq h

/-- The clause behind the keyword and some blanks is the name that is found there; without a blank
there is no clause. -/
theorem clause?_eq {word blanks text : List Char} (hword : IsKeyword word)
    (hblanks : ∀ c ∈ blanks, Unicode.isBlank c = true)
    (hstop : ∀ c ∈ text.head?, Unicode.isBlank c = false) :
    clause? (word ++ (blanks ++ text)) =
      if blanks.isEmpty then none
      else (nameLength? text).map fun length =>
        (text.take length, word.length + blanks.length + length) := by
  have hstarts : startsWithKeyword (word ++ (blanks ++ text)) = true :=
    startsWithKeyword_iff.2 ⟨word, _, hword, rfl⟩
  have hrun : (blanks ++ text).takeWhile Unicode.isBlank = blanks :=
    takeWhile_append_of_stop hblanks hstop
  simp only [clause?, hstarts, Bool.not_true, Bool.false_eq_true, if_false, ← hword.length_eq,
    List.drop_left, hrun]

/-- A clause is found up to the end of its name. -/
theorem clause?_append {word blanks : List Char} {parts : List Name} (hword : IsKeyword word)
    (hne : blanks ≠ []) (hblanks : ∀ c ∈ blanks, Unicode.isBlank c = true) (htable : IsTable parts)
    (hsimple : ∀ part ∈ parts, part.IsSimple) {tail : List Char} (htail : BreaksWord tail)
    (hdot : tail.head? ≠ some '.') :
    clause? (word ++ (blanks ++ (tableInQuery parts ++ tail)))
      = some (tableInQuery parts, word.length + blanks.length + (tableInQuery parts).length) := by
  obtain ⟨c, chars, hhead, hc⟩ := htable.exists_cons
  rw [clause?_eq hword hblanks (by simpa [hhead] using hc.isBlank),
    nameLength?_append htable hsimple htail hdot,
    if_neg (by simpa using hne), Option.map_some, List.take_left]

/-- What is found as a clause is one. -/
theorem of_clause? {text name : List Char} {length : Nat} (h : clause? text = some (name, length)) :
    ∃ word blanks parts rest, IsKeyword word ∧
      (blanks ≠ [] ∧ ∀ c ∈ blanks, Unicode.isBlank c = true) ∧
      IsTable parts ∧ (∀ part ∈ parts, part.IsSimple) ∧ name = tableInQuery parts ∧
      text = word ++ (blanks ++ name) ++ rest ∧ length = (word ++ (blanks ++ name)).length := by
  unfold clause? at h
  split at h
  · cases h
  rename_i hstarts
  obtain ⟨word, rest, hword, rfl⟩ := startsWithKeyword_iff.1 (by simpa using hstarts)
  have hblanks : ∀ c ∈ rest.takeWhile Unicode.isBlank, Unicode.isBlank c = true :=
    List.all_eq_true.1 List.all_takeWhile
  have hsplit := List.takeWhile_append_dropWhile (p := Unicode.isBlank) (l := rest)
  simp only [← hword.length_eq, List.drop_left, List.isEmpty_iff, Option.ite_none_left_eq_some] at h
  obtain ⟨hne, hname⟩ := h
  generalize rest.takeWhile Unicode.isBlank = blanks at hblanks hsplit hne hname
  obtain ⟨nameLength, hlength, heq⟩ := Option.map_eq_some_iff.1 hname
  rw [← hsplit, List.drop_left] at hlength heq
  obtain ⟨parts, more, htable, hsimple, hmore, rfl⟩ := parts_of_nameLength? hlength
  rw [hmore, List.take_left] at heq
  cases heq
  refine ⟨word, blanks, parts, more, hword, ⟨hne, hblanks⟩, htable, hsimple, rfl, ?_, ?_⟩
  · rw [← hsplit, hmore]
    simp
  · simp only [List.length_append]
    omega

/-! ### The way to the clause -/

/-- Does a text begin with the word `FROM`? -/
def StartsWithFrom (text : List Char) : Prop :=
  startsWithKeyword text = true ∧ BreaksWord (text.drop keyword.length)

instance (text : List Char) : Decidable (StartsWithFrom text) := inferInstanceAs (Decidable (_ ∧ _))

/-- The quote that is open behind a character, `quote?` being open in front of it. -/
def quoteAfter (quote? : Option Char) (c : Char) : Option Char :=
  match quote? with
  | some quote => if c = quote then none else some quote
  | none => if c = '\'' ∨ c = '"' then some c else none

/-- Does a character open and close nothing? -/
def IsPlain (c : Char) : Prop := quoteAfter none c = none ∧ depthChange c = 0

/-- Does a text lead out of all quotes and parentheses to where a word may begin, with `FROM` only
in parentheses on the way? `quote?` is the open quote at its beginning, and between quotes there are
neither parentheses nor `FROM`. -/
def Leads (quote? : Option Char) (inWord : Bool) (depth : Int) : List Char → Prop
  | [] => quote? = none ∧ inWord = false ∧ depth = 0
  | c :: rest =>
      (inWord = false → StartsWithFrom (c :: rest) → quote? = none ∧ depth ≠ 0) ∧
        (quote? ≠ none → depthChange c = 0) ∧
        Leads (quoteAfter quote? c) (Unicode.isWord c) (depth + depthChange c) rest

instance decidableLeads (quote? : Option Char) (inWord : Bool) (depth : Int) :
    (text : List Char) → Decidable (Leads quote? inWord depth text)
  | [] => inferInstanceAs (Decidable (_ ∧ _ ∧ _))
  | c :: rest =>
      have := decidableLeads (quoteAfter quote? c) (Unicode.isWord c) (depth + depthChange c) rest
      inferInstanceAs (Decidable (_ ∧ _ ∧ _))

/-- Does a clause seem to begin at the head of a text: the word, blanks, and nothing behind them
that no name begins with? -/
def SeesClause (text : List Char) : Prop :=
  startsWithKeyword text = true ∧ (text.drop keyword.length).takeWhile Unicode.isBlank ≠ [] ∧
    ∀ c ∈ ((text.drop keyword.length).dropWhile Unicode.isBlank).head?, BeginsPart c

instance (text : List Char) : Decidable (SeesClause text) := inferInstanceAs (Decidable (_ ∧ _ ∧ _))

/-- Where a clause is seen, the keyword ends a word. -/
theorem SeesClause.startsWithFrom {text : List Char} (h : SeesClause text) :
    StartsWithFrom text := by
  obtain ⟨hstarts, hblanks, -⟩ := h
  refine ⟨hstarts, fun c hc => ?_⟩
  obtain ⟨rest, hrest⟩ := List.head?_eq_some_iff.1 hc
  by_contra hchar
  have hblank : Unicode.isBlank c = false := BeginsPart.isBlank (.inl (by simpa using hchar))
  exact hblanks (by rw [hrest, List.takeWhile_cons_of_neg (by simp [hblank])])

/-- Where a clause is found, one is seen. -/
theorem seesClause_of_clause? {text name : List Char} {length : Nat}
    (h : clause? text = some (name, length)) : SeesClause text := by
  obtain ⟨word, blanks, parts, rest, hword, ⟨hne, hblanks⟩, htable, -, rfl, rfl, -⟩ := of_clause? h
  obtain ⟨c, chars, hhead, hc⟩ := htable.exists_cons
  have hstop : Unicode.isBlank c ≠ true := by simp [hc.isBlank]
  rw [List.append_assoc, List.append_assoc, SeesClause, ← hword.length_eq, List.drop_left,
    List.takeWhile_append_of_pos hblanks, List.dropWhile_append_of_pos hblanks, hhead,
      List.cons_append,
    List.takeWhile_cons_of_neg hstop, List.dropWhile_cons_of_neg hstop, List.append_nil]
  refine ⟨startsWithKeyword_iff.2 ⟨word, _, hword, rfl⟩, hne, ?_⟩
  rintro _ ⟨⟩
  exact hc

/-- The first letter of the word is none of the others. -/
theorem not_isLetter_tail {c : Char} (h : IsLetter c ('F', 'f')) :
    ∀ letter ∈ keyword.tail, ¬IsLetter c letter := by
  rcases h with rfl | rfl <;> simp [keyword, IsLetter]

/-- No word `FROM` ends with the beginning of another one. -/
theorem IsKeyword.of_append {text word word' tail rest : List Char} (hword : IsKeyword word)
    (hword' : IsKeyword word') (hne : text ≠ []) (heq : text ++ (word ++ tail) = word' ++ rest) :
    ∃ more, text = word' ++ more := by
  unfold IsKeyword keyword at hword hword'
  rcases hword with _ | ⟨hf, _ | ⟨-, _ | ⟨-, _ | ⟨-, ⟨⟩⟩⟩⟩⟩
  rcases hword' with _ | ⟨-, _ | ⟨hr, _ | ⟨ho, _ | ⟨hm, ⟨⟩⟩⟩⟩⟩
  have hother := not_isLetter_tail hf
  match text with
  | [_] =>
      simp only [List.cons_append, List.nil_append, List.cons.injEq] at heq
      exact absurd (heq.2.1 ▸ hr) (hother _ (by decide))
  | [_, _] =>
      simp only [List.cons_append, List.nil_append, List.cons.injEq] at heq
      exact absurd (heq.2.2.1 ▸ ho) (hother _ (by decide))
  | [_, _, _] =>
      simp only [List.cons_append, List.nil_append, List.cons.injEq] at heq
      exact absurd (heq.2.2.2.1 ▸ hm) (hother _ (by decide))
  | _ :: _ :: _ :: _ :: more =>
      simp only [List.cons_append, List.cons.injEq] at heq
      obtain ⟨rfl, rfl, rfl, rfl, -⟩ := heq
      exact ⟨more, rfl⟩

/-- Every letter of the keyword may stand in a name. -/
theorem IsKeyword.isNameChar {word : List Char} (h : IsKeyword word) :
    ∀ c ∈ word, isNameChar c = true := by
  have hletters : ∀ letter ∈ keyword, TableName.isNameChar letter.1 = true ∧
      TableName.isNameChar letter.2 = true := by
    decide
  unfold IsKeyword at h
  generalize keyword = letters at h hletters
  induction h with
  | nil => simp
  | cons hc _ ih =>
      rw [List.forall_mem_cons] at hletters ⊢
      exact ⟨hc.elim (· ▸ hletters.1.1) (· ▸ hletters.1.2), ih hletters.2⟩

theorem IsKeyword.exists_cons {word : List Char} (h : IsKeyword word) :
    ∃ c chars, word = c :: chars ∧ Unicode.isBlank c = false := by
  obtain ⟨c, chars, rfl⟩ : ∃ c chars, word = c :: chars := by
    refine List.exists_cons_of_ne_nil ?_
    rintro rfl
    cases h
  exact ⟨c, chars, rfl, BeginsPart.isBlank (.inl (h.isNameChar c List.mem_cons_self))⟩

/-- What seems to be a clause in front of the word seems to be one without it. -/
theorem SeesClause.of_append {text word tail : List Char} (hword : IsKeyword word) (hne : text ≠ [])
    (h : SeesClause (text ++ (word ++ tail))) : SeesClause text := by
  obtain ⟨hstarts, hblanks, hpart⟩ := h
  obtain ⟨word', rest, hword', heq⟩ := startsWithKeyword_iff.1 hstarts
  obtain ⟨more, rfl⟩ := hword.of_append hword' hne heq
  rw [List.append_assoc, ← hword'.length_eq, List.drop_left] at hblanks hpart
  rw [SeesClause, ← hword'.length_eq, List.drop_left]
  refine ⟨startsWithKeyword_iff.2 ⟨word', more, hword', rfl⟩, fun hnone => hblanks ?_,
    fun c hc => hpart c ?_⟩
  · -- the word itself begins with no blank
    obtain ⟨c, chars, rfl, hc⟩ := hword.exists_cons
    cases more with
    | nil => exact List.takeWhile_cons_of_neg (by simp [hc])
    | cons x more =>
        have hx : ¬Unicode.isBlank x = true := by
          intro hx
          rw [List.takeWhile_cons_of_pos hx] at hnone
          cases hnone
        exact List.takeWhile_cons_of_neg hx
  · have hrest : more.dropWhile Unicode.isBlank ≠ [] := by
      intro hnil
      rw [hnil] at hc
      cases hc
    rw [List.dropWhile_append, if_neg (by simpa using hrest), List.head?_append_of_ne_nil _ hrest]
    exact hc

/-- Does the clause at the head of a text end within the text, so that nothing behind the text can
become part of it? -/
def EndsClause (text : List Char) : Prop :=
  ∃ found ∈ clause? text, text.drop found.2 ≠ [] ∧ BreaksWord (text.drop found.2) ∧
    (text.drop found.2).head? ≠ some '.'

instance (text : List Char) : Decidable (EndsClause text) :=
  inferInstanceAs (Decidable (∃ found ∈ clause? text, _ ∧ _ ∧ _))

/-- A clause that ends within the text is found whatever stands behind the text. -/
theorem EndsClause.clause?_append {text : List Char} (h : EndsClause text) (more : List Char) :
    clause? (text ++ more) = clause? text := by
  obtain ⟨⟨name, length⟩, hclause, hne, hbreaks, hdot⟩ := h
  rw [Option.mem_def.1 hclause]
  obtain ⟨word, blanks, parts, rest, hword, ⟨hblank, hblanks⟩, htable, hsimple, rfl, rfl, rfl⟩ :=
    of_clause? hclause
  rw [List.drop_left] at hne hbreaks hdot
  obtain ⟨c, rest, rfl⟩ := List.exists_cons_of_ne_nil hne
  have hbreaks' : BreaksWord (c :: rest ++ more) := hbreaks
  have hmore := TableName.clause?_append hword hblank hblanks htable hsimple hbreaks' hdot
  simp only [List.append_assoc, List.length_append, ← Nat.add_assoc] at hmore ⊢
  exact hmore

/-- Does the search pass a text, without a table in a place where none is meant? A clause that it
sees on the way lies outside of quotes and between parentheses, or it ends within the text; and the
text leads out of all quotes and parentheses to where a word may begin. `quote?` is the open quote
at the beginning. -/
def Passes (quote? : Option Char) (inWord : Bool) (depth : Int) : List Char → Prop
  | [] => quote? = none ∧ inWord = false ∧ depth = 0
  | c :: rest =>
      (inWord = false → SeesClause (c :: rest) → (quote? = none ∧ depth ≠ 0) ∨
        EndsClause (c :: rest)) ∧
        Passes (quoteAfter quote? c) (Unicode.isWord c)
          (if quote? = none then depth + depthChange c else depth) rest

/-- The search passes a text that leads out of all quotes and parentheses. -/
theorem Leads.passes {quote? : Option Char} {inWord : Bool} {depth : Int} {text : List Char}
    (h : Leads quote? inWord depth text) : Passes quote? inWord depth text := by
  induction text generalizing quote? inWord depth with
  | nil => exact h
  | cons c rest ih =>
      obtain ⟨hfrom, hquoted, hrest⟩ := h
      refine ⟨fun hword hsees => .inl (hfrom hword hsees.startsWithFrom), ?_⟩
      split
      · exact ih hrest
      · rename_i hopen
        rw [hquoted hopen, Int.add_zero] at hrest
        exact ih hrest

section Between

/-! Between parentheses, what the search finds does not depend on what stands behind the text:
whatever it runs over is closed within the text, or ends in front of the closing parenthesis. -/

variable {depth : Int} {inWord : Bool} {text : List Char}

/-- Characters that are no marks are plain. -/
theorem isPlain_of {p : Char → Bool} (hmarks : ['\'', '"', '(', ')'].all (!p ·) = true) {c : Char}
    (h : p c = true) : IsPlain c := by
  have hne : ∀ mark ∈ ['\'', '"', '(', ')'], c ≠ mark := by
    rintro mark hmark rfl
    have hnot := List.all_eq_true.1 hmarks c hmark
    rw [h] at hnot
    cases hnot
  simp only [List.mem_cons, List.not_mem_nil, or_false, forall_eq_or_imp, forall_eq] at hne
  simp [IsPlain, quoteAfter, depthChange, hne]

/-- A plain character changes neither the quote nor the depth. -/
theorem Passes.tail {c : Char} (h : Passes none inWord depth (c :: text)) (hc : IsPlain c) :
    Passes none (Unicode.isWord c) depth text := by
  have hrest := h.2
  rwa [hc.1, if_pos rfl, hc.2, Int.add_zero] at hrest

theorem Passes.exists_cons (h : Passes none inWord depth text) (hdepth : depth ≠ 0) :
    ∃ c rest, text = c :: rest := by
  cases text with
  | nil => exact absurd h.2.2 hdepth
  | cons c rest => exact ⟨c, rest, rfl⟩

/-- Neither does a run of plain characters. -/
theorem Passes.of_append {run : List Char} (h : Passes none inWord depth (run ++ text))
    (hrun : ∀ c ∈ run, IsPlain c) : ∃ inWord', Passes none inWord' depth text := by
  induction run generalizing inWord with
  | nil => exact ⟨inWord, h⟩
  | cons c run ih =>
      rw [List.forall_mem_cons] at hrun
      exact ih (h.tail hrun.1) hrun.2

/-- A run of plain characters ends within the text. -/
theorem Passes.run (h : Passes none inWord depth text) (hdepth : depth ≠ 0) {p : Char → Bool}
    (hplain : ∀ c, p c = true → IsPlain c) :
    ∃ run c rest, text = run ++ c :: rest ∧ (∀ x ∈ run, p x = true) ∧ p c = false ∧
      ∃ inWord', Passes none inWord' depth (c :: rest) := by
  induction text generalizing inWord with
  | nil => exact absurd h.2.2 hdepth
  | cons c text ih =>
      by_cases hc : p c = true
      · obtain ⟨run, c', rest, rfl, hrun, hstop, hrest⟩ := ih (h.tail (hplain c hc))
        exact ⟨c :: run, c', rest, rfl, List.forall_mem_cons.2 ⟨hc, hrun⟩, hstop, hrest⟩
      · exact ⟨[], c, text, rfl, nofun, by simpa using hc, inWord, h⟩

/-- A quote that is open is closed within the text. -/
theorem Passes.close {quote : Char} (h : Passes (some quote) inWord depth text) :
    ∃ name rest, text = name ++ quote :: rest ∧ quote ∉ name ∧
      Passes none (Unicode.isWord quote) depth rest := by
  induction text generalizing inWord with
  | nil => cases h.1
  | cons c text ih =>
      have hrest := h.2
      rw [if_neg (by simp), quoteAfter] at hrest
      by_cases hc : c = quote
      · subst hc
        rw [if_pos rfl] at hrest
        exact ⟨[], text, rfl, List.not_mem_nil, hrest⟩
      · rw [if_neg hc] at hrest
        obtain ⟨name, rest, rfl, hname, hrest⟩ := ih hrest
        refine ⟨c :: name, rest, rfl, ?_, hrest⟩
        rintro (_ | ⟨_, hmem⟩)
        · exact hc rfl
        · exact hname hmem

/-- Between parentheses a part ends within the text, so nothing behind the text makes it longer, and
the text behind the part is still between parentheses. -/
theorem Passes.partLength?_between (h : Passes none inWord depth text) (hdepth : depth ≠ 0) :
    (∀ more, partLength? (text ++ more) = partLength? text) ∧
      ∀ length ∈ partLength? text,
        length ≤ text.length ∧ ∃ inWord', Passes none inWord' depth (text.drop length) := by
  obtain ⟨c, rest, rfl⟩ := h.exists_cons hdepth
  by_cases hc : c = '"'
  · subst hc
    have hopen : Passes (some '"') (Unicode.isWord '"') depth rest := by
      have hrest := h.2
      rwa [if_pos rfl, show depthChange '"' = 0 from rfl, Int.add_zero] at hrest
    obtain ⟨name, rest, rfl, hname, hrest⟩ := hopen.close
    rw [partLength?_quoted hname]
    refine ⟨fun more => ?_, fun length hlength => ?_⟩
    · rw [List.cons_append, List.append_assoc, List.cons_append, partLength?_quoted hname]
    · simp only [Option.mem_def, Option.ite_none_left_eq_some, Option.some.injEq] at hlength
      obtain ⟨-, rfl⟩ := hlength
      refine ⟨by simp, Unicode.isWord '"', ?_⟩
      rwa [List.append_cons, ← List.cons_append, List.drop_left' (by simp)]
  · obtain ⟨run, c', rest', heq, hrun, hstop, hrest⟩ :=
      h.run hdepth fun c => isPlain_of (p := isNameChar) (by decide)
    have htake (more : List Char) : (c :: rest ++ more).takeWhile isNameChar = run := by
      rw [heq, List.append_assoc]
      exact takeWhile_append_of_stop hrun (by simpa using hstop)
    rw [partLength?_of_ne hc (by simpa using htake [])]
    refine ⟨fun more => partLength?_of_ne hc (htake more), fun length hlength => ?_⟩
    simp only [Option.mem_def, Option.ite_none_left_eq_some, Option.some.injEq] at hlength
    obtain ⟨-, rfl⟩ := hlength
    rw [heq, List.drop_left]
    exact ⟨by simp, hrest⟩

/-- The same of a dotted name: a first part, and a second one behind a dot. -/
theorem Passes.nameLength?_between (h : Passes none inWord depth text) (hdepth : depth ≠ 0)
    (more : List Char) : nameLength? (text ++ more) = nameLength? text := by
  obtain ⟨hsame, hdrop⟩ := h.partLength?_between hdepth
  rw [nameLength?, nameLength?, hsame]
  refine Option.map_congr fun first hfirst => ?_
  obtain ⟨hle, inWord', hrest⟩ := hdrop first hfirst
  obtain ⟨c, rest, hcons⟩ := hrest.exists_cons hdepth
  rw [List.drop_append_of_le_length hle, hcons, List.cons_append]
  rw [hcons] at hrest
  by_cases hc : c = '.'
  · subst hc
    simp only [((hrest.tail ⟨rfl, rfl⟩).partLength?_between hdepth).1]
  · simp [hc]

/-- The same of a clause: keyword, blanks and name all end within the text. -/
theorem Passes.clause?_between (h : Passes none inWord depth text) (hdepth : depth ≠ 0)
    (hstarts : startsWithKeyword text = true) (more : List Char) :
    clause? (text ++ more) = clause? text := by
  obtain ⟨word, rest, hword, rfl⟩ := startsWithKeyword_iff.1 hstarts
  obtain ⟨_, hrest⟩ := h.of_append fun c hc => isPlain_of (by decide) (hword.isNameChar c hc)
  obtain ⟨blanks, c, rest, rfl, hblanks, hstop, _, hrest⟩ :=
    hrest.run hdepth fun c => isPlain_of (p := Unicode.isBlank) (by decide)
  rw [List.append_assoc, List.append_assoc, clause?_eq hword hblanks (by simpa using hstop),
    clause?_eq hword hblanks (by simpa using hstop), hrest.nameLength?_between hdepth]
  congr 1
  refine Option.map_congr fun length hlength => ?_
  obtain ⟨parts, rest', -, -, heq, rfl⟩ := parts_of_nameLength? hlength
  rw [heq, List.append_assoc, List.take_left, List.take_left]

end Between

/-- What the search sees on its way does not depend on what stands behind the text. -/
theorem Passes.clause?_append {quote? : Option Char} {depth : Int} {c : Char}
    {rest word : List Char} (h : Passes quote? false depth (c :: rest)) (hword : IsKeyword word)
    (tail : List Char) :
    clause? (c :: (rest ++ (word ++ tail))) = clause? (c :: rest) := by
  rw [← List.cons_append]
  by_cases hsees : SeesClause (c :: rest)
  · obtain ⟨rfl, hdepth⟩ | hends := h.1 rfl hsees
    · exact h.clause?_between hdepth hsees.1 _
    · exact hends.clause?_append _
  · have hnone : clause? (c :: rest) = none :=
      Option.eq_none_iff_forall_ne_some.2 fun found hfound => hsees (seesClause_of_clause? hfound)
    rw [hnone]
    exact Option.eq_none_iff_forall_ne_some.2 fun found hfound =>
      hsees ((seesClause_of_clause? hfound).of_append hword (List.cons_ne_nil c rest))

/-- By how much a text changes the depth that the search counts: quotes or not, it counts all
parentheses. -/
def countedDepth : List Char → Int
  | [] => 0
  | c :: rest => depthChange c + countedDepth rest

theorem length_le_of_clause? {text name : List Char} {length : Nat}
    (h : clause? text = some (name, length)) : length ≤ text.length := by
  obtain ⟨-, -, -, rest, -, -, -, -, -, rfl, rfl⟩ := of_clause? h
  simp

/-- The search comes to the end of a text that it passes, if it finds nothing there. -/
theorem search_append {front word tail : List Char} {quote? : Option Char} {inWord : Bool}
    {depth counted : Int} {passed : Nat} (hword : IsKeyword word)
    (hpasses : Passes quote? inWord depth front) (hpassed : passed ≤ front.length) :
    search passed inWord counted (front ++ (word ++ tail)) =
      (search passed inWord counted front).or
        (search 0 false (counted + countedDepth front) (word ++ tail)) := by
  induction front generalizing quote? inWord depth counted passed with
  | nil =>
      obtain ⟨-, rfl, -⟩ := hpasses
      obtain rfl : passed = 0 := Nat.le_zero.1 hpassed
      simp [search, countedDepth]
  | cons c front ih =>
      -- in every case the search goes on behind `c`, if it has not found the clause
      have hnext {n : Nat} {next : Int} (hn : n ≤ front.length) :
          search n (Unicode.isWord c) next (front ++ (word ++ tail)) =
            (search n (Unicode.isWord c) next front).or
              (search 0 false (next + countedDepth front) (word ++ tail)) :=
        ih hpasses.2 hn
      rw [List.length_cons] at hpassed
      rw [List.cons_append, search, search, countedDepth, ← Int.add_assoc]
      by_cases hpositive : 0 < passed
      · rw [if_pos hpositive, if_pos hpositive]
        exact hnext (by omega)
      rw [if_neg hpositive, if_neg hpositive]
      cases inWord with
      | true => exact hnext (Nat.zero_le _)
      | false =>
          rw [hpasses.clause?_append hword]
          cases hclause : clause? (c :: front) with
          | none => exact hnext (Nat.zero_le _)
          | some found =>
              have hlength := length_le_of_clause? hclause
              rw [List.length_cons] at hlength
              by_cases hcounted : counted = 0
              · simp [hcounted]
              · simp only [Bool.false_eq_true, if_false, if_neg hcounted]
                exact hnext (by omega)

/-- On the way to the clause the search finds nothing, and it counts all parentheses as closed at
the end. -/
theorem Leads.search_eq_none {front : List Char} {quote? : Option Char}
    {inWord : Bool} {depth : Int} (h : Leads quote? inWord depth front) (passed : Nat) :
    search passed inWord depth front = none ∧ depth + countedDepth front = 0 := by
  induction front generalizing quote? inWord depth passed with
  | nil =>
      obtain ⟨-, -, rfl⟩ := h
      exact ⟨rfl, rfl⟩
  | cons c front ih =>
      have hnext := fun n => ih h.2.2 n
      refine ⟨?_, by rw [countedDepth, ← Int.add_assoc]; exact (hnext 0).2⟩
      rw [search]
      split
      · exact (hnext _).1
      split
      · exact (hnext _).1
      split
      · exact (hnext _).1
      · -- what looks like a clause on the way is not at depth zero, so it is passed over
        rename_i hin _ _ _ hclause
        have hdepth := (h.1 (by simpa using hin) (seesClause_of_clause? hclause).startsWithFrom).2
        rw [if_neg hdepth]
        exact (hnext _).1

/-- A clause outside of all parentheses is the one that is looked for. -/
theorem search_clause {word blanks : List Char} {parts : List Name} (hword : IsKeyword word)
    (hne : blanks ≠ []) (hblanks : ∀ c ∈ blanks, Unicode.isBlank c = true) (htable : IsTable parts)
    (hsimple : ∀ part ∈ parts, part.IsSimple) {tail : List Char} (htail : BreaksWord tail)
    (hdot : tail.head? ≠ some '.') :
    search 0 false 0 (word ++ (blanks ++ (tableInQuery parts ++ tail))) =
      some (tableInQuery parts) := by
  have hclause := clause?_append hword hne hblanks htable hsimple htail hdot
  obtain ⟨c, chars, rfl, -⟩ := hword.exists_cons
  rw [List.cons_append] at hclause ⊢
  simp [search, hclause]

/-- Does a query name this table behind the first `FROM` outside of parentheses? -/
def Names (query : List Char) (parts : List Name) : Prop :=
  ∃ front word blanks tail, query = front ++ (word ++ (blanks ++ (tableInQuery parts ++ tail))) ∧
    Leads none false 0 front ∧ IsKeyword word ∧
    (blanks ≠ [] ∧ ∀ c ∈ blanks, Unicode.isBlank c = true) ∧ IsTable parts ∧ EndsTable tail

/-- A table without quotes inside is found. -/
theorem ofQuery_of_names {query : String} {parts : List Name} (h : Names query.toList parts)
    (hsimple : ∀ part ∈ parts, part.IsSimple) :
    ofQuery query = some (.ofList (tableInQuery parts)) := by
  obtain ⟨front, word, blanks, tail, hquery, hleads, hword, ⟨hne, hblanks⟩, htable, htail⟩ := h
  obtain ⟨hnone, hdepth⟩ := hleads.search_eq_none 0
  rw [ofQuery, hquery, search_append hword hleads.passes (Nat.zero_le _), hnone,
    hdepth, Option.none_or,
    search_clause hword hne hblanks htable hsimple htail.1 htail.head?_ne, Option.map_some]

/-- What the search finds has one or two parts, and none has quotes inside. -/
theorem exists_parts_of_search {text name : List Char} {passed : Nat} {inWord : Bool} {depth : Int}
    (h : search passed inWord depth text = some name) :
    ∃ parts, IsTable parts ∧ (∀ part ∈ parts, part.IsSimple) ∧ name = tableInQuery parts := by
  induction text generalizing passed inWord depth with
  | nil => cases h
  | cons c text ih =>
      rw [search] at h
      split at h
      · exact ih h
      split at h
      · exact ih h
      split at h
      · exact ih h
      · rename_i found length hclause
        split at h
        · obtain rfl := Option.some.inj h
          obtain ⟨-, -, parts, -, -, -, htable, hsimple, rfl, -, -⟩ := of_clause? hclause
          exact ⟨parts, htable, hsimple, rfl⟩
        · exact ih h

theorem exists_parts_of_ofQuery {query name : String} (h : ofQuery query = some name) :
    ∃ parts, IsTable parts ∧ (∀ part ∈ parts, part.IsSimple) ∧
      name = .ofList (tableInQuery parts) := by
  obtain ⟨name, hsearch, rfl⟩ := Option.map_eq_some_iff.1 h
  obtain ⟨parts, htable, hsimple, rfl⟩ := exists_parts_of_search hsearch
  exact ⟨parts, htable, hsimple, rfl⟩

end TableName

end InsertScript
