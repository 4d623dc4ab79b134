import InsertScript.Proofs.FromClauses

/-!
# What stands in front of the table in a query

In front of the `FROM` of a query, `FROM` stands in parentheses only, all of which are closed, and
what is quoted does not count (`TableName.Closes`). The search reads the quotes along with the rest:
it counts the parentheses in them, and it takes a `FROM` in them for one. Where each such `FROM` has
its own table behind it (`TableName.Exposes`), the table of the query is found, whichever it is,
exactly if no table is found in front of it and the parentheses in the quotes cancel out
(`TableName.finds_iff`).
-/

namespace InsertScript.TableName

open Name (tableInQuery)

/-- Does a text lead out of all quotes and parentheses to where a word may begin, with `FROM` only
in parentheses on the way? `quote?` is the open quote at its beginning; what is quoted does not
count. -/
def Closes (quote? : Option Char) (inName : Bool) (depth : Int) : List Char → Prop
  | [] => quote? = none ∧ inName = false ∧ depth = 0
  | c :: rest =>
      (quote? = none → inName = false → StartsWithFrom (c :: rest) → depth ≠ 0) ∧
        Closes (quoteAfter quote? c) (isNameChar c)
          (if quote? = none then depth + depthChange c else depth) rest

instance decidableCloses (quote? : Option Char) (inName : Bool) (depth : Int) :
    (text : List Char) → Decidable (Closes quote? inName depth text)
  | [] => inferInstanceAs (Decidable (_ ∧ _ ∧ _))
  | c :: rest =>
      have := decidableCloses (quoteAfter quote? c) (isNameChar c)
        (if quote? = none then depth + depthChange c else depth) rest
      inferInstanceAs (Decidable (_ ∧ _))

/-- Is everything in a text that the search takes for a `FROM` a word of its own outside of quotes,
or followed by a table that ends within the text? -/
def Exposes (quote? : Option Char) (inName inWord : Bool) : List Char → Prop
  | [] => True
  | c :: rest =>
      (inWord = false → SeesClause (c :: rest) → (quote? = none ∧ inName = false) ∨
        EndsClause (c :: rest)) ∧
        Exposes (quoteAfter quote? c) (isNameChar c) (Unicode.isWord c) rest

instance decidableExposes (quote? : Option Char) (inName inWord : Bool) :
    (text : List Char) → Decidable (Exposes quote? inName inWord text)
  | [] => inferInstanceAs (Decidable True)
  | c :: rest =>
      have := decidableExposes (quoteAfter quote? c) (isNameChar c) (Unicode.isWord c) rest
      inferInstanceAs (Decidable (_ ∧ _))

/-- Is the table found that stands behind the text and the word `FROM`, whichever table it is, if it
ends with the query or in front of a blank or a semicolon? -/
def Finds (front : List Char) : Prop :=
  ∀ word blanks parts tail, IsKeyword word → blanks ≠ [] →
    (∀ c ∈ blanks, Unicode.isBlank c = true) →
    IsTable parts → (∀ part ∈ parts, part.IsSimple) →
      (∀ c ∈ tail.head?, Unicode.isBlank c = true ∨ c = ';') →
      ofQuery (.ofList (front ++ (word ++ (blanks ++ (tableInQuery parts ++ tail))))) =
        some (.ofList (tableInQuery parts))

/-- A front that closes and exposes what it opens is passed by the search. -/
theorem Closes.passes {quote? : Option Char} {inName inWord : Bool} {depth : Int}
    {front : List Char} (hcloses : Closes quote? inName depth front)
    (hexposes : Exposes quote? inName inWord front) (hword : inWord = true → inName = true) :
    Passes quote? inWord depth front := by
  induction front generalizing quote? inName inWord depth with
  | nil =>
      obtain ⟨hquote, hname, hdepth⟩ := hcloses
      refine ⟨hquote, ?_, hdepth⟩
      rw [← Bool.not_eq_true]
      intro h
      rw [hword h] at hname
      cases hname
  | cons c front ih =>
      refine ⟨fun hin hsees => ?_, ih hcloses.2 hexposes.2 fun h => by
        rw [isNameChar, h, Bool.true_or]⟩
      obtain ⟨hquote, hname⟩ | hends := hexposes.1 hin hsees
      · exact .inl ⟨hquote, hcloses.1 hquote hname hsees.startsWithFrom⟩
      · exact .inr hends

theorem breaksWord_of_separator {tail : List Char}
    (h : ∀ c ∈ tail.head?, Unicode.isBlank c = true ∨ c = ';') :
    BreaksWord tail ∧ tail.head? ≠ some '.' := by
  refine ⟨fun c hc => ?_, fun hdot => ?_⟩
  · obtain hblank | rfl := h c hc
    · exact isNameChar_of_isBlank hblank
    · decide
  · exact absurd (h '.' hdot) (by decide)

/-- How a text changes the depth by the parentheses between its quotes. `quote?` is the open quote
at its beginning. -/
def quotedDepth (quote? : Option Char) : List Char → Int
  | [] => 0
  | c :: rest =>
      (if quote? = none then 0 else depthChange c) + quotedDepth (quoteAfter quote? c) rest

/-- All parentheses outside of quotes are closed, so it is those between quotes that are counted. -/
theorem Closes.countedDepth_eq {quote? : Option Char} {inName : Bool} {depth : Int}
    {front : List Char} (h : Closes quote? inName depth front) :
    depth + countedDepth front = quotedDepth quote? front := by
  induction front generalizing quote? inName depth with
  | nil =>
      obtain ⟨-, -, rfl⟩ := h
      rfl
  | cons c front ih =>
      have hrest := ih h.2
      rw [countedDepth, quotedDepth, ← hrest]
      split <;> omega

/-! ### Tables between parentheses -/

theorem search_of_length_le {text : List Char} {passed : Nat} (h : text.length ≤ passed)
    (inWord : Bool) (depth : Int) : search passed inWord depth text = none := by
  induction text generalizing passed inWord depth with
  | nil => rfl
  | cons c text ih =>
      rw [List.length_cons] at h
      rw [search, if_pos (by omega)]
      exact ih (by omega) _ _

/-- A table between parentheses is passed over. -/
theorem search_of_ne_zero {word blanks : List Char} {parts : List Name} (hword : IsKeyword word)
    (hne : blanks ≠ []) (hblanks : ∀ c ∈ blanks, Unicode.isBlank c = true) (htable : IsTable parts)
    (hsimple : ∀ part ∈ parts, part.IsSimple) {depth : Int} (hdepth : depth ≠ 0) :
    search 0 false depth (word ++ (blanks ++ tableInQuery parts)) = none := by
  have hclause :=
    clause?_append hword hne hblanks htable hsimple (by decide : BreaksWord []) (by decide)
  rw [List.append_nil, Nat.add_assoc, ← List.length_append, ← List.length_append] at hclause
  generalize word ++ (blanks ++ tableInQuery parts) = text at hclause
  cases text with
  | nil => rfl
  | cons c text =>
      simp only [search, Nat.not_lt_zero, if_false, Bool.false_eq_true, hclause, hdepth]
      exact search_of_length_le (by simp) _ _

/-! ### The table behind -/

theorem isKeyword_capital : IsKeyword "FROM".toList :=
  .cons (.inl rfl) (.cons (.inl rfl) (.cons (.inl rfl) (.cons (.inl rfl) .nil)))

theorem isBlank_of_mem_space : ∀ c ∈ [' '], Unicode.isBlank c = true :=
  List.forall_mem_singleton.2 (by decide)

section Probes

/-! Two tables behind a text tell what the search comes by in it. -/

variable {front : List Char} (hfinds : Finds front) (hpasses : Passes none false 0 front)
include hfinds hpasses

theorem Finds.search_probe {name : Name} (hvalid : name.IsValid) (hsimple : name.IsSimple) :
    (search 0 false 0 front).or
      (search 0 false (countedDepth front) ("FROM".toList ++ ([' '] ++ tableInQuery [name]))) =
        some (tableInQuery [name]) := by
  have h :=
    hfinds "FROM".toList [' '] [name] [] isKeyword_capital (List.cons_ne_nil _ _)
      isBlank_of_mem_space (isTable_singleton hvalid) (List.forall_mem_singleton.2 hsimple)
      (by simp)
  rw [ofQuery, String.toList_ofList, List.append_nil,
    search_append isKeyword_capital hpasses (Nat.zero_le _), Int.zero_add] at h
  obtain ⟨found, hsearch, heq⟩ := Option.map_eq_some_iff.1 h
  obtain rfl := String.ofList_inj.1 heq
  exact hsearch

/-- Of two tables that differ, at most one stands in the text itself. -/
theorem Finds.search_eq_none : search 0 false 0 front = none := by
  cases hfront : search 0 false 0 front with
  | none => rfl
  | some found =>
      have hbare := hfinds.search_probe hpasses (by decide : (Name.bare "a").IsValid) (by decide)
      have hdelimited :=
        hfinds.search_probe hpasses (by decide : (Name.delimited "a").IsValid) (by decide)
      rw [hfront, Option.some_or] at hbare hdelimited
      exact absurd (hbare.symm.trans hdelimited) (by decide)

/-- With a parenthesis left open in front of it, the table would be passed over. -/
theorem Finds.countedDepth_eq_zero : countedDepth front = 0 := by
  by_contra hdepth
  have hvalid : (Name.bare "a").IsValid := by decide
  have hbare := hfinds.search_probe hpasses hvalid trivial
  rw [hfinds.search_eq_none hpasses, Option.none_or,
    search_of_ne_zero isKeyword_capital (List.cons_ne_nil _ _)
    isBlank_of_mem_space (isTable_singleton hvalid) (List.forall_mem_singleton.2 trivial)
      hdepth] at hbare
  cases hbare

end Probes

/-- Whichever table stands behind the text, it is found exactly if none is found in the text, and
the parentheses between its quotes cancel out. -/
theorem finds_iff {front : List Char} (hcloses : Closes none false 0 front)
    (hexposes : Exposes none false false front) :
    Finds front ↔ ofQuery (.ofList front) = none ∧ quotedDepth none front = 0 := by
  have hpasses := hcloses.passes hexposes nofun
  have hcounted := hcloses.countedDepth_eq
  rw [Int.zero_add] at hcounted
  rw [← hcounted, ofQuery, String.toList_ofList, Option.map_eq_none_iff]
  constructor
  · intro hfinds
    exact ⟨hfinds.search_eq_none hpasses, hfinds.countedDepth_eq_zero hpasses⟩
  · rintro ⟨hnone, hdepth⟩ word blanks parts tail hword hne hblanks htable hsimple htail
    obtain ⟨hbreaks, hdot⟩ := breaksWord_of_separator htail
    rw [ofQuery, String.toList_ofList, search_append hword hpasses (Nat.zero_le _), hnone,
      hdepth, Option.none_or,
      Int.zero_add, search_clause hword hne hblanks htable hsimple hbreaks hdot, Option.map_some]

/-- A subquery, a parenthesis that is quoted and closed by a quoted one, and a quoted `FROM` with
its own table. -/
theorem finds_iff_quoted :
    let front := "SELECT (SELECT max(n) FROM \"x\"), '(' || f('from b') || ')' ".toList
    Closes none false 0 front ∧ Exposes none false false front ∧ ofQuery (.ofList front) = none ∧
      quotedDepth none front = 0 ∧ Finds front := by
  intro front
  have hcloses : Closes none false 0 front := by decide +kernel
  have hexposes : Exposes none false false front := by decide +kernel
  have hnone : ofQuery (.ofList front) = none := by decide
  have hdepth : quotedDepth none front = 0 := by decide
  exact ⟨hcloses, hexposes, hnone, hdepth, (finds_iff hcloses hexposes).2 ⟨hnone, hdepth⟩⟩

/-- A parenthesis between quotes is counted, so the table behind is taken for one of a subquery. -/
theorem not_finds_parenthesis :
    let front := "SELECT '(' ".toList
    let query := front ++ ("FROM".toList ++ ([' '] ++ (tableInQuery [.bare "t"] ++ [])))
    String.ofList query = "SELECT '(' FROM t" ∧ Closes none false 0 front ∧ IsTable [.bare "t"] ∧
      ofQuery (.ofList query) = none ∧ ¬Finds front := by
  intro front query
  have htable : IsTable [.bare "t"] := isTable_singleton (by decide)
  have hnone : ofQuery (.ofList query) = none := by decide
  refine ⟨by decide, by decide, htable, hnone, fun hfinds => ?_⟩
  have hfound := hfinds "FROM".toList [' '] [.bare "t"] [] isKeyword_capital (List.cons_ne_nil _ _)
    isBlank_of_mem_space htable (List.forall_mem_singleton.2 trivial) (by simp)
  rw [hnone] at hfound
  cases hfound

end InsertScript.TableName
