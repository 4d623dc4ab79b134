import InsertScript.Proofs.Delimiters
import InsertScript.Proofs.DottedNames

/-!
# Names that stand bare

A name that does not come delimited is written bare if it can stand so (`Dialect.StandsBare`), and
otherwise between delimiters, its own quote characters doubled. Either way it is one identifier that
stands for the name (`Dialect.QuotesFaithfully`), with one exception: a plain word with a line feed
behind it is taken for plain, so it is written as it is and read without the line feed
(`Dialect.quotesFaithfully_iff`). Different names are written differently in any case.
-/

namespace InsertScript

namespace Dialect

variable {d : Dialect} {name other : List Char}

/-! ### Reserved words -/

/-- Can a name stand bare? It must not be a reserved word in any letter case. -/
structure StandsBare (name : List Char) : Prop extends IsWord name where
  unreserved : ∀ word ∈ reservedWords, name.map Char.toUpper ≠ word.toList

theorem isReserved_iff (h : ∀ c ∈ name, c.toNat < 128) :
    isReserved name = true ↔ ∃ word ∈ reservedWords, name.map Char.toUpper = word.toList := by
  rw [isReserved, Unicode.upper_of_ascii h, List.contains_iff_mem]
  constructor
  · exact fun hmem => ⟨_, hmem, String.toList_ofList.symm⟩
  · rintro ⟨word, hmem, heq⟩
    rwa [heq, String.ofList_toList]

theorem standsBare_iff (h : IsWord name) : StandsBare name ↔ isReserved name = false := by
  have hreserved := isReserved_iff fun c hc => lt_of_isNamePart (h.parts c hc)
  rw [← Bool.not_eq_true, hreserved]
  constructor
  · rintro hbare ⟨word, hmem, heq⟩
    exact hbare.unreserved word hmem heq
  · exact fun hnone => { h with unreserved := fun word hmem heq => hnone ⟨word, hmem, heq⟩ }

/-- No reserved word ends in a line feed. -/
theorem isReserved_feed (h : ∀ c ∈ name, c.toNat < 128) : isReserved (name ++ ['\n']) = false := by
  have hascii : ∀ c ∈ name ++ ['\n'], c.toNat < 128 := by
    intro c hc
    rcases List.mem_append.1 hc with hc | hc
    · exact h c hc
    · rw [List.mem_singleton.1 hc]
      decide
  have hwords : ∀ word ∈ reservedWords, '\n' ∉ word.toList := by decide
  rw [← Bool.not_eq_true, isReserved_iff hascii]
  rintro ⟨word, hmem, heq⟩
  refine hwords word hmem (heq ▸ ?_)
  simp

/-! ### Quoting -/

theorem quoteName_of_plain (hplain : isPlainName name = true)
    (hreserved : isReserved name = false) : d.quoteName name = name := by
  unfold quoteName
  rw [hplain, hreserved]
  simp

theorem quoteName_of_not_plain (hquoted : d.isQuoted name = false)
    (h : ¬(isPlainName name = true ∧ isReserved name = false)) :
    d.quoteName name = d.quote :: d.doubleQuotes name ++ [d.quote] := by
  unfold quoteName
  rw [hquoted, if_neg Bool.false_ne_true, if_neg]
  rwa [Bool.and_eq_true, Bool.not_eq_true']

/-- A name that does not come delimited stays as it is only if it is taken for plain. -/
theorem quoteName_eq_self_iff (hquoted : d.isQuoted name = false) :
    d.quoteName name = name ↔ isPlainName name = true ∧ isReserved name = false := by
  constructor
  · intro hsame
    by_contra h
    have hdelimited := quoteName_of_not_plain hquoted h
    rw [hsame] at hdelimited
    rw [hdelimited, isQuoted_delimited] at hquoted
    cases hquoted
  · exact fun h => quoteName_of_plain h.1 h.2

theorem doubleQuotes_injective (h : d.doubleQuotes name = d.doubleQuotes other) : name = other := by
  have hend : d.Breaks [] := by simp [Breaks]
  have hname := d.readToken_delimited name hend
  have hother := d.readToken_delimited other hend
  rw [h, hother] at hname
  exact String.ofList_inj.1 (by simpa using hname.symm)

/-- Different names that do not come delimited are written differently. -/
theorem quoteName_injective (hname : d.isQuoted name = false) (hother : d.isQuoted other = false)
    (h : d.quoteName name = d.quoteName other) : name = other := by
  -- a name that is written as it is does not look delimited, and any other one does
  by_cases hbare : d.quoteName name = name
  · by_cases hbare' : d.quoteName other = other
    · rw [← hbare, h, hbare']
    · have hdelimited := quoteName_of_not_plain hother (mt (quoteName_eq_self_iff hother).2 hbare')
      rw [← h, hbare] at hdelimited
      rw [hdelimited, isQuoted_delimited] at hname
      cases hname
  · have hdelimited := quoteName_of_not_plain hname (mt (quoteName_eq_self_iff hname).2 hbare)
    by_cases hbare' : d.quoteName other = other
    · rw [h, hbare'] at hdelimited
      rw [hdelimited, isQuoted_delimited] at hother
      cases hother
    · have hdelimited' := quoteName_of_not_plain hother (mt (quoteName_eq_self_iff hother).2 hbare')
      rw [h, hdelimited', List.append_left_inj, List.cons_inj_right] at hdelimited
      exact (doubleQuotes_injective hdelimited).symm

end Dialect

/-- Is a token an identifier that stands for a name? A bare one is no reserved word and no
number. -/
inductive Token.Identifies (name : List Char) : Token → Prop where
  | bare (h : Dialect.StandsBare name) : Identifies name (.word (.ofList name))
  | delimited : Identifies name (.name (.ofList name))

namespace Dialect

variable {d : Dialect} {name : List Char}

/-- Is a name written as one identifier that stands for it, bare exactly if it can stand so, and
otherwise between delimiters with its quote characters doubled? -/
structure QuotesFaithfully (d : Dialect) (name : List Char) : Prop where
  read : ∃ token, d.IsToken (d.quoteName name) token ∧ token.Identifies name
  bare : d.quoteName name = name ↔ StandsBare name
  delimited : ¬StandsBare name → d.quoteName name = d.quote :: d.doubleQuotes name ++ [d.quote]

/-- A plain word is one token. -/
theorem isToken_word (h : IsWord name) : d.IsToken name (.word (.ofList name)) := by
  obtain ⟨c, rest, rfl⟩ := List.exists_cons_of_ne_nil h.ne_nil
  exact fun _ hrest => readToken_word (List.all_eq_true.2 h.parts) hrest

/-- A word with a line feed behind it is written as it is. -/
theorem quoteName_feed (h : IsWord name) : d.quoteName (name ++ ['\n']) = name ++ ['\n'] :=
  quoteName_of_plain (isPlainName_iff.2 (.inr ⟨name, h, rfl⟩))
    (isReserved_feed fun c hc => lt_of_isNamePart (h.parts c hc))

theorem not_isWord_feed (name : List Char) : ¬IsWord (name ++ ['\n']) := fun h =>
  absurd (h.parts '\n' (by simp)) (by decide)

/-- A name that is not taken for quoted and is no word with a line feed at its end is quoted
faithfully. -/
theorem quotesFaithfully_of (hquoted : d.isQuoted name = false)
    (hfeed : ¬∃ word, IsWord word ∧ name = word ++ ['\n']) : d.QuotesFaithfully name := by
  by_cases hbare : StandsBare name
  · have hsame : d.quoteName name = name :=
      quoteName_of_plain (isPlainName_iff.2 (.inl hbare.toIsWord))
        ((standsBare_iff hbare.toIsWord).1 hbare)
    refine ⟨⟨_, hsame.symm ▸ isToken_word hbare.toIsWord, .bare hbare⟩, iff_of_true hsame hbare, ?_⟩
    exact fun hnot => absurd hbare hnot
  · have hplain : ¬(isPlainName name = true ∧ isReserved name = false) := by
      rintro ⟨hplain, hreserved⟩
      have hword := (isPlainName_iff.1 hplain).resolve_right hfeed
      exact hbare ((standsBare_iff hword).2 hreserved)
    have hdelimited := quoteName_of_not_plain hquoted hplain
    refine ⟨⟨_, hdelimited ▸ d.isToken_delimited name, .delimited⟩, ?_, fun _ => hdelimited⟩
    exact iff_of_false (mt (quoteName_eq_self_iff hquoted).1 hplain) hbare

/-- A name that does not come delimited is written faithfully unless it is a plain word with a line
feed behind it, and no other name is written like it. -/
theorem quotesFaithfully_iff (d : Dialect) {name : List Char} (hne : name ≠ [])
    (hquoted : d.isQuoted name = false) :
    (d.QuotesFaithfully name ↔ ¬∃ word, IsWord word ∧ name = word ++ ['\n']) ∧
      ∀ other, other ≠ [] → d.isQuoted other = false → d.quoteName other = d.quoteName name →
        other = name := by
  refine ⟨⟨?_, quotesFaithfully_of hquoted⟩, fun other _ hother hsame =>
    quoteName_injective hother hquoted hsame⟩
  rintro h ⟨word, hword, rfl⟩
  exact not_isWord_feed word (h.bare.1 (quoteName_feed hword)).toIsWord

/-- A name that neither starts nor ends well: a digit in front, a quote character inside and a line
feed at its end. -/
theorem quotesFaithfully_iff_feet :
    "6` board\n".toList ≠ [] ∧ mysql.isQuoted "6` board\n".toList = false ∧
      mysql.QuotesFaithfully "6` board\n".toList ∧
      ∀ other, other ≠ [] → mysql.isQuoted other = false →
        mysql.quoteName other = mysql.quoteName "6` board\n".toList →
          other = "6` board\n".toList := by
  have hne : "6` board\n".toList ≠ [] := by decide
  have hquoted : mysql.isQuoted "6` board\n".toList = false := by decide
  have hfeed : ¬∃ word, IsWord word ∧ "6` board\n".toList = word ++ ['\n'] := by
    rintro ⟨word, hword, heq⟩
    obtain rfl : "6` board".toList = word := List.append_inj_left' heq rfl
    exact absurd (hword.start '6' rfl).1 (by decide)
  obtain ⟨hiff, hinjective⟩ := quotesFaithfully_iff mysql hne hquoted
  exact ⟨hne, hquoted, hiff.2 hfeed, hinjective⟩

/-- A column that ends in a line feed is written bare and read as another one. -/
theorem not_quotesFaithfully_feed :
    "id\n".toList ≠ [] ∧ generic.isQuoted "id\n".toList = false ∧
      generic.quoteName "id\n".toList = "id\n".toList ∧
      generic.tokens (generic.quoteName "id\n".toList) = some [.word "id"] ∧
      ¬generic.QuotesFaithfully "id\n".toList := by
  have hword : IsWord "id".toList :=
    isWord_cons.2 ⟨by decide, List.forall_mem_singleton.2 (by decide)⟩
  have hsame : generic.quoteName "id\n".toList = "id\n".toList := quoteName_feed hword
  have hread : generic.readToken 'i' "d\n".toList = some (some (.word "id"), ['\n']) := by decide
  have hfeed : generic.readToken '\n' [] = some (none, []) := by decide
  refine ⟨by decide, by decide, hsame, ?_,
    fun h => not_isWord_feed "id".toList (h.bare.1 hsame).toIsWord⟩
  rw [hsame, show "id\n".toList = 'i' :: "d\n".toList from rfl, tokens_cons hread,
    tokens_cons hfeed, tokens_nil]
  rfl

end Dialect

end InsertScript
