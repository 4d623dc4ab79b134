import InsertScript.Proofs.Names
import InsertScript.Variant

/-!
# Keywords in a script

Keywords are read in every letter case (`reads_keyword`). The opening of a statement is read as the
verb of its variant (`Variant.spells_opening`), and the clause for conflicting keys as words and
signs of which none ends the statement (`Variant.exists_tokens_conflictClause`), as long as the
expression in it has no quotes, semicolons or comments.
-/

namespace InsertScript

open Dialect (isNamePart Reads ReadsAlways ReadsBefore)

/-! ### Words -/

/-- Does a text consist of capitals and digits? -/
def IsCapital (word : String) : Prop :=
  word ≠ "" ∧ word.toList.all (fun c => c.isUpper || c.isDigit) = true

instance (word : String) : Decidable (IsCapital word) := by unfold IsCapital; infer_instance

theorem isNamePart_of_isUpper_or_isDigit {c : Char} (h : (c.isUpper || c.isDigit) = true) :
    isNamePart c = true := by
  rcases Bool.or_eq_true_iff.1 h with hupper | hdigit
  · have halpha : c.isAlpha = true := Bool.or_eq_true_iff.2 (.inl hupper)
    simp [isNamePart, Char.isAlphanum, halpha]
  · simp [isNamePart, Char.isAlphanum, hdigit]

theorem toUpper_of_isUpper_or_isDigit {c : Char} (h : (c.isUpper || c.isDigit) = true) :
    c.toUpper = c := by
  have hsame : (c.isUpper || c.isDigit) = true → c.toUpper = c :=
    of_ascii c (Dialect.lt_of_isNamePart (isNamePart_of_isUpper_or_isDigit h)) (by decide)
  exact hsame h

variable {d : Dialect} {letters : LetterCase}

/-- A keyword is a word in every letter case, and the same one. -/
theorem reads_keyword (d : Dialect) (letters : LetterCase) {word : String} (h : IsCapital word) :
    d.Reads (letters.transform word).toList [.word (letters.transform word)] ∧
      Reader.foldWord (letters.transform word) = word := by
  have hcapitals := List.all_eq_true.1 h.2
  have hparts : ∀ c ∈ word.toList, isNamePart c = true := fun c hc =>
    isNamePart_of_isUpper_or_isDigit (hcapitals c hc)
  refine ⟨letters.reads_transform h.1 hparts, ?_⟩
  have hfold : word.toList.map Char.toUpper = word.toList :=
    (List.map_congr_left fun c hc => toUpper_of_isUpper_or_isDigit (hcapitals c hc)).trans
      (List.map_id _)
  rw [letters.foldWord_transform fun c hc => Dialect.lt_of_isNamePart (hparts c hc),
    Reader.foldWord, hfold, String.ofList_toList]

/-- A word after blanks. -/
theorem Dialect.Reads.blanks_append {a blanks b : List Char} {ta tb : List Token}
    {stops : List Char → Prop} (ha : d.Reads a ta) (hblanks : blanks.all Unicode.isBlank = true)
    (hne : blanks ≠ []) (hb : d.ReadsBefore stops b tb) :
    d.ReadsBefore stops (a ++ (blanks ++ b)) (ta ++ tb) := by
  have hbreaks : d.Breaks (blanks ++ b) := by
    obtain ⟨c, more, rfl⟩ := List.exists_cons_of_ne_nil hne
    exact Dialect.breaks_of_isBlank (Bool.and_eq_true_iff.1 hblanks).1 _
  exact ha.append_before ((Dialect.readsAlways_blanks hblanks).append_before hb)
    hbreaks (by simp [hne])

/-- Keywords with blanks between them are read one by one. -/
theorem reads_keywords (d : Dialect) (letters : LetterCase) {words : List String} (hne : words ≠ [])
    (h : ∀ word ∈ words, IsCapital word) :
    d.Reads (" ".intercalate (words.map letters.transform)).toList
      (words.map fun word => .word (letters.transform word)) := by
  induction words with
  | nil => exact absurd rfl hne
  | cons word words ih =>
      have hword := (reads_keyword d letters (h word List.mem_cons_self)).1
      cases words with
      | nil => simpa using hword
      | cons next words =>
          have hrest := ih (by simp) fun w hw => h w (List.mem_cons_of_mem _ hw)
          rw [List.map_cons, List.map_cons, String.intercalate_cons_cons, ← List.map_cons,
            String.toList_append, String.toList_append, List.append_assoc]
          exact hword.blanks_append (by decide) (by decide) hrest

/-! ### Openings -/

/-- The words of a variant in front of `INTO`. -/
def Variant.verb : Variant → List String
  | .insert | .onDuplicate | .onConflict => ["INSERT"]
  | .insertAll => ["INSERT", "ALL"]
  | .update => ["UPDATE", "OR", "INSERT"]
  | .upsert => ["UPSERT"]
  | .replace => ["REPLACE"]

/-- The words in front of `INTO` are read in any letter case. -/
theorem Reader.verb_keywords {words : List String}
    (h : ∀ word ∈ words, IsCapital word ∧ word ≠ "INTO") (rest : List Token) :
    Reader.verb ((words ++ ["INTO"]).map (fun word => .word (letters.transform word)) ++ rest)
      = some (words, rest) := by
  induction words with
  | nil =>
      have hinto := (reads_keyword .generic letters (by decide : IsCapital "INTO")).2
      simp [Reader.verb, hinto]
  | cons word words ih =>
      obtain ⟨hcapital, hinto⟩ := h word List.mem_cons_self
      have hfold := (reads_keyword .generic letters hcapital).2
      have hrest := ih fun w hw => h w (List.mem_cons_of_mem _ hw)
      rw [List.cons_append, List.map_cons, List.cons_append, Reader.verb, hfold,
        if_neg hinto, hrest]
      rfl

namespace Variant

variable (v : Variant)

/-- The opening of a statement names its verb. -/
theorem spells_opening (d : Dialect) (letters : LetterCase) :
    d.SpellsFully Reader.verb (v.opening letters true).toList v.verb := by
  refine ⟨(v.verb ++ ["INTO"]).map fun word => .word (letters.transform word), ?_, fun rest _ =>
    Reader.verb_keywords (by cases v <;> decide) rest⟩
  -- an `INSERT ALL` has its `INTO` on a line of its own
  by_cases hall : v = .insertAll
  · subst hall
    have hinto := (reads_keyword d letters (by decide : IsCapital "INTO")).1
    have hwords := reads_keywords d letters (by decide : ["INSERT", "ALL"] ≠ []) (by decide)
    have hopening : (insertAll.opening letters true).toList
        = (" ".intercalate (["INSERT", "ALL"].map letters.transform)).toList ++
          ("\n\t".toList ++ (letters.transform "INTO").toList) := by
      cases letters <;> decide
    rw [hopening]
    exact hwords.blanks_append (by decide) (by decide) hinto
  · have hopening : v.opening letters true
        = " ".intercalate ((v.verb ++ ["INTO"]).map letters.transform) := by
      cases v with
      | insertAll => exact absurd rfl hall
      | _ => cases letters <;> decide
    rw [hopening]
    exact reads_keywords d letters (by simp) (by cases v <;> decide)

end Variant

/-! ### Expressions -/

/-- Is a text free of everything that a reader of tokens treats as a whole or that ends a
statement? -/
structure Dialect.Unmarked (d : Dialect) (text : List Char) : Prop where
  no_quote : ∀ c ∈ text, c ≠ textQuote ∧ c ≠ '"' ∧ c ≠ '`' ∧ c ≠ ';'
  no_comment : ¬['-', '-'] <:+: text ∧ ¬['/', '*'] <:+: text ∧ (d = .mysql → '#' ∉ text)

namespace Dialect

theorem Unmarked.of_suffix {text suffix : List Char} (h : d.Unmarked text)
    (hsuffix : suffix <:+ text) : d.Unmarked suffix where
  no_quote c hc := h.no_quote c (hsuffix.subset hc)
  no_comment := ⟨fun hline => h.no_comment.1 (hline.trans hsuffix.isInfix),
    fun hcomment => h.no_comment.2.1 (hcomment.trans hsuffix.isInfix),
    fun hd hhash => h.no_comment.2.2 hd (hsuffix.subset hhash)⟩

theorem Unmarked.ne_quote {text : List Char} (h : d.Unmarked text) {c : Char} (hc : c ∈ text) :
    c ≠ textQuote ∧ c ≠ d.quote := by
  obtain ⟨htext, hdouble, hback, -⟩ := h.no_quote c hc
  refine ⟨htext, ?_⟩
  cases d with
  | mysql => exact hback
  | _ => exact hdouble

/-- Does a semicolon follow? -/
def Ends (rest : List Char) : Prop := rest.head? = some ';'

theorem breaks_of_ends {rest : List Char} (h : Ends rest) : d.Breaks rest := by
  intro c hc
  rw [Option.mem_def, h, Option.some.injEq] at hc
  subst hc
  cases d <;> decide

/-- The characters of a word are not followed by a quote. -/
theorem Unmarked.breaks_dropWhile {text rest : List Char} (h : d.Unmarked text)
    (hrest : Ends rest) : d.Breaks (text.dropWhile isNamePart ++ rest) := by
  cases hdrop : text.dropWhile isNamePart with
  | nil => exact breaks_of_ends hrest
  | cons x more =>
      rintro _ ⟨⟩
      have hx : x ∈ text :=
        (List.dropWhile_suffix isNamePart).subset (by rw [hdrop]; exact List.mem_cons_self)
      have hstop : isNamePart x = false := by
        have := List.head?_dropWhile_not isNamePart text
        rw [hdrop] at this
        simpa using this
      exact ⟨hstop, h.ne_quote hx⟩

/-- A character that belongs to no word is a sign, because no comment begins with it. -/
theorem Unmarked.reads_sign {c : Char} {text : List Char} (h : d.Unmarked (c :: text))
    (hblank : Unicode.isBlank c = false) (hpart : isNamePart c = false) :
    d.ReadsBefore (fun rest => ∃ more, rest = text ++ more ∧ Ends more) [c] [.sign c] := by
  rintro _ ⟨more, rfl, hmore⟩
  -- what stands next to it may be the semicolon
  have hhead (x : Char) (hx : x ≠ ';') (hpair : ¬[c, x] <:+: c :: text) :
      (text ++ more).head? ≠ some x := by
    cases text with
    | nil =>
        rw [List.nil_append, hmore]
        exact fun heq => hx (Option.some.inj heq).symm
    | cons y text =>
        rintro ⟨⟩
        exact hpair ⟨[], text, rfl⟩
  have hline : d.opensLineComment c (text ++ more) = false := by
    simp only [opensLineComment, Bool.or_eq_false_iff, Bool.and_eq_false_iff, beq_eq_false_iff_ne]
    constructor
    · by_cases hminus : c = '-'
      · subst hminus
        exact .inr (hhead '-' (by decide) h.no_comment.1)
      · exact .inl hminus
    · by_cases hmysql : d = .mysql
      · refine .inl ?_
        rintro rfl
        exact h.no_comment.2.2 hmysql List.mem_cons_self
      · exact .inr hmysql
  have hcomment : ¬(c = '/' ∧ (text ++ more).head? = some '*') := by
    rintro ⟨rfl, hstar⟩
    exact hhead '*' (by decide) h.no_comment.2.1 hstar
  have hquotes := h.ne_quote List.mem_cons_self
  have hread := readToken_sign hblank hpart hquotes.1 hquotes.2 hline hcomment
  rw [List.singleton_append, tokens_cons hread]
  rfl

/-- A text without marks is read as some words and signs, of which none ends a statement. -/
theorem Unmarked.exists_tokens {text : List Char} (h : d.Unmarked text) :
    ∃ tokens, d.ReadsBefore Ends text tokens ∧ .sign ';' ∉ tokens := by
  -- the induction is on the length, because a word takes several characters at once
  induction hlength : text.length using Nat.strongRecOn generalizing text with
  | ind n ih =>
  cases text with
  | nil => exact ⟨[], fun rest _ => by simp, by simp⟩
  | cons c text =>
      have hshorter : ∀ suffix, suffix <:+ text →
          ∃ tokens, d.ReadsBefore Ends suffix tokens ∧ .sign ';' ∉ tokens := by
        intro suffix hsuffix
        refine ih suffix.length ?_ (h.of_suffix (hsuffix.trans (List.suffix_cons c text))) rfl
        have := hsuffix.length_le
        rw [List.length_cons] at hlength
        omega
      by_cases hblank : Unicode.isBlank c = true
      · obtain ⟨tokens, hreads, hends⟩ := hshorter text (List.suffix_refl text)
        have hfirst : d.ReadsAlways [c] [] := readsAlways_blanks (by simpa using hblank)
        exact ⟨tokens, hfirst.append_before hreads, hends⟩
      by_cases hpart : isNamePart c = true
      · have hword : (c :: text.takeWhile isNamePart).all isNamePart = true := by
          rw [List.all_cons, hpart, List.all_takeWhile]
          rfl
        obtain ⟨tokens, hreads, hends⟩ := hshorter _ (List.dropWhile_suffix isNamePart)
        have hsplit :
            c :: text = (c :: text.takeWhile isNamePart) ++ text.dropWhile isNamePart := by
          rw [List.cons_append, List.takeWhile_append_dropWhile]
        refine ⟨[.word (.ofList (c :: text.takeWhile isNamePart))] ++ tokens, ?_,
          by simpa using hends⟩
        rw [hsplit]
        exact (reads_word hword).append hreads fun rest hrest =>
          (h.of_suffix (List.suffix_cons c text)).breaks_dropWhile hrest
      · obtain ⟨tokens, hreads, hends⟩ := hshorter text (List.suffix_refl text)
        have hfirst := h.reads_sign (Bool.not_eq_true _ ▸ hblank) (Bool.not_eq_true _ ▸ hpart)
        have hsemicolon := (h.no_quote c List.mem_cons_self).2.2.2
        refine ⟨[.sign c] ++ tokens, ?_, by simp [hends, Ne.symm hsemicolon]⟩
        exact hfirst.append hreads fun rest hrest => ⟨rest, rfl, hrest⟩

end Dialect

/-! ### Clauses behind the rows -/

namespace Variant

variable (v : Variant) {expression : String}

/-- Keywords before an expression. -/
theorem exists_tokens_clause {words : List String} (hne : words ≠ [])
    (hwords : ∀ word ∈ words, IsCapital word) (h : d.Unmarked expression.toList) :
    ∃ tokens, d.ReadsBefore Dialect.Ends
        (" " ++ " ".intercalate (words.map letters.transform) ++ " " ++ expression).toList tokens ∧
      .sign ';' ∉ tokens ∧ tokens.head? ≠ some (.sign ',') := by
  obtain ⟨tokens, hreads, hends⟩ := h.exists_tokens
  have hkeywords := reads_keywords d letters hne hwords
  have hexpression : d.ReadsBefore Dialect.Ends
      ((" ".intercalate (words.map letters.transform)).toList ++ ([' '] ++ expression.toList))
      (words.map (fun word => .word (letters.transform word)) ++ tokens) :=
    hkeywords.blanks_append (by decide) (by decide) hreads
  have hall := Dialect.readsAlways_blank.append_before hexpression
  refine ⟨words.map (fun word => .word (letters.transform word)) ++ tokens, ?_, ?_, ?_⟩
  · rw [String.toList_append, String.toList_append, String.toList_append, List.append_assoc,
      List.append_assoc]
    exact hall
  · simpa using hends
  · obtain ⟨word, more, rfl⟩ := List.exists_cons_of_ne_nil hne
    simp

/-- The clause for conflicting keys does not end the statement, nor does it go on with the rows. -/
theorem exists_tokens_conflictClause (letters : LetterCase) (h : d.Unmarked expression.toList) :
    ∃ tokens, d.ReadsBefore Dialect.Ends (v.conflictClause expression letters).toList tokens ∧
      .sign ';' ∉ tokens ∧ tokens.head? ≠ some (.sign ',') := by
  have hempty : ∃ tokens, d.ReadsBefore Dialect.Ends ("" : String).toList tokens ∧
      .sign ';' ∉ tokens ∧ tokens.head? ≠ some (.sign ',') :=
    ⟨[], fun rest _ => by simp, by simp, by simp⟩
  unfold conflictClause
  split
  · exact hempty
  · split
    · have hwords : letters.transform "ON CONFLICT"
          = " ".intercalate (["ON", "CONFLICT"].map letters.transform) := by
            cases letters <;> decide
      rw [hwords]
      exact exists_tokens_clause (by decide) (by decide) h
    · have hwords : letters.transform "ON DUPLICATE KEY UPDATE"
          = " ".intercalate (["ON", "DUPLICATE", "KEY", "UPDATE"].map letters.transform) := by
        cases letters <;> decide
      rw [hwords]
      exact exists_tokens_clause (by decide) (by decide) h
    · exact hempty

/-- The query that ends an `INSERT ALL` is read word by word. -/
theorem reads_closingSelect (d : Dialect) (letters : LetterCase) :
    d.Reads (closingSelect letters).toList
      (Reader.closingQuery.map fun word => .word (letters.transform word)) := by
  have hwords :
      closingSelect letters = " ".intercalate (Reader.closingQuery.map letters.transform) := by
    cases letters <;> decide
  rw [hwords]
  exact reads_keywords d letters (by decide) (by decide)

end Variant

/-- Keywords are passed over. -/
theorem Reader.keywords_foldlM (letters : LetterCase) {words : List String}
    (h : ∀ word ∈ words, IsCapital word) (rest : List Token) :
    words.foldlM (fun tokens word => Reader.keyword word tokens)
      (words.map (fun word => Token.word (letters.transform word)) ++ rest) = some rest := by
  induction words with
  | nil => rfl
  | cons word words ih =>
      have hfold := (reads_keyword .generic letters (h word List.mem_cons_self)).2
      have hword : Reader.keyword word
          ((word :: words).map (fun word => Token.word (letters.transform word)) ++ rest)
            = some (words.map (fun word => Token.word (letters.transform word)) ++ rest) := by
        rw [List.map_cons, List.cons_append, Reader.keyword, if_pos hfold]
      rw [List.foldlM_cons, hword]
      exact ih fun w hw => h w (List.mem_cons_of_mem _ hw)

end InsertScript
