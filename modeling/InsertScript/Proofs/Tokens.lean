import InsertScript.Dialect

/-!
# The tokens of a script

How a database reads the text of a script, as far as this depends on its dialect: texts stand
between single quotes and names between the quote characters of the dialect, a doubled quote stands
for one, and in MySQL a backslash in a text gives its next character another meaning. Blanks and
comments separate tokens.

`Reads d chars tokens` says that characters are read as these tokens wherever they stand, as long as
what follows cannot belong to their last token; `ReadsAlways` drops the condition. A script is read
by putting such pieces together (`Reads.append`, `ReadsAlways.append`).
-/

namespace InsertScript

/-- A token of a script. -/
inductive Token where
  /-- A keyword, a bare name or a number. -/
  | word (spelling : String)
  /-- A delimited name, without its delimiters. -/
  | name (spelling : String)
  /-- What a text literal stands for. -/
  | text (value : String)
  /-- Any other character. -/
  | sign (c : Char)
deriving DecidableEq, Repr

namespace Dialect

/-! ### Reading tokens -/

/-- What a backslash in front of a character stands for. -/
def unescape : Char → List Char
  | '0' => ['\x00']
  | 'b' => ['\x08']
  | 'n' => ['\n']
  | 'r' => ['\r']
  | 't' => ['\t']
  | 'Z' => ['\x1a']
  | '%' => ['\\', '%']
  | '_' => ['\\', '_']
  | c => [c]

/-- Puts characters in front of what has been read. -/
def prepend (text : List Char) (read : List Char × List Char) : List Char × List Char :=
  (text ++ read.1, read.2)

/-- Reads up to the closing quote: what stands before it, and what is left. Nothing without such a
quote. -/
def readQuoted (quote : Char) (escapes : Bool) : List Char → Option (List Char × List Char)
  | [] => none
  | [c] => if c = quote then some ([], []) else none
  | c :: next :: rest =>
      if c = quote then
        if next = quote then (readQuoted quote escapes rest).map (prepend [quote])
        else some ([], next :: rest)
      else if escapes ∧ c = '\\' then (readQuoted quote escapes rest).map (prepend (unescape next))
      else (readQuoted quote escapes (next :: rest)).map (prepend [c])

/-- What follows the end of a comment between `/*` and `*/`. -/
def leaveComment : List Char → Option (List Char)
  | [] => none
  | '*' :: '/' :: rest => some rest
  | _ :: rest => leaveComment rest

variable (d : Dialect)

/-- Has a backslash in a text a meaning of its own? -/
def escapes : Bool := d == mysql

/-- Does a comment up to the end of the line begin with the character? -/
def opensLineComment (c : Char) (rest : List Char) : Bool :=
  (c == '-' && rest.head? == some '-') || (c == '#' && d == mysql)

/-- Reads a token, or passes over a blank or a comment. Nothing if a text, a name or a comment does
not end. -/
def readToken (c : Char) (rest : List Char) : Option (Option Token × List Char) :=
  if Unicode.isBlank c then some (none, rest)
  else if c = textQuote then
    (readQuoted textQuote d.escapes rest).map fun (text, rest) =>
      (some (.text (.ofList text)), rest)
  else if c = d.quote then
    (readQuoted d.quote false rest).map fun (text, rest) => (some (.name (.ofList text)), rest)
  else if isNamePart c then
    some (some (.word (.ofList (c :: rest.takeWhile isNamePart))), rest.dropWhile isNamePart)
  else if d.opensLineComment c rest then some (none, rest.dropWhile (· ≠ '\n'))
  else if c = '/' ∧ rest.head? = some '*' then (leaveComment rest.tail).map fun rest => (none, rest)
  else some (some (.sign c), rest)

/-- What is put in front does not change what is left. -/
theorem left_of_prepend {read? : Option (List Char × List Char)} {text result rest : List Char}
    (h : read?.map (prepend text) = some (result, rest)) : ∃ text', read? = some (text', rest) := by
  obtain ⟨⟨text', rest'⟩, hread, heq⟩ := Option.map_eq_some_iff.1 h
  simp only [prepend, Prod.mk.injEq] at heq
  exact ⟨text', by rw [hread, heq.2]⟩

theorem length_readQuoted {quote : Char} {escapes : Bool} {chars text rest : List Char}
    (h : readQuoted quote escapes chars = some (text, rest)) : rest.length ≤ chars.length := by
  fun_induction readQuoted quote escapes chars generalizing text rest with
  | case1 => simp at h
  | case2 => simp_all
  | case3 => simp at h
  | case4 rest' ih =>
      obtain ⟨text', hread⟩ := left_of_prepend h
      exact Nat.le_add_right_of_le (Nat.le_add_right_of_le (ih hread))
  | case5 => simp_all
  | case6 c next rest' hquote hescape ih =>
      obtain ⟨text', hread⟩ := left_of_prepend h
      exact Nat.le_add_right_of_le (Nat.le_add_right_of_le (ih hread))
  | case7 c next rest' hquote hescape ih =>
      obtain ⟨text', hread⟩ := left_of_prepend h
      exact Nat.le_add_right_of_le (ih hread)

theorem length_leaveComment {chars rest : List Char} (h : leaveComment chars = some rest) :
    rest.length ≤ chars.length := by
  fun_induction leaveComment chars with
  | case1 => simp at h
  | case2 => simp_all; omega
  | case3 c chars hend ih => exact Nat.le_add_right_of_le (ih h)

/-- Reading a token leaves less text than there was, so the lexer ends. -/
theorem length_readToken {c : Char} {rest left : List Char} {token? : Option Token}
    (h : d.readToken c rest = some (token?, left)) : left.length ≤ rest.length := by
  unfold readToken at h
  split at h
  · simp_all
  split at h
  · obtain ⟨⟨text, left'⟩, hread, heq⟩ := Option.map_eq_some_iff.1 h
    simp only [Prod.mk.injEq] at heq
    exact heq.2 ▸ length_readQuoted hread
  split at h
  · obtain ⟨⟨text, left'⟩, hread, heq⟩ := Option.map_eq_some_iff.1 h
    simp only [Prod.mk.injEq] at heq
    exact heq.2 ▸ length_readQuoted hread
  split at h
  · simp only [Option.some.injEq, Prod.mk.injEq] at h
    exact h.2 ▸ (List.dropWhile_sublist _).length_le
  split at h
  · simp only [Option.some.injEq, Prod.mk.injEq] at h
    exact h.2 ▸ (List.dropWhile_sublist _).length_le
  split at h
  · obtain ⟨left', hread, heq⟩ := Option.map_eq_some_iff.1 h
    simp only [Prod.mk.injEq] at heq
    have htail : rest.tail.length ≤ rest.length := by simp
    exact heq.2 ▸ Nat.le_trans (length_leaveComment hread) htail
  · simp_all

/-- The tokens of a text. -/
def tokens : List Char → Option (List Token)
  | [] => some []
  | c :: rest =>
      match _h : d.readToken c rest with
      | none => none
      | some (token?, left) => (tokens left).map (token?.toList ++ ·)
termination_by text => text.length
decreasing_by
  have := d.length_readToken _h
  simp only [List.length_cons]
  omega

variable {d}

@[simp] theorem tokens_nil : d.tokens [] = some [] := by rw [tokens]

theorem tokens_cons {c : Char} {rest left : List Char} {token? : Option Token}
    (h : d.readToken c rest = some (token?, left)) :
    d.tokens (c :: rest) = (d.tokens left).map (token?.toList ++ ·) := by
  rw [tokens]
  split
  · simp_all
  · rename_i hread
    rw [h] at hread
    cases hread
    rfl

/-! ### Pieces of a script -/

variable (d)

/-- Is nothing that a word, a name or a text could go on with at the head of the characters? -/
def Breaks (chars : List Char) : Prop :=
  ∀ c ∈ chars.head?, isNamePart c = false ∧ c ≠ textQuote ∧ c ≠ d.quote

/-- Are the characters read as these tokens in front of whatever stops them? -/
def ReadsBefore (stops : List Char → Prop) (chars : List Char) (result : List Token) : Prop :=
  ∀ rest, stops rest → d.tokens (chars ++ rest) = (d.tokens rest).map (result ++ ·)

/-- Are the characters read as these tokens, if what follows breaks off the last one? -/
def Reads (chars : List Char) (result : List Token) : Prop := d.ReadsBefore d.Breaks chars result

/-- Are the characters read as these tokens, whatever follows? -/
def ReadsAlways (chars : List Char) (result : List Token) : Prop :=
  d.ReadsBefore (fun _ => True) chars result

variable {d} {a b : List Char} {ta tb : List Token} {stops stops' : List Char → Prop}

/-- Pieces may follow each other if the second one always stops the first one. -/
theorem ReadsBefore.append (ha : d.ReadsBefore stops' a ta) (hb : d.ReadsBefore stops b tb)
    (h : ∀ rest, stops rest → stops' (b ++ rest)) : d.ReadsBefore stops (a ++ b) (ta ++ tb) := by
  intro rest hrest
  rw [List.append_assoc, ha _ (h rest hrest), hb rest hrest, Option.map_map]
  simp [Function.comp_def]

theorem ReadsBefore.mono (ha : d.ReadsBefore stops' a ta) (h : ∀ rest, stops rest → stops' rest) :
    d.ReadsBefore stops a ta := fun rest hrest => ha rest (h rest hrest)

theorem ReadsAlways.before (ha : d.ReadsAlways a ta) : d.ReadsBefore stops a ta :=
  ha.mono fun _ _ => trivial

theorem readsAlways_nil : d.ReadsAlways [] [] := fun rest _ => by simp

/-- A piece after one that needs no stop. -/
theorem ReadsAlways.append_before (ha : d.ReadsAlways a ta) (hb : d.ReadsBefore stops b tb) :
    d.ReadsBefore stops (a ++ b) (ta ++ tb) := ha.append hb fun _ _ => trivial

/-- A piece that starts with a break may follow any piece. -/
theorem Reads.append_before (ha : d.Reads a ta) (hb : d.ReadsBefore stops b tb)
    (hbreak : d.Breaks b) (hne : b ≠ []) : d.ReadsBefore stops (a ++ b) (ta ++ tb) := by
  refine ha.append hb fun rest _ => ?_
  obtain ⟨c, b', rfl⟩ := List.exists_cons_of_ne_nil hne
  exact hbreak

/-- A piece at the end of a text. -/
theorem Reads.tokens_eq (h : d.Reads a ta) : d.tokens a = some ta := by
  have := h [] (by simp [Breaks])
  simpa using this

/-! ### Blanks, words and signs -/

theorem isNamePart_of_isBlank {c : Char} (h : Unicode.isBlank c = true) : isNamePart c = false := by
  have hcodes : ∀ code ∈ Unicode.blankCodes, isNamePart (Char.ofNat code) = false := by decide
  have := hcodes c.toNat (by simpa [Unicode.isBlank] using h)
  rwa [Char.ofNat_toNat] at this

theorem not_isBlank_of_isNamePart {c : Char} (h : isNamePart c = true) :
    Unicode.isBlank c = false := by
  cases hblank : Unicode.isBlank c with
  | false => rfl
  | true => exact absurd h (by simp [isNamePart_of_isBlank hblank])

theorem ne_quote_of_isBlank {c : Char} (h : Unicode.isBlank c = true) :
    c ≠ textQuote ∧ c ≠ d.quote := by
  constructor
  · rintro rfl
    exact absurd h (by decide)
  · rintro rfl
    cases d <;> exact absurd h (by decide)

theorem ne_quote_of_isNamePart {c : Char} (h : isNamePart c = true) :
    c ≠ textQuote ∧ c ≠ d.quote := by
  constructor
  · rintro rfl
    exact absurd h (by decide)
  · rintro rfl
    cases d <;> exact absurd h (by decide)

theorem breaks_of_isBlank {c : Char} (h : Unicode.isBlank c = true) (chars : List Char) :
    d.Breaks (c :: chars) := by
  rintro _ ⟨⟩
  exact ⟨isNamePart_of_isBlank h, ne_quote_of_isBlank h⟩

/-- Blanks are passed over. -/
theorem readsAlways_blanks {chars : List Char} (h : chars.all Unicode.isBlank = true) :
    d.ReadsAlways chars [] := by
  induction chars with
  | nil => exact readsAlways_nil
  | cons c chars ih =>
      intro rest hrest
      rw [List.all_cons, Bool.and_eq_true] at h
      have hc : d.readToken c (chars ++ rest) = some (none, chars ++ rest) := by
        rw [readToken, if_pos h.1]
      rw [List.cons_append, tokens_cons hc, ih h.2 rest hrest]
      simp

theorem readsAlways_blank : d.ReadsAlways [' '] [] := readsAlways_blanks (by decide)

/-- A word goes on as long as there are word characters. -/
theorem readToken_word {c : Char} {chars rest : List Char} (h : (c :: chars).all isNamePart = true)
    (hrest : d.Breaks rest) :
    d.readToken c (chars ++ rest) =
      some (some (.word (.ofList (c :: chars))), rest) := by
  rw [List.all_cons, Bool.and_eq_true] at h
  obtain ⟨hc, hall⟩ := h
  have hblank := not_isBlank_of_isNamePart hc
  have hquotes := ne_quote_of_isNamePart (d := d) hc
  have hchars := List.all_eq_true.1 hall
  -- the word does not go on in what follows
  have hstop : rest.takeWhile isNamePart = [] ∧ rest.dropWhile isNamePart = rest := by
    cases rest with
    | nil => simp
    | cons x rest => simp [(hrest x rfl).1]
  simp only [readToken, hblank, hquotes, hc, if_true, if_false, Bool.false_eq_true]
  rw [List.takeWhile_append_of_pos hchars, List.dropWhile_append_of_pos hchars, hstop.1, hstop.2,
    List.append_nil]

/-- A run of word characters is one word. -/
theorem reads_word {c : Char} {chars : List Char} (h : (c :: chars).all isNamePart = true) :
    d.Reads (c :: chars) [.word (.ofList (c :: chars))] := by
  intro rest hrest
  rw [List.cons_append, tokens_cons (readToken_word h hrest)]
  simp

/-- Is the character a token of its own wherever it stands? -/
def isSign (c : Char) : Bool :=
  !Unicode.isBlank c && !isNamePart c && c != textQuote && c != d.quote &&
    c != '-' && c != '#' && c != '/'

theorem readToken_sign {c : Char} {rest : List Char} (hblank : Unicode.isBlank c = false)
    (hpart : isNamePart c = false) (htext : c ≠ textQuote) (hquote : c ≠ d.quote)
    (hline : d.opensLineComment c rest = false) (hcomment : ¬(c = '/' ∧ rest.head? = some '*')) :
    d.readToken c rest = some (some (.sign c), rest) := by
  simp only [readToken, hblank, hpart, htext, hquote, hline, hcomment, Bool.false_eq_true, if_false]

theorem readsAlways_sign {c : Char} (h : d.isSign c = true) : d.ReadsAlways [c] [.sign c] := by
  intro rest _
  simp only [isSign, Bool.and_eq_true, Bool.not_eq_true', bne_iff_ne] at h
  obtain ⟨⟨⟨⟨⟨⟨hblank, hpart⟩, htext⟩, hquote⟩, hminus⟩, hhash⟩, hslash⟩ := h
  have hread : d.readToken c rest = some (some (.sign c), rest) :=
    readToken_sign hblank hpart htext hquote (by simp [opensLineComment, hminus, hhash])
      (by simp [hslash])
  rw [List.singleton_append, tokens_cons hread]
  simp

theorem isSign_of_mem (d : Dialect) {c : Char} (h : c ∈ ['(', ')', ',', '.', ';']) :
    d.isSign c = true := by
  simp only [List.mem_cons, List.not_mem_nil, or_false] at h
  rcases h with rfl | rfl | rfl | rfl | rfl <;> cases d <;> decide

theorem breaks_of_isSign {c : Char} (h : d.isSign c = true) (chars : List Char) :
    d.Breaks (c :: chars) := by
  simp only [isSign, Bool.and_eq_true, Bool.not_eq_true', bne_iff_ne] at h
  rintro _ ⟨⟩
  exact ⟨h.1.1.1.1.1.2, h.1.1.1.1.2, h.1.1.1.2⟩

/-! ### Quoted text -/

theorem readQuoted_cons_of_ne {quote c : Char} {escapes : Bool} {more : List Char}
    (hquote : c ≠ quote) (hescape : ¬(escapes = true ∧ c = '\\')) (hmore : more ≠ []) :
    readQuoted quote escapes (c :: more) = (readQuoted quote escapes more).map (prepend [c]) := by
  obtain ⟨next, rest, rfl⟩ := List.exists_cons_of_ne_nil hmore
  rw [readQuoted, if_neg hquote, if_neg hescape]

/-- A text with its quotes doubled, and its backslashes where they mean something, is read back up
to its closing quote. -/
theorem readQuoted_flatMap {quote : Char} {escapes : Bool} {double : Char → List Char}
    (hdouble : ∀ c, double c = if c = quote ∨ (escapes = true ∧ c = '\\') then [c, c] else [c])
    (hbackslash : quote ≠ '\\') (text : List Char) {rest : List Char}
    (hrest : rest.head? ≠ some quote) :
    readQuoted quote escapes (text.flatMap double ++ quote :: rest) = some (text, rest) := by
  induction text with
  | nil =>
      cases rest with
      | nil => simp [readQuoted]
      | cons next rest => simp_all [readQuoted]
  | cons c text ih =>
      rw [List.flatMap_cons, List.append_assoc, hdouble]
      by_cases hquote : c = quote
      · -- a doubled quote is not the closing one
        subst hquote
        simp [readQuoted, ih, prepend]
      · by_cases hescape : escapes = true ∧ c = '\\'
        · -- the second backslash is the character that the first one escapes
          obtain ⟨rfl, rfl⟩ := hescape
          simp [readQuoted, hquote, ih, prepend, unescape]
        · rw [if_neg (by simp [hquote, hescape]), List.singleton_append,
            readQuoted_cons_of_ne hquote hescape (by simp), ih]
          rfl

theorem escapeChar_eq (d : Dialect) (c : Char) : d.escapeChar c
    = if c = textQuote ∨ (d.escapes = true ∧ c = '\\') then [c, c] else [c] := by
  unfold escapeChar escapes
  by_cases hquote : c = textQuote
  · simp [hquote]
  · by_cases hback : c = '\\'
    · subst hback
      simp [hquote]
    · simp [hquote, hback]

/-- The escaped form of a text is read back up to the closing quote. -/
theorem readQuoted_escape (d : Dialect) (text : List Char) {rest : List Char}
    (hrest : rest.head? ≠ some textQuote) :
    readQuoted textQuote d.escapes (d.escape text ++ textQuote :: rest) = some (text, rest) :=
  readQuoted_flatMap d.escapeChar_eq (by decide) text hrest

/-- A literal is read as its text. -/
theorem reads_literal (d : Dialect) (s : String) : d.Reads (d.literal s).toList [.text s] := by
  intro rest hrest
  have hhead : rest.head? ≠ some textQuote := fun h => (hrest _ h).2.1 rfl
  have hread : d.readToken textQuote (d.escape s.toList ++ textQuote :: rest)
      = some (some (.text s), rest) := by
    rw [readToken, if_neg (by decide), if_pos rfl, d.readQuoted_escape s.toList hhead]
    simp
  rw [literal, String.toList_ofList, List.cons_append, List.cons_append, List.append_assoc,
    List.singleton_append, tokens_cons hread]
  simp

/-- A delimited name is one token that ends at its last delimiter. -/
theorem readToken_delimited (d : Dialect) (name : List Char) {rest : List Char}
    (hrest : d.Breaks rest) :
    d.readToken d.quote (d.doubleQuotes name ++ d.quote :: rest)
      = some (some (.name (.ofList name)), rest) := by
  have hdouble : ∀ c, (if c = d.quote then [c, c] else [c])
      = if c = d.quote ∨ (false = true ∧ c = '\\') then [c, c] else [c] := by simp
  have hhead : rest.head? ≠ some d.quote := fun h => (hrest _ h).2.2 rfl
  rw [readToken, if_neg (by cases d <;> decide), if_neg (by cases d <;> decide), if_pos rfl,
    doubleQuotes, readQuoted_flatMap hdouble (by cases d <;> decide) name hhead]
  simp

/-- A delimited name is read as its name. -/
theorem reads_delimited (d : Dialect) (name : List Char) :
    d.Reads (d.quote :: d.doubleQuotes name ++ [d.quote]) [.name (.ofList name)] := by
  intro rest hrest
  rw [List.cons_append, List.cons_append, List.append_assoc, List.singleton_append,
    tokens_cons (d.readToken_delimited name hrest)]
  simp

end Dialect

end InsertScript
