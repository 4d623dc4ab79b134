import InsertScript.Proofs.Layout
import InsertScript.Proofs.Reading

/-!
# Names in a script

A name of a table or a column is read back as what it was: letter by letter between delimiters, and
up to the letter case of the script as a bare word (`Name.Denotes`). A dotted name keeps its parts,
because no part is cut at a dot between delimiters (`Dialect.Whole`).
-/

namespace InsertScript

/-- Does a name in a script stand for this name, bare words being in this letter case? -/
def Name.Denotes (letters : LetterCase) (source : String) : Name → Prop
  | .bare spelling => spelling = letters.transform source
  | .delimited spelling => spelling = source

/-- What is related to the items of a list can be chosen item by item. -/
theorem exists_forall₂ {α β : Type} {r : α → β → Prop} {items : List α}
    (h : ∀ a ∈ items, ∃ b, r a b) : ∃ others, List.Forall₂ r items others := by
  induction items with
  | nil => exact ⟨[], .nil⟩
  | cons a items ih =>
      obtain ⟨b, hb⟩ := h a List.mem_cons_self
      obtain ⟨others, hothers⟩ := ih fun x hx => h x (List.mem_cons_of_mem a hx)
      exact ⟨b :: others, .cons hb hothers⟩

/-! ### Plain words in some letter case -/

/-- What holds of the characters up to 127, which can be tried one by one, holds of every character
of ASCII. -/
@[elab_as_elim]
theorem of_ascii {p : Char → Prop} (c : Char) (hc : c.toNat < 128)
    (h : ∀ n < 128, p (Char.ofNat n)) : p c := by
  have hp := h c.toNat hc
  rwa [Char.ofNat_toNat] at hp

/-- A letter in this case. -/
def LetterCase.change : LetterCase → Char → Char
  | .upper, c => c.toUpper
  | .lower, c => c.toLower
  | .mixed, c => c

namespace Dialect

theorem lt_of_isNamePart {c : Char} (h : isNamePart c = true) : c.toNat < 128 := by
  have hlt {last : UInt32} (hlast : last.toNat < 128) (hc : decide (c.val ≤ last) = true) :
      c.toNat < 128 :=
    Nat.lt_of_le_of_lt (UInt32.le_iff_toNat_le.1 (of_decide_eq_true hc)) hlast
  simp only [isNamePart, Char.isAlphanum, Bool.or_eq_true, beq_iff_eq] at h
  rcases h with ((halpha | hdigit) | rfl) | rfl
  · rcases Bool.or_eq_true_iff.1 halpha with hupper | hlower
    · exact hlt (by decide) (decide_eq_true (of_decide_eq_true hupper).2)
    · exact hlt (by decide) (Bool.and_eq_true_iff.1 hlower).2
  · exact hlt (by decide) (Bool.and_eq_true_iff.1 hdigit).2
  · decide
  · decide

/-- Word characters are word characters in every letter case. -/
theorem isNamePart_change (letters : LetterCase) {c : Char} (h : isNamePart c = true) :
    isNamePart (letters.change c) = true := by
  have hkept : isNamePart c = true → isNamePart (letters.change c) = true :=
    of_ascii c (lt_of_isNamePart h) (by cases letters <;> decide)
  exact hkept h

end Dialect

open Dialect (isNamePart lt_of_isNamePart isNamePart_change)

theorem Unicode.upper_of_ascii {text : List Char} (h : ∀ c ∈ text, c.toNat < 128) :
    upper text = text.map Char.toUpper := by
  induction text with
  | nil => rfl
  | cons c text ih =>
      have hc : c.val < 128 := UInt32.lt_iff_toNat_lt.2 (h c List.mem_cons_self)
      rw [upper_cons, upperChar, if_pos hc, ih fun x hx => h x (List.mem_cons_of_mem c hx),
        List.map_cons, List.singleton_append]

theorem Unicode.lowerAfter_of_ascii {text : List Char} (h : ∀ c ∈ text, c.toNat < 128)
    (before : List Char) : lowerAfter before text [] = text.map Char.toLower := by
  induction text generalizing before with
  | nil => rfl
  | cons c text ih =>
      have hc : c.val < 128 := UInt32.lt_iff_toNat_lt.2 (h c List.mem_cons_self)
      have hsigma : c ≠ 'Σ' := by
        rintro rfl
        exact absurd hc (by decide)
      rw [lowerAfter, if_neg hsigma, lowerAfter_eq, ih fun x hx => h x (List.mem_cons_of_mem c hx),
        lowerChar, if_pos hc, List.append_nil, List.reverse_reverse, List.map_cons,
          List.singleton_append]

/-- A text of ASCII characters is changed letter by letter. -/
theorem LetterCase.toList_transform (letters : LetterCase) {s : String}
    (h : ∀ c ∈ s.toList, c.toNat < 128) :
    (letters.transform s).toList = s.toList.map letters.change := by
  cases letters with
  | upper =>
      rw [transform_upper, Unicode.toList_upperText, Unicode.upper_of_ascii h]
      rfl
  | lower =>
      rw [transform_lower, Unicode.toList_lowerText, Unicode.lower, Unicode.lowerAfter_of_ascii h]
      rfl
  | mixed => exact (List.map_id _).symm

theorem Unicode.mapCase_ne_nil {rows : List CaseRow} {long : List (Nat × List Nat)} (c : Char)
    (hlong : ∀ entry ∈ long, entry.2 ≠ []) : mapCase rows long c ≠ [] := by
  unfold mapCase
  split
  · rename_i entry hentry
    simpa using hlong entry (List.mem_of_find?_eq_some hentry)
  · exact List.cons_ne_nil _ _

theorem Unicode.upper_ne_nil {text : List Char} (h : text ≠ []) : upper text ≠ [] := by
  obtain ⟨c, text, rfl⟩ := List.exists_cons_of_ne_nil h
  have hc : upperChar c ≠ [] := by
    unfold upperChar
    split
    · simp
    · exact mapCase_ne_nil c (by decide)
  simp [hc]

theorem Unicode.lower_ne_nil {text : List Char} (h : text ≠ []) : lower text ≠ [] := by
  obtain ⟨c, text, rfl⟩ := List.exists_cons_of_ne_nil h
  have hc : lowerChar c ≠ [] := by
    unfold lowerChar
    split
    · simp
    · exact mapCase_ne_nil c (by decide)
  rw [lower, lowerAfter]
  split
  · rw [lowerAfter_eq]
    simp
  · rw [lowerAfter_eq]
    simp [hc]

/-- No letter case makes a text vanish. -/
theorem LetterCase.transform_ne_empty (letters : LetterCase) {s : String} (h : s ≠ "") :
    letters.transform s ≠ "" := by
  have hne : s.toList ≠ [] := by simpa using h
  cases letters with
  | upper => simpa [Unicode.upperText] using Unicode.upper_ne_nil hne
  | lower => simpa [Unicode.lowerText] using Unicode.lower_ne_nil hne
  | mixed => exact h

theorem LetterCase.toUpper_change (letters : LetterCase) {c : Char} (h : c.toNat < 128) :
    (letters.change c).toUpper = c.toUpper :=
  of_ascii c h (by cases letters <;> decide)

/-- A text of ASCII characters is the same word in every letter case. -/
theorem LetterCase.foldWord_transform (letters : LetterCase) {s : String}
    (h : ∀ c ∈ s.toList, c.toNat < 128) :
    Reader.foldWord (letters.transform s) = Reader.foldWord s := by
  rw [Reader.foldWord, letters.toList_transform h, List.map_map]
  exact congrArg String.ofList (List.map_congr_left fun c hc => letters.toUpper_change (h c hc))

/-- A plain word is a word in every letter case. -/
theorem LetterCase.reads_transform (letters : LetterCase) {d : Dialect} {s : String} (hne : s ≠ "")
    (h : ∀ c ∈ s.toList, isNamePart c = true) :
    d.Reads (letters.transform s).toList [.word (letters.transform s)] := by
  have htransform := letters.toList_transform fun c hc => lt_of_isNamePart (h c hc)
  have hchanged : ∀ c ∈ (letters.transform s).toList, isNamePart c = true := by
    rw [htransform]
    intro c hc
    obtain ⟨x, hx, rfl⟩ := List.mem_map.1 hc
    exact isNamePart_change letters (h x hx)
  have hletters : (letters.transform s).toList ≠ [] := by
    rw [htransform]
    simpa using hne
  obtain ⟨c, chars, hword⟩ := List.exists_cons_of_ne_nil hletters
  rw [hword] at hchanged
  have hread := Dialect.reads_word (d := d) (List.all_eq_true.2 hchanged)
  rwa [← hword, String.ofList_toList] at hread

/-! ### Plain names -/

namespace Dialect

variable {name : List Char}

/-- Has a name only the characters of plain names, and is the first one neither a digit nor a dollar
sign? -/
structure IsWord (name : List Char) : Prop where
  ne_nil : name ≠ []
  start : ∀ c ∈ name.head?, c.isDigit = false ∧ c ≠ '$'
  parts : ∀ c ∈ name, isNamePart c = true

/-- A name begins with what may stand in it, but for digits and the dollar sign. -/
theorem isNameStart_iff {c : Char} :
    isNameStart c = true ↔ isNamePart c = true ∧ c.isDigit = false ∧ c ≠ '$' := by
  constructor
  · intro h
    have hpart : isNamePart c = true := by
      simp only [isNameStart, Bool.or_eq_true] at h
      rcases h with h | h <;> simp [isNamePart, Char.isAlphanum, h]
    have hnot : isNameStart c = true → c.isDigit = false ∧ c ≠ '$' :=
      of_ascii c (lt_of_isNamePart hpart) (by decide)
    exact ⟨hpart, hnot h⟩
  · rintro ⟨hpart, hdigit, hdollar⟩
    simp only [isNamePart, Char.isAlphanum, hdigit, beq_eq_false_iff_ne.2 hdollar,
      Bool.or_false] at hpart
    exact hpart

theorem isWord_cons {c : Char} {rest : List Char} :
    IsWord (c :: rest) ↔ isNameStart c = true ∧ ∀ x ∈ rest, isNamePart x = true := by
  rw [isNameStart_iff]
  constructor
  · intro h
    obtain ⟨hc, hrest⟩ := List.forall_mem_cons.1 h.parts
    exact ⟨⟨hc, h.start c rfl⟩, hrest⟩
  · rintro ⟨⟨hc, hstart⟩, hrest⟩
    exact ⟨List.cons_ne_nil c rest, by simpa using hstart, List.forall_mem_cons.2 ⟨hc, hrest⟩⟩

/-- A text without a line feed at its end has only plain characters if the text has, up to one line
feed. -/
theorem all_dropFinalFeed {text : List Char} : (dropFinalFeed text).all isNamePart = true ↔
    (∀ c ∈ text, isNamePart c = true) ∨ ∃ start, text = start ++ ['\n'] ∧
    ∀ c ∈ start, isNamePart c = true := by
  unfold dropFinalFeed
  by_cases hfeed : text.getLast? = some '\n'
  · obtain ⟨start, rfl⟩ := List.getLast?_eq_some_iff.1 hfeed
    rw [if_pos hfeed, List.dropLast_concat, List.all_eq_true]
    constructor
    · exact fun h => .inr ⟨start, rfl, h⟩
    · rintro (hall | ⟨start', heq, hstart⟩)
      · exact fun c hc => hall c (List.mem_append_left _ hc)
      · rwa [(List.append_inj_left' heq rfl : start = start')]
  · rw [if_neg hfeed, List.all_eq_true]
    constructor
    · exact .inl
    · rintro (hall | ⟨start, rfl, -⟩)
      · exact hall
      · exact absurd List.getLast?_concat hfeed

/-- What is taken for plain is a plain word, or one with a line feed behind it. -/
theorem isPlainName_iff : isPlainName name = true ↔ IsWord name ∨ ∃ word, IsWord word ∧
    name = word ++ ['\n'] := by
  cases name with
  | nil =>
      simp only [isPlainName, Bool.false_eq_true, false_iff, not_or]
      exact ⟨fun h => h.ne_nil rfl, by simp⟩
  | cons c rest =>
      rw [isPlainName, Bool.and_eq_true, all_dropFinalFeed, isWord_cons, and_or_left]
      refine or_congr_right ?_
      constructor
      · rintro ⟨hstart, start, rfl, hparts⟩
        exact ⟨c :: start, isWord_cons.2 ⟨hstart, hparts⟩, rfl⟩
      · rintro ⟨word, hword, heq⟩
        obtain ⟨first, start, rfl⟩ := List.exists_cons_of_ne_nil hword.ne_nil
        obtain ⟨rfl, rfl⟩ := List.cons.inj heq
        obtain ⟨hstart, hparts⟩ := isWord_cons.1 hword
        exact ⟨hstart, start, rfl, hparts⟩

/-- A plain name has only word characters unless it ends in a line feed. -/
theorem isNamePart_of_isPlainName (h : isPlainName name = true)
    (hlast : name.getLast? ≠ some '\n') : name ≠ [] ∧ ∀ c ∈ name, isNamePart c = true := by
  rcases isPlainName_iff.1 h with hword | ⟨word, -, rfl⟩
  · exact ⟨hword.ne_nil, hword.parts⟩
  · exact absurd List.getLast?_concat hlast

/-- A plain name has only word characters, and perhaps a line feed at its end. -/
theorem mem_of_isPlainName (h : isPlainName name = true) {c : Char} (hc : c ∈ name) :
    isNamePart c = true ∨ c = '\n' := by
  rcases isPlainName_iff.1 h with hword | ⟨word, hword, rfl⟩
  · exact .inl (hword.parts c hc)
  · rcases List.mem_append.1 hc with hc | hc
    · exact .inl (hword.parts c hc)
    · exact .inr (List.mem_singleton.1 hc)

theorem lt_of_isPlainName (h : isPlainName name = true) {c : Char} (hc : c ∈ name) :
    c.toNat < 128 := by
  rcases mem_of_isPlainName h hc with hpart | rfl
  · exact lt_of_isNamePart hpart
  · decide

end Dialect

/-! ### Single names -/

namespace Dialect

variable {d : Dialect} {name : List Char}

theorem spells_delimited (d : Dialect) (name : List Char) :
    d.SpellsFully Reader.name (d.quote :: d.doubleQuotes name ++ [d.quote])
      (.delimited (.ofList name)) :=
  ⟨_, d.reads_delimited name, fun _ _ => rfl⟩

theorem doubleQuotes_cons (c : Char) (name : List Char) :
    d.doubleQuotes (c :: name) = (if c = d.quote then [c, c] else [c]) ++ d.doubleQuotes name := by
  rw [doubleQuotes, List.flatMap_cons]
  rfl

theorem doubleQuotes_eq_self (hname : d.quote ∉ name) : d.doubleQuotes name = name := by
  induction name with
  | nil => rfl
  | cons c name ih =>
      have hc : c ≠ d.quote := fun h => hname (by simp [h])
      rw [doubleQuotes_cons, if_neg hc, ih fun h => hname (List.mem_cons_of_mem c h)]
      rfl

theorem mem_doubleQuotes {c : Char} {name : List Char} : c ∈ d.doubleQuotes name ↔ c ∈ name := by
  rw [doubleQuotes, List.mem_flatMap]
  constructor
  · rintro ⟨x, hx, hc⟩
    split at hc
    · simp at hc
      exact hc ▸ hx
    · exact List.mem_singleton.1 hc ▸ hx
  · intro hc
    refine ⟨c, hc, ?_⟩
    split <;> simp

theorem isQuoted_delimited (d : Dialect) (inner : List Char) :
    d.isQuoted (d.quote :: inner ++ [d.quote]) = true := by
  have hlast : (d.quote :: inner ++ [d.quote]).getLast? = some d.quote := List.getLast?_concat
  simp only [isQuoted, hlast]
  simp

end Dialect

namespace Identifier

variable {d : Dialect} {letters : LetterCase} {name : String}

/-- A name as it is written in some letter case. -/
def written (d : Dialect) (letters : LetterCase) (name : String) : String :=
  transform d letters (quote d name)

/-- A name that looks delimited is written as it is. -/
theorem written_of_isQuoted (letters : LetterCase) (hquoted : d.isQuoted name.toList = true) :
    written d letters name = name := by
  have hquote : quote d name = name := by
    rw [quote, Dialect.quoteName, if_pos hquoted, String.ofList_toList]
  rw [written, hquote, transform, if_pos hquoted]

/-- A plain name is written in the letter case, and any other name between delimiters. -/
theorem written_cases (letters : LetterCase) (hlast : name.toList.getLast? ≠ some '\n')
    (hquoted : d.isQuoted name.toList = false) :
    (written d letters name = letters.transform name ∧ name ≠ "" ∧
      ∀ c ∈ name.toList, isNamePart c = true) ∨
      (written d letters name).toList = d.quote :: d.doubleQuotes name.toList ++ [d.quote] := by
  unfold written quote Dialect.quoteName
  rw [hquoted, if_neg (by simp)]
  -- only a plain name goes without delimiters, and only without them its letter case is changed
  by_cases hplain : (Dialect.isPlainName name.toList && !Dialect.isReserved name.toList) = true
  · rw [if_pos hplain, String.ofList_toList, transform, hquoted, if_neg (by simp)]
    obtain ⟨hne, hparts⟩ :=
      Dialect.isNamePart_of_isPlainName (Bool.and_eq_true_iff.1 hplain).1 hlast
    exact .inl ⟨rfl, by simpa using hne, hparts⟩
  · rw [if_neg hplain, transform, String.toList_ofList, Dialect.isQuoted_delimited, if_pos rfl]
    exact .inr String.toList_ofList

/-- What a name is written as stands for it. -/
theorem spells_written (letters : LetterCase) (hlast : name.toList.getLast? ≠ some '\n')
    (hquoted : d.isQuoted name.toList = false) :
    ∃ n : Name, n.Denotes letters name ∧
      d.SpellsFully Reader.name (written d letters name).toList n := by
  rcases written_cases letters hlast hquoted with ⟨hwritten, hne, hparts⟩ | hwritten
  · rw [hwritten]
    exact ⟨.bare (letters.transform name), rfl, _,
      letters.reads_transform hne hparts, fun _ _ => rfl⟩
  · refine ⟨.delimited name, rfl, ?_⟩
    have hdelimited := d.spells_delimited name.toList
    rwa [String.ofList_toList, ← hwritten] at hdelimited

/-- A column is written in the chosen letter case, also when that changes nothing. -/
theorem column_eq_written (d : Dialect) (letters : LetterCase) (name : String) :
    column d letters name = written d letters name := by
  by_cases hmixed : letters = .mixed
  · simp [column, written, hmixed, transform]
  · simp only [column, written, hmixed, if_false]

end Identifier

/-! ### Dotted names -/

namespace Dialect

variable {d : Dialect} {name : List Char}

/-- Does a name keep together when a dotted name is split? -/
def Whole (d : Dialect) (name : List Char) : Prop :=
  ∀ part rest, d.splitFrom false part (name ++ rest) = d.splitFrom false (name.reverse ++ part) rest

/-- The first part goes on with what was collected. -/
theorem splitFrom_eq_cons (d : Dialect) (inside : Bool) (part text : List Char) :
    ∃ first rest, d.splitFrom inside part text = (part.reverse ++ first) :: rest := by
  induction text generalizing inside part with
  | nil => exact ⟨[], [], by simp [splitFrom]⟩
  | cons c text ih =>
      rw [splitFrom]
      generalize (if c = d.quote then !inside else inside) = inside
      by_cases hdot : c = '.' ∧ inside = false
      · exact ⟨[], _, by rw [if_pos hdot, List.append_nil]⟩
      · obtain ⟨first, rest, hsplit⟩ := ih inside (c :: part)
        exact ⟨c :: first, rest, by simp [hdot, hsplit]⟩

theorem whole_of_plain (h : ∀ c ∈ name, c ≠ '.' ∧ c ≠ d.quote) : d.Whole name := by
  intro part rest
  induction name generalizing part with
  | nil => rfl
  | cons c name ih =>
      have hc := h c List.mem_cons_self
      have hrest := ih (fun x hx => h x (List.mem_cons_of_mem c hx)) (c :: part)
      rw [List.cons_append, splitFrom]
      simp only [hc, if_false, false_and]
      rw [hrest]
      simp

/-- Between delimiters also quote characters keep together if they are doubled. -/
theorem splitFrom_doubleQuotes (name part rest : List Char) :
    d.splitFrom true part (d.doubleQuotes name ++ rest)
      = d.splitFrom true ((d.doubleQuotes name).reverse ++ part) rest := by
  have hdot : d.quote ≠ '.' := by cases d <;> decide
  induction name generalizing part with
  | nil => rfl
  | cons c name ih =>
      rw [doubleQuotes_cons]
      by_cases hc : c = d.quote
      · -- the second of two quotes leads back to where the first one has led away from
        subst hc
        simp [splitFrom, hdot, ih]
      · simp [splitFrom, hc, ih]

theorem whole_delimited (d : Dialect) (name : List Char) :
    d.Whole (d.quote :: d.doubleQuotes name ++ [d.quote]) := by
  intro part rest
  have hdot : d.quote ≠ '.' := by cases d <;> decide
  rw [List.append_assoc, List.cons_append, splitFrom]
  simp only [if_true, Bool.not_false, hdot, false_and, if_false]
  rw [splitFrom_doubleQuotes, List.singleton_append, splitFrom]
  simp [hdot]

/-- Quoting keeps a name together. -/
theorem Whole.quoteName (h : d.Whole name) : d.Whole (d.quoteName name) := by
  unfold Dialect.quoteName
  split
  · exact h
  · split
    · exact h
    · exact d.whole_delimited name

theorem quoteName_ne_nil (d : Dialect) (name : List Char) : d.quoteName name ≠ [] := by
  unfold quoteName
  split
  · rename_i hquoted
    rintro rfl
    cases hquoted
  · split
    · rename_i hplain
      rintro rfl
      cases hplain
    · simp

/-- What keeps together in front of a dot is the first part. -/
theorem Whole.splitName_append_dot (h : d.Whole name) (rest : List Char) :
    d.splitName (name ++ '.' :: rest) = name :: d.splitName rest := by
  have hdot : '.' ≠ d.quote := by cases d <;> decide
  rw [splitName, h, splitFrom]
  simp [hdot, splitName]

theorem Whole.splitName_eq (h : d.Whole name) : d.splitName name = [name] := by
  have hsplit := h [] []
  rw [List.append_nil] at hsplit
  rw [splitName, hsplit, splitFrom, List.append_nil, List.reverse_reverse]

/-- A dotted name is split into its parts. -/
theorem splitName_intercalate {parts : List (List Char)} (hne : parts ≠ [])
    (hparts : ∀ part ∈ parts, d.Whole part) : d.splitName (['.'].intercalate parts) = parts := by
  induction parts with
  | nil => exact absurd rfl hne
  | cons part parts ih =>
      have hwhole := hparts part List.mem_cons_self
      cases parts with
      | nil => rw [List.intercalate_singleton, hwhole.splitName_eq]
      | cons next parts =>
          rw [List.intercalate_cons_cons, List.append_assoc, List.singleton_append,
            hwhole.splitName_append_dot,
            ih (by simp) fun p hp => hparts p (List.mem_cons_of_mem _ hp)]

theorem intercalate_dot_cons (part : List Char) {parts : List (List Char)}
    (hparts : ∀ other ∈ parts, other ≠ []) :
    ['.'].intercalate (part :: parts)
      = part ++ (if ['.'].intercalate parts = [] then [] else '.' :: ['.'].intercalate parts) := by
  cases parts with
  | nil => simp
  | cons next rest =>
      have hnext := hparts next List.mem_cons_self
      cases rest <;> simp [hnext]

/-- Only parts that are not empty are joined. -/
theorem joinName_cons {part : List Char} (hne : part ≠ []) (parts : List (List Char)) :
    joinName (part :: parts) = part ++
      (if joinName parts = [] then [] else '.' :: joinName parts) := by
  have hpart : (!part.isEmpty) = true := by simpa using hne
  simp only [joinName, List.filter_cons, hpart, if_true]
  exact intercalate_dot_cons part fun other hother => by simpa using (List.mem_filter.1 hother).2

end Dialect

namespace Identifier

variable {d : Dialect} {letters : LetterCase}

/-- Parts with dots between them are written one by one. -/
theorem mapParts_intercalate {write : String → String} {parts : List String} (hne : parts ≠ [])
    (hparts : ∀ part ∈ parts, d.Whole part.toList ∧ write part ≠ "") :
    mapParts d write (".".intercalate parts) = ".".intercalate (parts.map write) := by
  have hsplit : d.splitName (".".intercalate parts).toList = parts.map String.toList := by
    rw [String.toList_intercalate]
    refine Dialect.splitName_intercalate (by simpa using hne) fun part hpart => ?_
    obtain ⟨p, hp, rfl⟩ := List.mem_map.1 hpart
    exact (hparts p hp).1
  have hwritten : (parts.map String.toList).map (fun part => (write (String.ofList part)).toList)
      = (parts.map write).map String.toList := by
    simp
  rw [mapParts, hsplit, hwritten, Dialect.joinName, List.filter_eq_self.2, ← String.toList_inj,
    String.toList_ofList, String.toList_intercalate]
  · rfl
  · intro part hpart
    obtain ⟨p, hp, rfl⟩ := List.mem_map.1 hpart
    obtain ⟨q, hq, rfl⟩ := List.mem_map.1 hp
    simpa using (hparts q hq).2

/-- Is a text a part of a dotted name that can be read back? -/
structure IsPart (d : Dialect) (part : String) : Prop where
  ne_empty : part ≠ ""
  no_dot : '.' ∉ part.toList
  no_quote : d.quote ∉ part.toList
  no_feed : part.toList.getLast? ≠ some '\n'

theorem IsPart.isQuoted_eq_false {part : String} (h : IsPart d part) :
    d.isQuoted part.toList = false := by
  have hhead : part.toList.head? ≠ some d.quote := fun hhead =>
    h.no_quote (List.mem_of_mem_head? hhead)
  simp [Dialect.isQuoted, hhead]

theorem IsPart.whole {part : String} (h : IsPart d part) : d.Whole part.toList :=
  Dialect.whole_of_plain fun _ hc =>
    ⟨fun hdot => h.no_dot (hdot ▸ hc), fun hquote => h.no_quote (hquote ▸ hc)⟩

theorem quote_ne_empty (d : Dialect) (name : String) : quote d name ≠ "" := by
  simpa [quote] using d.quoteName_ne_nil name.toList

theorem quoteTable_ne_empty (d : Dialect) (name : String) : quoteTable d name ≠ "" := by
  obtain ⟨first, rest, hsplit⟩ := d.splitFrom_eq_cons false [] name.toList
  have hquote := quote_ne_empty d (String.ofList first)
  rw [quoteTable, mapParts, Dialect.splitName, hsplit, List.reverse_nil,
    List.nil_append, List.map_cons, Dialect.joinName_cons (by simpa using hquote)]
  simp [hquote]

theorem written_ne_empty (d : Dialect) (letters : LetterCase) (name : String) :
    written d letters name ≠ "" := by
  unfold written transform
  split
  · exact quote_ne_empty d name
  · exact letters.transform_ne_empty (quote_ne_empty d name)

/-- A dotted name is quoted part by part. -/
theorem quoteTable_intercalate {parts : List String} (hne : parts ≠ [])
    (hparts : ∀ part ∈ parts, d.Whole part.toList) :
    quoteTable d (".".intercalate parts) = ".".intercalate (parts.map (quote d)) :=
  mapParts_intercalate hne fun part hpart => ⟨hparts part hpart, quote_ne_empty d part⟩

/-- A dotted name of the source is written part by part. -/
theorem transformTable_quoteTable {parts : List String} (hne : parts ≠ [])
    (hparts : ∀ part ∈ parts, d.Whole part.toList) :
    transformTable d letters (quoteTable d (".".intercalate parts))
      = ".".intercalate (parts.map (written d letters)) := by
  have htransform : mapParts d (transform d letters) (".".intercalate (parts.map (quote d)))
      = ".".intercalate ((parts.map (quote d)).map (transform d letters)) := by
    refine mapParts_intercalate (by simpa using hne) fun text htext => ?_
    obtain ⟨part, hpart, rfl⟩ := List.mem_map.1 htext
    refine ⟨?_, written_ne_empty d letters part⟩
    rw [quote, String.toList_ofList]
    exact (hparts part hpart).quoteName
  have hboth : transform d letters ∘ quote d = written d letters := by
    funext name
    rw [Function.comp_apply, written]
  rw [List.map_map, hboth] at htransform
  rw [quoteTable_intercalate hne hparts, transformTable]
  split
  · -- a table in mixed case is not even split, and its parts are what they were
    rename_i hmixed
    subst hmixed
    have hwritten : written d .mixed = quote d := funext fun name => by simp [written, transform]
    rw [hwritten]
  · exact htransform

/-- A dotted name is read back part by part. -/
theorem spells_intercalate {texts : List String} {names : List Name} (hne : texts ≠ [])
    (htexts : List.Forall₂ (fun text name => d.SpellsFully Reader.name text.toList name)
      texts names) :
    d.Spells d.Breaks Reader.table (Reader.NotNext (· == .sign '.'))
      (".".intercalate texts).toList names := by
  have hdot := d.isSign_of_mem (by decide : '.' ∈ _)
  rw [String.toList_intercalate]
  exact (Dialect.Spells.separated (Dialect.readsAlways_sign hdot)
    (fun rest => Dialect.breaks_of_isSign hdot rest) rfl (fun _ => trivial)
    (List.forall₂_map_left_iff.2 htexts) (by simpa using hne)).mono (fun _ h => h) fun rest h =>
      ⟨trivial, h⟩

/-- The parts of a dotted name of the source are read back as what they were. -/
theorem spells_table (letters : LetterCase) {parts : List String} (hne : parts ≠ [])
    (hparts : ∀ part ∈ parts, IsPart d part) :
    ∃ names, List.Forall₂ (Name.Denotes letters) parts names ∧
      d.Spells d.Breaks Reader.table (Reader.NotNext (· == .sign '.'))
        (".".intercalate (parts.map (written d letters))).toList names := by
  obtain ⟨names, hnames⟩ := exists_forall₂ fun part hpart =>
    spells_written letters (hparts part hpart).no_feed (hparts part hpart).isQuoted_eq_false
  refine ⟨names, hnames.imp fun _ _ h => h.1, spells_intercalate (by simpa using hne) ?_⟩
  exact List.forall₂_map_left_iff.2 (hnames.imp fun _ _ h => h.2)

end Identifier

/-! ### The names of an export -/

namespace Exporter

variable {e : Exporter} {d : Dialect} {columns : List ExportColumn} {found? : Option String}

/-- The columns that are not left out. -/
def exported (e : Exporter) (columns : List ExportColumn) : List ExportColumn :=
  columns.filter fun column => !e.skips column

theorem intercalate_ne_empty {texts : List String} (hne : texts ≠ [])
    (htexts : ∀ text ∈ texts, text ≠ "") :
    ".".intercalate texts ≠ "" := by
  obtain ⟨text, rest, rfl⟩ := List.exists_cons_of_ne_nil hne
  rw [intercalate_cons_eq_join]
  simp [htexts text List.mem_cons_self]

/-- The table of the source is quoted part by part and then brought into the letter case. -/
theorem tableIdentifier_some (hd : e.dialect? = some d) (huser : e.userTable? = none)
    {found : String} (hfound : found ≠ "") :
    e.tableIdentifier (e.openSession columns (some found))
      = Identifier.transformTable d e.settings.identifierCase (Identifier.quoteTable d found) := by
  have hquote : e.quoteFound found = Identifier.quoteTable d found := by rw [quoteFound, hd]
  have hname : e.tableName (some found) = Identifier.quoteTable d found := by
    unfold tableName
    simp only [huser, hquote, Identifier.quoteTable_ne_empty d found, if_false]
  unfold tableIdentifier
  rw [hd]
  exact congrArg (Identifier.transformTable d e.settings.identifierCase) hname

/-- Without a table in the source it is the default one. -/
theorem tableIdentifier_none (hd : e.dialect? = some d) (huser : e.userTable? = none) :
    e.tableIdentifier (e.openSession columns none)
      = Identifier.transformTable d e.settings.identifierCase
        (Identifier.quoteTable d defaultTable) := by
  have hdefault : Identifier.quoteTable d defaultTable = defaultTable := by cases d <;> decide
  unfold tableIdentifier
  rw [hd, hdefault]
  simp only [openSession, tableName, huser, if_true]

/-- The table is written part by part. -/
theorem tableIdentifier_openSession (hd : e.dialect? = some d) (huser : e.userTable? = none)
    {parts : List String} (hne : parts ≠ []) (hempty : ∀ part ∈ parts, part ≠ "")
    (hparts : ∀ part ∈ parts, d.Whole part.toList)
    (hfound : found?.getD defaultTable = ".".intercalate parts) :
    e.tableIdentifier (e.openSession columns found?)
      = ".".intercalate (parts.map (Identifier.written d e.settings.identifierCase)) := by
  rw [← Identifier.transformTable_quoteTable hne hparts, ← hfound]
  cases found? with
  | none => exact tableIdentifier_none hd huser
  | some found =>
      refine tableIdentifier_some hd huser ?_
      rw [show found = ".".intercalate parts from hfound]
      exact intercalate_ne_empty hne hempty

/-- The columns are read back one by one. -/
theorem spells_columnList (hd : e.dialect? = some d)
    (hcolumns : ∀ column ∈ columns,
      column.name.toList.getLast? ≠ some '\n' ∧ d.isQuoted column.name.toList = false) :
    ∃ names, List.Forall₂ (Name.Denotes e.settings.identifierCase)
        ((e.exported columns).map ExportColumn.name) names ∧
      d.SpellsAlways (Reader.list Reader.name)
        ("(" ++ e.columnList columns ++ ")").toList names := by
  have hwritten (column : ExportColumn) :
      e.columnName column.name = Identifier.written d e.settings.identifierCase column.name := by
    simp only [columnName, hd, Identifier.column_eq_written]
  obtain ⟨names, hnames⟩ : ∃ names, List.Forall₂ (fun column name =>
      Name.Denotes e.settings.identifierCase (ExportColumn.name column) name ∧
        d.SpellsFully Reader.name (e.columnName column.name).toList name)
          (e.exported columns) names := by
    refine exists_forall₂ fun column hcolumn => ?_
    obtain ⟨hlast, hquoted⟩ := hcolumns column (List.mem_filter.1 hcolumn).1
    rw [hwritten]
    exact Identifier.spells_written _ hlast hquoted
  refine ⟨names, List.forall₂_map_left_iff.2 (hnames.imp fun _ _ h => h.1), ?_⟩
  have hspells : List.Forall₂ (d.SpellsFully Reader.name)
      (((e.exported columns).map fun column => e.columnName column.name).map String.toList) names :=
    List.forall₂_map_left_iff.2 (List.forall₂_map_left_iff.2 (hnames.imp fun _ _ h => h.2))
  have hlist := Dialect.SpellsFully.list (fun _ => rfl) hspells
  rw [columnList, String.toList_append, String.toList_append, String.toList_intercalate,
    List.append_assoc]
  exact hlist

end Exporter

end InsertScript
