import InsertScript.Proofs.Literals

/-!
# What a pattern brings into a text

Quotes and backslashes are the characters that literals have to escape. Numbers and names have none,
and a copied directive keeps the ones it has, so the pieces of a pattern have exactly the marks of
the pattern (`Pattern.mem_write_pieces_iff`). What is put into a pattern before it is divided may
have some: the name of the zone is whatever the zone says (`Pattern.mem_of_mem_prepare`).
-/

namespace InsertScript.Pattern

open Dialect (textQuote)

/-! ### Characters without marks -/

/-- Is it a character that some dialect escapes? -/
def isMark (c : Char) : Bool := c == textQuote || c == '\\'

theorem isMark_iff {c : Char} : isMark c = true ↔ c = textQuote ∨ c = '\\' := by simp [isMark]

/-- Are there no marks among the characters? -/
def Plain (chars : List Char) : Prop := ∀ c ∈ chars, isMark c = false

variable {c : Char} {chars : List Char}

theorem ne_percent_of_isMark (h : isMark c = true) : c ≠ '%' := by
  rintro rfl
  cases h

theorem Plain.not_mem (h : Plain chars) (hc : isMark c = true) : c ∉ chars := by
  intro hmem
  rw [h c hmem] at hc
  cases hc

@[simp] theorem plain_nil : Plain [] := nofun

@[simp] theorem plain_cons : Plain (c :: chars) ↔ isMark c = false ∧ Plain chars :=
  List.forall_mem_cons

@[simp] theorem plain_append {first second : List Char} :
    Plain (first ++ second) ↔ Plain first ∧ Plain second := List.forall_mem_append

theorem Plain.take (h : Plain chars) (n : Nat) : Plain (chars.take n) :=
  fun c hc => h c (List.mem_of_mem_take hc)

theorem plain_replicate (n : Nat) (h : isMark c = false) : Plain (List.replicate n c) := by
  intro x hx
  rwa [List.eq_of_mem_replicate hx]

theorem plain_of_isDigit (h : ∀ c ∈ chars, c.isDigit = true) : Plain chars := by
  intro c hc
  rw [← Bool.not_eq_true, isMark_iff]
  rintro (rfl | rfl)
  · exact absurd (h _ hc) (by decide)
  · exact absurd (h _ hc) (by decide)

@[simp] theorem plain_toDigits (n : Nat) : Plain (Nat.toDigits 10 n) :=
  plain_of_isDigit (Numeral.isDigit_toDigits n)

@[simp] theorem plain_zeroPadded (width n : Nat) : Plain (Numeral.zeroPadded width n) :=
  plain_of_isDigit (Numeral.isDigit_zeroPadded width n)

theorem plain_getD {names : List String}
    (h : names.all (fun name => name.toList.all (!isMark ·)) = true) (n : Nat) :
    Plain (names.getD n "").toList := by
  rw [List.getD_eq_getElem?_getD]
  cases hname : names[n]? with
  | none => exact plain_nil
  | some name =>
      have hplain := List.all_eq_true.1 (List.all_eq_true.1 h name (List.mem_of_getElem? hname))
      exact fun c hc => Bool.not_eq_true' _ ▸ hplain c hc

/-! ### The parts of a moment -/

variable {m : Moment}

@[simp] theorem plain_monthName (m : Moment) : Plain (monthName m) := plain_getD (by decide) _

@[simp] theorem plain_dayName (m : Moment) : Plain (dayName m) := plain_getD (by decide) _

@[simp] theorem plain_halfDay (hour : Nat) : Plain (halfDay hour) := by
  unfold halfDay
  split
  · simp [isMark, textQuote]
  · simp [isMark, textQuote]

@[simp] theorem plain_isoSeconds (t : Clock) : Plain t.isoSeconds := by
  simp [Clock.isoSeconds, isMark, textQuote]

@[simp] theorem plain_blankPadded (n : Nat) : Plain (blankPadded n) := by
  unfold blankPadded
  split
  · simp [isMark, textQuote]
  · exact plain_toDigits n

@[simp] theorem plain_signed (n : Int) : Plain (signed n) := by
  unfold signed
  split
  · simp [isMark, textQuote]
  · simp

/-- A text that a letter stands for is made of names, digits and the separators between them. -/
theorem plain_of_part? {letter : Char} (h : part? m letter = some (.text chars)) : Plain chars := by
  have hday := (plain_dayName m).take shortLength
  have hmonth := (plain_monthName m).take shortLength
  unfold part? at h
  split at h
  all_goals cases h
  all_goals
    simp [wordy, slashDate, hyphenDate, faceTime, shortTime, hday, hmonth, isMark, textQuote]

/-- A mark stands for nothing. -/
theorem part?_of_isMark (h : isMark c = true) (m : Moment) : part? m c = none := by
  rcases isMark_iff.1 h with rfl | rfl
  · rfl
  · rfl

/-- There are no marks in the text of an offset. -/
theorem plain_offsetText (offset : Option Int) : Plain (offsetText [] offset) := by
  cases offset with
  | none => exact plain_nil
  | some offset =>
      have hsign : isMark (if offset < 0 then '-' else '+') = false := by
        split
        · rfl
        · rfl
      have hseconds : Plain
          (if offset.natAbs % 60 = 0 then [] else Numeral.zeroPadded 2 (offset.natAbs % 60)) := by
        split
        · exact plain_nil
        · exact plain_zeroPadded _ _
      simp [offsetText, hsign, hseconds]

/-! ### Fields -/

namespace Field

variable {f : Field} {letter : Char}

/-- A mark is no part of a field. -/
theorem read?_of_isMark (h : isMark c = true) (f : Field) : f.read? c = none := by
  have hoption : f.option? c = none := by
    rcases isMark_iff.1 h with rfl | rfl
    · simp [option?, flag?, textQuote]
    · simp [option?, flag?]
  rw [read?, hoption, Option.map_none]

theorem plain_of_read? {longer : Field} (h : f.read? c = some longer) (hplain : Plain f.written) :
    Plain longer.written := by
  have hc : isMark c = false := by
    rw [← Bool.not_eq_true]
    intro hmark
    rw [read?_of_isMark hmark] at h
    cases h
  obtain ⟨_, -, rfl⟩ := Option.map_eq_some_iff.1 h
  exact plain_append.2 ⟨hplain, plain_cons.2 ⟨hc, plain_nil⟩⟩

/-- A change of case neither makes nor removes a mark. -/
theorem recase_eq_iff (h : isMark c = true) (f : Field) (letter x : Char) :
    f.recase letter x = c ↔ x = c := by
  obtain ⟨hletter, hpos, hascii⟩ : c.isAlpha = false ∧ 0 < c.toNat ∧ c.toNat < 128 := by
    rcases isMark_iff.1 h with rfl | rfl
    · decide
    · decide
  unfold recase
  split
  · exact Unicode.toLower_eq_iff hletter
  · split
    · exact Unicode.singleUpper_eq_iff hletter hpos hascii
    · exact Iff.rfl

theorem mem_map_recase_iff (h : isMark c = true) (f : Field) (letter : Char) :
    c ∈ chars.map (f.recase letter) ↔ c ∈ chars := by
  simp [List.mem_map, recase_eq_iff h]

/-- Filling up brings no marks in. -/
theorem mem_widen_iff (h : isMark c = true) (f : Field) : c ∈ f.widen chars ↔ c ∈ chars := by
  have hfiller (n : Nat) : c ∉ List.replicate n (if f.filler? = some .zeros then '0' else ' ') := by
    refine (plain_replicate n ?_).not_mem h
    split
    · rfl
    · rfl
  unfold widen
  split
  · rename_i hempty
    rw [List.isEmpty_iff.1 hempty.1]
  · rw [List.mem_append, or_iff_right (hfiller _)]

theorem not_mem_number (h : isMark c = true) (f : Field) (usual : Filler) (digits n : Nat) :
    c ∉ f.number usual digits n := by
  unfold number
  split
  · exact (plain_zeroPadded _ _).not_mem h
  · exact (plain_append.2 ⟨plain_replicate _ rfl, plain_toDigits n⟩).not_mem h
  · rw [mem_widen_iff h]
    exact (plain_toDigits n).not_mem h

/-- A field whose letter stands for something is written without marks. -/
theorem not_mem_write_of_part? {part : Part} (h : isMark c = true)
    (hpart : f.part? m letter = some part) : c ∉ f.write m letter ∧ c ≠ letter := by
  have hknown : Pattern.part? m letter = some part := by
    unfold part? at hpart
    split at hpart
    · cases hpart
    · exact hpart
  constructor
  · rw [write, hpart]
    cases part with
    | text chars =>
        rw [mem_widen_iff h, mem_map_recase_iff h]
        exact (plain_of_part? hknown).not_mem h
    | number filler digits n => exact not_mem_number h f filler digits n
    | unknown => exact List.not_mem_nil
  · rintro rfl
    rw [part?_of_isMark h] at hknown
    cases hknown

/-- A field is written with the marks that it has, which is its letter at most. -/
theorem mem_write_iff (h : isMark c = true) (hplain : Plain f.written) :
    c ∈ f.write m letter ↔ c = letter := by
  cases hpart : f.part? m letter with
  | some part =>
      obtain ⟨hwrite, hne⟩ := not_mem_write_of_part? h hpart
      exact ⟨fun hmem => absurd hmem hwrite, fun heq => absurd heq hne⟩
  | none =>
      rw [write, hpart, mem_widen_iff h, mem_map_recase_iff h, List.mem_append,
        or_iff_right (hplain.not_mem h), List.mem_singleton]

end Field

/-! ### Whole patterns -/

/-- The pieces are written with the marks of the pattern, whatever was read of a field before. -/
theorem mem_write_pieces_iff (h : isMark c = true) (m : Moment) {open? : Option Field}
    (hopen : ∀ f ∈ open?, Plain f.written) (chars : List Char) :
    c ∈ (pieces open? chars).flatMap (Piece.write m) ↔ c ∈ chars := by
  have hnone : ∀ f ∈ (none : Option Field), Plain f.written := by simp
  fun_induction pieces open? chars with
  | case1 => simp
  | case2 f =>
      have hwritten := (hopen f rfl).not_mem h
      simp [Piece.write, Field.mem_widen_iff h, Field.mem_map_recase_iff h, hwritten]
  | case3 rest ih =>
      have hfield : ∀ f ∈ some ({} : Field), Plain f.written := by
        rintro _ ⟨⟩
        exact plain_cons.2 ⟨rfl, plain_nil⟩
      have hrest : _ ↔ _ := ih hfield
      rw [hrest, List.mem_cons, or_iff_right (ne_percent_of_isMark h)]
  | case4 x rest _ ih =>
      have hrest : _ ↔ _ := ih hnone
      rw [List.flatMap_cons, List.mem_append, hrest, Piece.write, List.mem_singleton,
        List.mem_cons]
  | case5 f x rest longer hread ih =>
      have hlonger : ∀ g ∈ some longer, Plain g.written := by
        rintro _ ⟨⟩
        exact Field.plain_of_read? hread (hopen f rfl)
      have hne : c ≠ x := by
        rintro rfl
        rw [Field.read?_of_isMark h] at hread
        cases hread
      have hrest : _ ↔ _ := ih hlonger
      rw [hrest, List.mem_cons, or_iff_right hne]
  | case6 f x rest _ ih =>
      have hrest : _ ↔ _ := ih hnone
      rw [List.flatMap_cons, List.mem_append, hrest, Piece.write,
        Field.mem_write_iff h (hopen f rfl), List.mem_cons]

theorem mem_zoneText_iff (h : isMark c = true) : c ∈ zoneText chars ↔ c ∈ chars := by
  have hne := ne_percent_of_isMark h
  have hself (x : Char) : c ∈ (if x = '%' then ['%', '%'] else [x]) ↔ c = x := by
    split
    · rename_i hpercent
      simp [hpercent, hne]
    · exact List.mem_singleton
  simp [zoneText, List.mem_flatMap, hself]

/-- What is put into a pattern has no marks but those in the name of the zone. -/
theorem mem_of_mem_expand (h : isMark c = true) {pattern : List Char}
    (hmem : c ∈ expand m pattern) : c ∈ pattern ∨ c ∈ m.zoneName := by
  fun_induction expand m pattern with
  | case1 rest ih =>
      rw [List.mem_append, or_iff_right ((plain_offsetText m.offset).not_mem h)] at hmem
      exact (ih hmem).imp_left fun hrest => .tail _ (.tail _ hrest)
  | case2 rest ih =>
      rw [List.mem_append, mem_zoneText_iff h] at hmem
      rcases hmem with hname | hmem
      · exact .inr hname
      · exact (ih hmem).imp_left fun hrest => .tail _ (.tail _ hrest)
  | case3 rest ih =>
      rw [List.mem_append, or_iff_right ((plain_zeroPadded 6 _).not_mem h)] at hmem
      exact (ih hmem).imp_left fun hrest => .tail _ (.tail _ hrest)
  | case4 letter rest _ _ _ ih =>
      rw [List.mem_cons, List.mem_cons] at hmem
      rcases hmem with rfl | rfl | hmem
      · exact .inl List.mem_cons_self
      · exact .inl (.tail _ List.mem_cons_self)
      · exact (ih hmem).imp_left fun hrest => .tail _ (.tail _ hrest)
  | case5 x rest _ _ _ _ ih =>
      rcases List.mem_cons.1 hmem with rfl | hmem
      · exact .inl List.mem_cons_self
      · exact (ih hmem).imp_left fun hrest => .tail _ hrest
  | case6 => cases hmem

/-- So has the prepared pattern, of which only the beginning is left. -/
theorem mem_of_mem_prepare (h : isMark c = true) {pattern : List Char}
    (hmem : c ∈ prepare m pattern) : c ∈ pattern ∨ c ∈ m.zoneName := by
  have hsub (chars : List Char) : beforeNul chars ⊆ chars := (List.takeWhile_sublist _).subset
  exact (mem_of_mem_expand h (hsub _ hmem)).imp_left fun hbefore => hsub _ hbefore

end InsertScript.Pattern
