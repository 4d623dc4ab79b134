import InsertScript.CommandLine.Arguments
import InsertScript.Export.Statement
import InsertScript.Proofs.Shown
import InsertScript.Proofs.Steps

/-!
# Properties that are accepted

Properties of any types make settings unless a value cannot be shown, or something other than a text
names a variant (`Properties.isAccepted_iff`). Such settings have room for a row in every statement,
and so have all settings that command lines make of them: what a command line lays over settings
comes from its words (`Overlay.IsChosen`), and words can always be read.
-/

namespace InsertScript

open Step (isOk_bind_iff isOk_bind_pure)
open Value (isOk_display_iff isOk_quoted_iff)

/-! ### Single values -/

/-- Does the value name a variant? Every text does, and what is blank or not set stands for the
plain one. -/
def Value.NamesVariant : Value → Prop
  | .text _ => True
  | .bytes data | .buffer data => data.all Settings.isBlankByte = true
  | v => v.isTruthy = false

namespace Settings

theorem isOk_readBool_iff (v : Value) (default : Bool) :
    (readBool v default).isOk = true ↔ v.IsShown := by
  rw [← isOk_display_iff]
  unfold readBool
  split
  · simp [Value.display, Value.quoted]
  · simp [Value.display, Value.quoted]
  · rw [isOk_bind_pure]

theorem isOk_readRows_iff (v : Value) : (readRows v).isOk = true ↔ v.IsShown := by
  unfold readRows
  split
  · simp [Value.IsShown]
  · simp [Value.IsShown]
  · cases hcount : readCount v with
    | ok n =>
        obtain ⟨text, hdisplay, -⟩ := Step.ok_of_bind_except hcount
        rw [← isOk_display_iff, hdisplay]
        simp
    | error failure =>
        -- the remark shows the value too
        rw [isOk_bind_pure, isOk_quoted_iff]

theorem isOk_readKeywordCase_iff (v : Value) : (readKeywordCase v).isOk = true ↔ v.IsShown := by
  unfold readKeywordCase
  split
  · simp [Value.IsShown]
  · rw [isOk_bind_pure, isOk_display_iff]

theorem isOk_readIdentifierCase_iff (v : Value) :
    (readIdentifierCase v).isOk = true ↔ v.IsShown := by
  unfold readIdentifierCase
  split
  · simp [Value.IsShown]
  · rw [isOk_bind_pure, isOk_display_iff]

theorem isShown_of_not_isTruthy {v : Value} (h : v.isTruthy = false) : v.IsShown := by
  cases v with
  | int n =>
      obtain rfl : n = 0 := by simpa [Value.isTruthy] using h
      rw [Value.IsShown]
      decide +kernel
  | list items =>
      obtain rfl : items = [] := by simpa [Value.isTruthy] using h
      trivial
  | tuple items =>
      obtain rfl : items = [] := by simpa [Value.isTruthy] using h
      trivial
  | dict entries =>
      obtain rfl : entries = [] := by simpa [Value.isTruthy] using h
      trivial
  | _ => trivial

theorem isOk_readText?_iff (v : Value) : (readText? v).isOk = true ↔ v.IsShown := by
  unfold readText?
  split
  · rw [← isOk_display_iff]
    cases v.display <;> rfl
  · rename_i h
    have hshown : v.IsShown := isShown_of_not_isTruthy (Bool.eq_false_iff.2 h)
    simp [hshown]

/-- A variant is read from a text, from what counts as none, and from bytes that are blank. -/
theorem isOk_readVariant_iff (v : Value) : (readVariant v).isOk = true ↔ v.NamesVariant := by
  have hblank (data : Bytes) (failure : Failure) :
      (if data.all isBlankByte then Except.ok Variant.insert else .error failure).isOk = true ↔
        data.all isBlankByte = true := by
    cases data.all isBlankByte <;> simp
  unfold readVariant
  cases htruthy : v.isTruthy with
  | false =>
      have hnone : v.NamesVariant := by
        unfold Value.NamesVariant
        split
        · trivial
        · rename_i data
          obtain rfl : data = [] := by simpa [Value.isTruthy] using htruthy
          rfl
        · rename_i data
          obtain rfl : data = [] := by simpa [Value.isTruthy] using htruthy
          rfl
        · exact htruthy
      simp [hnone]
  | true =>
      cases v with
      | text s => simp [Value.NamesVariant]
      | bytes data => exact hblank data _
      | buffer data => exact hblank data _
      | _ => simp [Value.NamesVariant, htruthy]

end Settings

/-! ### All properties -/

namespace Properties

/-- Can every property be read? -/
structure IsReadable (p : Properties) : Prop where
  shown : ∀ name ∈ Settings.propertyNames, name ≠ "insert_variant" → (p.lookup name).IsShown
  variant : (p.lookup "insert_variant").NamesVariant

/-- The properties are read exactly if each of them can be. -/
theorem isOk_ofProperties_iff (p : Properties) :
    (Settings.ofProperties p).isOk = true ↔ p.IsReadable := by
  have hsteps : (Settings.ofProperties p).isOk = true ↔
      (p.lookup "include_auto_generated").IsShown ∧ (p.lookup "omit_schema").IsShown ∧
      (p.lookup "rows_in_statement").IsShown ∧ (p.lookup "native_format").IsShown ∧
      (p.lookup "line_before_rows").IsShown ∧ (p.lookup "user_table_name").IsShown ∧
      (p.lookup "keyword_case").IsShown ∧ (p.lookup "identifier_case").IsShown ∧
      (p.lookup "insert_variant").NamesVariant ∧ (p.lookup "on_conflict").IsShown ∧
      (p.lookup "use_dialect_defaults").IsShown ∧ (p.lookup "line_separator").IsShown := by
    refine isOk_bind_iff (Settings.isOk_readBool_iff _ _) fun _ => ?_
    refine isOk_bind_iff (Settings.isOk_readBool_iff _ _) fun _ => ?_
    refine isOk_bind_iff (Settings.isOk_readRows_iff _) fun (rows, remark?) => ?_
    refine isOk_bind_iff (Settings.isOk_readBool_iff _ _) fun _ => ?_
    refine isOk_bind_iff (Settings.isOk_readBool_iff _ _) fun _ => ?_
    refine isOk_bind_iff (Settings.isOk_readText?_iff _) fun _ => ?_
    refine isOk_bind_iff (Settings.isOk_readKeywordCase_iff _) fun _ => ?_
    refine isOk_bind_iff (Settings.isOk_readIdentifierCase_iff _) fun _ => ?_
    refine isOk_bind_iff (Settings.isOk_readVariant_iff _) fun _ => ?_
    refine isOk_bind_iff (Settings.isOk_readText?_iff _) fun _ => ?_
    refine isOk_bind_iff (Settings.isOk_readBool_iff _ _) fun _ => ?_
    rw [isOk_bind_pure]
    exact Settings.isOk_readText?_iff _
  rw [hsteps]
  constructor
  · rintro ⟨h1, h2, h3, h4, h5, h6, h7, h8, hvariant, h10, h11, h12⟩
    refine ⟨fun name hname hne => ?_, hvariant⟩
    simp only [Settings.propertyNames, List.mem_cons, List.not_mem_nil, or_false] at hname
    obtain rfl | rfl | rfl | rfl | rfl | rfl | rfl | rfl | rfl | rfl | rfl | rfl := hname
    all_goals first | assumption | exact absurd rfl hne
  · intro h
    have hshown (name : String) (hname : name ∈ Settings.propertyNames ∧ name ≠ "insert_variant") :
        (p.lookup name).IsShown := h.shown name hname.1 hname.2
    exact ⟨hshown _ (by decide), hshown _ (by decide), hshown _ (by decide), hshown _ (by decide),
      hshown _ (by decide), hshown _ (by decide), hshown _ (by decide),
        hshown _ (by decide), h.variant,
      hshown _ (by decide), hshown _ (by decide), hshown _ (by decide)⟩

end Properties

/-! ### Settings that can be used -/

/-- Can lines be ended by the value? Only what is shown as something else than it is might be
nothing. -/
def Value.IsSeparator : Value → Prop
  | .object _ shown => shown ≠ ""
  | .path p => p.text ≠ ""
  | _ => True

namespace Settings

/-- Settings with which rows can be counted and lines end. -/
structure IsUsable (s : Settings) : Prop where
  rows : 1 ≤ s.rowsInStatement
  separator : s.lineSeparator ≠ ""

/-- Lines can be ended by what is read of a value exactly if they can be ended by the value. -/
theorem readText?_isSeparator {v : Value} {text? : Option String} (h : readText? v = .ok text?) :
    text?.getD "\n" ≠ "" ↔ v.IsSeparator := by
  unfold readText? at h
  split at h
  · rename_i htruthy
    cases hshown : v.display with
    | error failure =>
        rw [hshown] at h
        cases h
    | ok shown =>
        rw [hshown] at h
        cases h
        change shown ≠ "" ↔ v.IsSeparator
        by_cases hfree : v.IsFree
        · cases v with
          | text s =>
              cases hshown
              simpa [Value.IsSeparator, Value.isTruthy] using htruthy
          | object typeName s =>
              cases hshown
              rfl
          | path p =>
              cases hshown
              rfl
          | _ => cases hfree
        · have hseparator : v.IsSeparator := by
            cases v with
            | object typeName s => exact absurd trivial hfree
            | path p => exact absurd trivial hfree
            | _ => trivial
          simp [hseparator, (Value.hasOther_display hfree hshown).ne_empty]
  · rename_i htruthy
    cases h
    have hseparator : v.IsSeparator := by
      cases v with
      | object typeName s => exact absurd rfl htruthy
      | path p => exact absurd rfl htruthy
      | _ => trivial
    simp [hseparator]

theorem lineSeparator_normalize (s : Settings) : s.normalize.lineSeparator = s.lineSeparator := by
  unfold normalize
  split <;> rfl

/-- Settings that were read put at least one row into a statement, and end lines with the text of
their property, or as usual if there is none. -/
theorem ofProperties_inv {p : Properties} {s : Settings} {remark? : Option LogRecord}
    (h : ofProperties p = .ok (s, remark?)) :
    1 ≤ s.rowsInStatement ∧
      ∃ text?, readText? (p.lookup "line_separator") = .ok text? ∧
        s.lineSeparator = text?.getD "\n" := by
  obtain ⟨_, -, h⟩ := Step.ok_of_bind_except h
  obtain ⟨_, -, h⟩ := Step.ok_of_bind_except h
  obtain ⟨⟨_, _⟩, -, h⟩ := Step.ok_of_bind_except h
  obtain ⟨_, -, h⟩ := Step.ok_of_bind_except h
  obtain ⟨_, -, h⟩ := Step.ok_of_bind_except h
  obtain ⟨_, -, h⟩ := Step.ok_of_bind_except h
  obtain ⟨_, -, h⟩ := Step.ok_of_bind_except h
  obtain ⟨_, -, h⟩ := Step.ok_of_bind_except h
  obtain ⟨_, -, h⟩ := Step.ok_of_bind_except h
  obtain ⟨_, -, h⟩ := Step.ok_of_bind_except h
  obtain ⟨_, -, h⟩ := Step.ok_of_bind_except h
  obtain ⟨text?, htext, h⟩ := Step.ok_of_bind_except h
  cases h
  exact ⟨one_le_rows_normalize _, text?, htext, lineSeparator_normalize _⟩

end Settings

/-! ### What command lines lay over settings -/

namespace Choice

theorem isShown_value (c : Choice) : c.value.IsShown := by
  cases c <;> trivial

theorem namesVariant_value (c : Choice) : c.value.NamesVariant := by
  cases c with
  | unset => rfl
  | blank => rfl
  | text s => trivial

end Choice

namespace Overlay

/-- Do the values of the overlay come from choices? -/
structure IsChosen (o : Overlay) : Prop where
  rows : ∃ c : Choice, o.rows = c.value
  variant : ∃ c : Choice, o.variant = c.value
  keywordCase : ∃ c : Choice, o.keywordCase = c.value
  identifierCase : ∃ c : Choice, o.identifierCase = c.value

theorem isOk_readSet {α : Type} {read : Value → Except Failure α} {value : Value} (default : α)
    (h : (read value).isOk = true) : ∃ a, readSet read value default = .ok a := by
  unfold readSet
  split
  · cases hread : read value with
    | ok a => exact ⟨a, rfl⟩
    | error failure =>
        rw [hread] at h
        cases h
  · exact ⟨default, rfl⟩

theorem exists_readRows {o : Overlay} (h : o.IsChosen) (s : Settings) :
    ∃ rows, o.readRows s = .ok rows := by
  obtain ⟨c, hc⟩ := h.rows
  have hread := (Settings.isOk_readRows_iff c.value).2 c.isShown_value
  unfold readRows
  rw [hc]
  split
  · exact ⟨_, rfl⟩
  · cases hrows : Settings.readRows c.value with
    | ok rows => exact ⟨rows, rfl⟩
    | error failure =>
        rw [hrows] at hread
        cases hread

/-- An overlay of choices can be laid over all settings, and the lines end as before. -/
theorem exists_apply {o : Overlay} (h : o.IsChosen) (s : Settings) :
    ∃ s' remark?, o.apply s = .ok (s', remark?) ∧
    1 ≤ s'.rowsInStatement ∧ s'.lineSeparator = s.lineSeparator := by
  obtain ⟨variant, hvariant⟩ := h.variant
  obtain ⟨keywords, hkeywords⟩ := h.keywordCase
  obtain ⟨names, hnames⟩ := h.identifierCase
  obtain ⟨⟨rows, remark?⟩, hrows⟩ := exists_readRows h s
  obtain ⟨a, ha⟩ :=
    isOk_readSet s.variant ((Settings.isOk_readVariant_iff _).2 variant.namesVariant_value)
  obtain ⟨b, hb⟩ :=
    isOk_readSet s.keywordCase ((Settings.isOk_readKeywordCase_iff _).2 keywords.isShown_value)
  obtain ⟨c, hc⟩ :=
    isOk_readSet s.identifierCase ((Settings.isOk_readIdentifierCase_iff _).2 names.isShown_value)
  rw [apply, hrows, hvariant, hkeywords, hnames]
  simp only [bind, Except.bind, ha, hb, hc]
  exact ⟨_, _, rfl, Settings.one_le_rows_normalize _, Settings.lineSeparator_normalize _⟩

end Overlay

namespace Arguments

variable {a a' : Arguments}

/-- An option that takes a value sets it to something that could be chosen. -/
theorem isChosen_setValue {flag : Flag} {choice : Choice} (h : a.overlay.IsChosen)
    (hset : a.setValue flag choice = .ok a') : a'.overlay.IsChosen := by
  unfold setValue at hset
  obtain ⟨_, -, hset⟩ := Step.ok_of_bind_except hset
  obtain ⟨_, -, hset⟩ := Step.ok_of_bind_except hset
  cases flag with
  | rows =>
      cases hset
      exact ⟨⟨choice, rfl⟩, h.variant, h.keywordCase, h.identifierCase⟩
  | variant =>
      cases hset
      exact ⟨h.rows, ⟨choice, rfl⟩, h.keywordCase, h.identifierCase⟩
  | keywordCase =>
      cases hset
      exact ⟨h.rows, h.variant, ⟨choice, rfl⟩, h.identifierCase⟩
  | identifierCase =>
      cases hset
      exact ⟨h.rows, h.variant, h.keywordCase, ⟨choice, rfl⟩⟩
  | port =>
      obtain ⟨_, -, hset⟩ := Step.ok_of_bind_except hset
      cases hset
      exact h
  | _ =>
      cases hset
      exact ⟨h.rows, h.variant, h.keywordCase, h.identifierCase⟩

theorem isChosen_setSwitch (h : a.overlay.IsChosen) (flag : Flag) :
    (a.setSwitch flag).overlay.IsChosen := by
  cases flag <;> exact ⟨h.rows, h.variant, h.keywordCase, h.identifierCase⟩

theorem readLetters_ne_arguments (valueFollows : Bool) (letters : List Char) (a : Arguments) :
    readLetters valueFollows letters ≠ .arguments a := by
  fun_induction readLetters valueFollows letters with
  | case2 rest hrest ih => exact ih
  | _ => nofun

theorem readAttached_ne_arguments (flag : Flag) (spelledShort valueFollows : Bool)
    (attached : String) (a : Arguments) :
    readAttached flag spelledShort valueFollows attached ≠ .arguments a := by
  unfold readAttached
  split
  · exact readLetters_ne_arguments valueFollows attached.toList a
  · nofun

theorem isChosen_takeSwitch {p p' : Progress} {flag : Flag} (h : p.arguments.overlay.IsChosen)
    (htake : takeSwitch p flag = .inl p') : p'.arguments.overlay.IsChosen := by
  unfold takeSwitch at htake
  split at htake
  · cases htake
  · cases htake
  · obtain rfl := Sum.inl.inj htake
    exact isChosen_setSwitch h flag

theorem takeSwitch_ne_arguments {p : Progress} {flag : Flag} {reading : Reading}
    (htake : takeSwitch p flag = .inr reading) (a : Arguments) : reading ≠ .arguments a := by
  unfold takeSwitch at htake
  split at htake
  · cases htake
    nofun
  · cases htake
    nofun
  · cases htake

theorem fault_ne_arguments (fault : UsageFault) (a : Arguments) :
    Reading.fault fault ≠ .arguments a :=
  nofun

/-- Words that are read leave an overlay of choices. What ends the reading before is no
arguments. -/
theorem isChosen_readWords {p : Progress} (words : List (String × Word))
    (h : p.arguments.overlay.IsChosen) :
    match readWords p words with
    | .inl p' => p'.arguments.overlay.IsChosen
    | .inr reading => ∀ a, reading ≠ .arguments a := by
  fun_induction readWords p words with
  | case1 p => exact h
  | case2 p word flag htakes attached rest fault hset => exact fault_ne_arguments _
  | case3 p word flag htakes attached rest a hset ih =>
      have hchosen : a.overlay.IsChosen := isChosen_setValue h hset
      exact ih hchosen
  | case4 p word flag htakes value rest fault hset => exact fault_ne_arguments _
  | case5 p word flag htakes value rest a hset ih =>
      have hchosen : a.overlay.IsChosen := isChosen_setValue h hset
      exact ih hchosen
  | case6 p word flag rest htakes hplain => exact fault_ne_arguments _
  | case7 p word flag rest htakes attached => exact readAttached_ne_arguments flag _ _ attached
  | case8 p word flag rest htakes p' htake ih => exact ih (isChosen_takeSwitch h htake)
  | case9 p word flag rest htakes reading htake => exact takeSwitch_ne_arguments htake
  | case10 p word other rest hother ih => exact ih h

/-- What a command line lays over the settings is chosen in it. -/
theorem isChosen_read {words : List String} (h : read words = .arguments a) :
    a.overlay.IsChosen := by
  unfold read at h
  split at h
  · cases h
  · rename_i classified _
    have hwords :=
      isChosen_readWords (p := {}) classified ⟨⟨.unset, rfl⟩, ⟨.unset, rfl⟩,
        ⟨.unset, rfl⟩, ⟨.unset, rfl⟩⟩
    split at h
    · rename_i reading hreading
      rw [hreading] at hwords
      exact absurd h (hwords a)
    · rename_i p' hprogress
      rw [hprogress] at hwords
      split at h
      · cases h
      · split at h
        · cases h
          exact hwords
        · cases h

end Arguments

/-! ### From properties to exports -/

namespace Settings

/-- The settings that command lines make of others, one line after another. -/
def overlaid (s : Settings) : List Arguments → Except Failure Settings
  | [] => .ok s
  | a :: rest => do
      let (next, _) ← a.overlay.apply s
      next.overlaid rest

/-- Command lines that were read can be laid over usable settings one after the other, and leave
usable ones. -/
theorem exists_overlaid {lines : List Arguments}
    (h : ∀ a ∈ lines, ∃ words, Arguments.read words = .arguments a)
    {s : Settings} (hs : s.IsUsable) : ∃ final, s.overlaid lines = .ok final ∧ final.IsUsable := by
  induction lines generalizing s with
  | nil => exact ⟨s, rfl, hs⟩
  | cons a rest ih =>
      obtain ⟨words, hwords⟩ := h a List.mem_cons_self
      obtain ⟨next, remark?, happly, hrows, hseparator⟩ :=
        Overlay.exists_apply (Arguments.isChosen_read hwords) s
      have hnext : next.IsUsable := ⟨hrows, hseparator ▸ hs.separator⟩
      obtain ⟨final, hfinal, husable⟩ := ih (fun b hb => h b (List.mem_cons_of_mem a hb)) hnext
      refine ⟨final, ?_, husable⟩
      rw [overlaid, happly]
      exact hfinal

/-- An exporter counts rows as the settings say, or one by one. -/
theorem IsUsable.rowsInStatement_pos {s : Settings} (h : s.IsUsable) (dialect? : Option Dialect)
    (files : FileSystem) : 0 < (Exporter.make dialect? s files).rowsInStatement := by
  unfold Exporter.make
  dsimp only
  split
  · exact Nat.one_pos
  · exact h.rows

end Settings

namespace Properties

/-- Do the properties make settings that can be used, also after command lines have been laid over
them? An exporter with such settings counts rows modulo a positive number. -/
def IsAccepted (p : Properties) : Prop :=
  ∃ s remark?, Settings.ofProperties p = .ok (s, remark?) ∧
    ∀ lines : List Arguments, (∀ a ∈ lines, ∃ words, Arguments.read words = .arguments a) →
      ∃ final, s.overlaid lines = .ok final ∧ final.IsUsable ∧
        ∀ dialect? files, 0 < (Exporter.make dialect? final files).rowsInStatement

/-- Properties are accepted exactly if all of them can be shown, a variant is not named by anything
but a text, and the line separator is shown as something. -/
theorem isAccepted_iff (p : Properties) :
    p.IsAccepted ↔ p.IsReadable ∧ (p.lookup "line_separator").IsSeparator := by
  rw [← isOk_ofProperties_iff]
  constructor
  · rintro ⟨s, remark?, hread, haccepted⟩
    obtain ⟨-, text?, htext, hseparator⟩ := Settings.ofProperties_inv hread
    obtain ⟨final, hfinal, husable, -⟩ := haccepted [] (List.forall_mem_nil _)
    cases hfinal
    have hok : (Settings.ofProperties p).isOk = true := by
      rw [hread]
      rfl
    refine ⟨hok, ?_⟩
    rw [← Settings.readText?_isSeparator htext, ← hseparator]
    exact husable.separator
  · rintro ⟨hok, hseparator⟩
    cases hread : Settings.ofProperties p with
    | error failure =>
        rw [hread] at hok
        cases hok
    | ok read =>
        obtain ⟨s, remark?⟩ := read
        obtain ⟨hrows, text?, htext, hline⟩ := Settings.ofProperties_inv hread
        have husable : s.IsUsable := by
          refine ⟨hrows, ?_⟩
          rw [hline]
          exact (Settings.readText?_isSeparator htext).2 hseparator
        refine ⟨s, remark?, hread, fun lines hlines => ?_⟩
        obtain ⟨final, hfinal, hstill⟩ := Settings.exists_overlaid hlines husable
        exact ⟨final, hfinal, hstill, hstill.rowsInStatement_pos⟩

/-- A number in place of the name of a variant. -/
theorem not_isAccepted_number : ¬IsAccepted [("insert_variant", .int 5)] := by
  rintro ⟨s, remark?, hread, -⟩
  have hrefused : Settings.ofProperties [("insert_variant", .int 5)] =
      .error (.notText "int" "strip") := by
    rfl
  cases hrefused.symm.trans hread

end Properties

end InsertScript
