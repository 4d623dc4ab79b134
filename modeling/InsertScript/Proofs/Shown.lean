import InsertScript.Proofs.Literals

/-!
# The plain texts of values

Which values have a plain text, and what can be said of it whatever the value is. A value is shown
unless there is an integer of too many digits in it (`Value.isOk_display_iff`), and only texts,
paths and foreign objects may be shown as nothing at all (`Value.hasOther_display`).
-/

namespace InsertScript

open Dialect (textQuote)
open Lexer (IsNumeral)
open Step (isOk_bind_iff isOk_bind_pure)

namespace Value

/-! ### Values with a text -/

mutual

/-- Can the value be shown? No integer in it has too many digits. -/
def IsShown : Value → Prop
  | .int n => Numeral.writable n = true
  | .list items => AllShown items
  | .tuple items => AllShown items
  | .dict entries => EntriesShown entries
  | _ => True

/-- Can all the values be shown? -/
def AllShown : List Value → Prop
  | [] => True
  | item :: items => IsShown item ∧ AllShown items

/-- Can all the keys and their values be shown? -/
def EntriesShown : List (Value × Value) → Prop
  | [] => True
  | (key, value) :: entries => IsShown key ∧ IsShown value ∧ EntriesShown entries

end

theorem isOk_integerText_iff (n : Int) :
    (integerText n).isOk = true ↔ Numeral.writable n = true := by
  rw [integerText, Numeral.writeInteger]
  cases Numeral.writable n <;> simp [Except.mapError]

mutual

theorem isOk_quoted_iff : ∀ v : Value, v.quoted.isOk = true ↔ v.IsShown
  | .int n => isOk_integerText_iff n
  | .list items => by
      rw [quoted, isOk_bind_pure, IsShown]
      exact isOk_quotedItems_iff items
  | .tuple items => by
      rw [quoted, isOk_bind_pure, IsShown]
      exact isOk_quotedItems_iff items
  | .dict entries => by
      rw [quoted, isOk_bind_pure, IsShown]
      exact isOk_quotedEntries_iff entries
  | .null | .bool _ | .float _ | .decimal _ | .text _ | .moment _ | .date _ | .clock ..
  | .duration _ | .uuid _ | .bytes _ | .buffer _ | .view _ | .object .. | .path _
  | .content _ => by simp [quoted, IsShown]

theorem isOk_quotedItems_iff : ∀ items : List Value,
    (quotedItems items).isOk = true ↔ AllShown items
  | [] => by simp [quotedItems, AllShown]
  | item :: items => by
      rw [quotedItems, AllShown]
      refine isOk_bind_iff (isOk_quoted_iff item) fun shown => ?_
      rw [isOk_bind_pure]
      exact isOk_quotedItems_iff items

theorem isOk_quotedEntries_iff : ∀ entries : List (Value × Value),
    (quotedEntries entries).isOk = true ↔ EntriesShown entries
  | [] => by simp [quotedEntries, EntriesShown]
  | (key, value) :: entries => by
      rw [quotedEntries, EntriesShown]
      refine isOk_bind_iff (isOk_quoted_iff key) fun shownKey =>
        isOk_bind_iff (isOk_quoted_iff value) fun shown => ?_
      rw [isOk_bind_pure]
      exact isOk_quotedEntries_iff entries

end

/-- The plain text fails where the quoted one does. -/
theorem isOk_display_iff (v : Value) : v.display.isOk = true ↔ v.IsShown := by
  rw [← isOk_quoted_iff]
  cases v <;> simp [display, quoted]

end Value

/-! ### What is never shown as nothing -/

/-- Has the text a character that is no mark around texts? -/
def HasOther (t : String) : Prop := ∃ c ∈ t.toList, c ≠ textQuote

namespace HasOther

variable {t s : String}

theorem append_left (h : HasOther s) (t : String) : HasOther (s ++ t) := by
  obtain ⟨c, hc, hne⟩ := h
  refine ⟨c, ?_, hne⟩
  rw [String.toList_append]
  exact List.mem_append_left _ hc

theorem append_right (h : HasOther t) (s : String) : HasOther (s ++ t) := by
  obtain ⟨c, hc, hne⟩ := h
  refine ⟨c, ?_, hne⟩
  rw [String.toList_append]
  exact List.mem_append_right _ hc

theorem ne_empty (h : HasOther t) : t ≠ "" := by
  rintro rfl
  obtain ⟨c, hc, -⟩ := h
  cases hc

theorem of_isMagnitude {chars : List Char} (h : Lexer.IsMagnitude chars)
    (hchars : chars <:+ t.toList) : HasOther t := by
  cases h with
  | pieces whole places power hne hwhole hplaces hpower =>
      obtain ⟨c, more, rfl⟩ := List.exists_cons_of_ne_nil hne
      refine ⟨c, hchars.subset (by simp), ?_⟩
      rintro rfl
      exact absurd (hwhole textQuote List.mem_cons_self) (by decide)

theorem of_isNumeral (h : IsNumeral t.toList) : HasOther t := by
  obtain ⟨negative, magnitude, htext, hmagnitude⟩ := h
  refine of_isMagnitude hmagnitude ?_
  rw [htext]
  exact List.suffix_append _ _

/-- A text that is made of the answer of a step that may fail. -/
theorem of_bind_pure {α : Type} {step : Except Failure α} {text : α → String}
    (h : (step >>= fun a => pure (text a)) = .ok t) (htext : ∀ a, HasOther (text a)) :
    HasOther t := by
  cases step with
  | error failure => cases h
  | ok a =>
      cases h
      exact htext a

end HasOther

theorem Binary64.hasOther_text (x : Binary64) : HasOther x.text := by
  unfold Binary64.text Binary64.textWith
  split
  · exact ⟨'n', by decide, by decide⟩
  · dsimp only
    split
    · exact HasOther.append_right ⟨'i', by decide, by decide⟩ _
    · split
      · exact HasOther.append_right ⟨'0', by decide, by decide⟩ _
      · refine HasOther.append_right (.of_isMagnitude
          (isMagnitude_write x.shortest.1 x.shortest.2) ?_) _
        simp [String.toList_ofList]

theorem Decimal.hasOther_text (d : Decimal) : HasOther d.text := by
  cases d with
  | finite negative digits exponent => exact .of_isNumeral (Decimal.isNumeral_text rfl)
  | infinite negative => exact ⟨'I', by simp [text, toChars], by decide⟩
  | notANumber negative signaling payload => exact ⟨'N', by simp [text, toChars], by decide⟩

namespace Value

/-- Is the value's text whatever it is given? -/
def IsFree : Value → Prop
  | .text _ | .object .. | .path _ => True
  | _ => False

/-- No other value is shown as nothing, or as marks alone. -/
theorem hasOther_display {v : Value} {t : String} (hfree : ¬v.IsFree) (h : v.display = .ok t) :
    HasOther t := by
  cases v with
  | text s => exact absurd trivial hfree
  | object typeName s => exact absurd trivial hfree
  | path p => exact absurd trivial hfree
  | null =>
      obtain rfl := Except.ok.inj h
      exact ⟨'N', by decide, by decide⟩
  | bool b =>
      obtain rfl := Except.ok.inj h
      cases b with
      | true => exact ⟨'T', by decide, by decide⟩
      | false => exact ⟨'F', by decide, by decide⟩
  | int n =>
      simp only [display, quoted] at h
      cases integerText_eq h
      exact .of_isNumeral (Numeral.isNumeral_toString n)
  | float x =>
      obtain rfl := Except.ok.inj h
      exact x.hasOther_text
  | decimal d =>
      obtain rfl := Except.ok.inj h
      exact d.hasOther_text
  | moment m =>
      obtain rfl := Except.ok.inj h
      exact ⟨' ', by simp [Moment.iso], by decide⟩
  | date d =>
      obtain rfl := Except.ok.inj h
      exact ⟨'-', by simp [Date.iso], by decide⟩
  | clock time offset =>
      obtain rfl := Except.ok.inj h
      exact ⟨':', by simp [Clock.iso, Clock.isoSeconds], by decide⟩
  | duration d =>
      obtain rfl := Except.ok.inj h
      exact ⟨':', by simp [Duration.text], by decide⟩
  | uuid u =>
      obtain rfl := Except.ok.inj h
      exact ⟨'-', by simp [Uuid.text, Uuid.cutGroups, Uuid.groupLengths, List.intercalate],
        by decide⟩
  | bytes data =>
      obtain rfl := Except.ok.inj h
      exact ⟨'b', by simp [Quoted.ofBytes], by decide⟩
  | buffer data =>
      obtain rfl := Except.ok.inj h
      exact ((HasOther.append_left ⟨'(', by decide, by decide⟩ _).append_left _)
  | view data =>
      obtain rfl := Except.ok.inj h
      exact ⟨'m', by decide, by decide⟩
  | list items =>
      simp only [display, quoted] at h
      exact .of_bind_pure h fun _ =>
        (HasOther.append_left ⟨'[', by decide, by decide⟩ _).append_left _
  | tuple items =>
      simp only [display, quoted] at h
      exact .of_bind_pure h fun _ =>
        (HasOther.append_left ⟨'(', by decide, by decide⟩ _).append_left _
  | dict entries =>
      simp only [display, quoted] at h
      exact .of_bind_pure h fun _ =>
        (HasOther.append_left ⟨'\x7b', by decide, by decide⟩ _).append_left _
  | content c =>
      obtain rfl := Except.ok.inj h
      refine HasOther.append_right ?_ _
      split
      · exact ⟨'r', by decide, by decide⟩
      · exact ⟨'o', by decide, by decide⟩

end Value

end InsertScript
