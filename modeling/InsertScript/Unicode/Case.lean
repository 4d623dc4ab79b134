import InsertScript.Unicode.CaseTable

/-!
# Upper and lower case

Full case mapping: a character may become several (`ß` is `SS` in upper case), and the lower case of
a capital sigma depends on where it stands: at the end of a word it is the final form.

* `upper` maps character by character, so it distributes over concatenation (`upper_append`).
* `singleUpper` is the simple mapping, for those who change a text in its place.
* `lower` carries the characters before the current one, newest first, because of the sigma.
* On ASCII text both are the mappings of the core library, character by character.
-/

namespace InsertScript.Unicode

/-- The character that the rows move a character to, which is itself if no row covers it. -/
def moved (rows : List CaseRow) (c : Char) : Char :=
  match rows.find? (·.covers c.toNat) with
  | some row => Char.ofNat (c.toNat + row.shift).toNat
  | none => c

/-- What the rows and the list of longer mappings say about a code point. -/
def mapCase (rows : List CaseRow) (long : List (Nat × List Nat)) (c : Char) : List Char :=
  match long.find? (·.1 == c.toNat) with
  | some entry => entry.2.map Char.ofNat
  | none => [moved rows c]

/-- The upper case of one character. -/
def upperChar (c : Char) : List Char :=
  if c.val < 128 then [c.toUpper] else mapCase upperRows longUpper c

/-- The lower case of one character other than a capital sigma. -/
def lowerChar (c : Char) : List Char :=
  if c.val < 128 then [c.toLower] else mapCase lowerRows longLower c

/-- The upper case of one character where only one can stand for it. -/
def singleUpper (c : Char) : Char :=
  if c.val < 128 then c.toUpper else moved (upperRows ++ titleRows) c

def upper (text : List Char) : List Char := text.flatMap upperChar

@[simp] theorem upper_nil : upper [] = [] := rfl

@[simp] theorem upper_cons (c : Char) (text : List Char) :
    upper (c :: text) = upperChar c ++ upper text := rfl

@[simp] theorem upper_append (a b : List Char) : upper (a ++ b) = upper a ++ upper b :=
  List.flatMap_append

/-! ### Final sigma -/

/-- Is the character passed over when a sigma looks for its neighbours? -/
def isCaseIgnorable (c : Char) : Bool := caseIgnorableTable.covers c.toNat

/-- Has the character case, without being passed over? -/
def isCased (c : Char) : Bool := casedTable.covers c.toNat

/-- Is the nearest character that is not passed over a cased one? -/
def meetsCased (text : List Char) : Bool :=
  match text.find? (fun c => !isCaseIgnorable c) with
  | some c => isCased c
  | none => false

/-- The lower case of a capital sigma: final if a cased character stands before it and none
after. -/
def lowerSigma (before after : List Char) : Char :=
  if meetsCased before && !meetsCased after then 'ς' else 'σ'

/-- Lower case of `text`, the text before it being `before`, last character first. -/
def lowerAfter (before : List Char) : List Char → List Char → List Char
  | [], done => done.reverse
  | c :: text, done =>
      if c = 'Σ' then lowerAfter (c :: before) text (lowerSigma before text :: done)
      else lowerAfter (c :: before) text ((lowerChar c).reverse ++ done)

def lower (text : List Char) : List Char := lowerAfter [] text []

/-- What is already written stays in front. -/
theorem lowerAfter_eq (before text done : List Char) :
    lowerAfter before text done = done.reverse ++ lowerAfter before text [] := by
  induction text generalizing before done with
  | nil => simp [lowerAfter]
  | cons c text ih =>
    by_cases h : c = 'Σ'
    · simp only [lowerAfter, h, if_true]
      rw [ih _ (_ :: done), ih _ [_]]
      simp
    · simp only [lowerAfter, h, if_false]
      rw [ih _ (_ ++ done), ih _ (_ ++ [])]
      simp

@[simp] theorem lower_nil : lower [] = [] := rfl

/-! ### Characters that are no letters -/

theorem isAlpha_iff {c : Char} :
    c.isAlpha = true ↔ 65 ≤ c.toNat ∧ c.toNat ≤ 90 ∨ 97 ≤ c.toNat ∧ c.toNat ≤ 122 := by
  have hupper : c.isUpper = true ↔ 65 ≤ c.toNat ∧ c.toNat ≤ 90 := decide_eq_true_iff
  have hlower : c.isLower = true ↔ 97 ≤ c.toNat ∧ c.toNat ≤ 122 :=
    Bool.and_eq_true_iff.trans (and_congr decide_eq_true_iff decide_eq_true_iff)
  exact Bool.or_eq_true_iff.trans (or_congr hupper hlower)

/-- What is no letter is the upper case of nothing but itself. -/
theorem toUpper_eq_iff {c x : Char} (hx : x.isAlpha = false) : c.toUpper = x ↔ c = x := by
  have hletter : ¬(65 ≤ x.toNat ∧ x.toNat ≤ 90 ∨ 97 ≤ x.toNat ∧ x.toNat ≤ 122) := by
    rw [← isAlpha_iff, hx]
    exact Bool.false_ne_true
  unfold Char.toUpper
  split
  · rename_i hlower
    have hfirst : 97 ≤ c.toNat := UInt32.le_iff_toNat_le.1 hlower.1
    have hlast : c.toNat ≤ 122 := UInt32.le_iff_toNat_le.1 hlower.2
    constructor
    · intro h
      have hcode : (c.toNat + 4294967264) % 4294967296 = x.toNat := by
        simpa using congrArg Char.toNat h
      omega
    · rintro rfl
      omega
  · exact Iff.rfl

/-- What is no letter is the lower case of nothing but itself. -/
theorem toLower_eq_iff {c x : Char} (hx : x.isAlpha = false) : c.toLower = x ↔ c = x := by
  have hletter : ¬(65 ≤ x.toNat ∧ x.toNat ≤ 90 ∨ 97 ≤ x.toNat ∧ x.toNat ≤ 122) := by
    rw [← isAlpha_iff, hx]
    exact Bool.false_ne_true
  unfold Char.toLower
  split
  · rename_i hupper
    have hfirst : 65 ≤ c.toNat := UInt32.le_iff_toNat_le.1 hupper.1
    have hlast : c.toNat ≤ 90 := UInt32.le_iff_toNat_le.1 hupper.2
    constructor
    · intro h
      have hcode : (c.toNat + 32) % 4294967296 = x.toNat := by
        simpa using congrArg Char.toNat h
      omega
    · rintro rfl
      omega
  · exact Iff.rfl

/-- A number that is no code point stands for the NUL character. -/
theorem toNat_ofNat_cases (n : Nat) : (Char.ofNat n).toNat = n ∨ (Char.ofNat n).toNat = 0 := by
  by_cases h : n.isValidChar
  · have hchar : Char.ofNat n = Char.ofNatAux n h := dif_pos h
    exact .inl (congrArg Char.toNat hchar)
  · have hchar : Char.ofNat n = '\x00' := dif_neg h
    exact .inr (congrArg Char.toNat hchar)

/-- Does a row lead to characters outside of ASCII, or to one of its letters? -/
def CaseRow.LeadsAway (row : CaseRow) : Prop :=
  128 ≤ row.first + row.shift ∨
    row.first = row.last ∧ (Char.ofNat (row.first + row.shift).toNat).isAlpha = true

instance (row : CaseRow) : Decidable row.LeadsAway := inferInstanceAs (Decidable (_ ∨ _))

theorem leadsAway_of_mem : ∀ row ∈ upperRows ++ titleRows, row.LeadsAway := by decide +kernel

theorem moved_ne {rows : List CaseRow} (h : ∀ row ∈ rows, row.LeadsAway) {c x : Char}
    (hc : 128 ≤ c.toNat) (hx : x.isAlpha = false) (hpos : 0 < x.toNat) (hascii : x.toNat < 128) :
    moved rows c ≠ x := by
  unfold moved
  split
  · rename_i row hrow
    have hcovers : row.covers c.toNat = true := by simpa using List.find?_some hrow
    simp only [CaseRow.covers, Bool.and_eq_true, decide_eq_true_eq] at hcovers
    rintro rfl
    rcases h row (List.mem_of_find?_eq_some hrow) with hfar | ⟨hsingle, hletter⟩
    · rcases toNat_ofNat_cases (c.toNat + row.shift).toNat with hcode | hcode
      · omega
      · omega
    · have hcode : c.toNat = row.first := by omega
      rw [hcode, hletter] at hx
      cases hx
  · rintro rfl
    omega

/-- An ASCII character that is no letter is the upper case of nothing but itself, in all scripts. -/
theorem singleUpper_eq_iff {c x : Char} (hx : x.isAlpha = false) (hpos : 0 < x.toNat)
    (hascii : x.toNat < 128) : singleUpper c = x ↔ c = x := by
  unfold singleUpper
  split
  · exact toUpper_eq_iff hx
  · rename_i hc
    have hc : 128 ≤ c.toNat := UInt32.le_iff_toNat_le.1 (UInt32.not_lt.1 hc)
    refine iff_of_false (moved_ne leadsAway_of_mem hc hx hpos hascii) ?_
    rintro rfl
    omega

/-! ### Texts -/

def upperText (s : String) : String := String.ofList (upper s.toList)

def lowerText (s : String) : String := String.ofList (lower s.toList)

@[simp] theorem toList_upperText (s : String) : (upperText s).toList = upper s.toList := by
  simp [upperText]

@[simp] theorem toList_lowerText (s : String) : (lowerText s).toList = lower s.toList := by
  simp [lowerText]

@[simp] theorem upperText_append (s t : String) :
    upperText (s ++ t) = upperText s ++ upperText t := by
  simp [upperText]

end InsertScript.Unicode
