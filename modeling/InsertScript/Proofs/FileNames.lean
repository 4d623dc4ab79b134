import InsertScript.Proofs.Literals
import InsertScript.Proofs.OutputFiles
import InsertScript.Proofs.Paths
import Mathlib.Data.List.DropRight

/-!
# Names of output files

The name of a file that nobody named is a base, the time and an ending. The base is what is left of
the name of the table (`OutputFile.IsBaseOf`): one low line stands for every run of characters that
a file name cannot have, and the ends are cut off up to the first and the last character that is
more than a low line. It makes no difference whether the ends are cut off before or after the runs
are replaced (`trimBy_replaceUnsafe`).

No character of such a name is a slash, so for every table the path of the file leads into its
directory, and an export to that path changes no other file (`Program.savedFile_isChild`).
-/

namespace InsertScript

namespace OutputFile

variable {gap : Bool} {text base : List Char}

/-! ### Runs of other characters -/

/-- Is the second text the first one with a low line for every run of characters that a file name
cannot have? -/
inductive Condenses : List Char → List Char → Prop where
  | nil : Condenses [] []
  | safe (c : Char) (text base : List Char) (hc : isSafe c = true) (hrest : Condenses text base) :
      Condenses (c :: text) (c :: base)
  | run (run text base : List Char) (hne : run ≠ []) (hrun : ∀ c ∈ run, isSafe c = false)
      (hends : ∀ c ∈ text.head?, isSafe c = true) (hrest : Condenses text base) :
      Condenses (run ++ text) ('_' :: base)

/-- After a low line the rest of the run is passed over. -/
theorem replaceUnsafe_true (text : List Char) :
    replaceUnsafe true text = replaceUnsafe false (text.dropWhile fun c => !isSafe c) := by
  induction text with
  | nil => rfl
  | cons c text ih =>
      cases hc : isSafe c with
      | true => simp [replaceUnsafe, hc]
      | false => simp [replaceUnsafe, hc, ih]

/-- One low line is written for every run. -/
theorem condenses_replaceUnsafe (text : List Char) : Condenses text (replaceUnsafe false text) := by
  -- A run is passed over as a whole, so what is left is not the rest of the list but a shorter
  -- text.
  induction hlength : text.length using Nat.strong_induction_on generalizing text with
  | _ length ih =>
      subst hlength
      cases text with
      | nil => exact .nil
      | cons c text =>
          cases hc : isSafe c with
          | true =>
              have hstep : replaceUnsafe false (c :: text) = c :: replaceUnsafe false text := by
                simp [replaceUnsafe, hc]
              rw [hstep]
              exact .safe c text _ hc (ih text.length (Nat.lt_succ_self _) text rfl)
          | false =>
              have hstep : replaceUnsafe false (c :: text)
                  = '_' :: replaceUnsafe false (text.dropWhile fun c => !isSafe c) := by
                simp [replaceUnsafe, hc, replaceUnsafe_true]
              have hsplit : c :: text =
                  (c :: text.takeWhile fun c => !isSafe c) ++ text.dropWhile fun c =>
                    !isSafe c := by
                rw [List.cons_append, List.takeWhile_append_dropWhile]
              have hless : (text.dropWhile fun c => !isSafe c).length < (c :: text).length :=
                Nat.lt_succ_of_le (List.length_dropWhile_le _ text)
              rw [hstep, hsplit]
              refine .run _ _ _ (List.cons_ne_nil _ _) ?_ ?_ (ih _ hless _ rfl)
              · intro d hd
                rcases List.mem_cons.1 hd with rfl | hd
                · exact hc
                · simpa using List.mem_takeWhile_imp hd
              · intro d hd
                have hfirst := List.head?_dropWhile_not (fun c => !isSafe c) text
                rw [Option.mem_def.1 hd] at hfirst
                simpa using hfirst

/-- Only characters that a file name can have are left. -/
theorem isSafe_of_mem_replaceUnsafe {c : Char} (h : c ∈ replaceUnsafe gap text) :
    isSafe c = true := by
  induction text generalizing gap with
  | nil => cases h
  | cons d text ih =>
      rw [replaceUnsafe] at h
      split at h
      · rename_i hd
        rcases List.mem_cons.1 h with rfl | hrest
        · exact hd
        · exact ih hrest
      · split at h
        · exact ih h
        · rcases List.mem_cons.1 h with rfl | hrest
          · decide
          · exact ih hrest

theorem replaceUnsafe_of_isSafe (h : ∀ c ∈ text, isSafe c = true) :
    replaceUnsafe gap text = text := by
  induction text generalizing gap with
  | nil => rfl
  | cons c text ih =>
      rw [replaceUnsafe, if_pos (h c List.mem_cons_self),
        ih fun d hd => h d (List.mem_cons_of_mem c hd)]

/-! ### The ends of a base -/

/-- May the character stand at the ends of a base? -/
def isEnd (c : Char) : Bool := isSafe c && c != '_'

/-- Low lines are cut off in front with what they stand for. -/
theorem dropWhile_replaceUnsafe (gap : Bool) (text : List Char) :
    (replaceUnsafe gap text).dropWhile (· == '_') =
      replaceUnsafe false (text.dropWhile fun c => !isEnd c) := by
  induction text generalizing gap with
  | nil => rfl
  | cons c text ih =>
      cases hc : isSafe c with
      | true =>
          by_cases hline : c = '_'
          · subst hline
            simp [replaceUnsafe, isEnd, hc, ih]
          · simp [replaceUnsafe, isEnd, hc, hline]
      | false =>
          cases gap with
          | true => simp [replaceUnsafe, isEnd, hc, ih]
          | false => simp [replaceUnsafe, isEnd, hc, ih]

/-- A character at the end adds itself, or at most a low line. -/
theorem replaceUnsafe_concat (gap : Bool) (text : List Char) (c : Char) :
    ∃ last, replaceUnsafe gap (text ++ [c]) = replaceUnsafe gap text ++ last ∧
      if isSafe c then last = [c] else last = [] ∨ last = ['_'] := by
  induction text generalizing gap with
  | nil =>
      cases hc : isSafe c with
      | true => simp [replaceUnsafe, hc]
      | false => cases gap <;> simp [replaceUnsafe, hc]
  | cons d text ih =>
      cases hd : isSafe d with
      | true =>
          obtain ⟨last, heq, hlast⟩ := ih false
          exact ⟨last, by simp [replaceUnsafe, hd, heq], hlast⟩
      | false =>
          obtain ⟨last, heq, hlast⟩ := ih true
          cases gap with
          | true => exact ⟨last, by simp [replaceUnsafe, hd, heq], hlast⟩
          | false => exact ⟨last, by simp [replaceUnsafe, hd, heq], hlast⟩

/-- Low lines are cut off behind with what they stand for. -/
theorem rdropWhile_replaceUnsafe (gap : Bool) (text : List Char) :
    (replaceUnsafe gap text).rdropWhile (· == '_') =
      replaceUnsafe gap (text.rdropWhile fun c => !isEnd c) := by
  -- From the end, because there the characters are cut off one by one.
  induction text using List.reverseRecOn with
  | nil => rfl
  | append_singleton text c ih =>
      obtain ⟨last, heq, hlast⟩ := replaceUnsafe_concat gap text c
      rw [List.rdropWhile_concat]
      cases hc : isSafe c with
      | true =>
          obtain rfl : last = [c] := by simpa [hc] using hlast
          by_cases hline : c = '_'
          · subst hline
            simp [isEnd, heq, ih]
          · simp [isEnd, hc, hline, heq]
      | false =>
          obtain rfl | rfl : last = [] ∨ last = ['_'] := by simpa [hc] using hlast
          · simp [isEnd, hc, heq, ih]
          · simp [isEnd, hc, heq, ih]

/-- Ends that are cut off before the runs are replaced are cut off afterwards. -/
theorem trimBy_replaceUnsafe (text : List Char) :
    trimBy (· == '_') (replaceUnsafe false text) =
      replaceUnsafe false (trimBy (fun c => !isEnd c) text) := by
  have htrim (drops : Char → Bool) (text : List Char) :
      trimBy drops text = (text.dropWhile drops).rdropWhile drops := rfl
  rw [htrim, dropWhile_replaceUnsafe, rdropWhile_replaceUnsafe, htrim]

/-! ### Bases -/

/-- Can the text be the base of a file name: at least one character, word characters and hyphens
only, and no low line at either end? -/
structure IsBase (base : List Char) : Prop where
  ne_nil : base ≠ []
  characters : ∀ c ∈ base, Unicode.isWord c = true ∨ c = '-'
  head : base.head? ≠ some '_'
  last : base.getLast? ≠ some '_'

/-- Is the base what is left of a text? A text without a character that may stand at an end has a
base of its own. -/
inductive IsBaseOf (text : List Char) : List Char → Prop where
  | condensed (before core after base : List Char) (htext : text = before ++ core ++ after)
      (hne : core ≠ [])
      (hbefore : ∀ c ∈ before, isEnd c = false) (hafter : ∀ c ∈ after, isEnd c = false)
      (hcondenses : Condenses core base) : IsBaseOf text base
  | other (hnone : ∀ c ∈ text, isEnd c = false) : IsBaseOf text defaultStem.toList

theorem isSafe_iff {c : Char} : isSafe c = true ↔ Unicode.isWord c = true ∨ c = '-' := by
  simp [isSafe]

theorem isBase_defaultStem : IsBase defaultStem.toList where
  ne_nil := by decide
  characters c hc := by
    have hall : defaultStem.toList.all isSafe = true := by decide
    exact isSafe_iff.1 (List.all_eq_true.1 hall c hc)
  head := by decide
  last := by decide

theorem isBase_stem (table : String) : IsBase (stem table) := by
  unfold stem
  dsimp only
  split
  · exact isBase_defaultStem
  · rename_i hkept
    refine ⟨by simpa using hkept, fun c hc => ?_, fun hhead => ?_, fun hlast => ?_⟩
    · exact isSafe_iff.1 (isSafe_of_mem_replaceUnsafe (mem_of_mem_trimBy hc))
    · exact absurd (head?_trimBy '_' hhead) (by decide)
    · exact absurd (getLast?_trimBy '_' hlast) (by decide)

/-- Nothing is left to do exactly for a base. -/
theorem stem_eq_self_iff (table : String) : stem table = table.toList ↔ IsBase table.toList := by
  constructor
  · intro h
    exact h ▸ isBase_stem table
  · intro h
    have hsame : replaceUnsafe false table.toList = table.toList :=
      replaceUnsafe_of_isSafe fun c hc => isSafe_iff.2 (h.characters c hc)
    have htrim : trimBy (· == '_') table.toList = table.toList := by
      refine trimBy_of_ends (fun c hc => ?_) fun c hc => ?_
      · exact beq_eq_false_iff_ne.2 fun heq => h.head (heq ▸ hc)
      · exact beq_eq_false_iff_ne.2 fun heq => h.last (heq ▸ hc)
    simp [stem, hsame, htrim, h.ne_nil]

/-- The stem of a table name is the base that belongs to it. -/
theorem isBaseOf_stem (table : String) : IsBaseOf table.toList (stem table) := by
  obtain ⟨before, after, htable, hbefore, hafter⟩ :=
    exists_append_trimBy (fun c => !isEnd c) table.toList
  have hbefore : ∀ c ∈ before, isEnd c = false := by simpa using hbefore
  have hafter : ∀ c ∈ after, isEnd c = false := by simpa using hafter
  unfold stem
  dsimp only
  rw [trimBy_replaceUnsafe]
  cases hcore : trimBy (fun c => !isEnd c) table.toList with
  | nil =>
      rw [hcore] at htable
      refine .other fun c hc => ?_
      rw [htable, List.append_nil] at hc
      rcases List.mem_append.1 hc with hc | hc
      · exact hbefore c hc
      · exact hafter c hc
  | cons c core =>
      rw [hcore] at htable
      have hsafe : isSafe c = true := by
        have hend := head?_trimBy c (Option.mem_def.2 (congrArg List.head? hcore))
        simp only [isEnd, Bool.not_eq_false', Bool.and_eq_true] at hend
        exact hend.1
      have hsome : (replaceUnsafe false (c :: core)).isEmpty = false := by
        simp [replaceUnsafe, hsafe]
      rw [hsome]
      exact .condensed before _ after _ htable (List.cons_ne_nil c core) hbefore hafter
        (condenses_replaceUnsafe _)

/-! ### Names of files -/

/-- The time in a file name: the year, two digits each for month and day, and behind a low line for
hour, minute and second. -/
def stamp (now : Moment) : List Char :=
  Nat.toDigits 10 now.date.year ++ Numeral.zeroPadded 2 now.date.month ++
    Numeral.zeroPadded 2 now.date.day ++
    '_' :: Numeral.zeroPadded 2 now.clock.hour ++ Numeral.zeroPadded 2 now.clock.minute ++
      Numeral.zeroPadded 2 now.clock.second

theorem fill_timePattern (now : Moment) : Pattern.fill now timePattern = stamp now := by
  have hprepare : Pattern.prepare now timePattern = timePattern := rfl
  have hpieces : Pattern.pieces none timePattern = [.field {} 'Y', .field {} 'm', .field {} 'd',
      .char '_', .field {} 'H', .field {} 'M', .field {} 'S'] := by decide
  have hwidth : (Pattern.pieces none timePattern).any Pattern.Piece.hasWidth = false := by decide
  have htext : (Pattern.pieces none timePattern).flatMap (Pattern.Piece.write now) = stamp now := by
    rw [hpieces]
    simp [Pattern.Piece.write, Pattern.Field.write, Pattern.Field.part?, Pattern.Field.strangers,
      Pattern.part?, Pattern.Field.number, Numeral.zeroPadded_one, stamp]
  rw [Pattern.fill, hprepare, hwidth, htext]
  simp

theorem toList_fileName (table : String) (now : Moment) :
    (fileName table now).toList = stem table ++ '_' :: stamp now ++ ".sql".toList := by
  rw [fileName, String.toList_ofList, fill_timePattern]

example : fileName "public.\"Order Lines\"" { date := ⟨2024, 3, 15⟩, clock := ⟨14, 30, 52, 0⟩ }
    = "public_Order_Lines_20240315_143052.sql" := by decide

theorem isSafe_of_isDigit {c : Char} (h : c.isDigit = true) : isSafe c = true := by
  have hascii : c.val < 128 := by
    simp only [Char.isDigit, Bool.and_eq_true, decide_eq_true_eq] at h
    exact UInt32.lt_of_le_of_lt h.2 (by decide)
  simp [isSafe, Unicode.isWord, hascii, Char.isAlphanum, h]

theorem isSafe_of_mem_stamp {now : Moment} {c : Char} (h : c ∈ stamp now) : isSafe c = true := by
  simp only [stamp, List.append_assoc, List.cons_append, List.mem_append, List.mem_cons] at h
  rcases h with h | h | h | rfl | h | h | h
  · exact isSafe_of_isDigit (Numeral.isDigit_toDigits _ c h)
  · exact isSafe_of_isDigit (Numeral.isDigit_zeroPadded _ _ c h)
  · exact isSafe_of_isDigit (Numeral.isDigit_zeroPadded _ _ c h)
  · decide
  · exact isSafe_of_isDigit (Numeral.isDigit_zeroPadded _ _ c h)
  · exact isSafe_of_isDigit (Numeral.isDigit_zeroPadded _ _ c h)
  · exact isSafe_of_isDigit (Numeral.isDigit_zeroPadded _ _ c h)

/-- Besides the characters of bases there are only dots. -/
theorem isSafe_of_mem_fileName {table : String} {now : Moment} {c : Char}
    (h : c ∈ (fileName table now).toList) : isSafe c = true ∨ c = '.' := by
  rw [toList_fileName, List.append_assoc, List.cons_append, List.mem_append, List.mem_cons,
    List.mem_append] at h
  rcases h with h | rfl | h | h
  · exact .inl (isSafe_iff.2 ((isBase_stem table).characters c h))
  · exact .inl (by decide)
  · exact .inl (isSafe_of_mem_stamp h)
  · have hall : ".sql".toList.all (fun c => isSafe c || c == '.') = true := by decide
    simpa using List.all_eq_true.1 hall c h

theorem not_mem_fileName {c : Char} (hc : isSafe c = false) (hdot : c ≠ '.') (table : String)
    (now : Moment) : c ∉ (fileName table now).toList := by
  intro h
  rcases isSafe_of_mem_fileName h with hsafe | heq
  · rw [hc] at hsafe
    cases hsafe
  · exact hdot heq

/-- The low line in front of the time tells a file name from the names that paths give a meaning of
their own. -/
theorem fileName_ne {other : String} (h : '_' ∉ other.toList) (table : String) (now : Moment) :
    fileName table now ≠ other := by
  rintro rfl
  rw [toList_fileName] at h
  simp at h

/-- A file name stands for itself in a path. -/
theorem isName_fileName (table : String) (now : Moment) : Path.IsName (fileName table now) where
  ne_empty := fileName_ne (by decide) table now
  ne_dot := fileName_ne (by decide) table now
  no_slash := not_mem_fileName (by decide) (by decide) table now

end OutputFile

namespace Program

open OutputFile (IsBase IsBaseOf Provides defaultPath fileName stamp stem)

variable {a : Arguments} {job : Job} {directory : Path} {table : String} {now : Moment}

/-! ### Exports to files that nobody named -/

/-- Is the script stored in a file of this directory that nobody named, after this table and at this
time? -/
structure Saves (a : Arguments) (job : Job) (desk : Desk) (directory : Path) (table : String)
    (now : Moment) : Prop where
  output : a.output.text? = none
  save : a.save = true
  directory : job.configuration.outputDirectory = directory
  table : nameTable job.configuration job.chosen = .ok table
  now : desk.now = now

/-- Is everything still there, and is no file new or changed but the one at the path? -/
def ChangesOnlyAt (path : Path) (files files' : FileSystem) : Prop :=
  files.AddsDirectories files' ∨ ∃ number, files'.fileNumber path = .ok number ∧
    files.Changes files' number

/-- Only the output of an export is changed. -/
theorem Exporting.changesOnlyAt {desk : Desk} {outcome : Except Failure Unit}
    {files : FileSystem} {name : String} (h : Exporting a job desk outcome files)
    (hname : job.outputName? a desk.now = .ok (some name)) :
    ChangesOnlyAt (Path.ofString name) desk.files files := by
  cases h with
  | refused failure _ hadds => exact .inl hadds
  | console _ _ hadds hconsole => exact .inl hadds
  | stored found number opened text result t hfound hclient hopens hscript =>
      cases hname.symm.trans hfound
      have hstores := hopens.append (Utf8.encode text.toList)
      exact .inr ⟨number, hstores.fileNumber, hstores.changes⟩

theorem outputName?_of_saves {desk : Desk} (h : Saves a job desk directory table now) :
    job.outputName? a desk.now = .ok (some (directory.child (fileName table now)).text) := by
  unfold Job.outputName?
  rw [h.output, h.save, h.table, h.directory, h.now]
  change Except.ok (some (directory.join (Path.ofString (fileName table now))).text) = _
  rw [Path.join_ofString directory (OutputFile.isName_fileName table now)]

theorem exportChosen_changesOnlyAt {s : Logged Desk} (hplain : directory.IsPlain)
    (hsound : s.state.files.IsSound) (h : Saves a job s.state directory table now) :
    ChangesOnlyAt (directory.child (fileName table now)) s.state.files
      ((exportChosen a job.configuration job.dialect job.chosen).run s).2.state.files := by
  obtain ⟨outcome, t, hrun, hexporting⟩ := exportChosen_exporting a job hsound
  have hreread := Path.ofString_text (hplain.child (OutputFile.isName_fileName table now))
  rw [hrun, ← hreread]
  exact hexporting.changesOnlyAt (outputName?_of_saves h)

/-- A file that nobody named stays in its directory. Whatever the table is called, the name of the
file is a base, the time and an ending, and the base is the same when it is made once more. The path
is given as soon as the directory is there, it leads into the directory and nowhere else, and an
export changes no other file. -/
theorem savedFile_isChild (directory table : String) (now : Moment) :
    ∃ base path, IsBase base ∧ IsBaseOf table.toList base ∧ stem (String.ofList base) = base ∧
      (fileName table now).toList = base ++ '_' :: stamp now ++ ".sql".toList ∧
      path.IsChild (Path.ofString directory) (fileName table now) ∧
      (∀ s, ∃ outcome files,
        (defaultPath (Path.ofString directory) table now).run s =
          (outcome, { s with state := files }) ∧
          Provides (Path.ofString directory) path s.state outcome files) ∧
      ∀ a job s, s.state.files.IsSound → Saves a job s.state (Path.ofString directory) table now →
        ChangesOnlyAt path s.state.files
          ((exportChosen a job.configuration job.dialect job.chosen).run s).2.state.files := by
  have hplain := Path.isPlain_ofString directory
  have hfixed : stem (String.ofList (stem table)) = stem table := by
    have hbase := OutputFile.isBase_stem table
    rw [← String.toList_ofList (l := stem table)] at hbase
    exact ((OutputFile.stem_eq_self_iff _).2 hbase).trans String.toList_ofList
  have hchild := hplain.isChild_child (OutputFile.isName_fileName table now)
    (OutputFile.fileName_ne (by decide) table now)
      (OutputFile.not_mem_fileName (by decide) (by decide) table now)
  have hjoin := Path.join_ofString (Path.ofString directory) (OutputFile.isName_fileName table now)
  exact ⟨stem table, (Path.ofString directory).child (fileName table now),
    OutputFile.isBase_stem table,
    OutputFile.isBaseOf_stem table, hfixed, OutputFile.toList_fileName table now, hchild,
    hjoin ▸ OutputFile.defaultPath_provides (Path.ofString directory) table now,
    fun _ _ _ hsound hsaves => exportChosen_changesOnlyAt hplain hsound hsaves⟩

/-- A table that is called like a file elsewhere. -/
theorem savedFile_isChild_upwards :
    let table := "../../etc/passwd"
    let now : Moment := { date := { year := 2024, month := 3, day := 15 } }
    let configuration : Configuration :=
      { database := { host := "localhost", port := 5432, database := "", user := "" },
        settings := { userTableName := some table }, outputDirectory := Path.ofString "out" }
    let job : Job :=
      { configuration, dialect := .generic, chosen := .csv { path := Path.ofString "users.csv" } }
    let s : Logged Desk :=
      { log := {}
        state := { files := FileSystem.empty #["work"], client := { database := {} }, now } }
    s.state.files.IsSound ∧ Saves { save := true } job s.state (Path.ofString "out") table now ∧
      ∃ path, path.IsChild (Path.ofString "out") "etc_passwd_20240315_000000.sql" ∧
        ChangesOnlyAt path s.state.files
          ((exportChosen { save := true } job.configuration job.dialect job.chosen).run
            s).2.state.files := by
  intro table now configuration job s
  have hsound : s.state.files.IsSound := FileSystem.isSound_empty _
  have hsaves : Saves { save := true } job s.state (Path.ofString "out") table now :=
    ⟨rfl, rfl, rfl, rfl, rfl⟩
  have hname : fileName table now = "etc_passwd_20240315_000000.sql" := by decide
  obtain ⟨base, path, -, -, -, -, hchild, -, hchanges⟩ := savedFile_isChild "out" table now
  exact ⟨hsound, hsaves, path, hname ▸ hchild, hchanges _ _ _ hsound hsaves⟩

end Program

end InsertScript
