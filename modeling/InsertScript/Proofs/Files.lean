import InsertScript.FileSystem.Tree
import Mathlib.Order.Defs.Unbundled

/-!
# Files that are made and changed

Opening a file for writing makes the directories above it, and perhaps the file; afterwards the file
is emptied or kept, and added to. Nothing is ever taken away, so whatever a path leads to before, it
leads to afterwards (`FileSystem.Extends`), and only the one file is changed (`FileSystem.Changes`).

A file system is sound if no place has a file without a content (`FileSystem.IsSound`); only there
is a new file another one than all those before.
-/

namespace InsertScript.FileSystem

variable {fs fs' fs'' : FileSystem} {path : Path} {place : Place} {node : Node}
  {number m : Nat} {data : Bytes}

/-! ### Sound file systems -/

/-- Has every file a content? -/
def IsSound (fs : FileSystem) : Prop :=
  ∀ place number, fs.node? place = some (.file number) → number < fs.contents.length

@[simp] theorem node?_root (fs : FileSystem) : fs.node? #[] = some .directory := by
  simp [node?]

/-- What is not there is not the root. -/
theorem ne_root_of_node? (h : fs.node? place = none) : place ≠ #[] := by
  intro hroot
  simp [hroot] at h

theorem node?_put (h : fs.node? place = none) (node : Node) (other : Place) :
    (fs.put place node).node? other = if other = place then some node else fs.node? other := by
  by_cases hother : other = place
  · simp [hother, node?_put_self fs node (ne_root_of_node? h)]
  · simp [hother, node?_put_of_ne fs node hother]

theorem node?_create (h : fs.node? place = none) (other : Place) :
    (fs.create place).node? other = if other =
      place then some (.file fs.contents.length) else fs.node? other :=
  node?_put h _ other

/-- A new file is empty, and the others hold what they held. -/
theorem content_create (fs : FileSystem) (place : Place) (number : Nat) :
    (fs.create place).content number = fs.content number := by
  unfold content create
  by_cases hlt : number < fs.contents.length
  · simp [List.getD_eq_getElem?_getD, List.getElem?_append_left hlt]
  · have hle : fs.contents.length ≤ number := Nat.le_of_not_lt hlt
    cases hnumber : number - fs.contents.length with
    | zero =>
        simp [List.getD_eq_getElem?_getD, List.getElem?_append_right hle,
          List.getElem?_eq_none hle, hnumber]
    | succ k =>
        simp [List.getD_eq_getElem?_getD, List.getElem?_append_right hle,
          List.getElem?_eq_none hle, hnumber]

/-! ### Nothing is taken away -/

/-- Is everything still there? -/
structure Extends (fs fs' : FileSystem) : Prop where
  working : fs'.working = fs.working
  node? : ∀ place node, fs.node? place = some node → fs'.node? place = some node

instance : IsPreorder FileSystem Extends where
  refl _ := ⟨rfl, fun _ _ h => h⟩
  trans _ _ _ h k :=
    ⟨k.working.trans h.working, fun place node hnode =>
      k.node? place node (h.node? place node hnode)⟩

theorem extends_put (h : fs.node? place = none) (node : Node) : fs.Extends (fs.put place node) := by
  refine ⟨rfl, fun other found hfound => ?_⟩
  have hother : other ≠ place := by
    intro heq
    rw [heq, h] at hfound
    cases hfound
  rw [node?_put_of_ne fs node hother, hfound]

theorem extends_setContent (fs : FileSystem) (number : Nat) (data : Bytes) :
    fs.Extends (fs.setContent number data) :=
  ⟨rfl, fun _ _ h => h⟩

/-- Names lead to the same place as before. -/
theorem Extends.walk (h : fs.Extends fs') {here : Place} {names : List String}
    (hwalk : fs.walk here names = .ok place) : fs'.walk here names = .ok place := by
  induction names generalizing here with
  | nil => exact hwalk
  | cons name names ih =>
      rw [FileSystem.walk] at hwalk ⊢
      cases hnode : fs.node? here with
      | none => simp [hnode] at hwalk
      | some node =>
          cases node with
          | file number => simp [hnode] at hwalk
          | directory =>
              simp only [hnode] at hwalk
              simp only [h.node? here .directory hnode]
              split at hwalk
              · cases hwalk
              · rename_i hshort
                rw [if_neg hshort]
                exact ih hwalk

theorem Extends.locate (h : fs.Extends fs') (hlocate : fs.locate path = .ok place) :
    fs'.locate path = .ok place := by
  unfold FileSystem.locate at hlocate ⊢
  split at hlocate
  · cases hlocate
  · rename_i hnul
    rw [if_neg hnul]
    split at hlocate
    · cases hlocate
    · rename_i hshort
      rw [if_neg hshort, h.working]
      exact h.walk hlocate

theorem fileNumber_eq_ok : fs.fileNumber path = .ok number ↔
    ∃ place, fs.locate path = .ok place ∧ fs.node? place = some (.file number) := by
  unfold fileNumber findFile find
  cases fs.locate path with
  | error refusal => simp [Except.map]
  | ok place =>
      dsimp only
      rcases hnode : fs.node? place with _ | _ | found
      · simp [Except.map, hnode]
      · simp [Except.map, hnode]
      · simp [Except.map, hnode]

theorem toOption_fileNumber_eq_some :
    (fs.fileNumber path).toOption = some number ↔ fs.fileNumber path = .ok number := by
  cases fs.fileNumber path with
  | error fault => simp [Except.toOption]
  | ok found => simp [Except.toOption]

theorem Extends.fileNumber (h : fs.Extends fs') (hnumber : fs.fileNumber path = .ok number) :
    fs'.fileNumber path = .ok number := by
  obtain ⟨place, hlocate, hnode⟩ := fileNumber_eq_ok.1 hnumber
  exact fileNumber_eq_ok.2 ⟨place, h.locate hlocate, h.node? place _ hnode⟩

/-! ### Only one file is changed -/

/-- Is everything still there, and does every file but one hold what it held? No other file is
new. -/
structure Changes (fs fs' : FileSystem) (number : Nat) : Prop where
  kept : fs.Extends fs'
  content : ∀ other, other ≠ number → fs'.content other = fs.content other
  file : ∀ place other, fs'.node? place = some (.file other) → other = number ∨
    fs.node? place = some (.file other)
  length_le : fs.contents.length ≤ fs'.contents.length

/-- Is everything still there, and are only directories new? -/
structure AddsDirectories (fs fs' : FileSystem) : Prop where
  kept : fs.Extends fs'
  contents : fs'.contents = fs.contents
  file : ∀ place number, fs'.node? place = some (.file number) →
    fs.node? place = some (.file number)

instance : IsPreorder FileSystem AddsDirectories where
  refl fs := ⟨refl_of Extends fs, rfl, fun _ _ h => h⟩
  trans _ _ _ h k := ⟨trans_of Extends h.kept k.kept, k.contents.trans h.contents,
    fun place number hfile => h.file place number (k.file place number hfile)⟩

theorem AddsDirectories.content (h : fs.AddsDirectories fs') (number : Nat) :
    fs'.content number = fs.content number := by
  rw [FileSystem.content, h.contents, FileSystem.content]

theorem AddsDirectories.isSound (h : fs.AddsDirectories fs') (hsound : fs.IsSound) :
    fs'.IsSound := by
  intro place number hfile
  rw [h.contents]
  exact hsound place number (h.file place number hfile)

theorem AddsDirectories.changes (h : fs.AddsDirectories fs') (number : Nat) :
    fs.Changes fs' number :=
  ⟨h.kept, fun other _ => h.content other, fun place other hfile => .inr (h.file place other hfile),
    Nat.le_of_eq (congrArg List.length h.contents).symm⟩

theorem AddsDirectories.changes_trans (h : fs.AddsDirectories fs')
    (hchanges : fs'.Changes fs'' number) : fs.Changes fs'' number := by
  refine ⟨trans_of Extends h.kept hchanges.kept, fun other hother => ?_,
    fun place other hfile => ?_, ?_⟩
  · rw [hchanges.content other hother, h.content]
  · exact (hchanges.file place other hfile).imp_right (h.file place other)
  · rw [← h.contents]
    exact hchanges.length_le

theorem Changes.setContent (h : fs.Changes fs' number) (data : Bytes) :
    fs.Changes (fs'.setContent number data) number := by
  refine ⟨trans_of Extends h.kept (extends_setContent fs' number data),
    fun other hother => ?_, h.file, ?_⟩
  · rw [content_setContent_of_ne fs' data hother, h.content other hother]
  · simpa [FileSystem.setContent] using h.length_le

/-! ### Making directories -/

theorem addsDirectories_put (h : fs.node? place = none) :
    fs.AddsDirectories (fs.put place .directory) := by
  refine ⟨extends_put h .directory, rfl, fun other number hfile => ?_⟩
  rw [node?_put h] at hfile
  split at hfile
  · cases hfile
  · exact hfile

theorem addsDirectories_makeDirectory (h : fs.makeDirectory path = .ok fs') :
    fs.AddsDirectories fs' := by
  unfold makeDirectory at h
  split at h
  · cases h
  · split at h
    · cases h
    · rename_i hnode
      cases h
      exact addsDirectories_put hnode

theorem addsDirectories_ensureDirectory (fs : FileSystem) (path : Path) :
    fs.AddsDirectories (fs.ensureDirectory path).1 := by
  unfold ensureDirectory
  cases hmade : fs.makeDirectory path with
  | ok made => exact addsDirectories_makeDirectory hmade
  | error fault => exact refl_of AddsDirectories fs

/-- Making the directories of a path adds directories and changes no file. -/
theorem addsDirectories_ensureNames (fs : FileSystem) (root : String) (limit : Nat)
    (names : List String) : fs.AddsDirectories (fs.ensureNames root limit names).1 := by
  induction names generalizing fs limit with
  | nil => exact addsDirectories_ensureDirectory fs _
  | cons name above ih =>
      have hfirst := addsDirectories_ensureDirectory fs { root, names := (name :: above).reverse }
      rw [ensureNames]
      split
      · rename_i heq
        rw [heq] at hfirst
        exact hfirst
      · rename_i fs' fault heq
        rw [heq] at hfirst
        have habove := trans_of AddsDirectories hfirst (ih fs' (limit - 1))
        split
        · split
          · exact hfirst
          · split
            · rename_i heq
              rw [heq] at habove
              exact trans_of AddsDirectories habove (addsDirectories_ensureDirectory _ _)
            · exact habove
        · exact hfirst

theorem addsDirectories_ensureDirectories (fs : FileSystem) (path : Path) :
    fs.AddsDirectories (fs.ensureDirectories path).1 := addsDirectories_ensureNames fs _ _ _

/-! ### Opening and adding -/

/-- What opening a file for writing comes to: it is there, and it holds nothing or what it held. -/
structure Opens (fs : FileSystem) (path : Path) (keep : Bool) (fs' : FileSystem) (number : Nat) :
    Prop where
  changes : fs.Changes fs' number
  fileNumber : fs'.fileNumber path = .ok number
  lt_length : number < fs'.contents.length
  content : fs'.content number = if keep then fs.content number else []

/-- A new file is open and empty, and no other one is changed. -/
theorem opens_create (hlocate : fs.locate path = .ok place)
    (hnode : fs.node? place = none) (keep : Bool) :
    fs.Opens path keep (fs.create place) fs.contents.length := by
  have hextends : fs.Extends (fs.create place) :=
    ⟨rfl, (extends_put hnode (.file fs.contents.length)).node?⟩
  have hempty : fs.content fs.contents.length = [] := by simp [FileSystem.content]
  refine ⟨⟨hextends, fun other _ => content_create fs place other, fun other m hfile => ?_, ?_⟩,
    ?_, ?_, ?_⟩
  · rw [node?_create hnode] at hfile
    split at hfile
    · cases hfile
      exact .inl rfl
    · exact .inr hfile
  · simp [create]
  · refine fileNumber_eq_ok.2 ⟨place, hextends.locate hlocate, ?_⟩
    rw [node?_create hnode, if_pos rfl]
  · simp [create]
  · rw [content_create, hempty, ite_self]

/-- Opening a file comes to this, unless it fails. -/
theorem exists_opens (hsound : fs.IsSound) {keep : Bool} (h : fs.openFile path keep = .ok fs') :
    ∃ number, fs.Opens path keep fs' number := by
  unfold openFile at h
  split at h
  · cases h
  · rename_i place hlocate
    split at h
    · rename_i hnode
      cases h
      exact ⟨_, opens_create hlocate hnode keep⟩
    · cases h
    · rename_i number hnode
      have hfile : fs.fileNumber path = .ok number := fileNumber_eq_ok.2 ⟨place, hlocate, hnode⟩
      have hsame : fs.Changes fs number := (refl_of AddsDirectories fs).changes number
      have hlt := hsound place number hnode
      cases h
      refine ⟨number, ?_⟩
      cases keep with
      | true => exact ⟨hsame, hfile, hlt, rfl⟩
      | false =>
          refine ⟨hsame.setContent [],
            (fileNumber_setContent fs number [] path).trans hfile, ?_, ?_⟩
          · simpa [FileSystem.setContent] using hlt
          · exact content_setContent_self fs [] hlt

/-- What making sure of a directory and opening a file in it comes to. -/
theorem AddsDirectories.opens {keep : Bool} (h : fs.AddsDirectories fs')
    (hopens : fs'.Opens path keep fs'' number) : fs.Opens path keep fs'' number := by
  refine ⟨h.changes_trans hopens.changes, hopens.fileNumber, hopens.lt_length, ?_⟩
  rw [hopens.content, h.content]

/-- Is all of a file new except for its earlier bytes if they are kept, and is no other file
changed? -/
structure Stores (fs : FileSystem) (path : Path) (keep : Bool) (data : Bytes) (fs' : FileSystem)
    (number : Nat) : Prop where
  changes : fs.Changes fs' number
  fileNumber : fs'.fileNumber path = .ok number
  content : fs'.content number = (if keep then fs.content number else []) ++ data

theorem append_of_fileNumber (h : fs.fileNumber path = .ok number) (data : Bytes) :
    fs.append path data = fs.setContent number (fs.content number ++ data) := by
  rw [FileSystem.append, h]

/-- Adding to a file leaves all of them at their places. -/
theorem fileNumber_append (fs : FileSystem) (path : Path) (data : Bytes) (other : Path) :
    (fs.append path data).fileNumber other = fs.fileNumber other := by
  cases hnumber : fs.fileNumber path with
  | error fault => rw [FileSystem.append, hnumber]
  | ok number => rw [append_of_fileNumber hnumber, fileNumber_setContent]

@[simp] theorem working_append (fs : FileSystem) (path : Path) (data : Bytes) :
    (fs.append path data).working = fs.working := by
  cases hnumber : fs.fileNumber path with
  | error fault => rw [FileSystem.append, hnumber]
  | ok number => rw [append_of_fileNumber hnumber]; rfl

/-- Adding to an open file leaves the earlier bytes in front. -/
theorem Opens.append {keep : Bool} (h : fs.Opens path keep fs' number) (data : Bytes) :
    fs.Stores path keep data (fs'.append path data) number := by
  rw [append_of_fileNumber h.fileNumber]
  refine ⟨h.changes.setContent _, ?_, ?_⟩
  · rw [fileNumber_setContent, h.fileNumber]
  · rw [content_setContent_self fs' _ h.lt_length, h.content]

theorem size_of_fileNumber (h : fs.fileNumber path = .ok number) :
    fs.size path = .ok (fs.content number).length := by
  obtain ⟨place, hlocate, hnode⟩ := fileNumber_eq_ok.1 h
  simp [FileSystem.size, find, hlocate, hnode, Except.map]

/-! ### Where sound file systems come from -/

theorem isSound_empty (working : Place) : (empty working).IsSound := by
  intro place number hnode
  unfold node? at hnode
  split at hnode
  · cases hnode
  · obtain ⟨entry, hentry, hfile⟩ := Option.map_eq_some_iff.1 hnode
    obtain ⟨n, -, rfl⟩ := List.mem_map.1 (List.mem_of_find?_eq_some hentry)
    cases hfile

theorem Opens.isSound {keep : Bool} (h : fs.Opens path keep fs' number) (hsound : fs.IsSound) :
    fs'.IsSound := by
  intro place other hfile
  rcases h.changes.file place other hfile with rfl | hold
  · exact h.lt_length
  · exact Nat.lt_of_lt_of_le (hsound place other hold) h.changes.length_le

theorem IsSound.append (h : fs.IsSound) (path : Path) (data : Bytes) :
    (fs.append path data).IsSound := by
  cases hnumber : fs.fileNumber path with
  | error fault => rwa [FileSystem.append, hnumber]
  | ok number =>
      rw [append_of_fileNumber hnumber]
      intro place other hfile
      simpa [FileSystem.setContent] using h place other hfile

/-- Storing files one after the other, beginning with none, makes sound file systems only. -/
theorem IsSound.store (h : fs.IsSound) (path : Path) (data : Bytes) :
    (fs.store path data).1.IsSound := by
  have hadds := addsDirectories_ensureDirectories fs path.parent
  unfold FileSystem.store
  rcases hmade : fs.ensureDirectories path.parent with ⟨made, fault?⟩
  rw [hmade] at hadds
  have hsound := hadds.isSound h
  cases fault? with
  | some fault => exact hsound
  | none =>
      dsimp only
      cases hopen : made.openFile path false with
      | error fault => exact hsound
      | ok opened =>
          obtain ⟨number, hopens⟩ := exists_opens hsound hopen
          exact (hopens.isSound hsound).append path data

end InsertScript.FileSystem
