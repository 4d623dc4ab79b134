import InsertScript.Proofs.Files
import InsertScript.Proofs.Steps

/-!
# What paths denote and where they lead

A path that a text denotes has two slashes at most at its root, and its names have none
(`Path.IsPlain`). Such a path is denoted by its own spelling as well (`Path.ofString_text`), so
nothing is lost where a path is handed on as a text.

A name in a directory leads into the place of that directory or nowhere (`FileSystem.locate_child`),
and making sure of a directory succeeds exactly if it is there afterwards
(`FileSystem.ensureDirectories_eq_none_iff`).
-/

namespace InsertScript

namespace Path

variable {p : Path} {name : String}

/-! ### Texts and paths -/

/-- Can the text be one of the names of a path? A single dot says nothing there. -/
structure IsName (name : String) : Prop where
  ne_empty : name ≠ ""
  ne_dot : name ≠ "."
  no_slash : '/' ∉ name.toList

/-- Is the text one of the roots that paths have? -/
def IsRoot (root : String) : Prop := root = "" ∨ root = "/" ∨ root = "//"

/-- Is the path one that a text can denote? -/
structure IsPlain (p : Path) : Prop where
  root : IsRoot p.root
  names : ∀ name ∈ p.names, IsName name

theorem piecesFrom_of_not_mem {text : List Char} (h : '/' ∉ text) (piece : List Char) :
    piecesFrom piece text = [String.ofList (piece.reverse ++ text)] := by
  induction text generalizing piece with
  | nil => rw [piecesFrom, List.append_nil]
  | cons c text ih =>
      have hc : c ≠ '/' := (List.ne_of_not_mem_cons h).symm
      rw [piecesFrom, if_neg hc, ih (List.not_mem_of_not_mem_cons h), List.reverse_cons,
        List.append_assoc, List.singleton_append]

theorem piecesFrom_append_slash {text : List Char} (h : '/' ∉ text) (piece rest : List Char) :
    piecesFrom piece (text ++ '/' :: rest) = String.ofList (piece.reverse ++ text) ::
      piecesFrom [] rest := by
  induction text generalizing piece with
  | nil => rw [List.nil_append, piecesFrom, if_pos rfl, List.append_nil]
  | cons c text ih =>
      have hc : c ≠ '/' := (List.ne_of_not_mem_cons h).symm
      rw [List.cons_append, piecesFrom, if_neg hc, ih (List.not_mem_of_not_mem_cons h),
        List.reverse_cons, List.append_assoc, List.singleton_append]

/-- Names with slashes between them are taken apart again. -/
theorem piecesFrom_intercalate {names : List String} (h : ∀ n ∈ name :: names, IsName n) :
    piecesFrom [] ("/".intercalate (name :: names)).toList = name :: names := by
  induction names generalizing name with
  | nil =>
      rw [String.intercalate_singleton, piecesFrom_of_not_mem (h name List.mem_cons_self).no_slash]
      simp
  | cons next names ih =>
      have hslash : "/".toList = ['/'] := rfl
      rw [String.intercalate_cons_cons, String.toList_append, String.toList_append, hslash,
        List.append_assoc,
        List.singleton_append, piecesFrom_append_slash (h name List.mem_cons_self).no_slash,
        ih fun n hn => h n (List.mem_cons_of_mem name hn)]
      simp

/-- There is no slash in a name between slashes. -/
theorem no_slash_of_mem_piecesFrom {piece text : List Char} (hpiece : '/' ∉ piece)
    (h : name ∈ piecesFrom piece text) : '/' ∉ name.toList := by
  induction text generalizing piece with
  | nil =>
      rw [List.mem_singleton.1 h]
      simpa using hpiece
  | cons c text ih =>
      rw [piecesFrom] at h
      split at h
      · rcases List.mem_cons.1 h with rfl | hrest
        · simpa using hpiece
        · exact ih List.not_mem_nil hrest
      · rename_i hc
        exact ih (List.not_mem_cons_of_ne_of_not_mem (Ne.symm hc) hpiece) h

theorem isPlain_ofString (s : String) : (ofString s).IsPlain where
  root := by
    change IsRoot (rootOf s.toList)
    unfold rootOf IsRoot
    split <;> simp
  names name hname := by
    obtain ⟨hpiece, hkept⟩ := List.mem_filter.1 hname
    have hkept : name ≠ "" ∧ name ≠ "." := by simpa using hkept
    exact ⟨hkept.1, hkept.2, no_slash_of_mem_piecesFrom List.not_mem_nil hpiece⟩

/-- The slashes of a root are read back in front of anything else. -/
theorem rootOf_append {root : String} (hroot : IsRoot root) {c : Char} (hc : c ≠ '/')
    (rest : List Char) : rootOf (root.toList ++ c :: rest) = root := by
  rcases hroot with rfl | rfl | rfl
  · simp [rootOf, hc]
  · simp [rootOf, hc]
  · simp [rootOf, hc]

/-- The slashes of a root are not among the names. -/
theorem filter_piecesFrom_root {root : String} (hroot : IsRoot root) (text : List Char) :
    (piecesFrom [] (root.toList ++ text)).filter (fun name => name ≠ "" && name ≠ ".")
      = (piecesFrom [] text).filter fun name => name ≠ "" && name ≠ "." := by
  rcases hroot with rfl | rfl | rfl
  · rfl
  · rfl
  · rfl

/-- The spelling of a path denotes it. -/
theorem ofString_text (h : p.IsPlain) : ofString p.text = p := by
  obtain ⟨root, names⟩ := p
  cases names with
  | nil =>
      have hroot : IsRoot root := h.root
      rcases hroot with rfl | rfl | rfl
      · decide
      · decide
      · decide
  | cons name names =>
      have hnames : ∀ n ∈ name :: names, IsName n := h.names
      have hpieces := piecesFrom_intercalate hnames
      have hfilter : (name :: names).filter (fun name => name ≠ "" && name ≠ ".") = name :: names :=
        List.filter_eq_self.2 fun n hn => by simp [(hnames n hn).ne_empty, (hnames n hn).ne_dot]
      have htext : text ⟨root, name :: names⟩ = root ++ "/".intercalate (name :: names) := by
        simp [text]
      obtain ⟨c, rest, hbody, hc⟩ : ∃ c rest, ("/".intercalate (name :: names)).toList =
          c :: rest ∧ c ≠ '/' := by
        have hname := hnames name List.mem_cons_self
        cases hchars : name.toList with
        | nil => exact absurd (String.toList_inj.1 hchars) hname.ne_empty
        | cons c chars =>
            have hc : c ≠ '/' := by
              rintro rfl
              exact hname.no_slash (hchars ▸ List.mem_cons_self)
            cases names with
            | nil => exact ⟨c, chars, by rw [String.intercalate_singleton, hchars], hc⟩
            | cons next names =>
                refine ⟨c, chars ++ '/' :: ("/".intercalate (next :: names)).toList, ?_, hc⟩
                simp [String.intercalate_cons_cons, hchars]
      rw [ofString, htext, String.toList_append, filter_piecesFrom_root h.root,
        hpieces, hfilter, hbody, rootOf_append h.root hc]

/-! ### Names in a directory -/

/-- The path of a name in a directory. -/
def child (p : Path) (name : String) : Path := { p with names := p.names ++ [name] }

@[simp] theorem parent_child (p : Path) (name : String) : (p.child name).parent = p := by
  simp [child, parent]

@[simp] theorem name_child (p : Path) (name : String) : (p.child name).name = name := by
  simp [child, Path.name]

theorem IsPlain.child (h : p.IsPlain) (hname : IsName name) : (p.child name).IsPlain := by
  refine ⟨h.root, fun other hother => ?_⟩
  rcases List.mem_append.1 hother with hfront | hlast
  · exact h.names other hfront
  · rwa [List.mem_singleton.1 hlast]

theorem ofString_name (h : IsName name) : ofString name = { root := "", names := [name] } := by
  have hplain : IsPlain { root := "", names := [name] } := ⟨.inl rfl, List.forall_mem_singleton.2 h⟩
  have htext : text { root := "", names := [name] } = name := by simp [text]
  rw [← ofString_text hplain, htext]

theorem join_ofString (p : Path) (h : IsName name) : p.join (ofString name) = p.child name := by
  rw [ofString_name h, join_of_relative rfl, child]

theorem intercalate_concat (first : String) (names : List String) (name : String) :
    "/".intercalate (first :: names ++ [name]) = "/".intercalate (first :: names) ++
      "/" ++ name := by
  induction names generalizing first with
  | nil => simp [String.intercalate_cons_cons]
  | cons next names ih =>
      rw [List.cons_append, List.cons_append, String.intercalate_cons_cons, ← List.cons_append, ih,
        String.intercalate_cons_cons]
      simp only [String.append_assoc]

/-- What stands in front of the name in the spelling: the directory, and a slash unless the
directory ends with one or goes without saying. -/
theorem text_child (p : Path) (name : String) :
    (p.child name).text = p.text ++ name ∨ (p.child name).text = p.text ++ "/" ++ name ∨
      p.text = "." ∧ (p.child name).text = name := by
  obtain ⟨root, names⟩ := p
  cases names with
  | nil =>
      by_cases hroot : root = ""
      · exact .inr (.inr (by simp [text, child, hroot]))
      · exact .inl (by simp [text, child, hroot])
  | cons first names =>
      refine .inr (.inl ?_)
      simp only [text, child, reduceCtorEq, List.append_eq_nil_iff, and_false, if_false,
        intercalate_concat, String.append_assoc]

end Path

namespace FileSystem

variable {fs : FileSystem} {path : Path} {place : Place} {name : String}

/-! ### Where paths lead -/

theorem walk_append (fs : FileSystem) (here : Place) (names rest : List String) :
    fs.walk here (names ++ rest) = fs.walk here names >>= fun place => fs.walk place rest := by
  induction names generalizing here with
  | nil => rfl
  | cons name names ih =>
      rw [List.cons_append, walk, walk]
      split
      · rfl
      · rfl
      · split
        · rfl
        · exact ih _

theorem walk_singleton {home : Place} : fs.walk home [name] = .ok place ↔
    fs.node? home = some .directory ∧ name.utf8ByteSize ≤ longestName ∧
      place = if name = ".." then home.pop else home.push name := by
  rw [walk]
  rcases hnode : fs.node? home with _ | _ | number
  · simp
  · dsimp only
    by_cases hlong : longestName < name.utf8ByteSize
    · simp [hlong, Nat.not_le.2 hlong]
    · simp [hlong, walk, Nat.le_of_not_lt hlong, eq_comm]
  · simp

theorem locate_eq_ok : fs.locate path = .ok place ↔ '\x00' ∉ path.text.toList ∧
    path.text.utf8ByteSize ≤ longestPath ∧
      fs.walk (if path.isAbsolute then #[] else fs.working) path.names = .ok place := by
  unfold locate
  by_cases hnul : '\x00' ∈ path.text.toList
  · simp [hnul]
  · by_cases hlong : longestPath < path.text.utf8ByteSize
    · simp [hnul, hlong, Nat.not_le.2 hlong]
    · simp [hnul, hlong, Nat.le_of_not_lt hlong]

/-- A name leads into the place of its directory, or nowhere. -/
theorem locate_child (fs : FileSystem) (p : Path) (name : String) (place : Place) :
    fs.locate (p.child name) = .ok place ↔ ∃ home, fs.locate p = .ok home ∧
      fs.node? home = some .directory ∧
      '\x00' ∉ name.toList ∧ name.utf8ByteSize ≤ longestName ∧
        (p.child name).text.utf8ByteSize ≤ longestPath ∧
        place = if name = ".." then home.pop else home.push name := by
  -- the text of the child is the name alone, or ends in it behind the text of the directory
  have hnul : '\x00' ∉ (p.child name).text.toList ↔ '\x00' ∉ p.text.toList ∧
      '\x00' ∉ name.toList := by
    rcases p.text_child name with h | h | ⟨hdot, h⟩
    · simp [h]
    · simp [h]
    · simp [h, hdot]
  have hsize : (p.child name).text.utf8ByteSize ≤ longestPath →
      p.text.utf8ByteSize ≤ longestPath := by
    intro hle
    rcases p.text_child name with h | h | ⟨hdot, h⟩
    · rw [h, String.utf8ByteSize_append] at hle
      omega
    · rw [h, String.utf8ByteSize_append, String.utf8ByteSize_append] at hle
      omega
    · rw [hdot]
      decide
  have hwalk :
      fs.walk (if (p.child name).isAbsolute then #[] else fs.working) (p.child name).names =
      fs.walk (if p.isAbsolute then #[] else fs.working) p.names >>= fun home =>
        fs.walk home [name] :=
    walk_append fs _ p.names [name]
  rw [locate_eq_ok, hwalk, hnul]
  constructor
  · rintro ⟨⟨hnulPath, hnulName⟩, hlong, hplace⟩
    obtain ⟨home, hhome, hlast⟩ := Step.ok_of_bind_except hplace
    obtain ⟨hnode, hshort, heq⟩ := walk_singleton.1 hlast
    exact ⟨home, locate_eq_ok.2 ⟨hnulPath, hsize hlong, hhome⟩, hnode, hnulName, hshort, hlong, heq⟩
  · rintro ⟨home, hlocate, hnode, hnulName, hshort, hlong, heq⟩
    obtain ⟨hnulPath, -, hhome⟩ := locate_eq_ok.1 hlocate
    refine ⟨⟨hnulPath, hnulName⟩, hlong, ?_⟩
    rw [hhome]
    exact walk_singleton.2 ⟨hnode, hshort, heq⟩

/-! ### Directories that are there -/

theorem isDirectory_iff : fs.isDirectory path = true ↔
    ∃ place, fs.locate path = .ok place ∧ fs.node? place = some .directory := by
  unfold isDirectory
  cases fs.locate path with
  | error refusal => simp
  | ok place => simp

/-- The directory above a directory is one. -/
theorem isDirectory_of_child {p : Path} (h : fs.isDirectory (p.child name) = true) :
    fs.isDirectory p = true := by
  obtain ⟨place, hlocate, -⟩ := isDirectory_iff.1 h
  obtain ⟨home, hhome, hnode, -⟩ := (locate_child fs p name place).1 hlocate
  exact isDirectory_iff.2 ⟨home, hhome, hnode⟩

theorem ensureDirectory_eq_none_iff (fs : FileSystem) (path : Path) :
    (fs.ensureDirectory path).2 = none ↔ (fs.ensureDirectory path).1.isDirectory path = true := by
  unfold ensureDirectory makeDirectory
  cases hlocate : fs.locate path with
  | error refusal => simp [isDirectory, hlocate]
  | ok place =>
      cases hnode : fs.node? place with
      | some node => simp [hnode]
      | none =>
          have hmade : (fs.put place .directory).isDirectory path = true :=
            isDirectory_iff.2 ⟨place, (extends_put hnode .directory).locate hlocate,
              node?_put_self fs _ (ne_root_of_node? hnode)⟩
          simp [hnode, hmade]

theorem ensureDirectory_of_isDirectory (h : fs.isDirectory path = true) :
    fs.ensureDirectory path = (fs, none) := by
  obtain ⟨place, hlocate, hnode⟩ := isDirectory_iff.1 h
  simp [ensureDirectory, makeDirectory, hlocate, hnode, h]

/-- A directory is made, together with those above it, exactly if it is there afterwards. -/
theorem ensureNames_eq_none_iff (fs : FileSystem) (root : String) (limit : Nat)
    (names : List String) :
    (fs.ensureNames root limit names).2 = none ↔
      (fs.ensureNames root limit names).1.isDirectory { root, names := names.reverse } = true := by
  induction names generalizing fs limit with
  | nil => exact ensureDirectory_eq_none_iff fs _
  | cons name above ih =>
      have hchild : ({ root, names := (name :: above).reverse } : Path)
          = Path.child { root, names := above.reverse } name := by
        rw [Path.child, List.reverse_cons]
      have hfirst := ensureDirectory_eq_none_iff fs { root, names := (name :: above).reverse }
      rw [ensureNames]
      split
      · rename_i heq
        rw [heq] at hfirst
        exact hfirst
      · rename_i fs' fault heq
        rw [heq] at hfirst
        split
        · split
          · simpa using hfirst
          · have habove := ih fs' (limit - 1)
            split
            · exact ensureDirectory_eq_none_iff _ _
            · rename_i hrefused
              -- Without the directory above there is none below.
              rcases hmade : fs'.ensureNames root (limit - 1) above with ⟨made, fault?⟩
              rw [hmade] at habove
              cases fault? with
              | none => exact absurd hmade (hrefused made)
              | some fault =>
                  have hnone : ¬made.isDirectory { root, names := above.reverse } = true := by
                    simpa using habove
                  simpa [hchild, -List.reverse_cons] using fun h => hnone (isDirectory_of_child h)
        · exact hfirst

theorem ensureDirectories_eq_none_iff (fs : FileSystem) (path : Path) :
    (fs.ensureDirectories path).2 = none ↔
      (fs.ensureDirectories path).1.isDirectory path = true := by
  have hnames := ensureNames_eq_none_iff fs path.root mostMissing path.names.reverse
  rwa [List.reverse_reverse] at hnames

/-- Where the directory is there, nothing happens. -/
theorem ensureDirectories_of_isDirectory (h : fs.isDirectory path = true) :
    fs.ensureDirectories path = (fs, none) := by
  obtain ⟨root, names⟩ := path
  rw [ensureDirectories]
  cases hnames : names.reverse with
  | nil =>
      rw [List.reverse_eq_nil_iff] at hnames
      subst hnames
      exact ensureDirectory_of_isDirectory h
  | cons name above =>
      have hpath : (name :: above).reverse = names := by rw [← hnames, List.reverse_reverse]
      rw [ensureNames, hpath, ensureDirectory_of_isDirectory h]

end FileSystem

/-! ### Names that stay in their directory -/

namespace Path

/-- Is the path that of a name in a directory: by its parts, after it has been written and read
again, and by the place that it leads to in any file system? It leads nowhere if the directory is
not there, or the name or the path is too long. -/
structure IsChild (path directory : Path) (name : String) : Prop where
  parent : path.parent = directory
  lastName : path.name = name
  reread : ofString path.text = path
  located : ∀ fs place, FileSystem.locate fs path = .ok place ↔ ∃ home,
    fs.locate directory = .ok home ∧ fs.node? home = some .directory ∧
      name.utf8ByteSize ≤ FileSystem.longestName ∧ path.text.utf8ByteSize ≤ FileSystem.longestPath ∧
        place = home.push name

theorem IsPlain.isChild_child {p : Path} {name : String} (h : p.IsPlain) (hname : IsName name)
    (hdots : name ≠ "..") (hnul : '\x00' ∉ name.toList) : (p.child name).IsChild p name where
  parent := parent_child p name
  lastName := name_child p name
  reread := ofString_text (h.child hname)
  located fs place := by
    rw [FileSystem.locate_child]
    simp only [hnul, hdots, not_false_eq_true, true_and, if_false]

end Path

end InsertScript
