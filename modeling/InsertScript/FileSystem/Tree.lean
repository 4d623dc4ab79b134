import InsertScript.FileSystem.Path
import InsertScript.Text.Quoted

/-!
# Files and directories

A file system as a value: every place below the root that exists is listed with what is there. Paths
are looked up from a working directory, name by name, and what is on the way has to be a directory.

A file has a number, and its content belongs to the number, not to the place. So who has opened a
file sees what is written to it later, and keeps its content when the place is taken away or given
to another file.
-/

namespace InsertScript

/-- What the file system refuses. -/
inductive FileRefusal where
  | missing
  | present
  | notADirectory
  | isADirectory
  | nameTooLong
  /-- No path can hold a NUL character. -/
  | nulCharacter
  /-- Too many directories in a row are missing. -/
  | tooManyMissing
deriving DecidableEq, Repr

/-- A refusal and the path it is about. -/
structure FileFault where
  refusal : FileRefusal
  path : Path
deriving DecidableEq, Repr

/-- The number and the wording of a refusal. -/
def FileRefusal.message : FileRefusal → String
  | .missing => "[Errno 2] No such file or directory"
  | .present => "[Errno 17] File exists"
  | .notADirectory => "[Errno 20] Not a directory"
  | .isADirectory => "[Errno 21] Is a directory"
  | .nameTooLong => "[Errno 36] File name too long"
  | .nulCharacter => "embedded null byte"
  | .tooManyMissing => "maximum recursion depth exceeded while calling a Python object"

/-- Is it the file system that refuses, rather than the path that is beyond what can be asked of
it? -/
def FileFault.isSystem (fault : FileFault) : Bool :=
  match fault.refusal with
  | .nulCharacter | .tooManyMissing => false
  | _ => true

/-- The wording of a fault: the refusal, and the quoted path if it is one. -/
def FileFault.message (fault : FileFault) : String :=
  if fault.isSystem then fault.refusal.message ++ ": " ++ Quoted.ofString fault.path.text
  else fault.refusal.message

/-- The names from the root to a file or directory. -/
abbrev Place := Array String

/-- What is at a place. -/
inductive Node where
  | directory
  | file (number : Nat)
deriving DecidableEq, Repr

/-- A file system seen from a working directory. -/
structure FileSystem where
  /-- Everything below the root, the latest entry for a place first. -/
  entries : List (Place × Node)
  working : Place
  /-- The contents of the files by their numbers. -/
  contents : List Bytes := []
deriving DecidableEq, Repr

namespace FileSystem

/-- Nothing but the working directory. -/
def empty (working : Place) : FileSystem :=
  { entries := (List.range working.size).map fun n => (working.take (n + 1), .directory), working }

def node? (fs : FileSystem) (place : Place) : Option Node :=
  if place.isEmpty then some .directory else (fs.entries.find? (·.1 = place)).map (·.2)

/-- Puts a node at a place, instead of what was there. -/
def put (fs : FileSystem) (place : Place) (node : Node) : FileSystem :=
  { fs with entries := (place, node) :: fs.entries.filter (·.1 ≠ place) }

/-- Removes what is at a place. -/
def remove (fs : FileSystem) (place : Place) : FileSystem :=
  { fs with entries := fs.entries.filter (·.1 ≠ place) }

def content (fs : FileSystem) (number : Nat) : Bytes := fs.contents.getD number []

/-- Changes the content of a file. -/
def setContent (fs : FileSystem) (number : Nat) (data : Bytes) : FileSystem :=
  { fs with contents := fs.contents.set number data }

/-- Puts a new file at a place. -/
def create (fs : FileSystem) (place : Place) : FileSystem :=
  { fs.put place (.file fs.contents.length) with contents := fs.contents ++ [[]] }

@[simp] theorem node?_put_self (fs : FileSystem) {place : Place} (node : Node) (h : place ≠ #[]) :
    (fs.put place node).node? place = some node := by
  simp [put, node?, h]

/-- Other places keep what they hold. -/
theorem node?_put_of_ne (fs : FileSystem) {place other : Place} (node : Node) (h : other ≠ place) :
    (fs.put place node).node? other = fs.node? other := by
  unfold node? put
  split
  · rfl
  · congr 1
    rw [List.find?_cons_of_neg (by simpa using fun e => h e.symm), List.find?_filter]
    congr 1
    funext entry
    by_cases he : entry.1 = other
    · simp [he, h]
    · simp [he]

/-- A file holds what was stored in it last. -/
theorem content_setContent_self (fs : FileSystem) {number : Nat} (data : Bytes)
    (h : number < fs.contents.length) : (fs.setContent number data).content number = data := by
  simp [content, setContent, List.getD_eq_getElem?_getD, h]

/-- Other files keep their contents. -/
theorem content_setContent_of_ne (fs : FileSystem) {number other : Nat} (data : Bytes)
    (h : other ≠ number) : (fs.setContent number data).content other = fs.content other := by
  simp [content, setContent, List.getD_eq_getElem?_getD, List.getElem?_set_ne (Ne.symm h)]

/-! ### Looking up paths -/

/-- The longest name that a directory can hold, in bytes. -/
def longestName : Nat := 255

/-- The longest path that can be looked up, in bytes. -/
def longestPath : Nat := 4095

/-- The place that names lead to from a place; only what is on the way has to exist. -/
def walk (fs : FileSystem) (here : Place) : List String → Except FileRefusal Place
  | [] => .ok here
  | name :: rest =>
      match fs.node? here with
      | none => .error .missing
      | some (.file _) => .error .notADirectory
      | some .directory =>
          if longestName < name.utf8ByteSize then .error .nameTooLong
          else walk fs (if name = ".." then here.pop else here.push name) rest

def locate (fs : FileSystem) (path : Path) : Except FileRefusal Place :=
  if path.text.toList.contains '\x00' then .error .nulCharacter
  else if longestPath < path.text.utf8ByteSize then .error .nameTooLong
  else fs.walk (if path.isAbsolute then #[] else fs.working) path.names

/-- Is there a directory at the path? -/
def isDirectory (fs : FileSystem) (path : Path) : Bool :=
  match fs.locate path with
  | .ok place => fs.node? place == some .directory
  | .error _ => false

/-- The working directory as a path. -/
def workingPath (fs : FileSystem) : Path := { root := "/", names := fs.working.toList }

/-- The path from the root on. -/
def absolute (fs : FileSystem) (path : Path) : Path := fs.workingPath.join path

/-! ### Reading and writing -/

/-- The place of a file or directory, and what is there. -/
def find (fs : FileSystem) (path : Path) : Except FileFault (Place × Node) :=
  match fs.locate path with
  | .error refusal => .error { refusal, path }
  | .ok place =>
      match fs.node? place with
      | none => .error { refusal := .missing, path }
      | some node => .ok (place, node)

/-- The place and the number of a file. -/
def findFile (fs : FileSystem) (path : Path) : Except FileFault (Place × Nat) :=
  match fs.find path with
  | .error fault => .error fault
  | .ok (_, .directory) => .error { refusal := .isADirectory, path }
  | .ok (place, .file number) => .ok (place, number)

def fileNumber (fs : FileSystem) (path : Path) : Except FileFault Nat :=
  (fs.findFile path).map (·.2)

def read (fs : FileSystem) (path : Path) : Except FileFault Bytes :=
  (fs.fileNumber path).map fs.content

@[simp] theorem walk_setContent (fs : FileSystem) (number : Nat) (data : Bytes) (here : Place)
    (names : List String) : (fs.setContent number data).walk here names = fs.walk here names := by
  have hnode (place : Place) : (fs.setContent number data).node? place = fs.node? place := rfl
  induction names generalizing here with
  | nil => rfl
  | cons name rest ih => simp only [walk, hnode, ih]

/-- What a file holds has no part in where it is found. -/
@[simp] theorem fileNumber_setContent (fs : FileSystem) (number : Nat)
    (data : Bytes) (path : Path) :
    (fs.setContent number data).fileNumber path = fs.fileNumber path := by
  have hlocate : (fs.setContent number data).locate path = fs.locate path := by
    simp only [locate, walk_setContent]
    rfl
  simp only [fileNumber, findFile, find, hlocate]
  rfl

/-- The largest size of a file in bytes; nothing can be read from it more often than that. -/
def largestFile : Nat := 0x7fffffffffffffff

/-- What a directory takes up, in bytes. -/
def directorySize : Nat := 4096

/-- The number of bytes that a file or directory takes up. -/
def size (fs : FileSystem) (path : Path) : Except FileFault Nat :=
  (fs.find path).map fun found => match found.2 with
    | .directory => directorySize
    | .file number => (fs.content number).length

/-- Opens a file for writing, creating it if its directory exists. Unless `keep` is set the file is
empty afterwards. -/
def openFile (fs : FileSystem) (path : Path) (keep : Bool) : Except FileFault FileSystem :=
  match fs.locate path with
  | .error refusal => .error { refusal, path }
  | .ok place =>
      match fs.node? place with
      | none => .ok (fs.create place)
      | some .directory => .error { refusal := .isADirectory, path }
      | some (.file number) => .ok (if keep then fs else fs.setContent number [])

/-- Adds bytes at the end of a file; without such a file nothing happens. -/
def append (fs : FileSystem) (path : Path) (data : Bytes) : FileSystem :=
  match fs.fileNumber path with
  | .error _ => fs
  | .ok number => fs.setContent number (fs.content number ++ data)

/-- Takes a file away from its place. -/
def unlink (fs : FileSystem) (path : Path) : Except FileFault FileSystem :=
  (fs.findFile path).map fun found => fs.remove found.1

/-- Makes one directory. -/
def makeDirectory (fs : FileSystem) (path : Path) : Except FileFault FileSystem :=
  match fs.locate path with
  | .error refusal => .error { refusal, path }
  | .ok place =>
      match fs.node? place with
      | some _ => .error { refusal := .present, path }
      | none => .ok (fs.put place .directory)

/-- Makes one directory unless it is there; the result also has the fault if that is refused. -/
def ensureDirectory (fs : FileSystem) (path : Path) : FileSystem × Option FileFault :=
  match fs.makeDirectory path with
  | .ok made => (made, none)
  | .error fault =>
      (fs, if fault.refusal ≠ .missing ∧ fs.isDirectory path then none else some fault)

/-- How many directories in a row may be missing above one that is made. -/
def mostMissing : Nat := 975

/-- Makes a directory and those above it, as far as they are missing and at most `limit` of them;
the names are those still to be made, last one first. -/
def ensureNames (fs : FileSystem) (root : String) (limit : Nat) :
    List String → FileSystem × Option FileFault
  | [] => fs.ensureDirectory { root, names := [] }
  | name :: above =>
      let path : Path := { root, names := (name :: above).reverse }
      match fs.ensureDirectory path with
      | (fs, none) => (fs, none)
      | (fs, some fault) =>
          if fault.refusal = .missing then
            if limit = 0 then (fs, some { refusal := .tooManyMissing, path })
            else
              match fs.ensureNames root (limit - 1) above with
              | (fs, none) => fs.ensureDirectory path
              | refused => refused
          else (fs, some fault)

/-- Makes a directory and those above it, as far as they are missing. What was made before a refusal
stays. -/
def ensureDirectories (fs : FileSystem) (path : Path) : FileSystem × Option FileFault :=
  fs.ensureNames path.root mostMissing path.names.reverse

/-- Everything below the root, the latest first: directories, and files with their contents. -/
def listing (fs : FileSystem) : List (Place × Option Bytes) :=
  fs.entries.map fun entry => match entry.2 with
    | .directory => (entry.1, none)
    | .file number => (entry.1, some (fs.content number))

/-- The files below the working directory, by their paths from there. -/
def files (fs : FileSystem) : List (String × Bytes) :=
  fs.listing.filterMap fun entry =>
    if fs.working.isPrefixOf entry.1 then
      entry.2.map fun data => ("/".intercalate (entry.1.toList.drop fs.working.size), data)
    else none

/-- Stores a file with the directories above it. What was made before a refusal stays. -/
def store (fs : FileSystem) (path : Path) (data : Bytes) : FileSystem × Option FileFault :=
  match fs.ensureDirectories path.parent with
  | (fs, some fault) => (fs, some fault)
  | (fs, none) =>
      match fs.openFile path false with
      | .error fault => (fs, some fault)
      | .ok fs => (fs.append path data, none)

/-- What has been made or changed since an earlier state, the oldest first. -/
def listingSince (fs before : FileSystem) : List (Place × Option Bytes) :=
  let old := before.listing
  (fs.listing.filter fun entry => !old.contains entry).reverse

/-- The files below the working directory that are new or hold something else than before. -/
def changesSince (fs before : FileSystem) : List (String × Bytes) :=
  let old := before.files
  fs.files.filter fun entry => !old.contains entry

end FileSystem

end InsertScript
