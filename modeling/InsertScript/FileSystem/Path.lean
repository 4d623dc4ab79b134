/-!
# Paths

A path is a root and the names on the way from it. Reading a path drops what says nothing (empty
names between slashes, single dots) and keeps double dots, because what they mean depends on the
file system. Writing the path again therefore gives its plainest spelling.
-/

namespace InsertScript

/-- A path: the root is empty for a relative path, and one or two slashes otherwise. -/
structure Path where
  root : String := ""
  names : List String
deriving DecidableEq, Repr, Inhabited

namespace Path

/-- The slashes that make a text an absolute path: one, except that exactly two stay two. -/
def rootOf : List Char → String
  | '/' :: '/' :: '/' :: _ => "/"
  | '/' :: '/' :: _ => "//"
  | '/' :: _ => "/"
  | _ => ""

/-- The pieces of a text between slashes; `piece` is the one being collected, last character
first. -/
def piecesFrom (piece : List Char) : List Char → List String
  | [] => [String.ofList piece.reverse]
  | c :: rest =>
      if c = '/' then String.ofList piece.reverse :: piecesFrom [] rest
      else piecesFrom (c :: piece) rest

/-- The path that a text denotes. -/
def ofString (s : String) : Path :=
  { root := rootOf s.toList,
    names := (piecesFrom [] s.toList).filter fun name => name ≠ "" && name ≠ "." }

/-- The spelling of a path; the path without root and names is a dot. -/
def text (p : Path) : String :=
  if p.root = "" ∧ p.names = [] then "." else p.root ++ "/".intercalate p.names

/-- Does the path start at the root? -/
def isAbsolute (p : Path) : Bool := p.root ≠ ""

/-- The second path seen from the first. -/
def join (p q : Path) : Path :=
  if q.isAbsolute then q else { p with names := p.names ++ q.names }

/-- The path of the directory that holds the last name. -/
def parent (p : Path) : Path := { p with names := p.names.dropLast }

/-- The last name, empty if there is none. -/
def name (p : Path) : String := p.names.getLast?.getD ""

/-- A file name without its ending: all before the last dot, unless that dot is its first or last
character. -/
def withoutEnding (name : List Char) : List Char :=
  let back := name.reverse
  let ending := back.takeWhile (· ≠ '.')
  let stem := (back.drop (ending.length + 1)).reverse
  if ending.length = name.length || ending.isEmpty || stem.isEmpty then name else stem

/-- The last name without its ending. -/
def stem (p : Path) : String := String.ofList (withoutEnding p.name.toList)

@[simp] theorem parent_names (p : Path) : p.parent.names = p.names.dropLast := rfl

/-- A relative path is looked up in the directory in front. -/
theorem join_of_relative {p q : Path} (h : q.root = "") :
    p.join q = { p with names := p.names ++ q.names } := by
  simp [join, isAbsolute, h]

end Path

end InsertScript
