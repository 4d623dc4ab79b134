import InsertScript.Failure
import InsertScript.Text.Reader

/-!
# Large objects

A large object is a text or a binary value that a row refers to and that is read only when it is
written into a statement. Its payload is a text, raw bytes or a file.

A content has an identity, because the same object may occur in several cells and releasing it is an
event: the releases of a run are a list of identities, and the state of an object follows from how
often it occurs there.
-/

namespace InsertScript

/-- What a large object holds. -/
inductive Payload where
  | text (s : String)
  | bytes (data : Bytes)
  | file (path : Path)
deriving DecidableEq, Repr

/-- A large object. -/
structure Content where
  /-- Which object this is. -/
  identity : Nat
  isText : Bool
  payload : Payload
  encoding : String := "utf-8"
  /-- How often it was released before the run. -/
  releasedBefore : Nat := 0
  /-- If set, the object cannot be obtained, for this reason. -/
  unavailable : Option String := none
deriving DecidableEq, Repr

/-- The objects released in a run, the latest first. -/
abbrev Releases := List Nat

namespace Content

/-- How often the object has been released. -/
def releaseCount (c : Content) (releases : Releases) : Nat :=
  c.releasedBefore + releases.count c.identity

/-- Has the object been released? -/
def isReleased (c : Content) (releases : Releases) : Bool := c.releaseCount releases != 0

/-- Releasing an object once more counts once more. -/
@[simp] theorem releaseCount_cons_self (c : Content) (releases : Releases) :
    c.releaseCount (c.identity :: releases) = c.releaseCount releases + 1 := by
  simp [releaseCount, Nat.add_assoc]

/-- Releasing another object changes nothing. -/
theorem releaseCount_cons_of_ne {c : Content} {other : Nat} (releases : Releases)
    (h : other ≠ c.identity) : c.releaseCount (other :: releases) = c.releaseCount releases := by
  simp [releaseCount, h]

/-- The name of the object's kind. -/
def kindName (c : Content) : String := if c.isText then "TextContent" else "BinaryContent"

/-- What is shown of an object: its kind and whether it can still be read. -/
def describe (c : Content) (releases : Releases) : String :=
  c.kindName ++ if c.isReleased releases then "(released)" else "(open)"

/-- What the object holds; nothing once it has been released. -/
def payload? (c : Content) (releases : Releases) : Except Failure (Option Payload) :=
  match c.unavailable with
  | some reason => .error (.unavailable reason)
  | none => .ok (if c.isReleased releases then none else some c.payload)

/-- An object that has been released holds nothing any more. -/
theorem payload?_of_isReleased {c : Content} {releases : Releases}
    (h : c.isReleased releases = true) (available : c.unavailable = none) :
    c.payload? releases = .ok none := by
  simp [payload?, h, available]

end Content

namespace Payload

/-- The encoding of a name. A name is reported as unknown also if it is that of an encoding which is
not supported. -/
def encodingNamed (name : String) : Except Failure Encoding :=
  match Encoding.ofName? name with
  | some encoding => .ok encoding
  | none => .error (.unknownEncoding name)

def fileBytes (files : FileSystem) (path : Path) : Except Failure Bytes :=
  (files.read path).mapError .file

/-- The payload as characters. The line ends of a file become line feeds, those of the other
payloads stay. -/
def reader (files : FileSystem) (encoding : String) : Payload → Except Failure TextReader
  | .text s => .ok (.ofText s.toList)
  | .bytes data =>
      if data.isEmpty then .ok (.ofText [])
      else do
        let encoding ← encodingNamed encoding
        let text ← (encoding.decode data).mapError .undecodable
        return .ofText text
  | .file path => do
      let data ← fileBytes files path
      let encoding ← encodingNamed encoding
      return .ofBytes encoding data true

def allBytes (files : FileSystem) (encoding : String) : Payload → Except Failure Bytes
  | .text s => do
      let encoding ← encodingNamed encoding
      (encoding.encode s.toList).mapError .unencodable
  | .bytes data => .ok data
  | .file path => fileBytes files path

def allText (files : FileSystem) (encoding : String) (payload : Payload) :
    Except Failure String := do
  let reader ← payload.reader files encoding
  let (characters, _) ← reader.readAll.mapError .undecodable
  return String.ofList characters

/-- The payload in parts of the given numbers of characters; a part without a number is all that is
left. -/
def readParts (files : FileSystem) (encoding : String) (sizes : List (Option Nat))
    (payload : Payload) : Except Failure (List String) := do
  let reader ← payload.reader files encoding
  let parts ← (reader.readParts sizes).mapError .undecodable
  return parts.map String.ofList

/-- The length in the payload's own units: characters of a text, bytes otherwise. -/
def length (files : FileSystem) : Payload → Except Failure Nat
  | .text s => .ok s.length
  | .bytes data => .ok data.length
  | .file path => (files.size path).mapError .file

end Payload

end InsertScript
