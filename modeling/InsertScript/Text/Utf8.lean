import InsertScript.Text.Hex

/-!
# UTF-8

Writing of characters as UTF-8, and a reader that takes one byte at a time, so that the pieces in
which the bytes arrive make no difference to the characters.

Between bytes the reader holds the bytes of the unfinished character. A byte either completes it, or
is kept with it, or shows that the character cannot be completed; the reader then says how many of
the held bytes are to blame. A surrogate, which UTF-8 cannot hold, is refused at its third byte or
at the end, not at its second.

`clip` shortens a text to a number of bytes; `clip_eq_self` says that a text within the limit stays
as it is.
-/

namespace InsertScript.Utf8

def encode (text : List Char) : Bytes := text.flatMap String.utf8EncodeChar

@[simp] theorem encode_nil : encode [] = [] := rfl

@[simp] theorem encode_append (a b : List Char) : encode (a ++ b) = encode a ++ encode b :=
  List.flatMap_append

/-- What is left of a text of which `limit` bytes are kept. A character that is cut through becomes
the replacement character. -/
def clip (limit : Nat) : List Char → List Char
  | [] => []
  | c :: rest =>
      if c.utf8Size ≤ limit then c :: clip (limit - c.utf8Size) rest
      else if limit = 0 then []
      else ['\uFFFD']

/-- A text of few enough bytes is kept as it is. -/
theorem clip_eq_self {limit : Nat} {text : List Char} (h : (encode text).length ≤ limit) :
    clip limit text = text := by
  induction text generalizing limit with
  | nil => rfl
  | cons c rest ih =>
    simp only [encode, List.flatMap_cons, List.length_append, String.length_utf8EncodeChar] at h ih
    have hrest := @ih (limit - c.utf8Size) (by omega)
    simp [clip, hrest, show c.utf8Size ≤ limit by omega]

/-- Why bytes are no UTF-8. -/
inductive Reason where
  | invalidStart
  | invalidContinuation
  | unexpectedEnd
deriving DecidableEq, Repr

/-- The wording of the reasons. -/
def Reason.message : Reason → String
  | .invalidStart => "invalid start byte"
  | .invalidContinuation => "invalid continuation byte"
  | .unexpectedEnd => "unexpected end of data"

/-- What a byte does to the unfinished character. -/
inductive Step where
  /-- These bytes are held now. -/
  | hold (pending : Bytes)
  /-- The character is complete. -/
  | complete (c : Char)
  /-- The first `width` of the held bytes and this one cannot start a character. -/
  | refuse (width : Nat) (reason : Reason)
deriving DecidableEq, Repr

/-- Does the byte continue a character? -/
def isContinuation (b : UInt8) : Bool := 0x80 ≤ b && b ≤ 0xBF

/-- Do two bytes start a surrogate? -/
def startsSurrogate (first second : UInt8) : Bool := first == 0xED && 0xA0 ≤ second && second ≤ 0xBF

/-- May `second` follow `first`, a surrogate being let through? Excluded are overlong forms and code
points above the last one. -/
def allowsSecond (first second : UInt8) : Bool :=
  isContinuation second &&
    !(first == 0xE0 && second < 0xA0) && !(first == 0xF0 && second < 0x90) &&
    !(first == 0xF4 && 0x90 ≤ second)

/-- The number of bytes of a character with this first byte. -/
def width (first : UInt8) : Nat :=
  if first < 0x80 then 1
  else if 0xC2 ≤ first && first ≤ 0xDF then 2
  else if 0xE0 ≤ first && first ≤ 0xEF then 3
  else if 0xF0 ≤ first && first ≤ 0xF4 then 4
  else 0

/-- The six payload bits of a continuation byte. -/
def payload (b : UInt8) : Nat := b.toNat % 64

/-- One byte, after the held ones. -/
def step (pending : Bytes) (b : UInt8) : Step :=
  match pending with
  | [] =>
      if b < 0x80 then .complete (Char.ofNat b.toNat)
      else if width b = 0 then .refuse 1 .invalidStart
      else .hold [b]
  | [first] =>
      if !allowsSecond first b then .refuse 1 .invalidContinuation
      else if width first = 2 then .complete (Char.ofNat (first.toNat % 32 * 64 + payload b))
      else .hold [first, b]
  | [first, second] =>
      if startsSurrogate first second then .refuse 1 .invalidContinuation
      else if !isContinuation b then .refuse 2 .invalidContinuation
      else if width first = 3 then
        .complete (Char.ofNat ((first.toNat % 16 * 64 + payload second) * 64 + payload b))
      else .hold [first, second, b]
  | first :: second :: third :: _ =>
      if !isContinuation b then .refuse 3 .invalidContinuation
      else
        .complete (Char.ofNat
          (((first.toNat % 8 * 64 + payload second) * 64 + payload third) * 64 + payload b))

/-- Where and why reading failed: the offset and number of the bytes to blame, the first of them,
and the reason. -/
structure Fault where
  start : Nat
  width : Nat
  byte : UInt8
  reason : Reason
deriving DecidableEq, Repr

/-- The characters of some bytes after the held ones; `position` counts the bytes so far, the held
ones included, and `done` has the characters so far, last one first. The result holds the characters
and the bytes of an unfinished one. -/
def scan (pending : Bytes) (position : Nat) (done : List Char) :
    Bytes → Except Fault (List Char × Bytes)
  | [] => .ok (done.reverse, pending)
  | b :: rest =>
      match step pending b with
      | .hold pending => scan pending (position + 1) done rest
      | .complete c => scan [] (position + 1) (c :: done) rest
      | .refuse width reason =>
          .error
            { start := position - pending.length, width, byte := (pending.head?).getD b, reason }

/-- The fault of an unfinished character at the end, if there is one, `position` bytes having been
read. -/
def fault? (pending : Bytes) (position : Nat) : Option Fault :=
  match pending with
  | [] => none
  | [first, second] =>
      if startsSurrogate first second then
        some { start := position - 2, width := 1, byte := first, reason := .invalidContinuation }
      else some { start := position - 2, width := 2, byte := first, reason := .unexpectedEnd }
  | first :: more =>
      some { start := position - (more.length + 1), width := more.length + 1, byte := first,
             reason := .unexpectedEnd }

/-- The characters of a complete text. -/
def decode (data : Bytes) : Except Fault (List Char) :=
  match scan [] 0 [] data with
  | .error fault => .error fault
  | .ok (text, pending) =>
      match fault? pending data.length with
      | some fault => .error fault
      | none => .ok text

/-- Characters already read stay in front. -/
theorem scan_eq (pending : Bytes) (position : Nat) (done : List Char) (data : Bytes) :
    scan pending position done data =
      (scan pending position [] data).map fun r => (done.reverse ++ r.1, r.2) := by
  induction data generalizing pending position done with
  | nil => simp [scan, Except.map]
  | cons b rest ih =>
    simp only [scan]
    cases hstep : step pending b with
    | hold p => simpa using ih p (position + 1) done
    | complete c =>
      simp only
      rw [ih [] (position + 1) (c :: done), ih [] (position + 1) [c]]
      cases scan [] (position + 1) [] rest <;> simp [Except.map]
    | refuse w r => simp [Except.map]

/-- Bytes that arrive in two pieces are read as in one. -/
theorem scan_append (pending : Bytes) (position : Nat) (done : List Char) (a b : Bytes) :
    scan pending position done (a ++ b) =
      (scan pending position done a).bind fun r =>
        scan r.2 (position + a.length) r.1.reverse b := by
  induction a generalizing pending position done with
  | nil => simp [scan, Except.bind]
  | cons x rest ih =>
    simp only [List.cons_append, scan]
    cases step pending x with
    | hold p => simp [ih, Nat.add_assoc, Nat.add_comm 1]
    | complete c => simp [ih, Nat.add_assoc, Nat.add_comm 1]
    | refuse w r => simp [Except.bind]

end InsertScript.Utf8
