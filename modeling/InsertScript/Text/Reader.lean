import InsertScript.Numeral.Rounded
import InsertScript.Text.Encoding

/-!
# Reading text from stored bytes

A `TextReader` turns stored bytes into characters as they are asked for. It takes the bytes in
pieces of `pieceSize`, so a byte that is no text is noticed only when its piece is due: everything
before that piece has been handed out by then. Who asks for more characters than that gets them in
larger pieces, whose size follows from the number of bytes that the characters of the last piece
took.

* `read n` hands out `n` characters, fewer only at the end.
* `readLine` hands out a line with its line end.
* A reader made with `unify` turns each of the three line ends into a line feed; in any case it
  keeps a carriage return back until it knows the next character, so a line end is never torn.

Having come to the end of the bytes is not final: `refresh` tells the reader what the bytes are now,
and it goes on behind those it has taken. `Before` is the order in which the states of a reader
follow each other as long as the bytes stay the same; every line that is handed out goes up in it.
-/

namespace InsertScript

/-- The number of bytes that are taken at once. -/
def pieceSize : Nat := 8192

/-- Every line end becomes a line feed. `done` has the characters so far, last one first. -/
def unifyLineEndsAux (done : List Char) : List Char → List Char
  | [] => done.reverse
  | '\r' :: '\n' :: rest => unifyLineEndsAux ('\n' :: done) rest
  | '\r' :: rest => unifyLineEndsAux ('\n' :: done) rest
  | c :: rest => unifyLineEndsAux (c :: done) rest

/-- Every line end becomes a line feed. -/
def unifyLineEnds (text : List Char) : List Char := unifyLineEndsAux [] text

/-- A text that is being read. -/
structure TextReader where
  /-- Characters that can be handed out. -/
  ready : List Char
  decoder : Decoder
  /-- Bytes that have not been taken yet. -/
  rest : Bytes
  /-- The number of bytes that have been taken. -/
  taken : Nat := 0
  /-- The numbers of bytes and characters of the last piece. -/
  lastPiece : Nat × Nat := (0, 0)
  /-- Is a carriage return kept back? -/
  heldReturn : Bool := false
  /-- Do line ends become line feeds? -/
  unify : Bool := false
deriving DecidableEq, Repr

namespace TextReader

/-- A reader of characters that need no decoding. -/
def ofText (text : List Char) : TextReader :=
  { ready := text, decoder := { encoding := .utf8 }, rest := [] }

/-- A reader of bytes in an encoding. -/
def ofBytes (encoding : Encoding) (data : Bytes) (unify : Bool) : TextReader :=
  { ready := [], decoder := { encoding }, rest := data, unify }

/-- Line ends as the reader hands them out. -/
def settle (r : TextReader) (text : List Char) : List Char :=
  if r.unify then unifyLineEnds text else text

/-- What is still to be handed out, as a measure. -/
def debt (r : TextReader) : Nat := 2 * r.rest.length + r.heldReturn.toNat

/-- The size of the piece to be taken when `wanted` characters are asked for. -/
def nextSize (r : TextReader) (wanted : Nat) : Nat :=
  let (bytes, characters) := r.lastPiece
  max pieceSize
    (if characters < bytes ∧ characters ≠ 0 then Numeral.scaled bytes characters wanted else wanted)

/-- Every piece has at least the usual size. -/
theorem pieceSize_le_nextSize (r : TextReader) (wanted : Nat) : pieceSize ≤ r.nextSize wanted :=
  Nat.le_max_left ..

/-- What is ready after a piece of `bytes` bytes that completed some text. -/
def receive (r : TextReader) (bytes : Nat) (text : List Char) (decoder : Decoder) : TextReader :=
  let text := if r.heldReturn && !text.isEmpty then '\r' :: text else text
  let held := if text.isEmpty then r.heldReturn else text.getLast? == some '\r'
  let text := r.settle (if held then text.dropLast else text)
  { r with ready := r.ready ++ text, decoder, heldReturn := held, rest := r.rest.drop bytes,
           taken := r.taken + bytes, lastPiece := (bytes, text.length) }

/-- What is ready at the end of the bytes: the carriage return that was kept back, if there is
one. -/
def release (r : TextReader) : Option TextReader :=
  if r.heldReturn then
    some { r with ready := r.ready ++ r.settle ['\r'], heldReturn := false, lastPiece := (0, 1) }
  else none

/-- Takes the next piece, `wanted` characters being asked for. Nothing if there is none left and
nothing is kept back. -/
def fill (r : TextReader) (wanted : Nat) : Except DecodingFault (Option TextReader) :=
  let piece := r.rest.take (r.nextSize wanted)
  match r.decoder.feed piece piece.isEmpty with
  | .error fault => .error fault
  | .ok (text, decoder) =>
      .ok (if piece.isEmpty then r.release else some (r.receive piece.length text decoder))

/-- Taking a piece leaves less to be handed out. -/
theorem debt_fill {r s : TextReader} {wanted : Nat} (h : r.fill wanted = .ok (some s)) :
    s.debt < r.debt := by
  unfold fill at h
  dsimp only at h
  split at h
  · simp at h
  · rename_i text decoder _
    simp only [Except.ok.injEq] at h
    split at h
    · unfold release at h
      split at h
      · rename_i hheld
        simp only [Option.some.injEq] at h
        subst h
        simp [debt, hheld]
      · simp at h
    · rename_i hpiece
      simp only [Option.some.injEq] at h
      subst h
      have hsize := pieceSize_le_nextSize r wanted
      have hpos : 0 < (r.rest.take (r.nextSize wanted)).length := by
        cases hr : r.rest.take (r.nextSize wanted) with
        | nil => simp [hr] at hpiece
        | cons => simp
      have hle : (r.rest.take (r.nextSize wanted)).length ≤ r.rest.length :=
        List.length_take_le' _ _
      generalize (r.rest.take (r.nextSize wanted)).length = bytes at hpos hle ⊢
      have hheld : (r.receive bytes text decoder).heldReturn.toNat ≤ 1 := Bool.toNat_le _
      have hrest : (r.receive bytes text decoder).rest.length = r.rest.length - bytes := by
        simp [receive]
      unfold debt
      omega

/-- Takes pieces until `n` characters are ready or nothing is left. -/
def prepare (n : Nat) (r : TextReader) : Except DecodingFault TextReader :=
  let found := (r.ready.take n).length
  if n ≤ found then .ok r
  else
    match _h : r.fill (n - found) with
    | .error fault => .error fault
    | .ok none => .ok r
    | .ok (some next) => prepare n next
termination_by r.debt
decreasing_by exact debt_fill (by assumption)

/-- Hands out `n` characters, or all that are left. -/
def read (r : TextReader) (n : Nat) : Except DecodingFault (List Char × TextReader) :=
  match prepare n r with
  | .error fault => .error fault
  | .ok r => .ok (r.ready.take n, { r with ready := r.ready.drop n })

/-- Hands out everything that is left. The remaining bytes are decoded as one piece. -/
def readAll (r : TextReader) : Except DecodingFault (List Char × TextReader) :=
  match r.decoder.feed r.rest true with
  | .error fault => .error fault
  | .ok (text, decoder) =>
      let text := if r.heldReturn then '\r' :: text else text
      .ok (r.ready ++ r.settle text,
        { r with
          ready := [], decoder, rest := [], taken := r.taken + r.rest.length, heldReturn := false })

/-- Hands out a number of characters, or all that are left where no number is given. -/
def readPart (r : TextReader) : Option Nat → Except DecodingFault (List Char × TextReader)
  | some n => r.read n
  | none => r.readAll

/-- Hands out parts one after the other. -/
def readParts (r : TextReader) : List (Option Nat) → Except DecodingFault (List (List Char))
  | [] => .ok []
  | size? :: more =>
      match r.readPart size? with
      | .error fault => .error fault
      | .ok (part, next) => (next.readParts more).map (part :: ·)

/-- Everything that can be read, and the fault that reading ends in. `done` has the characters so
far, last one first. -/
def drainFrom (done : List Char) (r : TextReader) : List Char × Option DecodingFault :=
  let done := r.ready.reverseAux done
  match _h : fill { r with ready := [] } 0 with
  | .error fault => (done.reverse, some fault)
  | .ok none => (done.reverse, none)
  | .ok (some next) => drainFrom done next
termination_by r.debt
decreasing_by
  have h := debt_fill _h
  exact h

/-- Everything that can be read, and the fault that reading ends in. -/
def drain (r : TextReader) : List Char × Option DecodingFault := drainFrom [] r

/-- A reader of what the bytes are now. -/
def refresh (r : TextReader) (data : Bytes) : TextReader := { r with rest := data.drop r.taken }

/-- A reader of bytes to which more have been added. -/
def extend (r : TextReader) (more : Bytes) : TextReader := { r with rest := r.rest ++ more }

/-! ### Lines -/

/-- The rest of a line at the head of a text, and the text behind it; if the line does not end
there, all its characters. `line` has the characters of the line so far; both are given last
character first. -/
def cutLine (line : List Char) : List Char → List Char × Option (List Char)
  | [] => (line, none)
  | '\r' :: '\n' :: rest => ('\n' :: '\r' :: line, some rest)
  | c :: rest => if c = '\n' ∨ c = '\r' then (c :: line, some rest) else cutLine (c :: line) rest

/-- Hands out the rest of a line, whose characters so far are given last one first. -/
def readLineFrom (line : List Char) (r : TextReader) :
    Except DecodingFault (List Char × TextReader) :=
  match cutLine line r.ready with
  | (line, some rest) => .ok (line.reverse, { r with ready := rest })
  | (line, none) =>
      match _h : fill { r with ready := [] } 0 with
      | .error fault => .error fault
      | .ok none => .ok (line.reverse, { r with ready := [] })
      | .ok (some next) => readLineFrom line next
termination_by r.debt
decreasing_by
  have h := debt_fill _h
  exact h

/-- Hands out a line with its line end. The last line may have none; an empty line is the end. -/
def readLine (r : TextReader) : Except DecodingFault (List Char × TextReader) := readLineFrom [] r

/-! ### The order of the states -/

/-- Has the first reader handed out more than the second, or taken more pieces? -/
def Before (s r : TextReader) : Prop :=
  s.debt < r.debt ∨ s.debt = r.debt ∧ s.ready.length < r.ready.length

/-- Has the first reader handed out as much as the second, or taken more pieces? -/
def AtMost (s r : TextReader) : Prop :=
  s.debt < r.debt ∨ s.debt = r.debt ∧ s.ready.length ≤ r.ready.length

theorem AtMost.trans_before {s r t : TextReader} (h : s.AtMost r) (k : r.Before t) :
    s.Before t := by
  unfold AtMost at h
  unfold Before at k ⊢
  omega

theorem AtMost.trans {s r t : TextReader} (h : s.AtMost r) (k : r.AtMost t) : s.AtMost t := by
  unfold AtMost at h k ⊢
  omega

/-- Going up in the order is well-founded. -/
theorem Before.lex {s r : TextReader} (h : s.Before r) :
    Prod.Lex (· < ·) (· < ·) (s.debt, s.ready.length) (r.debt, r.ready.length) :=
  Prod.lex_def.2 h

/-- No character is lost or made when a line is cut off. -/
theorem length_cutLine (line text : List Char) :
    (cutLine line text).1.length + ((cutLine line text).2.getD []).length
      = line.length + text.length := by
  fun_induction cutLine line text with
  | case1 => rfl
  | case2 line rest => simp; omega
  | case3 line c rest hfollow hend => simp; omega
  | case4 line c rest hfollow hend ih => simpa [Nat.add_assoc, Nat.add_comm 1] using ih

/-- Reading the rest of a line goes up in the order, as far as something was read. -/
theorem readLineFrom_atMost {line text : List Char} {r s : TextReader}
    (h : readLineFrom line r = .ok (text, s)) :
    s.debt < r.debt ∨
      s.debt = r.debt ∧ text.length + s.ready.length = line.length + r.ready.length := by
  fun_induction readLineFrom line r with
  | case1 line r cut rest hcut =>
    simp only [Except.ok.injEq, Prod.mk.injEq] at h
    obtain ⟨rfl, rfl⟩ := h
    have hlength := length_cutLine line r.ready
    rw [hcut] at hlength
    exact .inr ⟨rfl, by simpa using hlength⟩
  | case2 => simp at h
  | case3 line r cut hcut hfill =>
    simp only [Except.ok.injEq, Prod.mk.injEq] at h
    obtain ⟨rfl, rfl⟩ := h
    have hlength := length_cutLine line r.ready
    rw [hcut] at hlength
    exact .inr ⟨rfl, by simpa using hlength⟩
  | case4 line r cut hcut next hfill ih =>
    have hdebt := debt_fill hfill
    have hrest := ih h
    have hsame : debt { r with ready := [] } = r.debt := rfl
    omega

/-- Reading a line never goes back. -/
theorem readLine_atMost {text : List Char} {r s : TextReader} (h : r.readLine = .ok (text, s)) :
    s.AtMost r := by
  rcases readLineFrom_atMost h with hdebt | ⟨hdebt, hlength⟩
  · exact .inl hdebt
  · rw [List.length_nil] at hlength
    exact .inr ⟨hdebt, by omega⟩

/-- Reading a line goes up in the order. -/
theorem readLine_before {text : List Char} {r s : TextReader} (h : r.readLine = .ok (text, s))
    (hne : text ≠ []) : s.Before r := by
  have hpos := List.length_pos_iff.2 hne
  rcases readLineFrom_atMost h with hdebt | ⟨hdebt, hlength⟩
  · exact .inl hdebt
  · rw [List.length_nil] at hlength
    exact .inr ⟨hdebt, by omega⟩

end TextReader

end InsertScript
