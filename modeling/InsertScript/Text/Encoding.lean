import InsertScript.Text.Quoted
import InsertScript.Text.Utf8

/-!
# Text encodings

How characters are stored as bytes: UTF-8, the same after a byte order mark, Latin-1 and ASCII. The
many other encodings are left out, and their names are unknown here.

* `Encoding.encode` and `Encoding.decode` convert a whole text.
* A `Decoder` takes the bytes piece by piece and keeps what is left of an unfinished character. The
  positions in its faults count from the first byte it had not finished before.
-/

namespace InsertScript

/-- The encodings that are supported. Texts in any other encoding are neither read nor written. -/
inductive Encoding where
  | utf8
  /-- UTF-8 whose text starts with a byte order mark; a reader takes text without the mark too. -/
  | utf8Marked
  | latin1
  | ascii
deriving DecidableEq, Repr

namespace Encoding

/-- The names under which each encoding is known. -/
def names : List (String × Encoding) := [
  ("utf-8", utf8), ("utf8", utf8), ("u8", utf8), ("utf", utf8), ("cp65001", utf8),
  ("utf-8-sig", utf8Marked),
  ("latin-1", latin1), ("latin1", latin1), ("latin", latin1), ("l1", latin1),
    ("iso-8859-1", latin1),
  ("iso8859-1", latin1), ("8859", latin1), ("cp819", latin1),
  ("ascii", ascii), ("us-ascii", ascii), ("646", ascii)]

/-- The encoding with a name; letter case and the choice between hyphen, low line and blank are
free. There is none for the names of encodings that are not supported, any more than for names that
mean nothing. -/
def ofName? (name : String) : Option Encoding :=
  let key := name.map fun c => if c = '_' || c = ' ' then '-' else c.toLower
  (names.find? (·.1 == key)).map (·.2)

/-- The byte order mark. -/
def mark : Bytes := [0xEF, 0xBB, 0xBF]

/-- The name of the conversion that reports a fault. -/
def label : Encoding → String
  | utf8 | utf8Marked => "utf-8"
  | latin1 => "latin-1"
  | ascii => "ascii"

/-- The number of code points that an encoding of single bytes can hold. -/
def singleByteLimit : Encoding → Nat
  | latin1 => 256
  | _ => 128

end Encoding

/-! ### Faults -/

/-- Bytes that are no text in the encoding. -/
structure DecodingFault where
  label : String
  start : Nat
  width : Nat
  byte : UInt8
  reason : String
deriving DecidableEq, Repr

/-- The wording of a decoding fault: one byte is shown, several are only located. -/
def DecodingFault.message (fault : DecodingFault) : String :=
  if fault.width = 1 then
    let shown := String.ofList (Hex.padded 2 fault.byte.toNat)
    s!"'{fault.label}' codec can't decode byte 0x{shown} in position {fault.start}: {fault.reason}"
  else
    let last := fault.start + fault.width - 1
    s!"'{fault.label}' codec can't decode bytes in position {fault.start}-{last}: {fault.reason}"

/-- Characters that the encoding cannot hold. -/
structure EncodingFault where
  label : String
  start : Nat
  width : Nat
  character : Char
  reason : String
deriving DecidableEq, Repr

/-- The wording of an encoding fault. -/
def EncodingFault.message (fault : EncodingFault) : String :=
  if fault.width = 1 then
    let shown := String.ofList (Quoted.hexEscape fault.character.toNat)
    s!"'{fault.label}' codec can't encode character '{shown}' in position {fault.start}: " ++
      fault.reason
  else
    let last := fault.start + fault.width - 1
    s!"'{fault.label}' codec can't encode characters in position {fault.start}-{last}: " ++
      fault.reason

/-! ### Whole texts -/

namespace Encoding

/-- Single bytes for characters below the limit; the first run of other characters is a fault. -/
def encodeSingle (encoding : Encoding) (text : List Char) : Except EncodingFault Bytes :=
  let limit := encoding.singleByteLimit
  let fits := fun (c : Char) => decide (c.toNat < limit)
  match text.dropWhile fits with
  | [] => .ok (text.map fun c => UInt8.ofNat c.toNat)
  | c :: rest =>
      let misfits := (c :: rest).takeWhile fun c => !fits c
      .error { label := encoding.label, start := (text.takeWhile fits).length,
               width := misfits.length, character := c,
               reason := s!"ordinal not in range({limit})" }

def encode (encoding : Encoding) (text : List Char) : Except EncodingFault Bytes :=
  match encoding with
  | utf8 => .ok (Utf8.encode text)
  | utf8Marked => .ok (mark ++ Utf8.encode text)
  | latin1 | ascii => encoding.encodeSingle text

/-- A UTF-8 fault as a fault of an encoding. -/
def ofUtf8Fault (fault : Utf8.Fault) : DecodingFault :=
  { label := utf8.label, start := fault.start, width := fault.width, byte := fault.byte,
    reason := fault.reason.message }

/-- A character for every byte below the limit. -/
def decodeSingle (encoding : Encoding) (data : Bytes) : Except DecodingFault (List Char) :=
  let fits := fun (b : UInt8) => decide (b.toNat < encoding.singleByteLimit)
  match data.dropWhile fits with
  | [] => .ok (data.map fun b => Char.ofNat b.toNat)
  | b :: _ =>
      .error { label := encoding.label, start := (data.takeWhile fits).length,
               width := 1, byte := b,
               reason := s!"ordinal not in range({encoding.singleByteLimit})" }

/-- Bytes without a byte order mark at their head. -/
def dropMark (data : Bytes) : Bytes := if mark.isPrefixOf data then data.drop mark.length else data

/-- The text of some bytes. -/
def decode (encoding : Encoding) (data : Bytes) : Except DecodingFault (List Char) :=
  match encoding with
  | utf8 => (Utf8.decode data).mapError ofUtf8Fault
  | utf8Marked => (Utf8.decode (dropMark data)).mapError ofUtf8Fault
  | latin1 | ascii => encoding.decodeSingle data

end Encoding

/-! ### Piece by piece -/

/-- A reader of bytes in an encoding. -/
structure Decoder where
  encoding : Encoding
  /-- The bytes that are read but not yet turned into characters. -/
  pending : Bytes := []
  /-- May a byte order mark still come? -/
  atStart : Bool := true
deriving DecidableEq, Repr

namespace Decoder

/-- Reads UTF-8 after the pending bytes of a character; at the end nothing may be pending. -/
def feedUtf8 (d : Decoder) (pending data : Bytes) (isLast : Bool) :
    Except DecodingFault (List Char × Decoder) :=
  match Utf8.scan pending pending.length [] data with
  | .error fault => .error (Encoding.ofUtf8Fault fault)
  | .ok (text, left) =>
      match if isLast then Utf8.fault? left (pending.length + data.length) else none with
      | some fault => .error (Encoding.ofUtf8Fault fault)
      | none => .ok (text, { d with pending := left, atStart := false })

/-- The characters that a piece of data completes. The last piece has `isLast` set. -/
def feed (d : Decoder) (data : Bytes) (isLast : Bool) :
    Except DecodingFault (List Char × Decoder) :=
  match d.encoding with
  | .utf8 => d.feedUtf8 d.pending data isLast
  | .utf8Marked =>
      if d.atStart then
        let data := d.pending ++ data
        if data.length < Encoding.mark.length && data.isPrefixOf Encoding.mark then
          .ok ([], { d with pending := data })
        else d.feedUtf8 [] (Encoding.dropMark data) isLast
      else d.feedUtf8 d.pending data isLast
  | .latin1 | .ascii => (d.encoding.decodeSingle data).map fun text => (text, d)

end Decoder

end InsertScript
