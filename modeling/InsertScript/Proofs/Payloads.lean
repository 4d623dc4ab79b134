import InsertScript.Proofs.Streaming
import InsertScript.Proofs.StoredTexts

/-!
# Payloads of text objects

A text object may hold its text, the bytes of the text, or the path of a file with these bytes. Text
and bytes are written as they are, whereas a file is opened for reading with its line ends unified.
So the three are interchangeable for a text without carriage returns, and for no other one
(`CellWriter.interchangeable_iff`).
-/

namespace InsertScript

/-- What a text object may hold of some bytes: their text, the bytes, and the path of a file with
them. -/
def Payload.ways (data : Bytes) (text : List Char) (path : Path) : List Payload :=
  [.text (.ofList text), .bytes data, .file path]

/-- What is written of a payload with this text. -/
def Payload.written (text : List Char) : Payload → List Char
  | .file _ => unifyLineEnds text
  | .text _ | .bytes _ => text

/-- Is the object a text with this payload that can be obtained? -/
structure Content.Carries (content : Content) (payload : Payload) (encoding : String) : Prop where
  isText : content.isText = true
  payload_eq : content.payload = payload
  encoding_eq : content.encoding = encoding
  available : content.unavailable = none

namespace CellWriter

variable {w : CellWriter} {column : ExportColumn} {content : Content} {data : Bytes}
  {text : List Char} {path : Path} {encoding : String} {e : Encoding}

/-- Is the object written as the literal of the whole of a text, with nothing reported, and released
once? It has to be open, and the work may not be cancelled meanwhile. -/
def WritesWhole (w : CellWriter) (column : ExportColumn) (content : Content) (text : List Char) :
    Prop :=
  ∀ s : Logged Sink, s.state.patience? = none → content.isReleased s.state.releases = false →
    ∃ t, w.writeValue column (.content content) s = .ok () t ∧
      t.state.output = s.state.output ++ (mark ++ String.ofList (w.escape text) ++ mark) ∧
      t.log = s.log ∧
      content.releaseCount t.state.releases = content.releaseCount s.state.releases + 1

/-- Does it make no difference in which way an object holds the text of some bytes? -/
def Interchangeable (w : CellWriter) (column : ExportColumn) (encoding : String) (data : Bytes)
    (text : List Char) (path : Path) : Prop :=
  ∀ payload ∈ Payload.ways data text path, ∀ content : Content, content.Carries payload encoding →
    w.WritesWhole column content text

/-- It is if the text is copied in pieces between the marks. -/
theorem writesWhole_of_copied
    (hcontent : ∀ s : Logged Sink, content.isReleased s.state.releases = false →
      w.writeContent column content s = quoting (w.copyPieces none (pieces transferSize text)) s) :
    w.WritesWhole column content text := by
  intro s hpatience hopen
  obtain ⟨t, hrun, hcopied⟩ := w.writeContentSafely_copied (hcontent s hopen)
  have hruns (n : Nat) : s.state.runsOut n = false := by rw [Sink.runsOut, hpatience]; rfl
  have hall : (s.state.add mark).allowed (pieces transferSize text) = pieces transferSize text := by
    rw [Sink.allowed, Sink.patience?_add, hpatience]
  rw [hruns] at hrun
  refine ⟨_, hrun, ?_, rfl, content.releaseCount_cons_self s.state.releases⟩
  change (t.add mark).output = _
  rw [Sink.output_add, hcopied.output, hall, flatten_pieces, Sink.output_add]
  simp only [String.append_assoc]

/-- A payload that is no file is written as its text. -/
theorem writesWhole_spells {payload : Payload} (hcolumn : column.handler?.bind (·.stream?) = none)
    (hcarries : content.Carries payload encoding)
    (hpayload : payload.Spells encoding (.ofList text)) : w.WritesWhole column content text := by
  rw [← hcarries.payload_eq, ← hcarries.encoding_eq] at hpayload
  refine writesWhole_of_copied fun s hopen => ?_
  rw [w.writeContent_open hcolumn hcarries.available hopen,
    w.writePayload_spells hcarries.isText hpayload, String.toList_ofList]

/-- A file is written as its text with unified line ends, whatever the pieces in which it is
read. -/
theorem writesWhole_file (hcolumn : column.handler?.bind (·.stream?) = none)
    (hcarries : content.Carries (.file path) encoding)
    (hencoding : Encoding.ofName? encoding = some e) (hread : w.files.read path = .ok data)
    (hdecode : e.decode data = .ok text) (hother : w.ownTarget? (.file path) = none) :
    w.WritesWhole column content (unifyLineEnds text) := by
  have hreader : (Payload.file path).reader w.files content.encoding =
      .ok (.ofBytes e data true) := by
    rw [hcarries.encoding_eq, Payload.reader, Payload.fileBytes, hread,
      Payload.encodingNamed, hencoding]
    rfl
  have hcopy : w.copyText (.ofBytes e data true) =
      w.copyPieces none (pieces transferSize (unifyLineEnds text)) := by
    rw [copyText, readPieces, TextReader.drain_ofBytes hdecode]
    rfl
  refine writesWhole_of_copied fun s hopen => ?_
  rw [w.writeContent_open hcolumn hcarries.available hopen, hcarries.payload_eq, writePayload,
    Step.bind_of_ok (Step.current_apply s)]
  simp only [hother, hcarries.isText, if_true, Option.isSome_none, Bool.false_eq_true, if_false]
  rw [hreader, Step.bind_of_ok (Step.ofExcept_ok _ s), hcopy]

/-- Texts with the same literal are the same. -/
theorem escape_injective {a b : List Char} (h : w.escape a = w.escape b) : a = b := by
  unfold escape at h
  cases hd : w.dialect? with
  | none => simpa only [hd] using h
  | some d =>
      simp only [hd] at h
      have hend : ([] : List Char).head? ≠ some Dialect.textQuote := nofun
      have hread := d.readQuoted_escape a hend
      rw [h, d.readQuoted_escape b hend] at hread
      cases hread
      rfl

/-- Two texts that an object is written as are the same text. -/
theorem WritesWhole.unique {other : List Char} (hopen : content.releasedBefore = 0)
    (h : w.WritesWhole column content text) (hother : w.WritesWhole column content other) :
    text = other := by
  have hfresh : content.isReleased [] = false := by
    simp [Content.isReleased, Content.releaseCount, hopen]
  obtain ⟨t, hrun, houtput, -, -⟩ := h { log := {}, state := {} } rfl hfresh
  obtain ⟨t', hrun', houtput', -, -⟩ := hother { log := {}, state := {} } rfl hfresh
  cases hrun.symm.trans hrun'
  have hliterals := houtput.symm.trans houtput'
  simp only [String.append_right_inj, String.append_left_inj, String.ofList_inj] at hliterals
  exact escape_injective hliterals

/-- A text, its bytes and a file with these bytes, other than the one that the script goes to: the
first two are written as the text, and the file as the text with unified line ends. So it makes no
difference in which of these ways an object holds the text exactly if there is no carriage return in
it. -/
theorem interchangeable_iff (w : CellWriter) (column : ExportColumn) (encoding : String)
    (e : Encoding) (data : Bytes) (text : List Char) (path : Path)
    (hcolumn : column.handler?.bind (·.stream?) = none)
    (hencoding : Encoding.ofName? encoding = some e) (hdecode : e.decode data = .ok text)
    (hread : w.files.read path = .ok data) (hother : w.ownTarget? (.file path) = none) :
    (∀ payload ∈ Payload.ways data text path, ∀ content : Content,
      content.Carries payload encoding →
        w.WritesWhole column content (payload.written text)) ∧
    (w.Interchangeable column encoding data text path ↔ '\r' ∉ text) := by
  have hspelled (payload : Payload) (content : Content)
      (hcarries : content.Carries payload encoding)
      (hpayload : payload.Spells encoding (.ofList text)) : w.WritesWhole column content text :=
    writesWhole_spells hcolumn hcarries hpayload
  have hbytes : (Payload.bytes data).Spells encoding (.ofList text) :=
    ⟨e, hencoding, by rw [hdecode, String.toList_ofList]⟩
  have hfile (content : Content) (hcarries : content.Carries (.file path) encoding) :
      w.WritesWhole column content (unifyLineEnds text) :=
    writesWhole_file hcolumn hcarries hencoding hread hdecode hother
  have hways : ∀ payload ∈ Payload.ways data text path, ∀ content : Content,
      content.Carries payload encoding →
        w.WritesWhole column content (payload.written text) := by
    intro payload hpayload content hcarries
    simp only [Payload.ways, List.mem_cons, List.not_mem_nil, or_false] at hpayload
    obtain rfl | rfl | rfl := hpayload
    · exact hspelled _ content hcarries rfl
    · exact hspelled _ content hcarries hbytes
    · exact hfile content hcarries
  refine ⟨hways, ?_⟩
  rw [← unifyLineEnds_eq_self_iff]
  constructor
  · intro h
    -- an object with the file cannot be written both as the text and with unified line ends
    let content : Content := { identity := 0, isText := true, payload := .file path, encoding }
    have hcarries : content.Carries (.file path) encoding := ⟨rfl, rfl, rfl, rfl⟩
    exact (hfile content hcarries).unique rfl (h _ (by simp [Payload.ways]) content hcarries)
  · intro hkept payload hpayload content hcarries
    have hwrites := hways payload hpayload content hcarries
    cases payload with
    | text s => exact hwrites
    | bytes data => exact hwrites
    | file path => rwa [Payload.written, hkept] at hwrites

/-- A text with letters of two bytes and a line feed. -/
theorem interchangeable_iff_greetings :
    let text := "grüße\nüberall".toList
    let data := Utf8.encode text
    let path := Path.ofString "greetings.txt"
    let w : CellWriter :=
      { dialect? := some .mysql, binaryDialect := .mysql, nativeFormat := true,
        skips := fun _ => false
        renderer := .literals { dialect := .mysql }
        files := ((FileSystem.empty #["work"]).store path data).1 }
    let column : ExportColumn := { column := { name := "notes", kind := .content } }
    column.handler?.bind (·.stream?) = none ∧ Encoding.ofName? "utf-8" = some .utf8 ∧
      Encoding.utf8.decode data = .ok text ∧ w.files.read path = .ok data ∧
      w.ownTarget? (.file path) = none ∧
      (∀ payload ∈ Payload.ways data text path, ∀ content : Content,
        content.Carries payload "utf-8" →
          w.WritesWhole column content (payload.written text)) ∧
      (w.Interchangeable column "utf-8" data text path ↔ '\r' ∉ text) := by
  intro text data path w column
  have hdecode : Encoding.utf8.decode data = .ok text := by decide +kernel
  have hread : w.files.read path = .ok data := by decide +kernel
  have hencoding : Encoding.ofName? "utf-8" = some .utf8 := by decide +kernel
  exact ⟨rfl, hencoding, hdecode, hread, rfl,
    interchangeable_iff w column "utf-8" .utf8 data text path rfl hencoding hdecode hread rfl⟩

/-- A file with a line end of two characters is not written as its text. -/
theorem not_interchangeable_lines :
    let text := "a\r\nb".toList
    let data : Bytes := [0x61, 0x0D, 0x0A, 0x62]
    let path := Path.ofString "lines.txt"
    let w : CellWriter :=
      { dialect? := some .generic, binaryDialect := .generic, nativeFormat := true,
        skips := fun _ => false
        renderer := .literals { dialect := .generic }
        files := ((FileSystem.empty #["work"]).store path data).1 }
    let column : ExportColumn := { column := { name := "notes", kind := .content } }
    Encoding.utf8.decode data = .ok text ∧ w.files.read path = .ok data ∧
      ¬ w.Interchangeable column "utf-8" data text path := by
  intro text data path w column
  have hdecode : Encoding.utf8.decode data = .ok text := by decide +kernel
  have hread : w.files.read path = .ok data := by decide +kernel
  have hencoding : Encoding.ofName? "utf-8" = some .utf8 := by decide +kernel
  refine ⟨hdecode, hread, fun h => ?_⟩
  let content : Content := { identity := 0, isText := true, payload := .file path }
  have hcarries : content.Carries (.file path) "utf-8" := ⟨rfl, rfl, rfl, rfl⟩
  have hwhole : w.WritesWhole column content text := h _ (by simp [Payload.ways]) content hcarries
  have hunified : w.WritesWhole column content (unifyLineEnds text) :=
    writesWhole_file rfl hcarries hencoding hread hdecode rfl
  have hsame : unifyLineEnds text = text := hunified.unique rfl hwhole
  revert hsame
  decide

end CellWriter

end InsertScript
