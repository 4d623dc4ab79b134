import InsertScript.Proofs.Tokens
import InsertScript.Proofs.Writing

/-!
# Texts that are copied in pieces

A large text is copied into its literal piece by piece, and the monitor is asked before every piece
and once more at the end. `writeValue_streamed` says what is left of a text when the monitor has
patience for `j` enquiries: the literal of its first `j` pieces. The invariant of the loop is
`copyPieces_none`.

Escaping a text character by character, a dialect cannot tell how it was cut; so a literal that ends
early is a literal still.
-/

namespace InsertScript

namespace Sink

/-! ### Patience -/

/-- How many more enquiries will be answered with no, if there is an end to them. -/
def patience? (s : Sink) : Option Nat :=
  match s.monitor? with
  | none => none
  | some m => if m.isCancelled then some 0 else m.patience?

/-- Has someone cancelled the work? -/
def isCancelled (s : Sink) : Bool := s.monitor?.any (·.isCancelled)

/-- The sink after an enquiry. -/
def asked (s : Sink) : Sink := { s with monitor? := s.monitor?.map (·.enquire.2) }

@[simp] theorem output_asked (s : Sink) : s.asked.output = s.output := rfl

@[simp] theorem patience?_add (s : Sink) (text : String) : (s.add text).patience? = s.patience? :=
  rfl

@[simp] theorem patience?_addAll (s : Sink) (texts : List String) :
    (s.addAll texts).patience? = s.patience? := by
  rw [patience?, monitor?_addAll, ← patience?]

/-- The answer is yes when the patience is used up. -/
theorem enquire_apply (s : Logged Sink) :
    enquire s = .ok (decide (s.state.patience? = some 0)) { s with state := s.state.asked } := by
  obtain ⟨log, ⟨output, flow, releases, monitor?⟩⟩ := s
  rcases monitor? with _ | ⟨rowsDone, isCancelled, patience?⟩
  · rfl
  · cases isCancelled with
    | true => rfl
    | false =>
        rcases patience? with _ | _ | n <;> simp [enquire, asked, Sink.patience?, Monitor.enquire]

/-- An enquiry uses patience up. -/
theorem patience?_asked (s : Sink) : s.asked.patience? = s.patience?.map (· - 1) := by
  obtain ⟨output, flow, releases, monitor?⟩ := s
  rcases monitor? with _ | ⟨rowsDone, isCancelled, patience?⟩
  · rfl
  · cases isCancelled with
    | true => rfl
    | false =>
        rcases patience? with _ | _ | n <;>
          simp [asked, Sink.patience?, Monitor.enquire, Monitor.cancel]

/-- The work is cancelled after an enquiry that found no patience, and only then. -/
theorem isCancelled_asked (s : Sink) : s.asked.isCancelled = decide (s.patience? = some 0) := by
  obtain ⟨output, flow, releases, monitor?⟩ := s
  rcases monitor? with _ | ⟨rowsDone, isCancelled, patience?⟩
  · rfl
  · cases isCancelled with
    | true => rfl
    | false =>
        rcases patience? with _ | _ | n <;>
          simp [asked, Sink.patience?, Sink.isCancelled, Monitor.enquire, Monitor.cancel]

/-- Without an end to its patience a monitor is as it was. -/
theorem asked_of_patient {s : Sink} (h : s.patience? = none) : s.asked = s := by
  obtain ⟨output, flow, releases, monitor?⟩ := s
  rcases monitor? with _ | ⟨rowsDone, isCancelled, patience?⟩
  · rfl
  · cases isCancelled with
    | true => simp [Sink.patience?] at h
    | false =>
        obtain rfl : patience? = none := by simpa [Sink.patience?] using h
        rfl

end Sink

/-! ### Pieces of a text -/

theorem fill_ofText (text : List Char) :
    TextReader.fill { TextReader.ofText text with ready := [] } 0 = .ok none := by
  simp [TextReader.fill, TextReader.ofText, Decoder.feed, Decoder.feedUtf8, Utf8.scan, Utf8.fault?,
    TextReader.release]

/-- A reader of characters hands all of them out. -/
theorem drain_ofText (text : List Char) : (TextReader.ofText text).drain = (text, none) := by
  have hready : (TextReader.ofText text).ready = text := rfl
  rw [TextReader.drain, TextReader.drainFrom]
  split
  · rename_i hfill
    rw [fill_ofText] at hfill
    cases hfill
  · simp [hready]
  · rename_i hfill
    rw [fill_ofText] at hfill
    cases hfill

/-- Does a payload that is no file hold this text? -/
def Payload.Spells (encoding text : String) : Payload → Prop
  | .text s => s = text
  | .bytes data => ∃ e, Encoding.ofName? encoding = some e ∧ e.decode data = .ok text.toList
  | .file _ => False

theorem decode_nil (encoding : Encoding) : encoding.decode [] = .ok [] := by
  cases encoding <;> rfl

/-- A payload that spells a text is read as the text. -/
theorem Payload.reader_of_spells {payload : Payload} {encoding text : String}
    (h : payload.Spells encoding text) (files : FileSystem) :
    payload.reader files encoding = .ok (.ofText text.toList) := by
  cases payload with
  | text s => rw [← h]; rfl
  | bytes data =>
      obtain ⟨e, hname, hdecode⟩ := h
      -- no bytes are no text, and the encoding is not even looked at
      by_cases hempty : data.isEmpty = true
      · rw [List.isEmpty_iff.1 hempty, decode_nil, Except.ok.injEq] at hdecode
        simp [Payload.reader, hempty, ← hdecode]
      · rw [Payload.reader, if_neg hempty, Payload.encodingNamed, hname]
        change ((e.decode data).mapError Failure.undecodable >>= fun text =>
          pure (TextReader.ofText text)) = _
        rw [hdecode]
        rfl
  | file path => exact h.elim

namespace Sink

/-- Is there less patience than for so many enquiries? -/
def runsOut (s : Sink) (enquiries : Nat) : Bool := s.patience?.any (· < enquiries)

/-- The items that there is patience for. -/
def allowed {α : Type} (s : Sink) (items : List α) : List α :=
  match s.patience? with
  | none => items
  | some n => items.take n

end Sink

namespace CellWriter

variable {w : CellWriter}

@[simp] theorem escape_nil : w.escape [] = [] := by
  unfold escape
  cases w.dialect? <;> rfl

@[simp] theorem escape_append (a b : List Char) : w.escape (a ++ b) = w.escape a ++ w.escape b := by
  unfold escape
  cases w.dialect? with
  | none => rfl
  | some d => exact d.escape_append a b

/-- A text may be escaped in pieces. -/
theorem escape_flatten (parts : List (List Char)) :
    w.escape parts.flatten = (parts.map w.escape).flatten := by
  induction parts with
  | nil => simp
  | cons piece rest ih => simp [ih]

theorem checkCancelled_of_impatient {s : Logged Sink} (h : s.state.patience? = some 0) :
    checkCancelled s = .error .cancelled { s with state := s.state.asked } := by
  rw [checkCancelled, Step.bind_of_ok (Sink.enquire_apply s), h]
  rfl

theorem checkCancelled_of_patient {s : Logged Sink} (h : s.state.patience? ≠ some 0) :
    checkCancelled s = .ok () { s with state := s.state.asked } := by
  rw [checkCancelled, Step.bind_of_ok (Sink.enquire_apply s), decide_eq_false h]
  rfl

/-- What copying pieces of a text comes to: the pieces that there was patience for are written, and
the work is cancelled if there was not enough for all of them and the end. -/
structure Copied (w : CellWriter) (parts : List (List Char)) (s t : Sink) : Prop where
  output : t.output = s.output ++ String.ofList (w.escape (s.allowed parts).flatten)
  releases : t.releases = s.releases
  isCancelled : t.isCancelled = s.runsOut (parts.length + 1)
  monitor : s.patience? = none → t.monitor? = s.monitor?

/-- What remains to be copied after one piece is copied with the patience that remains. -/
theorem Copied.cons {piece : List Char} {rest : List (List Char)} {s t : Sink}
    (h : s.patience? ≠ some 0)
    (hrest : Copied w rest (s.asked.add (String.ofList (w.escape piece))) t) :
    Copied w (piece :: rest) s t := by
  have hpatience : (s.asked.add (String.ofList (w.escape piece))).patience?
      = s.patience?.map (· - 1) := by rw [Sink.patience?_add, Sink.patience?_asked]
  obtain ⟨houtput, hreleases, hcancelled, hmonitor⟩ := hrest
  -- without an end of the patience the enquiry changed nothing; otherwise it took one
  rcases hs : s.patience? with _ | _ | n
  · refine ⟨?_, hreleases, ?_, fun _ => ?_⟩
    · rw [houtput]
      simp [Sink.allowed, hpatience, hs, String.append_assoc]
    · rw [hcancelled]
      simp [Sink.runsOut, hpatience, hs]
    · rw [hmonitor (by rw [hpatience, hs]; rfl), Sink.monitor?_add, Sink.asked_of_patient hs]
  · exact absurd hs h
  · refine ⟨?_, hreleases, ?_, by simp [hs]⟩
    · rw [houtput]
      simp [Sink.allowed, hpatience, hs, String.append_assoc]
    · rw [hcancelled]
      simp [Sink.runsOut, hpatience, hs]

/-- Pieces are copied as long as there is patience. -/
theorem copyPieces_none (parts : List (List Char)) (s : Logged Sink) :
    ∃ t, w.copyPieces none parts s
        = (if s.state.runsOut (parts.length + 1) then .error .cancelled { s with state := t }
           else .ok () { s with state := t }) ∧
      Copied w parts s.state t := by
  induction parts generalizing s with
  | nil =>
      -- the monitor is asked once more at the end of the text
      refine ⟨s.state.asked, ?_, ?_, rfl, ?_, fun h => by rw [Sink.asked_of_patient h]⟩
      · by_cases h : s.state.patience? = some 0
        · rw [copyPieces, Step.bind_of_error (checkCancelled_of_impatient h)]
          simp [Sink.runsOut, h]
        · rw [copyPieces, Step.bind_of_ok (checkCancelled_of_patient h)]
          rcases hs : s.state.patience? with _ | _ | n
          · simp [Sink.runsOut, hs]
          · exact absurd hs h
          · simp [Sink.runsOut, hs]
      · cases hs : s.state.patience? <;> simp [Sink.allowed, hs]
      · rw [Sink.isCancelled_asked]
        rcases hs : s.state.patience? with _ | _ | n <;> simp [Sink.runsOut, hs]
  | cons piece rest ih =>
      by_cases h : s.state.patience? = some 0
      · refine ⟨s.state.asked, ?_, ?_, rfl, ?_, by simp [h]⟩
        · rw [copyPieces, Step.bind_of_error (checkCancelled_of_impatient h)]
          simp [Sink.runsOut, h]
        · simp [Sink.allowed, h]
        · rw [Sink.isCancelled_asked]
          simp [Sink.runsOut, h]
      · obtain ⟨t, hrun, hcopied⟩ := ih
          { s with state := s.state.asked.add (String.ofList (w.escape piece)) }
        have hall := hcopied.cons h
        -- the rest is cancelled exactly when the whole is
        refine ⟨t, ?_, hall⟩
        have hruns := hcopied.isCancelled.symm.trans hall.isCancelled
        rw [copyPieces, Step.bind_of_ok (checkCancelled_of_patient h),
          Step.bind_of_ok (Sink.write_apply _ _), hrun, hruns]

/-! ### From the payload to the cell -/

theorem quoting_of_ok {step : Step Sink Unit} {s t : Logged Sink}
    (h : step { s with state := s.state.add mark } = .ok () t) :
    quoting step s = .ok () { t with state := t.state.add mark } := by
  rw [quoting, Step.bind_of_ok (Sink.write_apply mark s),
    Step.ensuring_of_ok h (Sink.write_apply mark t)]

/-- A literal is closed even if its text ends in a failure. -/
theorem quoting_of_error {step : Step Sink Unit} {s t : Logged Sink} {failure : Failure}
    (h : step { s with state := s.state.add mark } = .error failure t) :
    quoting step s = .error failure { t with state := t.state.add mark } := by
  rw [quoting, Step.bind_of_ok (Sink.write_apply mark s),
    Step.ensuring_of_error h (Sink.write_apply mark t)]

theorem copyText_ofText (text : List Char) :
    w.copyText (.ofText text) = w.copyPieces none (pieces transferSize text) := by
  rw [copyText, readPieces, drain_ofText]

/-- A payload that is no file is copied in pieces between two marks. -/
theorem writePayload_spells {content : Content} {payload : Payload} {text : String}
    (htext : content.isText = true) (h : payload.Spells content.encoding text) (s : Logged Sink) :
    w.writePayload content payload s
      = quoting (w.copyPieces none (pieces transferSize text.toList)) s := by
  -- only a file can be the one that the script goes to
  have hown : w.ownTarget? payload = none := by
    cases payload with
    | text => rfl
    | bytes => rfl
    | file => exact h.elim
  rw [writePayload, Step.bind_of_ok (Step.current_apply s)]
  simp only [hown, htext, if_true, Option.isSome_none, Bool.false_eq_true, if_false]
  rw [Payload.reader_of_spells h, Step.bind_of_ok (Step.ofExcept_ok _ s), copyText_ofText]

/-- The content of a column without a handler for it is its payload, as long as it is open. -/
theorem writeContent_open {column : ExportColumn} {content : Content} {s : Logged Sink}
    (hcolumn : column.handler?.bind (·.stream?) = none) (havailable : content.unavailable = none)
    (hopen : content.isReleased s.state.releases = false) :
    w.writeContent column content s = w.writePayload content content.payload s := by
  have hpayload : content.payload? s.state.releases = .ok (some content.payload) := by
    simp [Content.payload?, havailable, hopen]
  unfold writeContent
  simp only [hcolumn]
  rw [Step.bind_of_ok (Step.current_apply s), hpayload, Step.bind_of_ok (Step.ofExcept_ok _ s)]

/-- What is reported when the work is cancelled in the middle of a content. -/
def cancelledRecord (column : ExportColumn) : LogRecord :=
  { level := .warning, origin
    message := s!"Failed to write content of column {column.name}: {Failure.cancelled.message}" }

/-- The beginning of a text that there is patience for. -/
def reached (s : Sink) (text : String) : List Char :=
  match s.patience? with
  | none => text.toList
  | some n => text.toList.take (transferSize * n)

theorem flatten_allowed_pieces (s : Sink) (text : String) :
    (s.allowed (pieces transferSize text.toList)).flatten = reached s text := by
  unfold Sink.allowed reached
  cases s.patience? with
  | none => exact flatten_pieces transferSize text.toList
  | some n => exact flatten_take_pieces (by decide) n text.toList

/-- How a content that is copied in pieces comes out: its literal, perhaps cut short, a record if it
was, and one more release. -/
theorem writeContentSafely_copied {column : ExportColumn} {content : Content}
    {parts : List (List Char)} {s : Logged Sink}
    (hcontent : w.writeContent column content s = quoting (w.copyPieces none parts) s) :
    ∃ t, w.writeContentSafely column content s = .ok ()
        { log := if s.state.runsOut (parts.length + 1) then s.log.add (cancelledRecord column)
            else s.log
          state := { t.add mark with releases := content.identity :: s.state.releases } } ∧
      Copied w parts (s.state.add mark) t := by
  obtain ⟨t, hrun, hcopied⟩ := w.copyPieces_none parts { s with state := s.state.add mark }
  refine ⟨t, ?_, hcopied⟩
  have hreleases : t.releases = s.state.releases := hcopied.releases
  change w.copyPieces none _ _ = (if s.state.runsOut _ then _ else _) at hrun
  unfold writeContentSafely
  -- a copy that is cancelled still closes its literal, and its failure goes no further than the log
  by_cases hout : s.state.runsOut (parts.length + 1) = true
  · rw [if_pos hout] at hrun ⊢
    rw [Step.bind_of_ok (Step.attempt_of_error (hcontent.trans (quoting_of_error hrun)))]
    dsimp only
    rw [Step.bind_of_ok (Step.report_apply _ _ _ _), Sink.release, Step.change_apply]
    simp only [Sink.releases_add, hreleases, cancelledRecord]
  · rw [if_neg hout] at hrun ⊢
    rw [Step.bind_of_ok (Step.attempt_of_ok (hcontent.trans (quoting_of_ok hrun)))]
    dsimp only
    rw [Sink.release, Step.change_apply]
    simp only [Sink.releases_add, hreleases]

/-- The content of a column with a payload that is no file. -/
theorem writeContentSafely_spells {column : ExportColumn} {content : Content} {text : String}
    {s : Logged Sink} (hcolumn : column.handler?.bind (·.stream?) = none)
    (htext : content.isText = true) (hpayload : content.payload.Spells content.encoding text)
    (havailable : content.unavailable = none)
    (hopen : content.isReleased s.state.releases = false) :
    ∃ t, w.writeContentSafely column content s = .ok ()
        { log := if s.state.runsOut ((pieces transferSize text.toList).length + 1)
            then s.log.add (cancelledRecord column) else s.log
          state := { t.add mark with releases := content.identity :: s.state.releases } } ∧
      Copied w (pieces transferSize text.toList) (s.state.add mark) t :=
  w.writeContentSafely_copied ((w.writeContent_open hcolumn havailable hopen).trans
    (w.writePayload_spells htext hpayload s))

/-- A text of whatever length is written as the literal of its beginning that the monitor has
patience for. The literal is closed and stands for this beginning wherever it was cut, it is
reported when the work was cancelled and only then, and the content is released once. -/
theorem writeValue_streamed (w : CellWriter) (column : ExportColumn) (content : Content)
    (text : String) (s : Logged Sink) (hcolumn : column.handler?.bind (·.stream?) = none)
    (htext : content.isText = true) (hpayload : content.payload.Spells content.encoding text)
    (havailable : content.unavailable = none)
    (hopen : content.isReleased s.state.releases = false) :
    ∃ t, w.writeValue column (.content content) s = .ok () t ∧
      t.state.output = s.state.output ++
        (mark ++ String.ofList (w.escape (reached s.state text)) ++ mark) ∧
      (∀ parts : List (List Char), w.escape parts.flatten = (parts.map w.escape).flatten) ∧
      (∀ d, w.dialect? = some d →
        d.Reads (mark ++ String.ofList (w.escape (reached s.state text)) ++ mark).toList
          [.text (.ofList (reached s.state text))]) ∧
      t.state.isCancelled
        = s.state.runsOut ((text.length + transferSize - 1) / transferSize + 1) ∧
      t.log = (if t.state.isCancelled then s.log.add (cancelledRecord column) else s.log) ∧
      content.releaseCount t.state.releases = content.releaseCount s.state.releases + 1 := by
  obtain ⟨t, hrun, hcopied⟩ :=
    w.writeContentSafely_spells hcolumn htext hpayload havailable hopen
  have hcount : (pieces transferSize text.toList).length
      = (text.length + transferSize - 1) / transferSize := length_pieces (by decide) text.toList
  have hcancelled : t.isCancelled
      = s.state.runsOut ((pieces transferSize text.toList).length + 1) := hcopied.isCancelled
  refine ⟨_, hrun, ?_, w.escape_flatten, ?_, by rw [← hcount]; exact hcancelled, ?_,
    content.releaseCount_cons_self s.state.releases⟩
  · have hoken := flatten_allowed_pieces (s.state.add mark) text
    change (t.add mark).output = _
    rw [Sink.output_add, hcopied.output, hoken, Sink.output_add]
    simp only [String.append_assoc]
    rfl
  · intro d hd
    have hescape : w.escape (reached s.state text) = d.escape (reached s.state text) := by
      rw [escape, hd]
    have := d.reads_literal (.ofList (reached s.state text))
    rw [Dialect.literal, String.toList_ofList, String.toList_ofList] at this
    rw [hescape, String.toList_append, String.toList_append, String.toList_ofList]
    exact this
  · change _ = (if t.isCancelled then _ else _)
    rw [hcancelled]

/-- Backslashes on both sides of the place where the text is cut. -/
theorem writeValue_streamed_backslashes :
    let w : CellWriter :=
      { dialect? := some .mysql, binaryDialect := .mysql, nativeFormat := true
        skips := fun _ => false, renderer := .literals { dialect := .mysql }, files := .empty #[] }
    let column : ExportColumn := { column := { name := "notes", kind := .content } }
    let text := String.ofList (List.replicate 2001 '\\')
    let content : Content := { identity := 0, isText := true, payload := .text text }
    let s : Logged Sink := { log := {}, state := { monitor? := some { patience? := some 1 } } }
    column.handler?.bind (·.stream?) = none ∧ content.isText = true ∧
      content.payload.Spells content.encoding text ∧ content.unavailable = none ∧
      content.isReleased s.state.releases = false ∧
      ∃ t, w.writeValue column (.content content) s = .ok () t ∧
        t.state.output = s.state.output ++
          (mark ++ String.ofList (w.escape (reached s.state text)) ++ mark) ∧
        (∀ parts : List (List Char), w.escape parts.flatten = (parts.map w.escape).flatten) ∧
        (∀ d, w.dialect? = some d →
          d.Reads (mark ++ String.ofList (w.escape (reached s.state text)) ++ mark).toList
            [.text (.ofList (reached s.state text))]) ∧
        t.state.isCancelled
          = s.state.runsOut ((text.length + transferSize - 1) / transferSize + 1) ∧
        t.log = (if t.state.isCancelled then s.log.add (cancelledRecord column) else s.log) ∧
        content.releaseCount t.state.releases = content.releaseCount s.state.releases + 1 := by
  intro w column text content s
  exact ⟨rfl, rfl, rfl, rfl, by decide,
    writeValue_streamed w column content text s rfl rfl rfl rfl (by decide)⟩

end CellWriter

end InsertScript
