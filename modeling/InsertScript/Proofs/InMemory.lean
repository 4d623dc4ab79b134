import InsertScript.Proofs.Files
import InsertScript.Proofs.Logs

/-!
# Scripts that do not read what they write

A script that goes to a file is the one that is made without a file, as long as no large object of
the rows is read from that file. What the files hold matters where the rows are read from only: the
delimited file, and the files of large objects (`FileSystem.Shares`).

`Exporter.aimed` is an export with other files, and with the number of the file that it goes to. Two
of them write the same rows (`Exporter.rows_aimed`), so they write the same script
(`Exporter.script_aimed`).
-/

namespace InsertScript

open Step (Respects)

/-! ### What is read -/

namespace FileSystem

/-- Does a path lead to the same file, and does it hold the same? -/
structure Shares (files files' : FileSystem) (path : Path) : Prop where
  fileNumber : files'.fileNumber path = files.fileNumber path
  content : ∀ number, files.fileNumber path = .ok number →
    files'.content number = files.content number

variable {files files' : FileSystem} {path : Path}

theorem Shares.read (h : files.Shares files' path) : files'.read path = files.read path := by
  unfold FileSystem.read
  rw [h.fileNumber]
  cases hnumber : files.fileNumber path with
  | error fault => rfl
  | ok number => exact congrArg Except.ok (h.content number hnumber)

/-- What is added to one file is not seen in another. -/
theorem shares_append {other : Path} {number : Nat} (hnumber : files.fileNumber path = .ok number)
    (hother : files.fileNumber other ≠ .ok number) (data : Bytes) :
    files.Shares (files.append path data) other := by
  refine ⟨files.fileNumber_append path data other, ?_⟩
  intro found hfound
  have hne : found ≠ number := fun heq => hother (heq ▸ hfound)
  rw [append_of_fileNumber hnumber, content_setContent_of_ne files _ hne]

end FileSystem

open FileSystem (Shares)

/-- Is a payload read alike from two file systems, and not from the file with this number? -/
def Payload.SharedBy (files files' : FileSystem) (target? : Option Nat) : Payload → Prop
  | .file path =>
      files.Shares files' path ∧ ∀ number, target? = some number →
        files.fileNumber path ≠ .ok number
  | _ => True

/-- Are the large objects among the values read alike, and not from the file with this number? -/
def Value.AllShared (files files' : FileSystem) (target? : Option Nat) (values : List Value) :
    Prop :=
  ∀ content, .content content ∈ values → content.payload.SharedBy files files' target?

namespace CellWriter

variable {w : CellWriter} {files files' : FileSystem} {target? : Option Nat}

/-- The writer with other files, and another file that the script goes to. -/
def aimed (w : CellWriter) (files : FileSystem) (target? : Option Nat) : CellWriter :=
  { w with files, target? }

theorem ownTarget?_aimed {payload : Payload} (h : payload.SharedBy files files' target?) :
    (w.aimed files target?).ownTarget? payload = none := by
  cases payload with
  | text s => rfl
  | bytes data => rfl
  | file path =>
      cases target? with
      | none => rfl
      | some number =>
          have hnumber : (files.fileNumber path).toOption ≠ some number :=
            fun heq => h.2 number rfl (FileSystem.toOption_fileNumber_eq_some.1 heq)
          simp [ownTarget?, aimed, hnumber]

theorem reader_shared {payload : Payload} (h : payload.SharedBy files files' target?)
    (encoding : String) : payload.reader files' encoding = payload.reader files encoding := by
  cases payload with
  | text s => rfl
  | bytes data => rfl
  | file path => simp only [Payload.reader, Payload.fileBytes, h.1.read]

theorem allBytes_shared {payload : Payload} (h : payload.SharedBy files files' target?)
    (encoding : String) : payload.allBytes files' encoding = payload.allBytes files encoding := by
  cases payload with
  | text s => rfl
  | bytes data => rfl
  | file path => simp only [Payload.allBytes, Payload.fileBytes, h.1.read]

theorem copyPieces_aimed (ending : Option Failure) (parts : List (List Char)) :
    (w.aimed files target?).copyPieces ending parts =
      (w.aimed files' none).copyPieces ending parts := by
  induction parts with
  | nil => rfl
  | cons piece parts ih =>
      rw [copyPieces, copyPieces, ih]
      rfl

/-- The payload of an object is read from files that share it. -/
theorem writePayload_aimed {content : Content} {payload : Payload}
    (h : payload.SharedBy files files' target?) :
    (w.aimed files target?).writePayload content payload =
      (w.aimed files' none).writePayload content payload := by
  have hcopy (reader : TextReader) : (w.aimed files target?).copyText reader =
      (w.aimed files' none).copyText reader :=
    copyPieces_aimed _ _
  have hfiles : (w.aimed files target?).files = files ∧ (w.aimed files' none).files = files' :=
    ⟨rfl, rfl⟩
  unfold writePayload
  rw [ownTarget?_aimed h, ownTarget?_of_none (w := w.aimed files' none) rfl]
  refine bind_congr fun sink => ?_
  simp only [Option.isSome_none, Bool.false_eq_true, if_false, hfiles, hcopy, reader_shared h,
    allBytes_shared h]
  rfl

theorem payload_of_payload? {content : Content} {releases : Releases} {payload : Payload}
    (h : content.payload? releases = .ok (some payload)) : payload = content.payload := by
  unfold Content.payload? at h
  split at h
  · cases h
  · split at h
    · cases h
    · cases h
      rfl

/-- An object that both file systems hold alike is written as if the script did not go to a file. -/
theorem writeContentSafely_aimed {content : Content}
    (h : content.payload.SharedBy files files' target?) (column : ExportColumn) :
    (w.aimed files target?).writeContentSafely column content
      = (w.aimed files' none).writeContentSafely column content := by
  have hwrite : (w.aimed files target?).writeContent column content
      = (w.aimed files' none).writeContent column content := by
    unfold writeContent
    split
    · rfl
    · refine bind_congr fun sink => ?_
      cases hpayload : content.payload? sink.releases with
      | error failure =>
          have hthrow (next : Option Payload → Step Sink Unit) :
              (Step.ofExcept (.error failure) >>= next) = throw failure := rfl
          rw [hthrow, hthrow]
      | ok payload? =>
          have hnext (next : Option Payload → Step Sink Unit) :
              (Step.ofExcept (.ok payload?) >>= next) = next payload? := rfl
          rw [hnext, hnext]
          cases payload? with
          | none => rfl
          | some payload =>
              cases payload_of_payload? hpayload
              exact writePayload_aimed h
  rw [writeContentSafely, hwrite]
  rfl

theorem writeValue_aimed {value : Value} (hworking : files'.working = files.working)
    (h : ∀ content, value = .content content → content.payload.SharedBy files files' target?)
    (column : ExportColumn) :
    (w.aimed files target?).writeValue column value =
      (w.aimed files' none).writeValue column value := by
  cases value with
  | content content => exact writeContentSafely_aimed (h content rfl) column
  | path path =>
      have habsolute : files'.absolute path = files.absolute path := by
        rw [FileSystem.absolute, FileSystem.absolute, FileSystem.workingPath,
          FileSystem.workingPath, hworking]
      change Sink.writeAll ["@", (files.absolute path).text] =
        Sink.writeAll ["@", (files'.absolute path).text]
      rw [habsolute]
  | _ => rfl

/-- The cells of a row are the same whatever file they go to. -/
theorem writeCells_aimed (hworking : files'.working = files.working)
    {cells : List (ExportColumn × Value)}
    (h : Value.AllShared files files' target? (cells.map Prod.snd)) (started : Bool) :
    (w.aimed files target?).writeCells started cells =
      (w.aimed files' none).writeCells started cells := by
  induction cells generalizing started with
  | nil => rfl
  | cons cell rest ih =>
      obtain ⟨column, value⟩ := cell
      have hrest := ih fun content hcontent => h content (List.mem_cons_of_mem _ hcontent)
      have hshared (content : Content) (hcontent : value = .content content) :
          content.payload.SharedBy files files' target? := h content (hcontent ▸ List.mem_cons_self)
      have hvalue := writeValue_aimed (w := w) hworking hshared column
      rw [writeCells_cons, writeCells_cons, hrest, hrest, hvalue]
      rfl

end CellWriter

/-! ### Rows and scripts -/

/-- Are the large objects of the rows read alike, and not from the file with this number? -/
def Delivery.AllShared (files files' : FileSystem) (target? : Option Nat)
    (deliveries : List Delivery) : Prop :=
  ∀ cells, .row cells ∈ deliveries → Value.AllShared files files' target? cells

namespace Exporter

variable {σ : Type} {e : Exporter} {files files' : FileSystem} {target? : Option Nat}

/-- The export with other files, and another file that the script goes to. -/
def aimed (e : Exporter) (files : FileSystem) (target? : Option Nat) : Exporter :=
  { e with files, target? }

theorem row_aimed (hworking : files'.working = files.working) {cells : Row}
    (h : Value.AllShared files files' target? cells) :
    (e.aimed files target?).row cells = (e.aimed files' none).row cells := by
  refine bind_congr fun state => ?_
  have hcells :
      Value.AllShared files files' target? ((state.session.columns.zip cells).map Prod.snd) := by
    intro content hcontent
    obtain ⟨⟨column, value⟩, hcell, heq⟩ := List.mem_map.1 hcontent
    exact h content (heq ▸ (List.of_mem_zip hcell).2)
  have hwrite :
      ((e.cellWriter state.renderer).aimed files target?).writeRow state.session.columns cells
      = ((e.cellWriter state.renderer).aimed files' none).writeRow state.session.columns cells :=
    CellWriter.writeCells_aimed hworking hcells false
  refine bind_congr fun _ => bind_congr fun _ => ?_
  change (onSink (((e.cellWriter state.renderer).aimed files target?).writeRow state.session.columns
    cells) >>= _) = _
  rw [hwrite]
  rfl

theorem rows_aimed (hworking : files'.working = files.working) {deliveries : List Delivery}
    (h : Delivery.AllShared files files' target? deliveries) :
    (e.aimed files target?).rows deliveries = (e.aimed files' none).rows deliveries := by
  induction deliveries with
  | nil => rfl
  | cons delivery rest ih =>
      have hrest := ih fun cells hcells => h cells (List.mem_cons_of_mem _ hcells)
      cases delivery with
      | row cells =>
          have hrow : (e.aimed files target?).row cells = (e.aimed files' none).row cells :=
            row_aimed hworking (h cells List.mem_cons_self)
          have htake : (e.aimed files target?).takeRow cells =
              (e.aimed files' none).takeRow cells := by
            rw [takeRow, takeRow, hrow]
          rw [Exporter.rows, Exporter.rows, hrest, htake]
      | failure f => rfl
      | cancellation => rw [Exporter.rows, Exporter.rows, hrest]

/-- Two exports of one source write the same script if they write the rows that it delivers
alike. -/
theorem script_aimed (hworking : files'.working = files.working) {source : RowSource σ}
    {s : Logged (Sourced σ)}
    (h : ∀ name t deliveries t', e.prepare source s = .ok name t →
      source.start ⟨t.log, t.state.2⟩ = .ok deliveries t' →
        Delivery.AllShared files files' target? deliveries) :
    ((e.aimed files target?).script source).run s =
      ((e.aimed files' none).script source).run s := by
  rw [script_eq, script_eq]
  refine Step.run_bind_congr (fun _ => rfl) fun name t hprepare => ?_
  rw [rowsOf, rowsOf, bind_assoc, bind_assoc]
  refine Step.run_bind_congr (fun _ => rfl) fun deliveries u hstart => ?_
  obtain ⟨t', hsource, rfl⟩ := Step.ok_of_zoom hstart
  rw [rows_aimed hworking (h name t deliveries t' hprepare hsource)]
  rfl

end Exporter

/-! ### Sources -/

variable {files files' : FileSystem} {target? : Option Nat}

namespace Query

/-- What is set apart is no file. -/
theorem sharedBy_convert {threshold : Int} {identity : Nat} {value : Value} {content : Content}
    (h : ∀ c, value = .content c → c.payload.SharedBy files files' target?)
    (hcontent : convert threshold identity value = .content content) :
    content.payload.SharedBy files files' target? := by
  cases value with
  | content c => exact h content hcontent
  | bytes data => cases hcontent; trivial
  | view data => cases hcontent; trivial
  | text s =>
      rw [convert] at hcontent
      split at hcontent
      · cases hcontent; trivial
      · cases hcontent
  | _ => cases hcontent

theorem allShared_convertCells (threshold : Int) (identity : Nat) {row : Row}
    (h : Value.AllShared files files' target? row) :
    Value.AllShared files files' target? (convertCells threshold identity row).1 := by
  induction row generalizing identity with
  | nil => exact h
  | cons value row ih =>
      intro content hcontent
      rcases List.mem_cons.1 hcontent with hfirst | hrest
      · exact sharedBy_convert (fun c hc => h c (hc ▸ List.mem_cons_self)) hfirst.symm
      · exact ih _ (fun c hc => h c (List.mem_cons_of_mem _ hc)) content hrest

/-- The values that are set apart on the way are in no file, so they are shared as well. -/
theorem allShared_deliver (threshold : Int) (identity : Nat) {rows : List (Except Failure Row)}
    (h : ∀ row, .ok row ∈ rows → Value.AllShared files files' target? row) :
    Delivery.AllShared files files' target? (deliver threshold identity rows) := by
  induction rows generalizing identity with
  | nil => exact fun cells hcells => absurd hcells List.not_mem_nil
  | cons first rows ih =>
      intro cells hcells
      cases first with
      | error failure => cases List.mem_singleton.1 hcells
      | ok row =>
          rcases List.mem_cons.1 hcells with hfirst | hrest
          · cases hfirst
            exact allShared_convertCells threshold identity (h row List.mem_cons_self)
          · exact ih _ (fun row hrow => h row (List.mem_cons_of_mem _ hrow)) cells hrest

theorem allShared_start {q : Query} {s t : Logged QueryState} {deliveries : List Delivery}
    (hstart : q.start s = .ok deliveries t)
    (h : ∀ row, .ok row ∈ s.state.client.database.rows → Value.AllShared files files' target? row) :
    Delivery.AllShared files files' target? deliveries := by
  obtain ⟨_, u, hexecuted, hstart⟩ := Step.ok_of_bind hstart
  cases hstart
  rw [← database_of_ensureExecuted hexecuted] at h
  exact allShared_deliver _ _ h

end Query

namespace CsvFile

variable {csv : CsvFile}

/-- The rows of a file are the same as long as the file is. -/
theorem source_shared (h : files.Shares files' csv.path) :
    csv.source files' = csv.source files := by
  have hopen : csv.openFile files' = csv.openFile files := by
    unfold openFile
    rw [h.fileNumber]
    cases hnumber : files.fileNumber csv.path with
    | error fault => rfl
    | ok number =>
        change (do
          let encoding ← Payload.encodingNamed csv.encoding
          let delimiter ← csv.delimiterChar
          return { file := number, delimiter
                   reader := .ofBytes encoding (files'.content number) false }
            : Except Failure Cursor) = _
        rw [h.content number hnumber]
        rfl
  have hbegin : csv.begin files' = csv.begin files := by rw [begin, begin, hopen]
  have hcolumns : csv.columns files' = csv.columns files := by
    rw [columns, columns, readHeader, readHeader, hopen]
  rw [source, source, start, start, hbegin, hcolumns]

/-- The large objects of a file are texts. -/
theorem allShared_start {files₀ : FileSystem} {s t : Logged CsvHeader} {deliveries : List Delivery}
    (h : csv.start files₀ s = .ok deliveries t) :
    Delivery.AllShared files files' target? deliveries := by
  have hsource := congrArg RowSource.start (csv.source_threshold files₀ csv.threshold)
  change csv.start files₀ = csv.gather files₀ >>= fun rows =>
    pure (Query.deliver csv.threshold 0 rows) at hsource
  rw [hsource] at h
  obtain ⟨rows, u, hgather, h⟩ := Step.ok_of_bind h
  cases h
  obtain ⟨_, _, -, hgather⟩ := Step.ok_of_bind hgather
  obtain ⟨cursor, _, -, hgather⟩ := Step.ok_of_bind hgather
  cases hgather
  refine Query.allShared_deliver _ _ ?_
  intro row hrow content hcontent
  exact absurd rfl (ne_content_of_mem_plainRows hrow hcontent content)

end CsvFile

namespace Exporter

variable {e : Exporter}

/-- The script of a file is the one that is made without writing it to a file. -/
theorem csv_script_aimed (target? : Option Nat)
    (hworking : files'.working = files.working) {csv : CsvFile}
    (h : files.Shares files' csv.path) (s : Logged (Sourced CsvHeader)) :
    ((e.aimed files target?).script (csv.source files)).run s
      = ((e.aimed files' none).script (csv.source files')).run s := by
  rw [csv.source_shared h]
  exact script_aimed hworking fun name t deliveries t' _ hstart => csv.allShared_start hstart

/-- The script of a query is the one that is made without writing it to a file, as long as the
database hands out nothing that is read from this file. -/
theorem query_script_aimed (hworking : files'.working = files.working) {q : Query}
    {s : Logged (Sourced QueryState)}
    (h : ∀ row, .ok row ∈ s.state.2.client.database.rows →
      Value.AllShared files files' target? row) :
    ((e.aimed files target?).script q.source).run s =
      ((e.aimed files' none).script q.source).run s := by
  refine script_aimed hworking ?_
  intro name t deliveries t' hprepare hstart
  obtain ⟨log, columns, found?, u, u', hcolumns, hfind, hbegun⟩ := prepare_inv hprepare
  obtain ⟨columns, v, hread, hmap⟩ := Step.ok_of_bind hcolumns
  cases hmap
  -- the database is still the one from the beginning
  have hdatabase : t.state.2.client.database = s.state.2.client.database := by
    rw [hbegun, state_of_findTable hfind, (Query.columns_inv hread).2]
  exact q.allShared_start hstart fun row hrow => h row (hdatabase ▸ hrow)

end Exporter

end InsertScript
