import InsertScript.Proofs.Lines
import InsertScript.Proofs.Thresholds

/-!
# Records of the wrong width

A record of a delimited file stands on one line or, if there are line ends between its quotes, on
several (`Delimited.recordsOf`). The first one that is neither empty nor as wide as the header ends
the rows. All others before it have been delivered by then, and the number in the failure is two
more than there are of them, empty ones included.

So the number is that of a line of the record exactly if the header and all records before it stand
on one line each (`CsvFile.wrongWidth_pointsAt_iff`).
-/

namespace InsertScript

namespace Delimited

/-! ### Records and their lines -/

/-- A record, and the lines that it stands on. -/
structure Record where
  lines : List (List Char)
  fields : List String
deriving DecidableEq, Repr

/-- The rest of the record at the head of some lines, and the lines behind it. Nothing at the end,
and where a field is too long. -/
def takeRecord (delimiter : Char) (r : Reading) :
    List (List Char) → Option (Record × List (List Char))
  | [] =>
      if r.isOpen then some ({ lines := [], fields := (r.save .recordStart).fieldList }, [])
      else none
  | line :: rest =>
      match r.feedLine delimiter line with
      | .error _ => none
      | .ok next =>
          if next.place = .recordStart then
            some ({ lines := [line], fields := next.fieldList }, rest)
          else (takeRecord delimiter next rest).map fun (record, behind) =>
            ({ record with lines := line :: record.lines }, behind)

/-- A record stands on the lines in front of those behind it. -/
theorem lines_of_takeRecord {delimiter : Char} {r : Reading} {lines behind : List (List Char)}
    {record : Record} (h : takeRecord delimiter r lines = some (record, behind)) :
    lines = record.lines ++ behind := by
  induction lines generalizing r record with
  | nil =>
      rw [takeRecord] at h
      split at h
      · cases h
        rfl
      · cases h
  | cons line rest ih =>
      rw [takeRecord] at h
      split at h
      · cases h
      · split at h
        · cases h
          rfl
        · obtain ⟨⟨found, left⟩, hfound, hrecord⟩ := Option.map_eq_some_iff.1 h
          cases hrecord
          rw [ih hfound]
          rfl

/-- There is no record without a line. -/
theorem lines_ne_nil_of_takeRecord {delimiter : Char} {lines behind : List (List Char)}
    {record : Record} (h : takeRecord delimiter {} lines = some (record, behind)) :
    record.lines ≠ [] := by
  cases lines with
  | nil => cases h
  | cons line rest =>
      rw [takeRecord] at h
      split at h
      · cases h
      · split at h
        · cases h
          exact List.cons_ne_nil _ _
        · obtain ⟨⟨found, left⟩, -, hrecord⟩ := Option.map_eq_some_iff.1 h
          cases hrecord
          exact List.cons_ne_nil _ _

/-- Fewer lines are left behind a record, so taking records ends. -/
theorem length_lt_of_takeRecord {delimiter : Char} {lines behind : List (List Char)}
    {record : Record} (h : takeRecord delimiter {} lines = some (record, behind)) :
    behind.length < lines.length := by
  have hpos := List.length_pos_iff.2 (lines_ne_nil_of_takeRecord h)
  rw [lines_of_takeRecord h, List.length_append]
  omega

/-- The records on some lines, up to a field that is too long. -/
def recordsOf (delimiter : Char) (lines : List (List Char)) : List Record :=
  match _h : takeRecord delimiter {} lines with
  | none => []
  | some (record, behind) => record :: recordsOf delimiter behind
termination_by lines.length
decreasing_by exact length_lt_of_takeRecord _h

theorem recordsOf_eq_nil {delimiter : Char} {lines : List (List Char)}
    (h : takeRecord delimiter {} lines = none) : recordsOf delimiter lines = [] := by
  rw [recordsOf]
  split
  · rfl
  · rename_i hsome
    cases h.symm.trans hsome

/-- The records on some lines are the first one and those on the lines behind it. -/
theorem recordsOf_eq_cons {delimiter : Char} {lines behind : List (List Char)} {record : Record}
    (h : takeRecord delimiter {} lines = some (record, behind)) :
    recordsOf delimiter lines = record :: recordsOf delimiter behind := by
  rw [recordsOf]
  split
  · rename_i hnone
    cases h.symm.trans hnone
  · rename_i hsome
    cases h.symm.trans hsome
    rfl

/-- The records stand on the first lines, one record behind the other. -/
theorem flatMap_lines_prefix (delimiter : Char) (lines : List (List Char)) :
    (recordsOf delimiter lines).flatMap Record.lines <+: lines := by
  fun_induction recordsOf delimiter lines with
  | case1 lines hnone => exact List.nil_prefix
  | case2 lines record behind hrecord ih =>
      rw [lines_of_takeRecord hrecord, List.flatMap_cons]
      exact (List.prefix_append_right_inj record.lines).2 ih

/-- Every record stands on at least one line. -/
theorem lines_ne_nil_of_mem {delimiter : Char} {lines : List (List Char)} {record : Record}
    (h : record ∈ recordsOf delimiter lines) : record.lines ≠ [] := by
  fun_induction recordsOf delimiter lines with
  | case1 lines hnone => cases h
  | case2 lines first behind hfirst ih =>
      rcases List.mem_cons.1 h with rfl | h
      · exact lines_ne_nil_of_takeRecord hfirst
      · exact ih h

/-! ### Reading records -/

/-- The equation of the record reader, without the proofs that it carries for its termination. -/
theorem readRecordFrom_eq_match (delimiter : Char) (r : Reading) (source : TextReader) :
    readRecordFrom delimiter r source = match source.readLine with
      | .error fault => .error (.undecodable fault)
      | .ok ([], rest) =>
          .ok (if r.isOpen then some (r.save .recordStart).fieldList else none, rest)
      | .ok (c :: line, rest) =>
          match r.feedLine delimiter (c :: line) with
          | .error failure => .error failure
          | .ok next =>
              if next.place = .recordStart then .ok (some next.fieldList, rest)
              else readRecordFrom delimiter next rest := by
  rw [readRecordFrom]
  split
  · rename_i h
    rw [h]
  · rename_i h
    rw [h]
  · rename_i h
    rewrite [h]
    rfl

theorem longField_of_add {r : Reading} {place : Place} {c : Char} {failure : Failure}
    (h : r.add place c = .error failure) : failure = .longField fieldLimit := by
  unfold Reading.add at h
  split at h
  · cases h
  · cases h
    rfl

/-- The first character of a field is only refused if the field is full. -/
theorem longField_of_feedStart {delimiter : Char} {r : Reading} {c : Char} {failure : Failure}
    (h : r.feedStart delimiter c = .error failure) : failure = .longField fieldLimit := by
  unfold Reading.feedStart at h
  split at h
  · cases h
  split at h
  · cases h
  split at h
  · cases h
  · exact longField_of_add h

/-- A character is only refused if the field is full. -/
theorem longField_of_feed {delimiter : Char} {r : Reading} {c : Char} {failure : Failure}
    (h : r.feed delimiter c = .error failure) : failure = .longField fieldLimit := by
  unfold Reading.feed at h
  split at h
  · split at h
    · cases h
    · exact longField_of_feedStart h
  · exact longField_of_feedStart h
  · split at h
    · cases h
    split at h
    · cases h
    · exact longField_of_add h
  · split at h
    · cases h
    · exact longField_of_add h
  · split at h
    · exact longField_of_add h
    split at h
    · cases h
    split at h
    · cases h
    · exact longField_of_add h
  · cases h

/-- A line is only refused because of a field that is too long. -/
theorem longField_of_feedLine {delimiter : Char} {r : Reading} {line : List Char}
    {failure : Failure} (h : r.feedLine delimiter line = .error failure) :
    failure = .longField fieldLimit := by
  induction line generalizing r with
  | nil => cases h
  | cons c line ih =>
      rw [Reading.feedLine] at h
      split at h
      · rename_i refused hfeed
        cases h
        exact longField_of_feed hfeed
      · exact ih h

/-- Reading a record fails at bytes that are no text or at a field that is too long. -/
theorem failure_of_readRecordFrom {delimiter : Char} {r : Reading} {source : TextReader}
    {failure : Failure} (h : readRecordFrom delimiter r source = .error failure) :
    failure = .longField fieldLimit ∨ ∃ fault, failure = .undecodable fault := by
  fun_induction readRecordFrom delimiter r source with
  | case1 r source fault hline =>
      cases h
      exact .inr ⟨fault, rfl⟩
  | case2 => cases h
  | case3 r source c line after hline refused hfeed =>
      cases h
      exact .inl (longField_of_feedLine hfeed)
  | case4 => cases h
  | case5 r source c line after hline next hfeed hplace ih => exact ih h

/-- A record is read off the lines of the text. -/
theorem takeRecord_of_readRecordFrom {delimiter : Char} {r : Reading} {source rest : TextReader}
    {record? : Option (List String)} (h : readRecordFrom delimiter r source = .ok (record?, rest))
    (hsource : source.Whole) :
    rest.Whole ∧ (∀ fields, record? = some fields → ∃ lines,
        takeRecord delimiter r (linesOf source.text) =
          some ({ lines, fields }, linesOf rest.text)) ∧
      (record? = none → rest.text = []) := by
  fun_induction readRecordFrom delimiter r source with
  | case1 => cases h
  | case2 r source after hline =>
      obtain ⟨hafter, hend, hlines⟩ := TextReader.linesOf_of_readLine hline hsource
      simp only [Except.ok.injEq, Prod.mk.injEq] at h
      obtain ⟨hrecord, rfl⟩ := h
      have htext := hend rfl
      rw [if_pos rfl] at hlines
      rw [hlines, htext, ← hrecord, takeRecord]
      refine ⟨hafter, ?_, fun _ => rfl⟩
      intro fields hfields
      by_cases hopen : r.isOpen = true
      · rw [if_pos hopen] at hfields ⊢
        cases hfields
        exact ⟨[], rfl⟩
      · rw [if_neg hopen] at hfields
        cases hfields
  | case3 => cases h
  | case4 r source c line after hline next hfeed hplace =>
      obtain ⟨hafter, -, hlines⟩ := TextReader.linesOf_of_readLine hline hsource
      simp only [Except.ok.injEq, Prod.mk.injEq] at h
      obtain ⟨rfl, rfl⟩ := h
      refine ⟨hafter, ?_, fun hnone => absurd hnone (Option.some_ne_none _)⟩
      intro fields hfields
      cases hfields
      refine ⟨[c :: line], ?_⟩
      rw [hlines, if_neg (List.cons_ne_nil _ _), takeRecord, hfeed]
      exact if_pos hplace
  | case5 r source c line after hline next hfeed hplace ih =>
      obtain ⟨hafter, -, hlines⟩ := TextReader.linesOf_of_readLine hline hsource
      obtain ⟨hrest, hsome, hnone⟩ := ih h hafter
      refine ⟨hrest, ?_, hnone⟩
      intro fields hfields
      obtain ⟨lines, htake⟩ := hsome fields hfields
      refine ⟨(c :: line) :: lines, ?_⟩
      rw [hlines, if_neg (List.cons_ne_nil _ _), takeRecord, hfeed]
      simp only [hplace, if_false, htake, Option.map_some]

/-! ### Line numbers -/

/-- The number of lines that some records stand on. -/
def lineCount (records : List Record) : Nat := (records.flatMap Record.lines).length

/-- Is this the number, counted from one, of a line that a record stands on behind these others? The
lines of records are those of the text (`flatMap_lines_prefix`). -/
def Record.StandsOn (record : Record) (before : List Record) (number : Nat) : Prop :=
  lineCount before < number ∧ number ≤ lineCount before + record.lines.length

theorem lineCount_cons (record : Record) (records : List Record) :
    lineCount (record :: records) = record.lines.length + lineCount records := List.length_append

/-- There are at least as many lines as records. -/
theorem length_le_lineCount {records : List Record} (h : ∀ record ∈ records, record.lines ≠ []) :
    records.length ≤ lineCount records := by
  induction records with
  | nil => exact Nat.le_refl 0
  | cons record records ih =>
      obtain ⟨hrecord, hrecords⟩ := List.forall_mem_cons.1 h
      have hle := ih hrecords
      have hpos := List.length_pos_iff.2 hrecord
      rw [lineCount_cons, List.length_cons]
      omega

/-- There are as many lines as records exactly if each record stands on one line. -/
theorem lineCount_eq_length_iff {records : List Record}
    (h : ∀ record ∈ records, record.lines ≠ []) :
    lineCount records = records.length ↔ ∀ record ∈ records, record.lines.length = 1 := by
  induction records with
  | nil => simp [lineCount]
  | cons record records ih =>
      obtain ⟨hrecord, hrecords⟩ := List.forall_mem_cons.1 h
      have hle := length_le_lineCount hrecords
      have hpos := List.length_pos_iff.2 hrecord
      rw [lineCount_cons, List.length_cons, List.forall_mem_cons, ← ih hrecords]
      omega

/-- The number behind that of the last record is the number of a line exactly if no record stands on
more lines. -/
theorem standsOn_iff {record : Record} {before : List Record} (hrecord : record.lines ≠ [])
    (hbefore : ∀ record ∈ before, record.lines ≠ []) :
    record.StandsOn before (before.length + 1) ↔ ∀ record ∈ before, record.lines.length = 1 := by
  have hle := length_le_lineCount hbefore
  have hpos := List.length_pos_iff.2 hrecord
  rw [← lineCount_eq_length_iff hbefore, Record.StandsOn]
  omega

end Delimited

open Delimited (Record recordsOf)

namespace CsvFile

/-! ### Rows up to a record of the wrong width -/

/-- The records of a file, the header included, as far as it can be read. -/
def records (csv : CsvFile) (files : FileSystem) : List Record :=
  match csv.openFile files with
  | .ok cursor => recordsOf cursor.delimiter (linesOf cursor.reader.text)
  | .error _ => []

/-- Are these the values of the fields of a record? -/
def IsRowOf (csv : CsvFile) (record : Record) (row : Row) : Prop :=
  ∃ count next, convertCells csv.threshold count [] record.fields = .ok (row, next)

/-- Is the record neither empty nor as wide as the header? -/
def Misfits (width : Nat) (record : Record) : Prop :=
  record.fields ≠ [] ∧ record.fields.length ≠ width

/-- Converting cells keeps their number, behind those that were done before. -/
theorem length_of_convertCells {threshold : Int} {count next : Nat} {done row : Row}
    {cells : List String} (h : convertCells threshold count done cells = .ok (row, next)) :
    row.length = done.length + cells.length := by
  induction cells generalizing count done with
  | nil =>
      cases h
      simp
  | cons cell cells ih =>
      rw [convertCells] at h
      split at h
      · cases h
      · rw [ih h, List.length_cons, List.length_cons]
        omega

theorem IsRowOf.length_eq {csv : CsvFile} {record : Record} {row : Row}
    (h : csv.IsRowOf record row) : row.length = record.fields.length := by
  obtain ⟨count, next, hcells⟩ := h
  rw [length_of_convertCells hcells, List.length_nil, Nat.zero_add]

/-- Rows of records are as wide as these. -/
theorem length_of_mem_rows {csv : CsvFile} {width : Nat} {records : List Record} {rows : List Row}
    (h : List.Forall₂ csv.IsRowOf records rows)
    (hwidth : ∀ record ∈ records, record.fields.length = width) :
    ∀ row ∈ rows, row.length = width := by
  induction h with
  | nil => exact nofun
  | cons hrow hrows ih =>
      obtain ⟨hfirst, hrest⟩ := List.forall_mem_cons.1 hwidth
      exact List.forall_mem_cons.2 ⟨hrow.length_eq.trans hfirst, ih hrest⟩

/-- Is it a failure about the width of a record? -/
def IsWidthError : Failure → Prop
  | .wrongWidth .. => True
  | _ => False

/-- What a cell fails with is about its digits, never about the width. -/
theorem not_isWidthError_of_convert {threshold : Int} {identity : Nat} {cell : String}
    {failure : Failure} (h : CsvFile.convert threshold identity cell = .error failure) :
    ¬IsWidthError failure := by
  unfold CsvFile.convert at h
  split at h
  · cases h
  · split at h
    · cases hread : Numeral.readInteger cell with
      | ok n => simp [hread, Except.map, Except.mapError] at h
      | error fault =>
          simp [hread, Except.map, Except.mapError] at h
          subst h
          exact not_false
    · split at h
      · cases hread : Decimal.ofString cell with
        | ok d => simp [hread, Except.map, Except.mapError] at h
        | error fault =>
            simp [hread, Except.map, Except.mapError] at h
            subst h
            exact not_false
      · split at h
        · cases h
        · cases h

/-- Nor is what the cells of a record fail with. -/
theorem not_isWidthError_of_convertCells {threshold : Int} {count : Nat} {done : Row}
    {cells : List String} {failure : Failure}
    (h : convertCells threshold count done cells = .error failure) :
    ¬IsWidthError failure := by
  induction cells generalizing count done with
  | nil => cases h
  | cons cell cells ih =>
      rw [convertCells] at h
      split at h
      · rename_i refused hconvert
        cases h
        exact not_isWidthError_of_convert hconvert
      · exact ih h

/-- Is this the next record, and what is left to be read behind it? -/
structure NextRecord (c : Cursor) (record : Record) (rest : TextReader) : Prop where
  records : recordsOf c.delimiter (linesOf c.reader.text) =
    record :: recordsOf c.delimiter (linesOf rest.text)
  whole : rest.Whole

/-- What reading a row comes to: it fails for another reason than the width of a record, there is no
further record, or the next record does not fit, is empty, or has a row. -/
inductive ReadsRow (csv : CsvFile) (width : Nat) (c : Cursor) :
    Except Failure (Option (Option Row × Cursor)) → Prop
  | refused (failure : Failure) (hother : ¬IsWidthError failure) :
      ReadsRow csv width c (.error failure)
  | finished : ReadsRow csv width c (.ok none)
  | misfit (record : Record) (rest : TextReader) (hnext : NextRecord c record rest)
      (hmisfits : Misfits width record) :
      ReadsRow csv width c (.error (.wrongWidth csv.path c.number width record.fields.length))
  | skipped (record : Record) (rest : TextReader) (count : Nat) (hnext : NextRecord c record rest)
      (hempty : record.fields = []) :
      ReadsRow csv width c
        (.ok (some (none, { c with reader := rest, number := c.number + 1, count })))
  | delivered (record : Record) (rest : TextReader) (count : Nat) (row : Row)
      (hnext : NextRecord c record rest)
      (hne : record.fields ≠ []) (hwidth : record.fields.length = width)
      (hrow : csv.IsRowOf record row) :
      ReadsRow csv width c
        (.ok (some (some row, { c with reader := rest, number := c.number + 1, count })))

/-- A reading of a row is one of these. -/
theorem readsRow_readRow (csv : CsvFile) (width : Nat) {c : Cursor} (hc : c.reader.Whole) :
    ReadsRow csv width c (csv.readRow width c) := by
  unfold readRow
  cases hrecord : Delimited.readRecord c.delimiter c.reader with
  | error failure =>
      refine .refused failure ?_
      rcases Delimited.failure_of_readRecordFrom hrecord with rfl | ⟨fault, rfl⟩ <;> exact not_false
  | ok read =>
      obtain ⟨record?, rest⟩ := read
      cases record? with
      | none => exact .finished
      | some fields =>
          obtain ⟨hrest, htake, -⟩ := Delimited.takeRecord_of_readRecordFrom hrecord hc
          obtain ⟨lines, htake⟩ := htake fields rfl
          have hnext : NextRecord c { lines, fields } rest :=
            ⟨Delimited.recordsOf_eq_cons htake, hrest⟩
          by_cases hempty : fields = []
          · simp only [rowOf, hempty, List.isEmpty_nil, if_true, Except.map]
            exact .skipped _ rest _ hnext hempty
          · have hsome : fields.isEmpty = false := by simpa using hempty
            by_cases hwidth : fields.length = width
            · simp only [rowOf, hsome, hwidth, Bool.false_eq_true, ne_eq,
                not_true_eq_false, if_false]
              cases hcells : convertCells csv.threshold c.count [] fields with
              | error failure => exact .refused failure (not_isWidthError_of_convertCells hcells)
              | ok converted =>
                  obtain ⟨row, count⟩ := converted
                  exact .delivered _ rest count row hnext hempty hwidth ⟨c.count, count, hcells⟩
            · simp only [rowOf, hsome, hwidth, Bool.false_eq_true, ne_eq, not_false_eq_true,
                if_false, if_true, Except.map]
              exact .misfit _ rest hnext ⟨hempty, hwidth⟩

/-- Do the rows of some records, of which the first one has this number, end in the failure because
a record does not fit? All records before it have been delivered, but for empty ones. -/
structure EndsAt (csv : CsvFile) (width first : Nat) (earlier : List Record) (offending : Record)
    (rows : List Row) (failure : Failure) : Prop where
  fits : ∀ record ∈ earlier, ¬Misfits width record
  rows : List.Forall₂ csv.IsRowOf (earlier.filter fun record => record.fields ≠ []) rows
  misfits : Misfits width offending
  failure : failure = .wrongWidth csv.path (first + earlier.length) width offending.fields.length

/-- An empty record in front counts but has no row. -/
theorem EndsAt.skip {csv : CsvFile} {width first : Nat} {earlier : List Record}
    {record offending : Record} {rows : List Row} {failure : Failure}
    (h : csv.EndsAt width (first + 1) earlier offending rows failure)
    (hrecord : record.fields = []) :
    csv.EndsAt width first (record :: earlier) offending rows failure where
  fits := List.forall_mem_cons.2 ⟨fun hmisfits => hmisfits.1 hrecord, h.fits⟩
  rows := by simpa [hrecord] using h.rows
  misfits := h.misfits
  failure := by
    rw [h.failure, List.length_cons, Nat.add_assoc, Nat.add_comm 1]

/-- A record that fits in front counts and has a row. -/
theorem EndsAt.deliver {csv : CsvFile} {width first : Nat} {earlier : List Record}
    {record offending : Record} {row : Row} {rows : List Row} {failure : Failure}
    (h : csv.EndsAt width (first + 1) earlier offending rows failure)
    (hne : record.fields ≠ []) (hwidth : record.fields.length = width)
    (hrow : csv.IsRowOf record row) :
    csv.EndsAt width first (record :: earlier) offending (row :: rows) failure where
  fits := List.forall_mem_cons.2 ⟨fun hmisfits => hmisfits.2 hwidth, h.fits⟩
  rows := by
    rw [List.filter_cons_of_pos (by simpa using hne)]
    exact .cons hrow h.rows
  misfits := h.misfits
  failure := by
    rw [h.failure, List.length_cons, Nat.add_assoc, Nat.add_comm 1]

/-- A width error is the last thing that is delivered, behind the rows of all records before it. -/
theorem endsAt_of_deliver {csv : CsvFile} {width : Nat} {done : List Delivery} {c : Cursor}
    {failure : Failure} (hc : c.reader.Whole) (hfailure : IsWidthError failure)
    (hdone : .failure failure ∉ done) (h : .failure failure ∈ csv.deliver width done c) :
    ∃ earlier offending behind rows,
      recordsOf c.delimiter (linesOf c.reader.text) = earlier ++ offending :: behind ∧
      csv.deliver width done c = done.reverse ++ (rows.map .row ++ [.failure failure]) ∧
      csv.EndsAt width c.number earlier offending rows failure := by
  have hreads := csv.readsRow_readRow width hc
  -- every case is one reading of a row, and `hreads` says what it does to the list of the records
  fun_induction csv.deliver width done c with
  | case1 done c refused hread =>
      rw [hread] at hreads
      obtain rfl : failure = refused := by
        rw [List.reverseAux_eq] at h
        simpa [hdone] using h
      cases hreads with
      | refused _ hother => exact absurd hfailure hother
      | misfit record rest hnext hmisfits =>
          exact ⟨[], record, _, [], hnext.records, List.reverseAux_eq, nofun, .nil, hmisfits, rfl⟩
  | case2 done c hread => simp [hdone] at h
  | case3 done c after hread ih =>
      rw [hread] at hreads
      cases hreads with
      | skipped record rest count hnext hempty =>
          obtain ⟨earlier, offending, behind, rows, hbehind, hdelivered, hends⟩ :=
            ih hnext.whole hdone h (csv.readsRow_readRow width hnext.whole)
          have hrecords := hnext.records.trans (congrArg (record :: ·) hbehind)
          exact ⟨record :: earlier, offending, behind, rows, hrecords, hdelivered,
            hends.skip hempty⟩
  | case4 done c row after hread ih =>
      rw [hread] at hreads
      cases hreads with
      | delivered record rest count _ hnext hne hwidth hrow =>
          obtain ⟨earlier, offending, behind, rows, hbehind, hdelivered, hends⟩ :=
            ih hnext.whole (by simpa using hdone) h (csv.readsRow_readRow width hnext.whole)
          have hrecords := hnext.records.trans (congrArg (record :: ·) hbehind)
          refine ⟨record :: earlier, offending, behind, row :: rows, hrecords, ?_,
            hends.deliver hne hwidth hrow⟩
          rw [hdelivered]
          simp

/-! ### The number in a width error -/

/-- Is this the number of a line of the first record of the file that does not fit? -/
def PointsAt (csv : CsvFile) (files : FileSystem) (width number : Nat) : Prop :=
  ∃ header earlier offending behind, csv.records files =
    header :: (earlier ++ offending :: behind) ∧
    (∀ record ∈ earlier, ¬Misfits width record) ∧ Misfits width offending ∧
    offending.StandsOn (header :: earlier) number

/-- There is only one first item with a property. -/
theorem eq_of_first {α : Type} {p : α → Prop} {front front' back back' : List α} {x x' : α}
    (h : front ++ x :: back = front' ++ x' :: back') (hfront : ∀ y ∈ front, ¬p y)
    (hfront' : ∀ y ∈ front', ¬p y) (hx : p x) (hx' : p x') : front = front' ∧ x = x' := by
  induction front generalizing front' with
  | nil =>
      cases front' with
      | nil =>
          cases h
          exact ⟨rfl, rfl⟩
      | cons y front' =>
          cases h
          exact absurd hx (hfront' x List.mem_cons_self)
  | cons y front ih =>
      cases front' with
      | nil =>
          cases h
          exact absurd hx' (hfront x' List.mem_cons_self)
      | cons z front' =>
          obtain ⟨rfl, hrest⟩ := List.cons.inj h
          obtain ⟨rfl, rfl⟩ := ih hrest (fun y hy => hfront y (List.mem_cons_of_mem _ hy))
            fun y hy => hfront' y (List.mem_cons_of_mem _ hy)
          exact ⟨rfl, rfl⟩

theorem lines_ne_nil_of_mem_records {csv : CsvFile} {files : FileSystem} {record : Record}
    (h : record ∈ csv.records files) : record.lines ≠ [] := by
  unfold records at h
  split at h
  · exact Delimited.lines_ne_nil_of_mem h
  · cases h

/-- The number that is given points at the record exactly if no record before it stands on more than
one line. -/
theorem pointsAt_iff {csv : CsvFile} {files : FileSystem} {width : Nat} {header offending : Record}
    {earlier behind : List Record}
    (hrecords : csv.records files = header :: (earlier ++ offending :: behind))
    (hearlier : ∀ record ∈ earlier, ¬Misfits width record) (hoffending : Misfits width offending) :
    csv.PointsAt files width (firstNumber + earlier.length) ↔
      ∀ record ∈ header :: earlier, record.lines.length = 1 := by
  have hlines : ∀ record ∈ header :: (earlier ++ offending :: behind), record.lines ≠ [] := by
    intro record hrecord
    exact lines_ne_nil_of_mem_records (hrecords ▸ hrecord)
  have hbefore : ∀ record ∈ header :: earlier, record.lines ≠ [] := by
    intro record hrecord
    refine hlines record ?_
    rw [← List.cons_append]
    exact List.mem_append_left _ hrecord
  have hiff := Delimited.standsOn_iff (hlines offending (by simp)) hbefore
  have hnumber : firstNumber + earlier.length = (header :: earlier).length + 1 := by
    rw [firstNumber, List.length_cons]
    omega
  rw [hnumber, ← hiff]
  constructor
  · intro h
    obtain ⟨header', earlier', offending', behind', hrecords', hearlier', hoffending', hstands⟩ := h
    obtain ⟨rfl, hrest⟩ := List.cons.inj (hrecords.symm.trans hrecords')
    obtain ⟨rfl, rfl⟩ := eq_of_first hrest hearlier hearlier' hoffending hoffending'
    exact hstands
  · intro hstands
    exact ⟨header, earlier, offending, behind, hrecords, hearlier, hoffending, hstands⟩

/-- The columns are known once they have been asked for. -/
theorem state_of_columns {csv : CsvFile} {files : FileSystem} {s t : Logged CsvHeader}
    {columns : List Column} (h : csv.columns files s = .ok columns t) : t.state = some columns := by
  obtain ⟨known?, s', hcurrent, h⟩ := Step.ok_of_bind h
  cases hcurrent
  cases hknown : s.state with
  | some known =>
      rw [hknown] at h
      cases h
      exact hknown
  | none =>
      rw [hknown] at h
      obtain ⟨found, s'', hread, h⟩ := Step.ok_of_bind h
      cases h
      rfl

/-- A cursor begins in front of the whole text, with the number of the first row. -/
theorem openFile_inv {csv : CsvFile} {files : FileSystem} {cursor : Cursor}
    (h : csv.openFile files = .ok cursor) : cursor.number = firstNumber ∧ cursor.reader.Whole := by
  obtain ⟨file, -, h⟩ := Step.ok_of_bind_except h
  obtain ⟨encoding, -, h⟩ := Step.ok_of_bind_except h
  obtain ⟨delimiter, -, h⟩ := Step.ok_of_bind_except h
  cases h
  exact ⟨rfl, TextReader.whole_ofBytes encoding _⟩

/-- Behind the header stand the other records of the file, or nothing. -/
theorem begin_inv {csv : CsvFile} {files : FileSystem} {cursor : Cursor}
    (h : csv.begin files = .ok cursor) :
    cursor.number = firstNumber ∧ cursor.reader.Whole ∧
      (cursor.reader.text = [] ∨ ∃ header, csv.records files
        = header :: recordsOf cursor.delimiter (linesOf cursor.reader.text)) := by
  obtain ⟨opened, hopen, h⟩ := Step.ok_of_bind_except h
  obtain ⟨⟨header?, rest⟩, hread, h⟩ := Step.ok_of_bind_except h
  cases h
  obtain ⟨hnumber, hwhole⟩ := openFile_inv hopen
  obtain ⟨hrest, hsome, hnone⟩ := Delimited.takeRecord_of_readRecordFrom hread hwhole
  refine ⟨hnumber, hrest, ?_⟩
  cases header? with
  | none => exact .inl (hnone rfl)
  | some fields =>
      obtain ⟨lines, htake⟩ := hsome fields rfl
      refine .inr ⟨{ lines, fields }, ?_⟩
      rw [records, hopen]
      exact Delimited.recordsOf_eq_cons htake

/-- A file whose second record stands on two lines, and whose third one does not fit. -/
def letters : CsvFile := { path := { names := ["t.csv"] } }

def lettersFiles : FileSystem :=
  { entries := [(#["t.csv"], .file 0)], working := #[],
    contents := ["a,b\n\"x\ny\",1\n1\n".toUTF8.toList] }

/-- The second record has two lines, since a line end stands between its quotes. -/
theorem records_letters : letters.records lettersFiles
    = [{ lines := ["a,b\n".toList], fields := ["a", "b"] },
       { lines := ["\"x\n".toList, "y\",1\n".toList], fields := ["x\ny", "1"] },
       { lines := ["1\n".toList], fields := ["1"] }] := by
  decide +kernel

/-- The third record stands on the fourth line, and is given the number three. -/
theorem start_letters (log : Log) : letters.start lettersFiles { log, state := none }
    = .ok [.row [.text "x\ny", .int 1], .failure (.wrongWidth letters.path 3 2 1)]
        { log, state := some [{ name := "a" }, { name := "b" }] } := by
  let reader (ready : String) : TextReader :=
    { ready := ready.toList, decoder := { encoding := .utf8, atStart := false },
      rest := [], taken := 14, lastPiece := (14, 14) }
  have hheader : Delimited.readRecord ',' (.ofBytes .utf8 (lettersFiles.content 0) false)
      = .ok (some ["a", "b"], reader "\"x\ny\",1\n1\n") := by
    rw [Delimited.readRecord, Delimited.readRecordFrom_eq_match]
    decide +kernel
  have hfirst : Delimited.readRecord ',' (reader "\"x\ny\",1\n1\n") =
      .ok (some ["x\ny", "1"], reader "1\n") := by
    have hline : (reader "\"x\ny\",1\n1\n").readLine =
        .ok ("\"x\n".toList, reader "y\",1\n1\n") := by
      decide +kernel
    rw [Delimited.readRecord, Delimited.readRecordFrom_eq_match, hline]
    show Delimited.readRecordFrom ',' { place := .inQuotes, field := "\nx".toList, length := 2 }
      (reader "y\",1\n1\n") = _
    rw [Delimited.readRecordFrom_eq_match]
    decide +kernel
  have hsecond : Delimited.readRecord ',' (reader "1\n") = .ok (some ["1"], reader "") := by
    rw [Delimited.readRecord, Delimited.readRecordFrom_eq_match]
    decide +kernel
  have hopen : letters.openFile lettersFiles
      = .ok { file := 0, reader := .ofBytes .utf8 (lettersFiles.content 0) false
              delimiter := ',' } := by
    decide +kernel
  have hcolumns : letters.readHeader lettersFiles = .ok [{ name := "a" }, { name := "b" }] := by
    simp only [readHeader, hopen, bind, Except.bind, hheader]
    rfl
  have hbegin : letters.begin lettersFiles
      = .ok { file := 0, reader := reader "\"x\ny\",1\n1\n", delimiter := ',' } := by
    simp only [begin, hopen, bind, Except.bind, hheader]
    rfl
  have hdelivered :
      letters.deliver 2 [] { file := 0, reader := reader "\"x\ny\",1\n1\n", delimiter := ',' }
      = [.row [.text "x\ny", .int 1], .failure (.wrongWidth letters.path 3 2 1)] := by
    have hrow : letters.rowOf 2 2 0 ["x\ny", "1"] = .ok (some [.text "x\ny", .int 1], 0) := by rfl
    have hwrong : letters.rowOf 2 3 0 ["1"] = .error (.wrongWidth letters.path 3 2 1) := by rfl
    rw [deliver_eq_match, readRow, hfirst]
    simp only [firstNumber, hrow, Except.map]
    rw [deliver_eq_match, readRow, hsecond]
    simp only [hwrong, Except.map]
    rfl
  have hknown : letters.columns lettersFiles { log, state := none }
      = .ok [{ name := "a" }, { name := "b" }]
        { log, state := some [{ name := "a" }, { name := "b" }] } := by
    rw [columns, Step.bind_of_ok (Step.current_apply _)]
    simp only [hcolumns]
    rfl
  rw [start, Step.bind_of_ok hknown, hbegin, Step.bind_of_ok (Step.ofExcept_ok _ _)]
  exact congrArg (EStateM.Result.ok · _) hdelivered

/-- When the rows of a file end because of the width of a record, it is the first one that is
neither empty nor as wide as the header; all records before it that are not empty have been
delivered, in order and with a value for each column. The number that is given counts the records
and not the lines: it is the number of a line of the record exactly if the header and all records
before the record stand on one line each. -/
theorem wrongWidth_pointsAt_iff {csv : CsvFile} {files : FileSystem} {s t : Logged CsvHeader}
    {deliveries : List Delivery} {path : Path} {number width got : Nat}
    (hstart : csv.start files s = .ok deliveries t)
    (hfailure : .failure (.wrongWidth path number width got) ∈ deliveries) :
    ∃ columns header earlier offending behind rows,
      t.state = some columns ∧ width = columns.length ∧ path = csv.path ∧
      csv.records files = header :: (earlier ++ offending :: behind) ∧
      (∀ record ∈ earlier, record.fields = [] ∨ record.fields.length = width) ∧
      offending.fields ≠ [] ∧ got = offending.fields.length ∧ got ≠ width ∧
      deliveries = rows.map .row ++ [.failure (.wrongWidth path number width got)] ∧
      List.Forall₂ csv.IsRowOf (earlier.filter fun record => record.fields ≠ []) rows ∧
      (∀ row ∈ rows, row.length = columns.length) ∧
      number = earlier.length + 2 ∧
      (csv.PointsAt files width number ↔
        ∀ record ∈ header :: earlier, record.lines.length = 1) := by
  obtain ⟨columns, s', hcolumns, hstart⟩ := Step.ok_of_bind hstart
  obtain ⟨cursor, s'', hbegin, hdeliver⟩ := Step.ok_of_bind hstart
  obtain ⟨hcursor, rfl⟩ := Step.ok_of_ofExcept hbegin
  cases hdeliver
  obtain ⟨hnumber, hwhole, hrecords⟩ := begin_inv hcursor
  have hwrong : IsWidthError (.wrongWidth path number width got) := trivial
  obtain ⟨earlier, offending, behind, rows, hsplit, hdelivered, hends⟩ :=
    endsAt_of_deliver hwhole hwrong List.not_mem_nil hfailure
  obtain ⟨header, hrecords⟩ := hrecords.resolve_left fun hempty => by
    rw [hempty, Delimited.recordsOf_eq_nil rfl] at hsplit
    exact List.append_ne_nil_of_right_ne_nil _ (List.cons_ne_nil _ _) hsplit.symm
  rw [hsplit] at hrecords
  have hfields := hends.failure
  rw [hnumber] at hfields
  obtain ⟨rfl, rfl, rfl, rfl⟩ := Failure.wrongWidth.inj hfields
  have hfits : ∀ record ∈ earlier, record.fields = [] ∨ record.fields.length = columns.length := by
    intro record hrecord
    have hrecord := hends.fits record hrecord
    rwa [Misfits, not_and_or, not_not, not_not] at hrecord
  have hdense : ∀ record ∈ earlier.filter fun record => record.fields ≠ [], record.fields.length =
      columns.length := by
    intro record hrecord
    obtain ⟨hmem, hne⟩ := List.mem_filter.1 hrecord
    exact (hfits record hmem).resolve_left (by simpa using hne)
  exact ⟨columns, header, earlier, offending, behind, rows, state_of_columns hcolumns, rfl, rfl,
    hrecords, hfits,
    hends.misfits.1, rfl, hends.misfits.2, hdelivered, hends.rows,
      length_of_mem_rows hends.rows hdense,
    Nat.add_comm _ _, pointsAt_iff hrecords hends.fits hends.misfits⟩

/-- The record is given the number of a line in front of it. -/
theorem wrongWidth_pointsAt_iff_letters :
    let s : Logged CsvHeader := { log := {}, state := none }
    let t : Logged CsvHeader := { log := {}, state := some [{ name := "a" }, { name := "b" }] }
    let deliveries : List Delivery :=
      [.row [.text "x\ny", .int 1], .failure (.wrongWidth letters.path 3 2 1)]
    letters.start lettersFiles s = .ok deliveries t ∧
      .failure (.wrongWidth letters.path 3 2 1) ∈ deliveries ∧
      ∃ columns header earlier offending behind rows,
        t.state = some columns ∧ 2 = columns.length ∧ letters.path = letters.path ∧
        letters.records lettersFiles = header :: (earlier ++ offending :: behind) ∧
        (∀ record ∈ earlier, record.fields = [] ∨ record.fields.length = 2) ∧
        offending.fields ≠ [] ∧ 1 = offending.fields.length ∧ 1 ≠ 2 ∧
        deliveries = rows.map .row ++ [.failure (.wrongWidth letters.path 3 2 1)] ∧
        List.Forall₂ letters.IsRowOf (earlier.filter fun record => record.fields ≠ []) rows ∧
        (∀ row ∈ rows, row.length = columns.length) ∧
        3 = earlier.length + 2 ∧
        (letters.PointsAt lettersFiles 2 3 ↔
          ∀ record ∈ header :: earlier, record.lines.length = 1) := by
  intro s t deliveries
  have hfailure : .failure (.wrongWidth letters.path 3 2 1) ∈ deliveries := by simp [deliveries]
  exact ⟨start_letters {}, hfailure, wrongWidth_pointsAt_iff (start_letters {}) hfailure⟩

/-- The number would have to be four. -/
theorem not_pointsAt_letters :
    (∃ deliveries t, letters.start lettersFiles { log := {}, state := none } = .ok deliveries t ∧
      .failure (.wrongWidth letters.path 3 2 1) ∈ deliveries) ∧
      ¬letters.PointsAt lettersFiles 2 3 ∧ letters.PointsAt lettersFiles 2 4 := by
  have hfits :
      ∀ record ∈ [{ lines := ["\"x\n".toList, "y\",1\n".toList], fields := ["x\ny", "1"] :
      Record }], ¬Misfits 2 record := by
    intro record hrecord
    rw [List.mem_singleton.1 hrecord]
    exact fun hmisfits => hmisfits.2 rfl
  have hmisfits : Misfits 2 { lines := ["1\n".toList], fields := ["1"] } :=
    ⟨List.cons_ne_nil _ _, by decide⟩
  refine ⟨⟨_, _, start_letters {}, by simp⟩, ?_, ?_⟩
  · intro hpoints
    have hsingle := (pointsAt_iff records_letters hfits hmisfits).1 hpoints
    exact absurd (hsingle _ (List.mem_cons_of_mem _ List.mem_cons_self)) (by decide)
  · exact ⟨_, _, _, _, records_letters, hfits, hmisfits, by constructor <;> decide⟩

end CsvFile

end InsertScript
