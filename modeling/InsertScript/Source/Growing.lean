import InsertScript.Source.Csv

/-!
# Files that grow while they are exported

A script may be added to the very file whose rows it is made of. Then the rows do not end where the
file ended at first: whoever reads the file goes on with what has been stored of the script. Usually
the first statement ends the export, because it is no record of the right width.

`Exporter.growingScript` is such an export. It differs from `Exporter.script` in its rows only: they
are read one by one, each from the file as it is when the row before has been written.
-/

namespace InsertScript

namespace Exporter

/-- Writes the rows of a file to which the script is added. `known` is the number of bytes of the
script that the cursor knows of. -/
def growingRows (e : Exporter) (csv : CsvFile) (width : Nat) :
    (limit known : Nat) → CsvFile.Cursor → Step ExportState Unit
  | 0, _, _ => pure ()
  | limit + 1, known, cursor => do
      let sink := (← Step.current).sink
      let cursor :=
        if known < sink.flow.stored then cursor.extend (sink.storedSince known) else cursor
      match csv.next? width cursor with
      | none => pure ()
      | some (.error failure, _) => throw failure
      | some (.ok cells, cursor) =>
          if ← e.takeRow cells then growingRows e csv width limit sink.flow.stored cursor

/-- Writes the rows of a file, which is opened for them, and to which the script is added. -/
def growingRowsOf (e : Exporter) (csv : CsvFile) (files : FileSystem) :
    Step (Sourced CsvHeader) Unit := do
  let width := (← onSource (csv.columns files)).length
  let cursor ← Step.ofExcept (csv.begin files)
  onExport (e.growingRows csv width FileSystem.largestFile 0 cursor)

/-- Writes the script of a file to which it is added. -/
def growingScript (e : Exporter) (csv : CsvFile) (files : FileSystem) :
    Step (Sourced CsvHeader) ExportResult :=
  e.scriptAround (csv.source files) (e.growingRowsOf csv files)

end Exporter

end InsertScript
