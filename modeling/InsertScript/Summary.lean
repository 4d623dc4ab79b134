import InsertScript.Export.Script
import InsertScript.Numeral.Grouped

/-!
# Summaries

What is shown of a finished export: a title and rows of a name and a value.
-/

namespace InsertScript

/-- A table of names and values. -/
structure Summary where
  title : String
  rows : List (String × String)
deriving DecidableEq, Repr

namespace Summary

/-- The summary of an export of some rows in some statements to a destination. -/
def make (table : String) (rows statements : Int) (destination : String) (isCancelled : Bool) :
    Summary :=
  { title := "SQL export"
    rows := [
      ("Table", table),
      ("Rows", Numeral.groupedInt rows),
      ("Statements", Numeral.groupedInt statements),
      ("Output", destination)] ++
      (if isCancelled then [("Status", "[yellow]cancelled[/yellow]")] else []) }

/-- The summary of a finished export. -/
def ofResult (result : ExportResult) (destination : String) : Summary :=
  make result.tableName result.rowCount result.statementCount destination result.isCancelled

/-- The lines of a summary: the title, and each name with its value. -/
def lines (s : Summary) : List String := s.title :: s.rows.map fun row => s!"  {row.1}: {row.2}"

end Summary

end InsertScript
