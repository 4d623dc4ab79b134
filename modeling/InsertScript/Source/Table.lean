import InsertScript.Export.Script

/-!
# Rows at hand

A source whose rows are already there. It can be told to fail before one of its rows, or to have the
work cancelled before one, so that an export can be tried with every ending.
-/

namespace InsertScript

/-- A table in memory. -/
structure RowTable where
  columns : List ExportColumn
  rows : List Row
  name? : Option String
  /-- Is the schema left out of the name where that is wanted? -/
  strips : Bool := true
  /-- The work is cancelled before the row at this position. -/
  cancelAt? : Option Int := none
  /-- The source fails before the row at this position. -/
  failAt? : Option (Int × Failure) := none

namespace RowTable

/-- What happens before the row at a position. -/
def before (t : RowTable) (position : Nat) : List Delivery :=
  (if t.cancelAt? = some (position : Int) then [.cancellation] else []) ++
    match t.failAt? with
    | some (place, failure) => if place = position then [.failure failure] else []
    | none => []

/-- What the table delivers. -/
def deliveries (t : RowTable) : List Delivery :=
  t.rows.zipIdx.flatMap fun (row, position) => t.before position ++ [.row row]

/-- Is the cancellation asked for in an export that goes on in spite of it and counts so many rows?
The row that failed is among them, and a source that fails does so after the cancellation. -/
def isCancelledWithin (t : RowTable) (count : Nat) : Bool :=
  match t.cancelAt? with
  | none => false
  | some place =>
      0 ≤ place && place < t.rows.length &&
        (place < count || place = count && t.failAt?.map Prod.fst = some place)

def source (t : RowTable) : RowSource Unit :=
  { columns := pure t.columns
    tableName := fun bare => pure (if bare && t.strips then t.name?.map stripSchema else t.name?)
    start := pure t.deliveries
    stop := pure () }

end RowTable

end InsertScript
