/-!
# Progress and cancellation

A monitor counts the rows that are done and tells whether the work should stop. Cancelling is final.
A monitor can also be set to cancel itself after a number of enquiries; each enquiry then uses one
up.
-/

namespace InsertScript

/-- What is known about the progress of some work. -/
structure Monitor where
  rowsDone : Int := 0
  isCancelled : Bool := false
  /-- How many more enquiries are answered with no; without a number there is no end to them. -/
  patience? : Option Nat := none
deriving DecidableEq, Repr

namespace Monitor

/-- Stops the work. -/
def cancel (m : Monitor) : Monitor := { m with isCancelled := true }

/-- Counts rows as done. -/
def worked (m : Monitor) (rows : Int) : Monitor := { m with rowsDone := m.rowsDone + rows }

/-- Should the work stop? -/
def enquire (m : Monitor) : Bool × Monitor :=
  if m.isCancelled then (true, m)
  else match m.patience? with
    | none => (false, m)
    | some 0 => (true, m.cancel)
    | some (n + 1) => (false, { m with patience? := some n })

@[simp] theorem enquire_cancel (m : Monitor) : m.cancel.enquire = (true, m.cancel) := by
  simp [enquire, cancel]

/-- An enquiry does not change the number of rows. -/
@[simp] theorem rowsDone_enquire (m : Monitor) : m.enquire.2.rowsDone = m.rowsDone := by
  unfold enquire
  repeat' split
  all_goals rfl

end Monitor

end InsertScript
