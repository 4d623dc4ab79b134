import InsertScript.Export.Script

/-!
# Rows a few at a time

Taking rows from a source in portions. Nothing happens before the first row is asked for; a source
that has delivered everything, or failed, is stopped at once and delivers nothing any more.

Between two portions the world may change. A stream says how rows follow each other from position to
position, and what becomes of a position when it is taken up again.
-/

namespace InsertScript

/-- A source, and its rows one by one. -/
structure RowStream (σ ρ : Type) where
  source : RowSource σ
  /-- The position before the first row. -/
  start : Step σ ρ
  /-- A position as it is now. -/
  resume : ρ → ρ
  /-- The row at a position, or the failure to get it, and the position after it. Nothing at the
  end. -/
  next? : ρ → Option (Except Failure Row × ρ)

/-- The first row of some deliveries, or the failure before it, and what is delivered after it. -/
def Delivery.next? : List Delivery → Option (Except Failure Row × List Delivery)
  | [] => none
  | .cancellation :: rest => next? rest
  | .failure f :: rest => some (.error f, rest)
  | .row cells :: rest => some (.ok cells, rest)

/-- The rows that are delivered, and the failure that they end in. `done` has the rows so far, last
one first. -/
def Delivery.rowsFrom (done : List Row) : List Delivery → List Row × Option Failure
  | [] => (done.reverse, none)
  | .cancellation :: rest => rowsFrom done rest
  | .failure f :: _ => (done.reverse, some f)
  | .row cells :: rest => rowsFrom (cells :: done) rest

/-- The rows that are delivered, and the failure that they end in. -/
def Delivery.rows (deliveries : List Delivery) : List Row × Option Failure := rowsFrom [] deliveries

/-- A source whose rows are settled when delivering starts. -/
def RowSource.stream {σ : Type} (source : RowSource σ) : RowStream σ (List Delivery) :=
  { source, start := source.start, resume := id, next? := Delivery.next? }

/-- How far the rows of a source have been taken. -/
inductive Iteration (ρ : Type) where
  /-- Not begun. -/
  | fresh
  | running (position : ρ)
  | finished

namespace Iteration

variable {σ ρ : Type}

def onSource {α : Type} (step : Step σ α) : Step (σ × Iteration ρ) α :=
  Step.zoom Prod.fst (fun source both => (source, both.2)) step

/-- Notes how far the rows have been taken. -/
def move (iteration : Iteration ρ) : Step (σ × Iteration ρ) Unit :=
  Step.change fun both => (both.1, iteration)

/-- Takes up to `n` rows from a position on; `done` has the rows so far, last one first. The result
also has the failure of the source if it failed. -/
def takeFrom (stream : RowStream σ ρ) (done : List Row) :
    Nat → ρ → Step (σ × Iteration ρ) (List Row × Option Failure)
  | 0, position => do
      move (.running position)
      return (done.reverse, none)
  | n + 1, position =>
      match stream.next? position with
      | some (.ok row, position) => takeFrom stream (row :: done) n position
      | some (.error f, _) => do
          move .finished
          onSource stream.source.stop
          return (done.reverse, some f)
      | none => do
          move .finished
          onSource stream.source.stop
          return (done.reverse, none)

/-- Takes up to `n` rows. -/
def take (stream : RowStream σ ρ) (n : Nat) :
    Step (σ × Iteration ρ) (List Row × Option Failure) := do
  if n = 0 then return ([], none)
  match (← Step.current).2 with
  | .finished => return ([], none)
  | .running position => takeFrom stream [] n (stream.resume position)
  | .fresh =>
      move .finished
      match ← Step.attempt (onSource stream.start) with
      | .error failure => return ([], some failure)
      | .ok position => takeFrom stream [] n position

/-- Takes no more rows; a source that is still running is stopped. -/
def leave (stream : RowStream σ ρ) : Step (σ × Iteration ρ) Unit := do
  let iteration := (← Step.current).2
  move .fresh
  match iteration with
  | .running _ => onSource stream.source.stop
  | _ => pure ()

/-- Takes all rows from the beginning. -/
def takeAll (stream : RowStream σ ρ) : Step (σ × Iteration ρ) (List Row × Option Failure) := do
  leave stream
  match ← Step.attempt (onSource stream.source.start) with
  | .error failure => return ([], some failure)
  | .ok deliveries =>
      onSource stream.source.stop
      return Delivery.rows deliveries

end Iteration

end InsertScript
