import InsertScript.Log

/-!
# Steps

A step changes a state, may report to a log, and may end in a failure. What it did before a failure
stays done, in the state and in the log.

* `Step.zoom` runs a step on a part of a larger state.
* `Step.attempt` makes the failure of a step an ordinary result.
* `Step.run` takes a step from a given state; what it answers and what it leaves stand side by side.
* `Step.ensuring` runs a second step after the first one, however that ended; a failure of the
  second step takes the place of the result of the first.
-/

namespace InsertScript

/-- A state, and the log of what happened to it. -/
structure Logged (σ : Type) where
  log : Log
  state : σ

/-- A step on a state. -/
abbrev Step (σ α : Type) : Type := EStateM Failure (Logged σ) α

namespace Step

variable {σ τ α : Type}

/-- Adds a record to the log. -/
def note (record : LogRecord) : Step σ Unit := fun s =>
  .ok () { s with log := s.log.add record }

/-- Adds a record to the log if there is one. -/
def noteAll (record? : Option LogRecord) : Step σ Unit :=
  match record? with
  | some record => note record
  | none => pure ()

/-- Reports something. -/
def report (level : Level) (origin message : String) : Step σ Unit :=
  note { level, origin, message }

def current : Step σ σ := fun s => .ok s.state s

def change (f : σ → σ) : Step σ Unit := fun s => .ok () { s with state := f s.state }

/-- The outcome of a computation. -/
def ofExcept : Except Failure α → Step σ α
  | .ok a => pure a
  | .error failure => throw failure

/-- A step on a part of the state. -/
def zoom (part : τ → σ) (replace : σ → τ → τ) (step : Step σ α) : Step τ α := fun s =>
  match step { log := s.log, state := part s.state } with
  | .ok a t => .ok a { log := t.log, state := replace t.state s.state }
  | .error failure t => .error failure { log := t.log, state := replace t.state s.state }

/-- A step whose failure is a result. -/
def attempt (step : Step σ α) : Step σ (Except Failure α) := fun s =>
  match step s with
  | .ok a t => .ok (.ok a) t
  | .error failure t => .ok (.error failure) t

/-- The outcome of a step and the state that it leaves. -/
def run (step : Step σ α) (s : Logged σ) : Except Failure α × Logged σ :=
  match step s with
  | .ok a t => (.ok a, t)
  | .error failure t => (.error failure, t)

/-- A step and another one after it in any case. -/
def ensuring (step : Step σ α) (last : Step σ Unit) : Step σ α := do
  let outcome ← attempt step
  last
  ofExcept outcome

end Step

end InsertScript
