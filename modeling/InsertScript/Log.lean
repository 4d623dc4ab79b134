import InsertScript.Failure
import InsertScript.Unicode.Case

/-!
# The log

What an export reports on the way, as data. A log has a threshold and keeps the records that reach
it.
-/

namespace InsertScript

/-- How important a record is. -/
inductive Level where
  | debug | info | warning | error
deriving DecidableEq, Repr

namespace Level

def rank : Level → Nat
  | debug => 10
  | info => 20
  | warning => 30
  | error => 40

def name : Level → String
  | debug => "DEBUG"
  | info => "INFO"
  | warning => "WARNING"
  | error => "ERROR"

end Level

/-- A record: its importance, the part of the program it comes from, its text, and the failure it
reports if there is one. -/
structure LogRecord where
  level : Level
  origin : String
  message : String
  failure? : Option Failure := none
deriving DecidableEq, Repr

/-- A record in a line of text, with the time at which it was shown. -/
def LogRecord.line (record : LogRecord) (time : String) : String :=
  " - ".intercalate ([time, record.origin, record.level.name, record.message] ++
    (record.failure?.map Failure.message).toList)

/-- The records that reached a threshold, in order. -/
structure Log where
  threshold : Nat := Level.warning.rank
  records : List LogRecord := []
deriving DecidableEq, Repr

namespace Log

/-- How a record is laid out in a line of text. -/
def lineFormat : String := "%(asctime)s - %(name)s - %(levelname)s - %(message)s"

/-- Adds a record if it is important enough. -/
def add (log : Log) (record : LogRecord) : Log :=
  if log.threshold ≤ record.level.rank then { log with records := log.records ++ [record] } else log

/-- The names of thresholds; several have two. -/
def thresholdNames : List (String × Nat) := [
  ("NOTSET", 0), ("DEBUG", 10), ("INFO", 20), ("WARNING", 30), ("WARN", 30), ("ERROR", 40),
  ("CRITICAL", 50), ("FATAL", 50)]

/-- The threshold of a name in any letter case. Without a name only warnings and errors are kept; an
unknown name means the level of information. -/
def thresholdOf : Option String → Nat
  | none => Level.warning.rank
  | some name =>
      ((thresholdNames.find? (·.1 == Unicode.upperText name)).map (·.2)).getD Level.info.rank

end Log

end InsertScript
