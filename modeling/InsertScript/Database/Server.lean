import InsertScript.Choice

/-!
# The database

What is known of a database: how it answers, and the history of what was asked of it. Its
connections are numbered in the order in which they are opened, and it may answer differently on
each.
-/

namespace InsertScript

/-- An error of the database: its kind and its text. -/
structure DatabaseError where
  kind : String
  reason : String
deriving DecidableEq, Repr

/-- The failure that an error of the database is. -/
def DatabaseError.failure (e : DatabaseError) : Failure := .database e.kind e.reason

/-- How a database answers. -/
structure Database where
  /-- The errors of opening the connections, by their numbers. -/
  connectErrors : List (Option DatabaseError) := []
  /-- The errors of restricting the connections to reading. -/
  readOnlyErrors : List (Option DatabaseError) := []
  /-- The errors of closing the connections. -/
  closeErrors : List (Option DatabaseError) := []
  /-- The error of the source query. -/
  queryError? : Option DatabaseError := none
  /-- The names and types of the result columns; nothing if the query has no result. -/
  description? : Option (List (String × Int)) := some []
  /-- The rows of the result, and the failures that fetching them meets. -/
  rows : List (Except Failure Row) := []

/-- With whom a connection is made, and as whom. -/
structure ConnectionParameters where
  host : String
  port : Int
  database : String
  user : String
  schema : String := "public"
deriving DecidableEq, Repr

/-- What is asked of the database, or of the user on its behalf. Cursors may have names. -/
inductive DatabaseEvent where
  | prompt (question : String)
  | connect (connection : Nat) (parameters : ConnectionParameters) (password : String)
  | openCursor (connection : Nat) (name? : Option String)
  | execute (connection : Nat) (cursor? : Option String) (statement : Choice)
      (fetchSize? : Option Int)
  | closeCursor (connection : Nat) (name? : Option String)
  | close (connection : Nat)
deriving DecidableEq, Repr

namespace Database

def errorAt? (errors : List (Option DatabaseError)) (connection : Nat) : Option DatabaseError :=
  (errors[connection]?).join

end Database

end InsertScript
