import InsertScript.Database.Client
import InsertScript.Export.Script
import InsertScript.Source.TableName

/-!
# Queries as sources

The result of a query as rows. The query is executed once for the columns and the rows that follow;
when the rows have been delivered, or delivering ends in some other way, its cursor is closed, and
the next rows are those of another execution.

Bytes, and texts over the threshold, become large objects.
-/

namespace InsertScript

structure Query where
  plan : ConnectionPlan
  /-- The text; without one the database is asked nothing in particular. -/
  statement : Choice
  tableName? : Option String := none
  /-- The number of rows that are fetched at once. -/
  fetchSize : Int := 1000
  /-- The length over which a text counts as large. -/
  threshold : Int := 4000

/-- A client, the columns once they are known, and the connection of the open cursor. -/
structure QueryState where
  client : Client
  columns? : Option (List Column) := none
  cursor? : Option Nat := none

namespace Query

/-- The origin of the records about queries. -/
def origin : String := "sqlexport.sources.query_source"

def cursorName : String := "sqlexport_source"

/-- The kinds of the types of the database, by their numbers. -/
def typeKinds : List (Int × DataKind) := [
  (16, .boolean),
  (20, .numeric), (21, .numeric), (23, .numeric), (26, .numeric), (700, .numeric), (701, .numeric),
  (1700, .numeric),
  (18, .string), (19, .string), (25, .string), (1042, .string), (1043, .string), (2950, .string),
  (1082, .datetime), (1083, .datetime), (1114, .datetime), (1184, .datetime), (1266, .datetime),
  (17, .binary),
  (114, .object), (3802, .object)]

def kindOf (type : Int) : DataKind := ((typeKinds.find? (·.1 == type)).map (·.2)).getD .unknown

/-- The columns that the database has in every table. -/
def pseudoColumns : List String := ["ctid", "oid", "xmin", "xmax", "cmin", "cmax", "tableoid"]

/-- A result column. -/
def columnOf (name : String) (type : Int) : Column :=
  { name, kind := kindOf type, typeName := toString type, isPseudo := pseudoColumns.contains name }

def onClient {α : Type} (step : Step Client α) : Step QueryState α :=
  Step.zoom QueryState.client (fun client state => { state with client }) step

def execute (q : Query) (connection : Nat) : Step QueryState Unit := do
  onClient (Client.ask (.openCursor connection (some cursorName)))
  let shown ← Step.ofExcept q.statement.value.display
  Step.report .debug origin s!"Executing source query: {shown}"
  onClient (Client.ask (.execute connection (some cursorName) q.statement (some q.fetchSize)))
  match (← Step.current).client.database.queryError? with
  | some e =>
      onClient (Client.ask (.closeCursor connection (some cursorName)))
      throw (.queryFailed e.reason)
  | none => Step.change fun state => { state with cursor? := some connection }

/-- Executes the query unless its cursor is open. -/
def ensureExecuted (q : Query) : Step QueryState Unit := do
  match (← Step.current).cursor? with
  | some _ => pure ()
  | none => q.execute (← onClient (Client.getConnection q.plan))

/-- The columns of the result. -/
def columns (q : Query) : Step QueryState (List Column) := do
  match (← Step.current).columns? with
  | some columns => return columns
  | none =>
      q.ensureExecuted
      match (← Step.current).client.database.description? with
      | none => throw .noResultColumns
      | some described =>
          let columns := described.map fun (name, type) => columnOf name type
          Step.change fun state => { state with columns? := some columns }
          return columns

/-- The table: the given one, or the one in the query. -/
def findTableName (q : Query) (bare : Bool) : Except Failure (Option String) := do
  let name? ← match q.tableName?.filter (· ≠ ""), q.statement with
    | some name, _ => pure (some name)
    | none, .text statement => pure (TableName.ofQuery statement)
    | none, other => throw (.notQuery other.value.qualifiedTypeName)
  return if bare then name?.map stripSchema else name?

/-! ### Rows -/

/-- An identity that no large object of the rows has. -/
def firstIdentity (rows : List (Except Failure Row)) : Nat :=
  let contents := rows.flatMap fun row =>
    match row with
    | .error _ => []
    | .ok cells => Value.contentsOfAll cells
  contents.foldl (fun first c => max first (c.identity + 1)) 0

/-- A value as it is delivered; `identity` is the one of a large object. -/
def convert (threshold : Int) (identity : Nat) : Value → Value
  | .bytes data => .content { identity, isText := false, payload := .bytes data }
  | .view data => .content { identity, isText := false, payload := .bytes data }
  | .text s =>
      if threshold < s.length then .content { identity, isText := true, payload := .text s }
      else .text s
  | v => v

/-- The identity after a value that was delivered. -/
def nextIdentity (identity : Nat) : Value → Nat
  | .content _ => identity + 1
  | _ => identity

/-- The values of a row, and the identity after them. -/
def convertCells (threshold : Int) (identity : Nat) : Row → Row × Nat
  | [] => ([], identity)
  | cell :: rest =>
      let value := convert threshold identity cell
      let (values, after) := convertCells threshold (nextIdentity identity value) rest
      (value :: values, after)

/-- What the rows of the result deliver. -/
def deliver (threshold : Int) (identity : Nat) : List (Except Failure Row) → List Delivery
  | [] => []
  | .error failure :: _ => [.failure failure]
  | .ok cells :: rest =>
      let (values, after) := convertCells threshold identity cells
      .row values :: deliver threshold after rest

/-- Starts to deliver rows. -/
def start (q : Query) : Step QueryState (List Delivery) := do
  q.ensureExecuted
  let rows := (← Step.current).client.database.rows
  return deliver q.threshold (firstIdentity rows) rows

/-- Closes the cursor. -/
def stop : Step QueryState Unit := do
  match (← Step.current).cursor? with
  | none => pure ()
  | some connection =>
      onClient (Client.ask (.closeCursor connection (some cursorName)))
      Step.change fun state => { state with cursor? := none }

def source (q : Query) : RowSource QueryState :=
  { columns := do return (← q.columns).map fun column => { column }
    tableName := fun bare => Step.ofExcept (q.findTableName bare)
    start := q.start
    stop := stop }

end Query

end InsertScript
