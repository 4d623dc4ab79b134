import InsertScript.Database.Server
import InsertScript.Step

/-!
# The client of a database

A client holds at most one connection, opens it when it is first needed and keeps it as long as it
is used often enough: a connection that has been idle for longer than its lifetime is closed and
replaced. Every connection is restricted to reading before it is handed out; one that cannot be
restricted is closed.

The password is the given one, or the one of the environment, or the one that the user types; it is
kept until it is cleared.
-/

namespace InsertScript

/-- The variables of the process. -/
abbrev Environment := List (String × String)

namespace Environment

/-- The value of a variable. -/
def lookup? (env : Environment) (name : String) : Option String :=
  (env.find? (·.1 == name)).map (·.2)

/-- The value of a variable, or a default. -/
def lookup (env : Environment) (name default : String) : String := (env.lookup? name).getD default

end Environment

/-- A client and its surroundings. -/
structure Client where
  database : Database
  environment : Environment := []
  /-- What the user types when asked for a password. -/
  typedPassword : String := ""
  /-- The time in microseconds. -/
  clock : Int := 0
  /-- How much later the clock shows after each of the next looks at it; it may also go back. -/
  delays : List Int := []
  /-- What has been asked so far, in order. -/
  events : List DatabaseEvent := []
  /-- The number of connections opened so far. -/
  opened : Nat := 0
  password? : Option String := none
  /-- The connection that is held. -/
  held? : Option Nat := none
  /-- When the held connection was handed out last. -/
  lastUsed? : Option Int := none
  /-- Is the held connection restricted to reading? -/
  isReadOnly : Bool := false

/-- With whom a client connects, and how long a connection may be idle. -/
structure ConnectionPlan where
  parameters : ConnectionParameters
  lifetime : Duration

/-- The plan for connections that may be idle for some minutes. -/
def ConnectionPlan.ofMinutes (parameters : ConnectionParameters) (minutes : Int) :
    Except Failure ConnectionPlan :=
  match Duration.ofMinutes minutes with
  | .ok lifetime => .ok { parameters, lifetime }
  | .error days => .error (.malformed (.duration days))

namespace Client

/-- The origin of the records about connections. -/
def origin : String := "sqlexport.db.connection"

/-- The statement that restricts a connection to reading. -/
def readOnlyStatement : String := "SET SESSION CHARACTERISTICS AS TRANSACTION READ ONLY"

/-- The question for the password. -/
def passwordQuestion : String := "Database password: "

/-- The variable that may hold the password. -/
def passwordVariable : String := "PGPASSWORD"

/-- Asks something. -/
def ask (event : DatabaseEvent) : Step Client Unit :=
  Step.change fun c => { c with events := c.events ++ [event] }

/-- Fails if there is an error. -/
def refuse (error? : Option DatabaseError) : Step Client Unit :=
  match error? with
  | some e => throw e.failure
  | none => pure ()

/-! ### The password -/

/-- Finds a password: in the environment if it is set there, or else by asking the user. -/
def findPassword : Step Client String := do
  let c ← Step.current
  match (c.environment.lookup? passwordVariable).filter (· ≠ "") with
  | some password => return password
  | none =>
      ask (.prompt passwordQuestion)
      return c.typedPassword

def getPassword : Step Client String := do
  match (← Step.current).password? with
  | some password => return password
  | none =>
      let password ← findPassword
      Step.change fun c => { c with password? := some password }
      return password

/-- Forgets the password. -/
def clearPassword : Step Client Unit := Step.change fun c => { c with password? := none }

/-! ### Connections -/

def closeConnection (connection : Nat) : Step Client Unit := do
  ask (.close connection)
  refuse (Database.errorAt? (← Step.current).database.closeErrors connection)

/-- Closes the held connection if there is one; it is given up even if closing it fails. -/
def close : Step Client Unit := do
  match (← Step.current).held? with
  | none => pure ()
  | some connection =>
      Step.ensuring (closeConnection connection)
        (Step.change fun c => { c with held? := none, lastUsed? := none, isReadOnly := false })

def openConnection (parameters : ConnectionParameters) : Step Client Nat := do
  let password ← getPassword
  let c ← Step.current
  let connection := c.opened
  Step.change fun c => { c with opened := c.opened + 1 }
  ask (.connect connection parameters password)
  match Database.errorAt? c.database.connectErrors connection with
  | some e => throw (.connectionRefused e.reason)
  | none => return connection

/-- Restricts a connection to reading; one that cannot be restricted is closed. -/
def restrict (connection : Nat) : Step Client Unit := do
  ask (.openCursor connection none)
  ask (.execute connection none (.text readOnlyStatement) none)
  ask (.closeCursor connection none)
  match Database.errorAt? (← Step.current).database.readOnlyErrors connection with
  | none => Step.change fun c => { c with isReadOnly := true }
  | some e =>
      closeConnection connection
      throw (.readOnlyRefused e.reason)

/-- Opens a connection for reading. -/
def connect (plan : ConnectionPlan) : Step Client Nat := do
  let p := plan.parameters
  Step.report .info origin s!"Connecting to {p.host}:{p.port}/{p.database}"
  let connection ← openConnection p
  restrict connection
  return connection

/-- Lets time pass. The clock does not leave the calendar. -/
def advance (microseconds : Int) : Step Client Unit := do
  match (Duration.ofParts 0 0 microseconds).check with
  | .error days => throw (.malformed (.duration days))
  | .ok _ =>
      let clock := (← Step.current).clock + microseconds
      if clock < Moment.firstInstant ∨ Moment.endInstant ≤ clock then
        throw (.malformed (.calendar .outside))
      Step.change fun c => { c with clock }

/-- Lets the time pass until the next look at the clock. -/
def elapse : Step Client Unit :=
  Step.change fun c => { c with clock := c.clock + c.delays.headD 0, delays := c.delays.tail }

/-- Has the held connection been idle for longer than its lifetime? -/
def isExpired (plan : ConnectionPlan) (c : Client) : Bool :=
  match c.held?, c.lastUsed? with
  | some _, some lastUsed => decide (plan.lifetime.total < c.clock - lastUsed)
  | _, _ => false

/-- Gives up the held connection if it has been idle for too long. -/
def dropExpired (plan : ConnectionPlan) : Step Client Unit := do
  if (← Step.current).isExpired plan then
    Step.report .info origin "Connection expired, reconnecting"
    close

/-- The held connection, or else a new one. -/
def holdConnection (plan : ConnectionPlan) : Step Client Nat := do
  match (← Step.current).held? with
  | some connection => return connection
  | none =>
      let connection ← connect plan
      Step.change fun c => { c with held? := some connection }
      return connection

/-- A connection for reading. The clock is looked at twice: how long the held connection has been
idle, and when the connection is handed out. -/
def getConnection (plan : ConnectionPlan) : Step Client Nat := do
  dropExpired plan
  elapse
  let connection ← holdConnection plan
  Step.change fun c => { c with lastUsed? := some c.clock }
  elapse
  return connection

/-- Does something and gives up the connection afterwards, however it ended. -/
def within {α : Type} (body : Step Client α) : Step Client α := Step.ensuring body close

end Client

end InsertScript
