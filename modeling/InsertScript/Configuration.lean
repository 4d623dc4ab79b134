import InsertScript.Database.Client
import InsertScript.Settings

/-!
# Configuration

What the variables of the process say about the database, the form of the script and the place of
output files. A variable that is absent has a default; numbers have to be readable.
-/

namespace InsertScript

/-- The configuration of a run. -/
structure Configuration where
  database : ConnectionParameters
  settings : Settings := {}
  dialect : String := "generic"
  lifetimeMinutes : Int := 30
  logLevel : String := "INFO"
  threshold : Int := 4000
  outputDirectory : Path

namespace Configuration

/-- What the names of the variables for settings start with. -/
def variableStart : String := "SQLEXPORT_"

/-- The variable of a setting. -/
def variableOf (property : String) : String := variableStart ++ Unicode.upperText property

/-- The variables that are not about settings. -/
def otherVariables : List String := [
  "HOME", "DB_HOST", "DB_PORT", "DB_NAME", "DB_USER", "DB_SCHEMA", "SQL_DIALECT",
  "CONNECTION_TTL_MINUTES", "LOG_LEVEL", "SQLEXPORT_LOB_THRESHOLD", "SQLEXPORT_OUTPUT_DIR",
  Client.passwordVariable]

/-- All variables that matter to a run. -/
def variableNames : List String := otherVariables ++ Settings.propertyNames.map variableOf

/-- The settings that variables describe, as properties. -/
def properties (env : Environment) : Properties :=
  Settings.propertyNames.filterMap fun name =>
    (env.lookup? (variableOf name)).map fun value => (name, .text value)

/-- The settings that variables describe. -/
def loadSettings {σ : Type} (env : Environment) : Step σ Settings := do
  let (settings, remark?) ← Step.ofExcept (Settings.ofProperties (properties env))
  Step.noteAll remark?
  return settings

/-- A number in a variable. -/
def readNumber (env : Environment) (name default : String) : Except Failure Int :=
  (Numeral.readInteger (env.lookup name default)).mapError .integer

/-- A text without slashes at its end. -/
def dropSlashes (text : String) : String :=
  String.ofList (text.toList.reverse.dropWhile (· == '/')).reverse

/-- The home directory; an empty one is the root, and one that starts with a tilde is unknown. -/
def home (env : Environment) : Except Failure Path :=
  let place := dropSlashes (env.lookup "HOME" "")
  if place.toList.head? = some '~' then .error .noHome
  else .ok (Path.ofString (if place = "" then "/" else place))

/-- Where output files go unless told otherwise. -/
def defaultOutput (env : Environment) : Except Failure Path := do
  return (← home env).join (Path.ofString ".sqlexport/exports")

/-- The parameters of the connection. -/
def loadDatabase (env : Environment) : Except Failure ConnectionParameters := do
  let port ← readNumber env "DB_PORT" "5432"
  return { host := env.lookup "DB_HOST" "localhost", port, database := env.lookup "DB_NAME" "",
           user := env.lookup "DB_USER" "", schema := env.lookup "DB_SCHEMA" "public" }

/-- The configuration that the variables describe. -/
def load {σ : Type} (env : Environment) : Step σ Configuration := do
  let database ← Step.ofExcept (loadDatabase env)
  let standard ← Step.ofExcept (defaultOutput env)
  let settings ← loadSettings env
  let lifetimeMinutes ← Step.ofExcept (readNumber env "CONNECTION_TTL_MINUTES" "30")
  let threshold ← Step.ofExcept (readNumber env "SQLEXPORT_LOB_THRESHOLD" "4000")
  return { database, settings, dialect := env.lookup "SQL_DIALECT" "generic", lifetimeMinutes,
           logLevel := env.lookup "LOG_LEVEL" "INFO", threshold
           outputDirectory :=
             ((env.lookup? "SQLEXPORT_OUTPUT_DIR").map Path.ofString).getD standard }

/-- The configuration for a database with everything else left at its default. -/
def ofDatabase (env : Environment) (database : ConnectionParameters) :
    Except Failure Configuration := do
  return { database, outputDirectory := ← defaultOutput env }

end Configuration

end InsertScript
