import InsertScript.FileSystem.Tree
import InsertScript.Numeral.Integer
import InsertScript.Text.Encoding
import InsertScript.Value.Fault

/-!
# Failures

Everything that can stop a step of an export, by its cause. `Failure.message` has the wording, and
predicates say who deals with a failure:

* a failure of the application is one that the user can mend (a missing parameter, a malformed
  file);
* an interruption comes from the user and passes through everything that deals with failures.

A path that is no path is a fault of whoever wrote it, so it is not a refusal of the file system.

The name of a type can be long: each wording keeps a certain number of its bytes.
-/

namespace InsertScript

/-- The failures of the application, by the part that reports them. -/
inductive Concern where
  | configuration
  | connection
  | readOnly
  | source
  | cancellation
deriving DecidableEq, Repr

/-- Why a step could not be completed. -/
inductive Failure where
  /-- There is no dialect of this name. -/
  | unknownDialect (name : String) (known : List String)
  /-- A query needs a host, a user and a database. -/
  | missingParameters
  /-- The database did not accept a connection. -/
  | connectionRefused (reason : String)
  /-- The session could not be restricted to reading. -/
  | readOnlyRefused (reason : String)
  /-- The database did not execute the source query. -/
  | queryFailed (reason : String)
  /-- The source query has no result columns. -/
  | noResultColumns
  /-- The file could not be opened. -/
  | unopenedFile (path : Path) (fault : FileFault)
  /-- The file has no header line. -/
  | noHeader (path : Path)
  /-- A record of the file has another number of fields than the header. -/
  | wrongWidth (path : Path) (line expected found : Nat)
  /-- A source reports this failure itself. -/
  | sourceFailed (reason : String)
  /-- The export was cancelled while a large object was being copied. -/
  | cancelled
  /-- The database reports an error of this kind. -/
  | database (kind reason : String)
  /-- The user interrupts the program. -/
  | interrupted (reason : String)
  /-- The file system refuses something. -/
  | file (fault : FileFault)
  /-- A file cannot hold any more. -/
  | fullFile
  /-- A large object cannot be obtained. -/
  | unavailable (reason : String)
  /-- Bytes are no text. -/
  | undecodable (fault : DecodingFault)
  /-- Characters cannot be stored. -/
  | unencodable (fault : EncodingFault)
  /-- There is no encoding of this name. -/
  | unknownEncoding (name : String)
  /-- Text and integer cannot be converted into each other. -/
  | integer (fault : Numeral.IntegerFault)
  /-- A value cannot be made. -/
  | malformed (fault : ValueFault)
  /-- A field of a delimited file is longer than allowed. -/
  | longField (limit : Nat)
  /-- A delimiter is not a single character. -/
  | badDelimiter
  /-- A delimiter is no text but of this type. -/
  | notDelimiter (typeName : String)
  /-- A key of a nested value cannot be written. -/
  | badKey (typeName : String)
  /-- A value that should be a text, so that something can be done with it, is of this type. -/
  | notText (typeName operation : String)
  /-- Words that should be texts are of this type. -/
  | notTextWords (typeName : String)
  /-- A query in which a table name is looked for is no text but of this type. -/
  | notQuery (typeName : String)
  /-- The home directory is unknown. -/
  | noHome
  /-- A value handler rejects a value. -/
  | rejected (reason : String)
  /-- A step is abandoned for this reason. -/
  | aborted (reason : String)
deriving DecidableEq, Repr

namespace Failure

/-- A name of which at most `limit` bytes are shown. -/
def shown (limit : Nat) (name : String) : String := String.ofList (Utf8.clip limit name.toList)

/-- The wording of a failure. -/
def message : Failure → String
  | .unknownDialect name known =>
      s!"Unknown SQL dialect: {name}. Expected one of: " ++ ", ".intercalate known
  | .missingParameters => "Missing required connection parameters"
  | .connectionRefused reason => s!"Database connection failed: {reason}"
  | .readOnlyRefused reason => s!"Could not enforce read-only session: {reason}"
  | .queryFailed reason => s!"Source query failed: {reason}"
  | .noResultColumns => "Query does not return rows"
  | .unopenedFile path fault => s!"Cannot open CSV file {path.text}: {fault.message}"
  | .noHeader path => s!"CSV file {path.text} has no header line"
  | .wrongWidth path line expected found =>
      s!"{path.text}:{line}: expected {expected} fields, got {found}"
  | .sourceFailed reason => reason
  | .cancelled => "Export cancelled while reading content"
  | .database _ reason => reason
  | .interrupted reason => reason
  | .file fault => fault.message
  | .fullFile => "[Errno 27] File too large"
  | .unavailable reason => reason
  | .undecodable fault => fault.message
  | .unencodable fault => fault.message
  | .unknownEncoding name => s!"unknown encoding: {name}"
  | .integer fault => fault.message
  | .malformed fault => fault.message
  | .longField limit => s!"field larger than field limit ({limit})"
  | .badDelimiter => "\"delimiter\" must be a 1-character string"
  | .notDelimiter typeName => s!"\"delimiter\" must be string, not {shown 200 typeName}"
  | .badKey typeName => s!"keys must be str, int, float, bool or None, not {shown 100 typeName}"
  | .notText typeName operation => s!"'{shown 50 typeName}' object has no attribute '{operation}'"
  | .notTextWords typeName => s!"sequence item 0: expected str instance, {shown 80 typeName} found"
  | .notQuery typeName => s!"expected string or bytes-like object, got '{shown 200 typeName}'"
  | .noHome => "Could not determine home directory."
  | .rejected reason => reason
  | .aborted reason => reason

/-- The part of the application that reports the failure; nothing for failures from outside it. -/
def concern? : Failure → Option Concern
  | .unknownDialect .. | .missingParameters => some .configuration
  | .connectionRefused _ => some .connection
  | .readOnlyRefused _ => some .readOnly
  | .queryFailed _ | .noResultColumns | .unopenedFile .. | .noHeader _ | .wrongWidth ..
  | .sourceFailed _ => some .source
  | .cancelled => some .cancellation
  | _ => none

/-- Is this a failure of the application? -/
def isApplication (failure : Failure) : Bool := failure.concern?.isSome

/-- Is it the file system that refuses something? -/
def isSystem : Failure → Bool
  | .file fault => fault.isSystem
  | .fullFile => true
  | _ => false

/-- Does the failure come from the user? -/
def isInterruption : Failure → Bool
  | .interrupted _ => true
  | _ => false

end Failure

end InsertScript
