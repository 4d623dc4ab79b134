import InsertScript.Content
import InsertScript.Numeral.Binary64
import InsertScript.Numeral.Decimal
import InsertScript.Numeral.Quantity
import InsertScript.Time.Calendar
import InsertScript.Uuid

/-!
# Cell values

A row holds values of many types: the ones a database or a file can deliver, nested lists and
dictionaries, paths, large objects, and objects that are known only by their text.

* `isTruthy` says which values count as set when an option is read.
* A dictionary keeps its entries in order. `Value.ofEntries` builds one: of entries with equal keys
  the first place and the last value stay. What could be changed cannot be a key (`keyFault?`).
  Numbers are equal as numbers (`1`, `1.0` and true are one key), and times with an offset if they
  mean the same time.
-/

namespace InsertScript

/-- A value of a cell or an option. -/
inductive Value where
  | null
  | bool (b : Bool)
  | int (n : Int)
  | float (x : Binary64)
  | decimal (d : Decimal)
  | text (s : String)
  | moment (m : Moment)
  | date (d : Date)
  | clock (t : Clock) (offset : Option Int)
  | duration (d : Duration)
  | uuid (u : Uuid)
  | bytes (data : Bytes)
  /-- Bytes that could be changed. -/
  | buffer (data : Bytes)
  /-- A view of bytes held elsewhere. -/
  | view (data : Bytes)
  | list (items : List Value)
  | tuple (items : List Value)
  | dict (entries : List (Value × Value))
  /-- An object of a named type that is known by its text. -/
  | object (typeName text : String)
  | path (p : Path)
  | content (c : Content)
deriving Repr, Inhabited

/-- The cells of a row. -/
abbrev Row := List Value

namespace Value

/-- The name of a value's type. -/
def typeName : Value → String
  | .null => "NoneType"
  | .bool _ => "bool"
  | .int _ => "int"
  | .float _ => "float"
  | .decimal _ => "Decimal"
  | .text _ => "str"
  | .moment _ => "datetime"
  | .date _ => "date"
  | .clock .. => "time"
  | .duration _ => "timedelta"
  | .uuid _ => "UUID"
  | .bytes _ => "bytes"
  | .buffer _ => "bytearray"
  | .view _ => "memoryview"
  | .list _ => "list"
  | .tuple _ => "tuple"
  | .dict _ => "dict"
  | .object typeName _ => typeName
  | .path _ => "PosixPath"
  | .content c => c.kindName

/-- The name of a value's type with its module, for the types that show it. -/
def qualifiedTypeName : Value → String
  | .decimal _ => "decimal.Decimal"
  | .moment _ => "datetime.datetime"
  | .date _ => "datetime.date"
  | .clock .. => "datetime.time"
  | .duration _ => "datetime.timedelta"
  | v => v.typeName

/-- Does the value count as set? Zeros and empty values do not. -/
def isTruthy : Value → Bool
  | .null => false
  | .bool b => b
  | .int n => n != 0
  | .float x => !x.isZero
  | .decimal d => !d.isZero
  | .text s => s != ""
  | .duration d => !d.isZero
  | .bytes data | .buffer data | .view data => !data.isEmpty
  | .list items | .tuple items => !items.isEmpty
  | .dict entries => !entries.isEmpty
  | _ => true

mutual

/-- The large objects in a value, which may be a part of it. -/
def contents : Value → List Content
  | .content c => [c]
  | .list items => contentsOfAll items
  | .tuple items => contentsOfAll items
  | .dict entries => contentsOfEntries entries
  | _ => []

/-- The large objects in some values. -/
def contentsOfAll : List Value → List Content
  | [] => []
  | value :: rest => contents value ++ contentsOfAll rest

/-- The large objects in some entries. -/
def contentsOfEntries : List (Value × Value) → List Content
  | [] => []
  | (key, value) :: rest => contents key ++ contents value ++ contentsOfEntries rest

end

/-! ### Keys of dictionaries -/

mutual

/-- Why a value cannot be a key of a dictionary; nothing if it can. -/
def keyFault? : Value → Option ValueFault
  | .list _ => some (.unhashable "list")
  | .dict _ => some (.unhashable "dict")
  | .buffer _ => some (.unhashable "bytearray")
  | .decimal (.notANumber _ true _) => some .signalingKey
  | .tuple items => keyFaultOfAll? items
  | _ => none

/-- The first reason for which some values cannot be parts of a key. -/
def keyFaultOfAll? : List Value → Option ValueFault
  | [] => none
  | value :: rest => (keyFault? value).or (keyFaultOfAll? rest)

end

/-- The number that a value is. -/
def quantity? : Value → Option Quantity
  | .bool b => some (.ofInt b.toNat)
  | .int n => some (.ofInt n)
  | .float x =>
      if x.isNaN then none
      else if x.isInfinite then some (.infinite x.isNegative)
      else some (.binary x.isNegative x.mantissa x.exponent)
  | .decimal (.finite negative digits exponent) =>
      some (.decimal negative (Decimal.coefficient digits) exponent)
  | .decimal (.infinite negative) => some (.infinite negative)
  | _ => none

mutual

/-- Are two keys of a dictionary equal? -/
def sameKey : Value → Value → Bool
  | .null, .null => true
  | .int a, .int b => a == b
  | .text a, .text b => a == b
  | .bytes a, .bytes b | .bytes a, .view b | .view a, .bytes b | .view a, .view b => a == b
  | .moment a, .moment b => a.same b
  | .date a, .date b => a == b
  | .clock a x, .clock b y => a.same x b y
  | .duration a, .duration b => a == b
  | .uuid a, .uuid b => a == b
  | .path a, .path b => a == b
  | .tuple a, .tuple b => sameKeys a b
  | a, b =>
      match a.quantity?, b.quantity? with
      | some x, some y => x.same y
      | _, _ => false

/-- Are two lists of keys equal item by item? -/
def sameKeys : List Value → List Value → Bool
  | [], [] => true
  | a :: as, b :: bs => sameKey a b && sameKeys as bs
  | _, _ => false

end

/-- Sets the value of a key, at its old place if it is there. -/
def setEntry (key value : Value) : List (Value × Value) → List (Value × Value)
  | [] => [(key, value)]
  | (k, v) :: rest =>
      if sameKey k key then (k, value) :: rest else (k, v) :: setEntry key value rest

/-- A dictionary of entries given one after the other. -/
def ofEntries (entries : List (Value × Value)) : Value :=
  .dict (entries.foldl (fun done entry => setEntry entry.1 entry.2 done) [])

end Value

end InsertScript
