import InsertScript.Choice
import InsertScript.Overlay

/-!
# Arguments

The options of the command line and their reading.

* An option has a long name, which may be cut as long as only one option fits, and some have a
  letter. Its value is the next word, or follows an equals sign, or follows the letter directly. In
  the latter two places the separator of two hyphens stands for no value: the option is given and
  chooses nothing.
* After the letter for help more letters may follow, as if each had a hyphen of its own.
* A word starting with a hyphen is an option unless it looks like a negative number or holds a
  blank. All words are told apart before any option takes effect, and after a word of two hyphens
  none is an option.
* Exactly one source is named: a file or a query.
-/

namespace InsertScript

/-- The options. -/
inductive Flag where
  | help | csv | query | delimiter | host | port | user | database | table | dialect | rows
  | variant | onConflict | keywordCase | identifierCase | includeAutoGenerated | omitSchema
  | noNativeFormat | noLineBeforeRows | useDialectDefaults | output | save | append | logLevel
  | version
deriving DecidableEq, Repr

namespace Flag

/-- All spellings with what they mean, in the order in which they are listed. -/
def spellings : List (String × Flag) := [
  ("-h", help), ("--help", help), ("--csv", csv), ("--query", query), ("--delimiter", delimiter),
  ("--host", host), ("--port", port), ("--user", user), ("--database", database),
    ("--table", table),
  ("--dialect", dialect), ("--rows-per-statement", rows), ("--variant", variant),
  ("--on-conflict", onConflict), ("--keyword-case", keywordCase),
  ("--identifier-case", identifierCase), ("--include-auto-generated", includeAutoGenerated),
  ("--omit-schema", omitSchema), ("--no-native-format", noNativeFormat),
  ("--no-line-before-rows", noLineBeforeRows), ("--use-dialect-defaults", useDialectDefaults),
  ("--output", output), ("-o", output), ("--save", save), ("--append", append),
  ("--log-level", logLevel), ("--version", version)]

/-- The option with exactly this spelling. -/
def ofSpelling? (word : String) : Option Flag := (spellings.find? (·.1 == word)).map (·.2)

/-- The name of an option in messages: all its spellings. -/
def name (f : Flag) : String :=
  "/".intercalate ((spellings.filter (·.2 == f)).map (·.1))

/-- Does the option take a value? -/
def takesValue : Flag → Bool
  | help | includeAutoGenerated | omitSchema | noNativeFormat | noLineBeforeRows
  | useDialectDefaults | save | append | version => false
  | _ => true

/-- The values that an option accepts, if not all are. -/
def choices? : Flag → Option (List String)
  | keywordCase => some ["upper", "lower"]
  | identifierCase => some ["as is", "upper", "lower"]
  | logLevel => some ["DEBUG", "INFO", "WARNING", "ERROR"]
  | _ => none

end Flag

/-- What is wrong with a command line. -/
inductive UsageFault where
  /-- Several options fit a word. -/
  | ambiguous (word : String) (candidates : List String)
  | missingValue (flag : Flag)
  /-- A value is given to an option that takes none. -/
  | superfluousValue (flag : Flag) (value : String)
  /-- Two options exclude each other. -/
  | conflict (flag other : Flag)
  | notAnInteger (flag : Flag) (value : String)
  | notAChoice (flag : Flag) (value : String) (choices : List String)
  /-- One of some options is needed. -/
  | noneOf (flags : List Flag)
  | unrecognized (words : List String)
deriving DecidableEq, Repr

/-- The wording of the faults. -/
def UsageFault.message : UsageFault → String
  | .ambiguous word candidates =>
      s!"ambiguous option: {word} could match " ++ ", ".intercalate candidates
  | .missingValue flag => s!"argument {flag.name}: expected one argument"
  | .superfluousValue flag value =>
      s!"argument {flag.name}: ignored explicit argument " ++ Quoted.ofString value
  | .conflict flag other => s!"argument {flag.name}: not allowed with argument {other.name}"
  | .notAnInteger flag value =>
      s!"argument {flag.name}: invalid int value: " ++ Quoted.ofString value
  | .notAChoice flag value choices =>
      s!"argument {flag.name}: invalid choice: " ++ Quoted.ofString value ++ " (choose from " ++
        ", ".intercalate (choices.map Quoted.ofString) ++ ")"
  | .noneOf flags =>
      "one of the arguments " ++ " ".intercalate (flags.map Flag.name) ++ " is required"
  | .unrecognized words => "unrecognized arguments: " ++ " ".intercalate words

namespace UsageFault

/-- What stands before the message in a report. -/
def mark : String := "error: "

/-- The line that reports a fault. The message may have line ends of its own, from the words it
shows. -/
def report (program : String) (fault : UsageFault) : String :=
  program ++ ": " ++ mark ++ fault.message ++ "\n"

/-- The last line of a text, not counting the line feeds at its end. -/
def lastLine (text : List Char) : List Char :=
  ((text.reverse.dropWhile (· == '\n')).takeWhile (· != '\n')).reverse

/-- What follows the mark in a text, from its first place on; nothing if it is not there. -/
def afterMark? : List Char → Option (List Char)
  | [] => none
  | c :: rest =>
      if mark.toList.isPrefixOf (c :: rest) then some ((c :: rest).drop mark.length)
      else afterMark? rest

/-- What the last line of the report complains of; nothing if the mark is not in it. -/
def lastComplaint? (fault : UsageFault) : Option String :=
  (afterMark? (lastLine (fault.report "").toList)).map String.ofList

end UsageFault

/-- What the command line asks for. -/
structure Arguments where
  csv : Choice := .unset
  query : Choice := .unset
  delimiter : Choice := .text ","
  host : Choice := .unset
  port? : Option Int := none
  user : Choice := .unset
  database : Choice := .unset
  dialect : Choice := .unset
  output : Choice := .unset
  save : Bool := false
  append : Bool := false
  logLevel : Choice := .unset
  overlay : Overlay := {}

/-- What comes of reading a command line. -/
inductive Reading where
  | arguments (a : Arguments)
  /-- The user only wants to know how the program is used. -/
  | help
  /-- The user only wants to know which version this is. -/
  | version
  | fault (f : UsageFault)

namespace Arguments

/-! ### Words -/

/-- The word after which no options come. -/
def separator : String := "--"

inductive Word where
  | plain
  | separator
  /-- An option, with the value that is part of its word. -/
  | option (flag : Flag) (attached? : Option String)
  /-- It looks like an option and is none. -/
  | unknown
deriving DecidableEq, Repr

/-- The word before its first equals sign, and what follows the sign if there is one. -/
def splitSign (word : List Char) : List Char × Option (List Char) :=
  let head := word.takeWhile (· ≠ '=')
  match word.drop head.length with
  | _ :: value => (head, some value)
  | [] => (head, none)

/-- Looks a text like a negative number? -/
def looksNegative (word : List Char) : Bool :=
  match word with
  | '-' :: rest =>
      let body := if rest.getLast? = some '\n' then rest.dropLast else rest
      let whole := body.takeWhile (· ≠ '.')
      let places := body.drop (whole.length + 1)
      whole.all Unicode.isDigit &&
        (if whole.length = body.length then !whole.isEmpty
         else !places.isEmpty && places.all Unicode.isDigit)
  | _ => false

/-- The options that a word with two hyphens may be short for. -/
def longCandidates (word : List Char) : List (String × Word) :=
  let (head, value?) := splitSign word
  (Flag.spellings.filter fun s => head.isPrefixOf s.1.toList).map fun s =>
    (s.1, .option s.2 (value?.map String.ofList))

/-- The options that a word with one hyphen may mean: its letter, with the rest as a value, or a
spelling that it begins. -/
def shortCandidates (word : List Char) : List (String × Word) :=
  let letter := String.ofList (word.take 2)
  Flag.spellings.filterMap fun s =>
    if s.1 = letter then some (s.1, .option s.2 (some (String.ofList (word.drop 2))))
    else if word.isPrefixOf s.1.toList then some (s.1, .option s.2 none)
    else none

/-- The options that a word may mean, if it is none itself. -/
def candidates (word : List Char) : List (String × Word) :=
  match word with
  | '-' :: '-' :: _ => longCandidates word
  | _ => shortCandidates word

/-- The option that a word names together with an equals sign and a value. -/
def withSign? (word : List Char) : Option Word :=
  match splitSign word with
  | (head, some value) =>
      (Flag.ofSpelling? (String.ofList head)).map fun flag =>
        .option flag (some (String.ofList value))
  | (_, none) => none

/-- What a word is, as long as options may come. -/
def classify (text : String) : Except UsageFault Word :=
  let word := text.toList
  if word.head? ≠ some '-' then .ok .plain
  else match Flag.ofSpelling? text with
    | some flag => .ok (.option flag none)
    | none =>
        if word.length = 1 then .ok .plain
        else match withSign? word with
          | some found => .ok found
          | none =>
              match candidates word with
              | [(_, found)] => .ok found
              | first :: second :: more =>
                  .error (.ambiguous text ((first :: second :: more).map (·.1)))
              | [] =>
                  if looksNegative word || word.contains ' ' then .ok .plain else .ok .unknown

/-- The words of a command line with what they are. -/
def classifyAll : List String → Except UsageFault (List (String × Word))
  | [] => .ok []
  | word :: rest =>
      if word = separator then .ok ((word, .separator) :: rest.map fun w => (w, .plain))
      else do
        let found ← classify word
        return (word, found) :: (← classifyAll rest)

/-! ### Options -/

/-- Reading under way: the arguments so far, and the words that could not be used, last one
first. -/
structure Progress where
  arguments : Arguments := {}
  extras : List String := []

/-- The options that exclude each other and one of which is needed. -/
def sources : List Flag := [.csv, .query]

/-- Refuses the second of two options that exclude each other. -/
def checkConflict (a : Arguments) : Flag → Except UsageFault Unit
  | .csv => if a.query.isGiven then .error (.conflict .csv .query) else .ok ()
  | .query => if a.csv.isGiven then .error (.conflict .query .csv) else .ok ()
  | _ => .ok ()

/-- Refuses values that an option does not accept. -/
def checkChoice (flag : Flag) : Choice → Except UsageFault Unit
  | .text value =>
      match flag.choices? with
      | some choices =>
          if choices.contains value then .ok () else .error (.notAChoice flag value choices)
      | none => .ok ()
  | _ => .ok ()

/-- The integer that is chosen for an option that wants one. -/
def readInteger (flag : Flag) : Choice → Except UsageFault (Option Int)
  | .text value =>
      match Numeral.readInteger value with
      | .ok n => .ok (some n)
      | .error _ => .error (.notAnInteger flag value)
  | _ => .ok none

/-- The arguments with what is chosen for an option. -/
def setValue (a : Arguments) (flag : Flag) (choice : Choice) : Except UsageFault Arguments := do
  checkChoice flag choice
  checkConflict a flag
  let overlay := a.overlay
  match flag with
  | .csv => return { a with csv := choice }
  | .query => return { a with query := choice }
  | .delimiter => return { a with delimiter := choice }
  | .host => return { a with host := choice }
  | .port => return { a with port? := ← readInteger flag choice }
  | .user => return { a with user := choice }
  | .database => return { a with database := choice }
  | .table => return { a with overlay := { overlay with table := choice.text? } }
  | .dialect => return { a with dialect := choice }
  | .rows => return { a with overlay := { overlay with rows := choice.value } }
  | .variant => return { a with overlay := { overlay with variant := choice.value } }
  | .onConflict => return { a with overlay := { overlay with onConflict := choice.text? } }
  | .keywordCase => return { a with overlay := { overlay with keywordCase := choice.value } }
  | .identifierCase => return { a with overlay := { overlay with identifierCase := choice.value } }
  | .output => return { a with output := choice }
  | .logLevel => return { a with logLevel := choice }
  | _ => return a

/-- The arguments with a switch turned on. -/
def setSwitch (a : Arguments) : Flag → Arguments
  | .includeAutoGenerated => { a with overlay := { a.overlay with includeAutoGenerated := true } }
  | .omitSchema => { a with overlay := { a.overlay with omitSchema := true } }
  | .noNativeFormat => { a with overlay := { a.overlay with noNativeFormat := true } }
  | .noLineBeforeRows => { a with overlay := { a.overlay with noLineBeforeRows := true } }
  | .useDialectDefaults => { a with overlay := { a.overlay with useDialectDefaults := true } }
  | .save => { a with save := true }
  | .append => { a with append := true }
  | _ => a

/-- What comes of an option without a value, given as it is. -/
def takeSwitch (p : Progress) (flag : Flag) : Progress ⊕ Reading :=
  match flag with
  | .help => .inr .help
  | .version => .inr .version
  | flag => .inl { p with arguments := p.arguments.setSwitch flag }

/-- What comes of the letter for help with more characters after it: each is a letter of its own,
and one that takes a value has the rest, or the next word if `valueFollows`. -/
def readLetters (valueFollows : Bool) : List Char → Reading
  | ['h'] => .help
  | 'h' :: rest => readLetters valueFollows rest
  | ['o'] => if valueFollows then .help else .fault (.missingValue .output)
  | 'o' :: _ => .help
  | attached => .fault (.superfluousValue .help (String.ofList attached))

/-- What comes of an option without a value to which something is attached. -/
def readAttached (flag : Flag) (spelledShort valueFollows : Bool) (attached : String) : Reading :=
  if spelledShort then readLetters valueFollows attached.toList
  else .fault (.superfluousValue flag attached)

/-- Is the word spelled with a single hyphen? -/
def isShort (word : String) : Bool :=
  match word.toList with
  | '-' :: '-' :: _ => false
  | _ => true

/-- Can the first of some words be a value? -/
def startsPlain : List (String × Word) → Bool
  | (_, .plain) :: _ => true
  | _ => false

/-- What is chosen by a value that is part of the word of its option. -/
def choiceOfAttached (value : String) : Choice := if value = separator then .blank else .text value

/-- Reads words; `p` is what has been read so far. -/
def readWords (p : Progress) : List (String × Word) → Progress ⊕ Reading
  | [] => .inl p
  | (word, .option flag attached?) :: rest =>
      if flag.takesValue then
        match attached?, rest with
        | some attached, rest =>
            match p.arguments.setValue flag (choiceOfAttached attached) with
            | .error fault => .inr (.fault fault)
            | .ok a => readWords { p with arguments := a } rest
        | none, (value, .plain) :: rest =>
            match p.arguments.setValue flag (.text value) with
            | .error fault => .inr (.fault fault)
            | .ok a => readWords { p with arguments := a } rest
        | none, _ => .inr (.fault (.missingValue flag))
      else
        match attached? with
        | some attached => .inr (readAttached flag (isShort word) (startsPlain rest) attached)
        | none =>
            match takeSwitch p flag with
            | .inl p => readWords p rest
            | .inr reading => .inr reading
  | (word, _) :: rest => readWords { p with extras := word :: p.extras } rest

/-- Reads a command line. -/
def read (words : List String) : Reading :=
  match classifyAll words with
  | .error fault => .fault fault
  | .ok classified =>
      match readWords {} classified with
      | .inr reading => reading
      | .inl p =>
          if !p.arguments.csv.isGiven && !p.arguments.query.isGiven then .fault (.noneOf sources)
          else if p.extras.isEmpty then .arguments p.arguments
          else .fault (.unrecognized p.extras.reverse)

end Arguments

end InsertScript
