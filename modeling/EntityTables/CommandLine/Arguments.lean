/-
# EntityTables.CommandLine.Arguments — what the words of a command line ask for

Schema files and options in any order; behind `--` everything is a file. An option's value follows
it as a word of its own or behind an equals sign, and behind a short option at once. The words are
read from the left, and the first that is wrong, or that asks for help or for the version, ends the
reading.

* `Request` — what can be asked for; `Request.ofWords` — what some words ask for.
-/

namespace EntityTables.CommandLine

set_option autoImplicit false

/-- What a command line asks for. -/
inductive Request where
  | help
  | version
  /-- Compiles schemas, with settings from a certain file, and perhaps creates their tables. -/
  | compile (schemas : List String) (settings? : Option String) (apply : Bool)
  deriving DecidableEq, Inhabited

/-- Why a command line asks for nothing. -/
inductive UsageFault where
  | unknownOption (word : String)
  | missingValue (option : String)
  | emptyValue (name : String)
  | unexpectedValue (option : String)
  | repeatedOption (option : String)
  | noSchema
  deriving DecidableEq, Inhabited

/-- What the words so far have said. -/
structure Reading where
  /-- The schema files, latest first. -/
  schemas : List String
  settings? : Option String
  apply : Bool
  deriving DecidableEq, Inhabited

namespace Reading

/-- Adds a schema file. -/
def schema (reading : Reading) (name : String) : Except UsageFault Reading :=
  if name = "" then .error (.emptyValue "SCHEMA")
  else .ok { reading with schemas := name :: reading.schemas }

/-- Sets the settings file. -/
def settings (reading : Reading) (name : String) : Except UsageFault Reading :=
  if name = "" then .error (.emptyValue "FILE")
  else if reading.settings?.isSome then .error (.repeatedOption "config")
  else .ok { reading with settings? := some name }

/-- Asks for the tables to be created. -/
def create (reading : Reading) : Except UsageFault Reading :=
  if reading.apply then .error (.repeatedOption "apply") else .ok { reading with apply := true }

/-- What was read. -/
def request (reading : Reading) : Except UsageFault Request :=
  if reading.schemas = [] then .error .noSchema
  else .ok (.compile reading.schemas.reverse reading.settings? reading.apply)

end Reading

/-- Whether a word can be the value of an option: it does not look like an option itself. -/
def isValue (word : String) : Bool := word.toList.head? != some '-' || word = "-"

/-- The word behind an option, and the words behind that. -/
def valueBehind (option : String) : List String → Except UsageFault (String × List String)
  | [] => .error (.missingValue option)
  | word :: rest => if isValue word then .ok (word, rest) else .error (.missingValue option)

/-- A long option's name, and its value behind an equals sign. -/
def splitOption (word : List Char) : String × Option String :=
  (String.ofList (word.takeWhile (· != '=')),
    match word.dropWhile (· != '=') with
    | [] => none
    | _ :: value => some (String.ofList value))

/-- What one word asks for. -/
inductive Meaning where
  | help
  | version
  | apply
  | unexpected (option : String)
  /-- The settings file, if its name stands in the same word. -/
  | settings (name? : Option String)
  | unknown
  | schema
  /-- Everything behind is a schema file. -/
  | onlySchemas
  deriving DecidableEq, Inhabited

/-- What a long option asks for. -/
def longMeaning (word : List Char) : Meaning :=
  match splitOption word with
  | ("help", none) => .help
  | ("version", none) => .version
  | ("apply", none) => .apply
  | ("config", name?) => .settings name?
  | (name, some _) =>
    if name = "help" ∨ name = "version" ∨ name = "apply" then .unexpected name else .unknown
  | _ => .unknown

/-- What a word asks for. -/
def meaning (word : String) : Meaning :=
  match word.toList with
  | ['-', '-'] => .onlySchemas
  | '-' :: '-' :: name => longMeaning name
  | ['-'] => .schema
  | ['-', 'c'] => .settings none
  | '-' :: 'c' :: '=' :: name => .settings (some (String.ofList name))
  | '-' :: 'c' :: name => .settings (some (String.ofList name))
  | '-' :: 'h' :: _ => .help
  | '-' :: 'V' :: _ => .version
  | '-' :: _ => .unknown
  | _ => .schema

/-- What words ask for, behind some that have been read. Each step takes at least one word. -/
def Request.read (reading : Reading) : Nat → List String → Except UsageFault Request
  | 0, _ => reading.request
  | _ + 1, [] => reading.request
  | steps + 1, word :: rest => do
    match meaning word with
    | .help => return .help
    | .version => return .version
    | .apply => read (← reading.create) steps rest
    | .unexpected option => throw (.unexpectedValue option)
    | .settings (some name) => read (← reading.settings name) steps rest
    | .settings none =>
      let (name, rest) ← valueBehind "config" rest
      read (← reading.settings name) steps rest
    | .unknown => throw (.unknownOption word)
    | .schema => read (← reading.schema word) steps rest
    | .onlySchemas => (← rest.foldlM Reading.schema reading).request

/-- What the words of a command line ask for. -/
def Request.ofWords (words : List String) : Except UsageFault Request :=
  read ⟨[], none, false⟩ words.length words

end EntityTables.CommandLine
