/-
# EntityTables.Toml.Reader — reading a settings file

A line is empty, a header, or a key and its value; a comment may end it. Values are texts on one or
several lines, words, arrays and tables in braces, and these last two may go on over several lines.

* `readDocument` — the table that a text is, if it is one.
-/
import EntityTables.Toml.Scalar

namespace EntityTables.Toml

set_option autoImplicit false

/-! ## Texts -/

/-- Controls other than the tabulator may not stand in a text or a comment. -/
def isControl (c : Char) : Bool := (c.toNat < 0x20 && c != '\t') || c.toNat == 0x7f

/-- The character of a number, if there is one. -/
def charOf? (n : Nat) : Option Char :=
  if n.isValidChar then some (Char.ofNat n) else none

/-- The number that hexadecimal digits spell. -/
def hex? (digits : List Char) : Option Nat :=
  digits.foldlM (fun n d => (Json.hexValue? d).map (n * 16 + ·)) 0

/-- The character that a letter behind a backslash stands for. -/
def escape? (letter : Char) : Option Char :=
  if letter = '/' then none
  else if letter = 'e' then some '\x1b'
  else Json.simpleEscape? letter

/-- How many digits the number of a character has behind a letter. -/
def escapeWidth? (letter : Char) : Option Nat :=
  match letter with
  | 'x' => some 2
  | 'u' => some 4
  | 'U' => some 8
  | _ => none

/-- The character that an escape behind its backslash stands for, and how many characters the escape
has. -/
def readEscape : List Char → Option (Char × Nat)
  | [] => none
  | letter :: rest =>
    match escapeWidth? letter with
    | some width =>
      if (rest.take width).length = width then
        ((hex? (rest.take width)).bind charOf?).map fun c => (c, width + 1)
      else none
    | none => (escape? letter).map fun c => (c, 1)

/-- A text with escapes up to its closing quote, and what follows that. So many characters at the
front belong to an escape that has been read. -/
def readEscaped : Nat → List Char → Option (List Char × List Char)
  | _, [] => none
  | inside + 1, _ :: rest => readEscaped inside rest
  | 0, '"' :: rest => some ([], rest)
  | 0, '\\' :: rest => do
    let (character, taken) ← readEscape rest
    let (text, rest) ← readEscaped taken rest
    return (character :: text, rest)
  | 0, c :: rest => do
    if isControl c then none
    else
      let (text, rest) ← readEscaped 0 rest
      return (c :: text, rest)

/-- A text without escapes up to its closing quote, and what follows that. -/
def readPlain : List Char → Option (List Char × List Char)
  | [] => none
  | '\'' :: rest => some ([], rest)
  | c :: rest => do
    if isControl c then none
    else
      let (text, rest) ← readPlain rest
      return (c :: text, rest)

/-- Whether a character is a blank on a line. -/
def isBlank (c : Char) : Bool := c == ' ' || c == '\t'

/-- What follows the three quotes that close a text: up to two quotes more belong to it. -/
def closing (quote : Char) (rest : List Char) : List Char × List Char :=
  let more := (rest.take 2).takeWhile (· == quote)
  (more, rest.drop more.length)

/-- Whether a line ends at the front of a text. -/
def endsLine (cs : List Char) : Bool := cs.head? = some '\n' || cs.take 2 = ['\r', '\n']

/-- How a text with escapes on several lines is read on: characters of an escape that has been read
are passed over, or the blanks and line ends behind a backslash that ends a line. -/
inductive LongState where
  | escape (inside : Nat)
  | skipping
  deriving DecidableEq, Inhabited

/-- A text with escapes up to its three closing quotes. A backslash at the end of a line takes the
line's end and the blanks and line ends behind it away. -/
def readLongEscaped : LongState → List Char → Option (List Char × List Char)
  | _, [] => none
  | .escape (inside + 1), _ :: rest => readLongEscaped (.escape inside) rest
  | _, '"' :: rest =>
    if rest.take 2 = ['"', '"'] then some (closing '"' (rest.drop 2))
    else do
      let (text, rest) ← readLongEscaped (.escape 0) rest
      return ('"' :: text, rest)
  | _, '\\' :: rest =>
    if endsLine (rest.dropWhile isBlank) then readLongEscaped .skipping rest
    else do
      let (character, taken) ← readEscape rest
      let (text, rest) ← readLongEscaped (.escape taken) rest
      return (character :: text, rest)
  | state, c :: rest => do
    let ends := endsLine (c :: rest)
    if state = .skipping ∧ (isBlank c ∨ ends) then readLongEscaped .skipping rest
    else if isControl c ∧ !ends then none
    else
      let (text, rest) ← readLongEscaped (.escape 0) rest
      return (c :: text, rest)

/-- A text without escapes up to its three closing quotes. -/
def readLongPlain : List Char → Option (List Char × List Char)
  | [] => none
  | '\'' :: rest =>
    if rest.take 2 = ['\'', '\''] then some (closing '\'' (rest.drop 2))
    else do
      let (text, rest) ← readLongPlain rest
      return ('\'' :: text, rest)
  | c :: rest => do
    if isControl c ∧ !endsLine (c :: rest) then none
    else
      let (text, rest) ← readLongPlain rest
      return (c :: text, rest)

/-- A text on several lines without the line break that may begin it. -/
def dropFirstBreak : List Char → List Char
  | '\n' :: rest => rest
  | '\r' :: '\n' :: rest => rest
  | cs => cs

/-! ## Lines -/

/-- Reads something from the front of some text, if it stands there. -/
abbrev Reading (α : Type) := StateT (List Char) Option α

/-- Drops blanks on the line. -/
def blanks : Reading Unit := modify fun cs => cs.dropWhile isBlank

/-- Whether a character comes next; if so, it is read. -/
def accepts (c : Char) : Reading Bool := fun
  | [] => some (false, [])
  | first :: rest => if first = c then some (true, rest) else some (false, first :: rest)

/-- A character that has to stand here. -/
def character (c : Char) : Reading Unit := do if ← accepts c then return () else failure

/-- The comment that may end a line. -/
def comment : Reading Unit := do
  blanks
  if ← accepts '#' then
    let cs ← get
    let body := cs.takeWhile (· != '\n')
    let body := if body.getLast? = some '\r' then body.dropLast else body
    if body.any isControl then failure else set (cs.drop body.length)

/-- The end of a line or of the text. -/
def lineEnd : Reading Unit := do
  comment
  match ← get with
  | [] => return ()
  | '\n' :: rest => set rest
  | '\r' :: '\n' :: rest => set rest
  | _ => failure

/-- Drops blanks, comments and ends of lines, at most so many lines. -/
def lines : Nat → Reading Unit
  | 0 => return ()
  | steps + 1 => do
    comment
    match ← get with
    | '\n' :: rest =>
      set rest
      lines steps
    | '\r' :: '\n' :: rest =>
      set rest
      lines steps
    | _ => return ()

/-- Drops blanks, comments and ends of lines. -/
def gap : Reading Unit := do lines ((← get).length + 1)

/-- A text between quotes. -/
def quoted : Reading String := do
  if ← accepts '"' then return String.ofList (← readEscaped 0)
  else
    character '\''
    return String.ofList (← readPlain)

/-- A text between quotes or between three quotes. -/
def text : Reading String := do
  match ← get with
  | '"' :: '"' :: '"' :: rest =>
    set (dropFirstBreak rest)
    return String.ofList (← readLongEscaped (.escape 0))
  | '\'' :: '\'' :: '\'' :: rest =>
    set (dropFirstBreak rest)
    return String.ofList (← readLongPlain)
  | _ => quoted

/-- The characters of a key without quotes. -/
def isKeyChar (c : Char) : Bool := c.isAlphanum || c == '_' || c == '-'

/-- One part of a key. -/
def keyPart : Reading String := do
  let cs ← get
  match cs.takeWhile isKeyChar with
  | [] => quoted
  | word =>
    set (cs.dropWhile isKeyChar)
    return String.ofList word

/-- The parts of a key with points between them. -/
def keyParts : Nat → Reading (List String)
  | 0 => failure
  | steps + 1 => do
    blanks
    let first ← keyPart
    blanks
    if ← accepts '.' then return first :: (← keyParts steps) else return [first]

/-- How deep values may lie in each other, and how many parts a key may have. -/
def depthLimit : Nat := 80

/-- A key. -/
def key : Reading (List String) := do
  let parts ← keyParts ((← get).length + 1)
  if parts.length ≤ depthLimit then return parts else failure

/-- The characters of a value without quotes or brackets. -/
def isScalarChar (c : Char) : Bool :=
  c.isAlphanum || c == '_' || c == '-' || c == '+' || c == '.' || c == ':'

/-- The end of a word that is a day: a blank and the time behind it. -/
def timeBehind (word rest : List Char) : List Char :=
  match Moment.read? word, rest with
  | some (.date _), ' ' :: digit :: _ =>
    if digit.isDigit then ' ' :: (rest.drop 1).takeWhile isScalarChar else []
  | _, _ => []

/-- A value without quotes or brackets. -/
def scalar : Reading Value := do
  let cs ← get
  let first := cs.takeWhile isScalarChar
  let word := first ++ timeBehind first (cs.drop first.length)
  set (cs.drop word.length)
  match scalar? word with
  | some value => return value
  | none => failure

mutual

/-- A value with at most so many others around its parts. -/
def value (depth : Nat) : Nat → Reading Value
  | 0 => failure
  | steps + 1 => do
    match (← get).head?, depth with
    | some '"', _ | some '\'', _ => return .text (← text)
    | some '[', depth + 1 =>
      character '['
      return .array (← items depth steps)
    | some '\x7b', depth + 1 =>
      character '\x7b'
      let entries ← members depth steps
      if (Table.ofEntries? entries).isSome then return .table entries else failure
    | some '[', 0 | some '\x7b', 0 => failure
    | _, _ => scalar

/-- The items of an array up to its closing bracket; a comma may follow the last. -/
def items (depth : Nat) : Nat → Reading (List Value)
  | 0 => failure
  | steps + 1 => do
    gap
    if ← accepts ']' then return []
    else
      let first ← value depth steps
      gap
      if ← accepts ',' then return first :: (← items depth steps)
      else
        character ']'
        return [first]

/-- The entries of a table in braces up to the closing one; a comma may follow the last. -/
def members (depth : Nat) : Nat → Reading Entries
  | 0 => failure
  | steps + 1 => do
    gap
    if ← accepts '\x7d' then return []
    else
      let first ← entry depth steps
      gap
      if ← accepts ',' then return first :: (← members depth steps)
      else
        character '\x7d'
        return [first]

/-- A key and its value. -/
def entry (depth : Nat) : Nat → Reading (List String × Value)
  | 0 => failure
  | steps + 1 => do
    let path ← key
    character '='
    blanks
    return (path, ← value depth steps)

end

/-- A header behind its opening bracket. -/
def header : Reading Section := do
  let repeated ← accepts '['
  let path ← key
  character ']'
  if repeated then character ']'
  return ⟨path, repeated, []⟩

/-- The sections from the current one on, whose entries come latest first. -/
def sections (current : Section) : Nat → Reading (List Section)
  | 0 => failure
  | steps + 1 => do
    gap
    let closed : Section := { current with entries := current.entries.reverse }
    match (← get).head? with
    | none => return [closed]
    | some '[' =>
      character '['
      let next ← header
      lineEnd
      return closed :: (← sections next steps)
    | some _ =>
      let e ← entry depthLimit steps
      lineEnd
      sections { current with entries := e :: current.entries } steps

/-- The table that a text is, if it is one. A byte order mark may stand in front. -/
def readDocument (text : String) : Option Table :=
  let cs := text.toList
  let cs := if cs.head? = some '\ufeff' then cs.drop 1 else cs
  match sections ⟨[], false, []⟩ (2 * cs.length + 3) cs with
  | some (parts, []) => Table.ofSections? parts
  | _ => none

end EntityTables.Toml
