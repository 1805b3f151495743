/-
# EntityTables.Sql.Token — the words and signs of SQL text

Text is cut into tokens one at a time, each as long as its characters allow. Blanks and comments
between tokens vanish, and a NUL ends the text. Characters that begin no token become the token
`broken`, which no statement has a place for, and end the text as well.

* `readQuoted` — the name between double quotes, where a quote is written twice.
* `firstToken?` — the token at the front and what follows it; `tokens` — all of them.
-/
import EntityTables.Sql.Name
import EntityTables.Text.Hex

namespace EntityTables.Sql

set_option autoImplicit false

/-- The signs of SQL text that statements use. -/
inductive Sign where
  | leftParen
  | rightParen
  | comma
  | semicolon
  | star
  | equal
  | different
  | less
  | lessEqual
  | greater
  | greaterEqual
  deriving DecidableEq, Inhabited

/-- A token of SQL text. -/
inductive Token where
  /-- A keyword or a name without quotes. -/
  | word (text : String)
  /-- A name between double quotes. -/
  | quoted (name : String)
  | integer (n : Nat)
  | blob (bytes : List UInt8)
  /-- A placeholder for a value. -/
  | placeholder
  | sign (sign : Sign)
  /-- Characters that begin no token. -/
  | broken
  deriving DecidableEq, Inhabited

/-- The token as a statement spells it, for words and names. -/
def Token.spelling : Token → String
  | word text => text
  | quoted name => quotedName name
  | _ => ""

/-- A token and the text behind it. -/
abbrev Cut := Token × List Char

/-- ASCII letters, the underscore and everything outside ASCII begin a word. -/
def isWordStart (c : Char) : Bool := c.isAlpha || c == '_' || 0x80 ≤ c.toNat

/-- A word goes on with these, ASCII digits and dollar signs. -/
def isWordPart (c : Char) : Bool := c.isAlphanum || c == '_' || c == '$' || 0x80 ≤ c.toNat

/-- The blanks between tokens. -/
def isBlank (c : Char) : Bool :=
  c == ' ' || c == '\t' || c == '\n' || c == '\r' || c == '\x0c'

/-- The name up to the closing quote, and the text behind that; none if there is no such quote. -/
def readQuoted : List Char → Option (List Char × List Char)
  | [] => none
  | '"' :: '"' :: rest => (readQuoted rest).map fun (name, rest) => ('"' :: name, rest)
  | '"' :: rest => some ([], rest)
  | c :: rest => (readQuoted rest).map fun (name, rest) => (c :: name, rest)

/-- A name between quotes, the opening one already read. -/
def quotedToken (cs : List Char) : Cut :=
  match readQuoted cs with
  | some (name, rest) => (.quoted (String.ofList name), rest)
  | none => (.broken, [])

/-- Bytes as digits between single quotes, the opening one already read. -/
def blobToken (cs : List Char) : Cut :=
  match Hex.decode? (cs.takeWhile (· != '\'')), cs.dropWhile (· != '\'') with
  | some bytes, _ :: rest => (.blob bytes, rest)
  | _, _ => (.broken, [])

/-- A word from its first character on. -/
def wordToken (c : Char) (cs : List Char) : Cut :=
  (.word (String.ofList (c :: cs.takeWhile isWordPart)), cs.dropWhile isWordPart)

/-- An integer from its first digit on; nothing that goes on with a name may follow. -/
def integerToken (c : Char) (cs : List Char) : Cut :=
  let digits := c :: cs.takeWhile isWordPart
  if digits.all Char.isDigit then
    (.integer (digits.foldl (fun n d => n * 10 + (d.toNat - '0'.toNat)) 0), cs.dropWhile isWordPart)
  else (.broken, [])

/-- A sign from its first character on. -/
def signToken : Char → List Char → Cut
  | '(', rest => (.sign .leftParen, rest)
  | ')', rest => (.sign .rightParen, rest)
  | ',', rest => (.sign .comma, rest)
  | ';', rest => (.sign .semicolon, rest)
  | '*', rest => (.sign .star, rest)
  | '=', '=' :: rest => (.sign .equal, rest)
  | '=', rest => (.sign .equal, rest)
  | '!', '=' :: rest => (.sign .different, rest)
  | '<', '>' :: rest => (.sign .different, rest)
  | '<', '=' :: rest => (.sign .lessEqual, rest)
  | '<', rest => (.sign .less, rest)
  | '>', '=' :: rest => (.sign .greaterEqual, rest)
  | '>', rest => (.sign .greater, rest)
  | _, _ => (.broken, [])

/-- The token that begins with a character which is no blank. -/
def tokenFrom (c : Char) (cs : List Char) : Cut :=
  if c = '"' then quotedToken cs
  else if c = '?' then
    if cs.head?.any Char.isDigit then (.broken, []) else (.placeholder, cs)
  else if c.isDigit then integerToken c cs
  else if (c = 'x' ∨ c = 'X') ∧ cs.head? = some '\'' then blobToken (cs.drop 1)
  else if isWordStart c then wordToken c cs
  else signToken c cs

/-- The text behind the end of a comment between slashes and stars. -/
def afterComment : List Char → List Char
  | [] => []
  | '*' :: '/' :: rest => rest
  | _ :: rest => afterComment rest

/-- Drops blanks and comments; each step drops at least one character. -/
def dropBlanks : Nat → List Char → List Char
  | 0, cs => cs
  | _ + 1, [] => []
  | steps + 1, '-' :: '-' :: rest => dropBlanks steps (rest.dropWhile (· != '\n'))
  | steps + 1, '/' :: '*' :: rest => dropBlanks steps (afterComment rest)
  | steps + 1, c :: rest => if isBlank c then dropBlanks steps rest else c :: rest

/-- The first token of a text and what follows it. -/
def firstToken? (cs : List Char) : Option Cut :=
  match dropBlanks cs.length cs with
  | [] => none
  | c :: rest => some (tokenFrom c rest)

/-- At most so many tokens of a text. -/
def tokensWithin : Nat → List Char → List Token
  | 0, _ => []
  | steps + 1, cs =>
    match firstToken? cs with
    | none => []
    | some (token, rest) => token :: tokensWithin steps rest

/-- The tokens of a text. -/
def tokens (text : String) : List Token :=
  let cs := text.toList.takeWhile (· != '\x00')
  tokensWithin cs.length cs

/-- Reading a name between quotes takes back their doubling. -/
theorem readQuoted_doubleQuotes (name rest : List Char) (apart : rest.head? ≠ some '"') :
    readQuoted (doubleQuotes name ++ '"' :: rest) = some (name, rest) := by
  induction name with
  | nil =>
    cases rest with
    | nil => rfl
    | cons c cs =>
      have : c ≠ '"' := fun same => apart (by simp [same])
      simp [doubleQuotes, readQuoted, this]
  | cons c cs ih =>
    by_cases same : c = '"'
    · subst same
      simpa [doubleQuotes, readQuoted] using ih
    · simp only [doubleQuotes, List.flatMap_cons, same, if_false] at ih ⊢
      simp [readQuoted, same, ih]

end EntityTables.Sql
