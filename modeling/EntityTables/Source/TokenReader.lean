/-
# EntityTables.Source.TokenReader — text read as tokens

Blanks and comments are skipped, except comments that document what follows: each of those is an
attribute. Brackets must match. A quote begins a lifetime unless it begins a character.

* `readTrees?` — the tokens of a whole text.
-/
import EntityTables.Source.Literal
import EntityTables.Source.Token
import EntityTables.Text.Blank
import EntityTables.Text.Literal

namespace EntityTables.Source

set_option autoImplicit false

/-- The text behind a block comment whose opening has been read, comments inside it included. -/
def afterBlock : Nat → List Char → Option (List Char)
  | _, [] => none
  | depth, '/' :: '*' :: rest => afterBlock (depth + 1) rest
  | 0, '*' :: '/' :: rest => some rest
  | depth + 1, '*' :: '/' :: rest => afterBlock depth rest
  | depth, _ :: rest => afterBlock depth rest

/-- The rest of a line, and the text from its end on. -/
def splitLine : List Char → List Char × List Char
  | [] => ([], [])
  | '\n' :: rest => ([], '\n' :: rest)
  | '\r' :: '\n' :: rest => ([], '\r' :: '\n' :: rest)
  | c :: rest => ((c :: (splitLine rest).1), (splitLine rest).2)

/-- Whether a comment that begins with two slashes documents something. -/
def isLineDoc : List Char → Bool
  | '/' :: '/' :: '/' :: '/' :: _ => false
  | '/' :: '/' :: '/' :: _ => true
  | '/' :: '/' :: '!' :: _ => true
  | _ => false

/-- Whether a block comment documents something. -/
def isBlockDoc : List Char → Bool
  | '/' :: '*' :: '*' :: '/' :: _ => false
  | '/' :: '*' :: '*' :: '*' :: _ => false
  | '/' :: '*' :: '*' :: _ => true
  | '/' :: '*' :: '!' :: _ => true
  | _ => false

/-- White space between tokens; the two direction marks count as such. -/
def isGap (c : Char) : Bool := Text.isBlank c || c == '\u200e' || c == '\u200f'

/-- The text behind blanks and plain comments. -/
def skipGaps : Nat → List Char → List Char
  | 0, cs => cs
  | fuel + 1, cs =>
    match cs with
    | '/' :: '/' :: rest =>
      if isLineDoc cs then cs else skipGaps fuel (splitLine rest).2
    | '/' :: '*' :: rest =>
      if isBlockDoc cs then cs
      else
        match afterBlock 0 rest with
        | some rest => skipGaps fuel rest
        | none => cs
    | c :: rest => if isGap c then skipGaps fuel rest else cs
    | [] => []

/-- Whether every carriage return is followed by a line feed. -/
def noBareReturn : List Char → Bool
  | [] => true
  | '\r' :: '\n' :: rest => noBareReturn rest
  | '\r' :: _ => false
  | _ :: rest => noBareReturn rest

/-- A documenting comment: whether it is about what encloses it, and the text behind it. -/
def readDoc (cs : List Char) : Option (Bool × List Char × List Char) :=
  match cs with
  | '/' :: '/' :: mark :: rest =>
    if isLineDoc cs then
      let (line, rest) := splitLine rest
      if noBareReturn line then some (mark == '!', line, rest) else none
    else none
  | '/' :: '*' :: mark :: inside =>
    if isBlockDoc cs then
      match afterBlock 0 (mark :: inside) with
      | some rest =>
        let body := inside.take (inside.length - rest.length - 2)
        if noBareReturn body then some (mark == '!', body, rest) else none
      | none => none
    else none
  | _ => none

/-- The text of a documenting comment as a literal writes it: a zero character is written so that no
digit behind it can be read as part of it. -/
def docText : List Char → List Char
  | '\x00' :: d :: rest =>
    (if '0' ≤ d ∧ d ≤ '7' then ['\\', 'x', '0', '0'] else ['\\', '0']) ++ docText (d :: rest)
  | c :: rest => Text.escape c ++ docText rest
  | [] => []

/-- The tokens of a documenting comment: the attribute that it stands for. -/
def docTrees (position : Position) (inner : Bool) (body : List Char) : List Tree :=
  [.leaf position (.punct '#' false)] ++
  (if inner then [.leaf position (.punct '!' false)] else []) ++
  [.group position .bracket
    [.leaf position (.word "doc"), .leaf position (.punct '=' false),
     .leaf position (.literal (String.ofList ('"' :: docText body ++ ['"'])))]]

/-- The characters of punctuation, a lifetime's quote apart. -/
def punctuation : List Char :=
  ['~', '!', '@', '#', '$', '%', '^', '&', '*', '-', '=', '+', '|', ';', ':', ',', '<', '.', '>',
   '/', '?']

/-- Whether punctuation comes first; a comment is none. -/
def startsPunctuation : List Char → Bool
  | '/' :: '/' :: _ => false
  | '/' :: '*' :: _ => false
  | c :: _ => punctuation.contains c || c == '\''
  | [] => false

/-- The words that a raw identifier cannot be. -/
def neverRaw : List String := ["_", "super", "self", "Self", "crate"]

/-- An identifier's characters, and the text behind them. -/
def readIdentChars : List Char → Option (List Char × List Char)
  | [] => none
  | c :: rest =>
    if isIdentStart c then some (c :: rest.takeWhile isIdentPart, rest.dropWhile isIdentPart)
    else none

/-- A word, raw or not, and the text behind it. -/
def readWord (cs : List Char) : Option (String × List Char) :=
  match cs with
  | 'r' :: '#' :: rest => do
    let (word, rest) ← readIdentChars rest
    if neverRaw.contains (String.ofList word) then none
    else return (String.ofList ('r' :: '#' :: word), rest)
  | cs => (readIdentChars cs).map fun (word, rest) => (String.ofList word, rest)

/-- The beginnings that only a literal may have. -/
def literalMarks : List String :=
  ["r\"", "r#\"", "r##", "b\"", "b'", "br\"", "br#", "c\"", "cr\"", "cr#"]

/-- A lifetime behind its quote; a second quote or a hash must not follow its name. A name that is
the mark of a literal belongs to the literal, and the quote stands alone. -/
def readLifetime (cs : List Char) : Option (Leaf × List Char) := do
  let (word, rest) ← readWord cs
  match rest with
  | '\'' :: _ => none
  | '#' :: _ => if word.toList.take 2 = ['r', '#'] then some () else none
  | _ => some ()
  if (literalEnd? cs).isSome then return (.punct '\'' true, cs)
  else return (.lifetime (String.ofList ('\'' :: word.toList)), rest)

/-- A token that is no group, and the text behind it. -/
def readLeaf (cs : List Char) : Option (Leaf × List Char) :=
  match literalEnd? cs with
  | some rest => some (.literal (String.ofList (cs.take (cs.length - rest.length))), rest)
  | none =>
    match cs with
    | '\'' :: rest => readLifetime rest
    | c :: rest =>
      if startsPunctuation cs then some (.punct c (startsPunctuation rest), rest)
      else if literalMarks.any fun mark => (dropWord? mark.toList cs).isSome then none
      else (readWord cs).map fun (word, rest) => (.word word, rest)
    | [] => none

/-- The place behind the characters by which one text is longer than what is left of it. -/
def advance (position : Position) (cs rest : List Char) : Position :=
  (cs.take (cs.length - rest.length)).foldl Position.next position

/-- The bracket that a character opens. -/
def opened? (c : Char) : Option Delimiter :=
  match c with
  | '(' => some .paren
  | '[' => some .bracket
  | '\x7b' => some .brace
  | _ => none

/-- Tokens up to a closing bracket or, outside all brackets, the end; and what is behind. -/
def readTreesUntil (closing : Option Delimiter) :
    Nat → Position → List Char → Option (List Tree × Position × List Char)
  | 0, _, _ => none
  | fuel + 1, start, text =>
    let cs := skipGaps (text.length + 1) text
    let position := advance start text cs
    match cs with
    | [] => if closing.isNone then some ([], position, []) else none
    | c :: rest =>
      match readDoc cs with
      | some (inner, body, behind) => do
        let (trees, finish, behind) ←
          readTreesUntil closing fuel (advance position cs behind) behind
        return (docTrees position inner body ++ trees, finish, behind)
      | none =>
        match if (dropWord? faultMark cs).isSome then none else opened? c with
        | some delimiter => do
          let (inside, finish, behind) ←
            readTreesUntil (some delimiter) fuel (position.next c) rest
          let (trees, finish, behind) ← readTreesUntil closing fuel finish behind
          return (.group position delimiter inside :: trees, finish, behind)
        | none =>
          if c = ')' ∨ c = ']' ∨ c = '\x7d' then
            match closing with
            | some delimiter =>
              if delimiter.closing = c then some ([], position.next c, rest) else none
            | none => none
          else do
            let (leaf, behind) ← readLeaf cs
            let (trees, finish, behind) ←
              readTreesUntil closing fuel (advance position cs behind) behind
            return (.leaf position leaf :: trees, finish, behind)

/-- The tokens of a whole text. A mark of the order of bytes before it is skipped. -/
def readTrees? (text : String) : Option (List Tree) :=
  let (start, cs) := match text.toList with
    | '\ufeff' :: rest => (Position.origin.next '\ufeff', rest)
    | cs => (Position.origin, cs)
  (readTreesUntil none (cs.length + 1) start cs).map fun (trees, _, _) => trees

end EntityTables.Source
