/-
# EntityTables.Source.Token — tokens of declarations, grouped by their brackets

A token is a word, a punctuation character, a literal or a lifetime; brackets group the tokens
between them. Each token knows where it stands, for the places that refusals point at. A punctuation
character knows whether another follows it without a blank, so that `::` and `->` can be told from
their parts.

* `Tree` — a token or a group; `Tree.text` — its text without blanks around it.
* `word?`, `punct?`, `group?`, `lifetime?` — a first token of a kind, and the tokens behind it.
-/

namespace EntityTables.Source

set_option autoImplicit false

/-- A place in a text: the line from one, the column from zero. -/
structure Position where
  line : Nat
  column : Nat
  deriving DecidableEq, Inhabited

/-- The place at which a text begins, and where an empty span lies. -/
def Position.origin : Position := ⟨1, 0⟩

/-- The place behind a character. -/
def Position.next (position : Position) (c : Char) : Position :=
  if c = '\n' then ⟨position.line + 1, 0⟩ else ⟨position.line, position.column + 1⟩

/-- The brackets. -/
inductive Delimiter where
  | paren
  | bracket
  | brace
  deriving DecidableEq, Inhabited

/-- The opening character. -/
def Delimiter.opening : Delimiter → Char
  | paren => '('
  | bracket => '['
  | brace => '\x7b'

/-- The closing character. -/
def Delimiter.closing : Delimiter → Char
  | paren => ')'
  | bracket => ']'
  | brace => '\x7d'

/-- A token that is no group. -/
inductive Leaf where
  /-- An identifier or a keyword, a raw identifier with its `r#`. -/
  | word (text : String)
  /-- A punctuation character, and whether another stands right behind it. -/
  | punct (c : Char) (joint : Bool)
  /-- A literal as it is written. -/
  | literal (text : String)
  /-- A lifetime with its quote. -/
  | lifetime (text : String)
  deriving DecidableEq, Inhabited

/-- A token or a group of tokens, and where it begins. -/
inductive Tree where
  | leaf (position : Position) (leaf : Leaf)
  | group (position : Position) (delimiter : Delimiter) (trees : List Tree)
  deriving Inhabited

/-- The text of a token. -/
def Leaf.text : Leaf → String
  | word text | literal text | lifetime text => text
  | punct c _ => String.ofList [c]

/-- Where a token begins. -/
def Tree.position : Tree → Position
  | leaf position _ | group position _ _ => position

mutual
/-- The text of a token or group, without blanks between its parts. -/
def Tree.text : Tree → String
  | .leaf _ leaf => leaf.text
  | .group _ delimiter trees =>
    String.ofList [delimiter.opening] ++ textOf trees ++ String.ofList [delimiter.closing]

/-- The text of tokens, without blanks between them. -/
def textOf : List Tree → String
  | [] => ""
  | tree :: rest => tree.text ++ textOf rest
end

mutual
/-- How many tokens and groups a tree holds. -/
def Tree.size : Tree → Nat
  | .leaf _ _ => 1
  | .group _ _ trees => sizeOfTrees trees + 1

/-- How many tokens and groups trees hold. -/
def sizeOfTrees : List Tree → Nat
  | [] => 0
  | tree :: rest => tree.size + sizeOfTrees rest
end

/-- A first word, and the tokens behind it. -/
def word? : List Tree → Option (String × List Tree)
  | .leaf _ (.word text) :: rest => some (text, rest)
  | _ => none

/-- The tokens behind a word that must come first. -/
def keyword? (name : String) : List Tree → Option (List Tree)
  | .leaf _ (.word text) :: rest => if text = name then some rest else none
  | _ => none

/-- The tokens behind punctuation that must come first, its characters joined. -/
def punct? : List Char → List Tree → Option (List Tree)
  | [], trees => some trees
  | [c], .leaf _ (.punct d _) :: rest => if c = d then some rest else none
  | c :: more, .leaf _ (.punct d true) :: rest => if c = d then punct? more rest else none
  | _, _ => none

/-- A first group of a kind, and the tokens behind it. -/
def group? (delimiter : Delimiter) : List Tree → Option (List Tree × List Tree)
  | .group _ found trees :: rest => if found = delimiter then some (trees, rest) else none
  | _ => none

/-- A first lifetime, and the tokens behind it. -/
def lifetime? : List Tree → Option (String × List Tree)
  | .leaf _ (.lifetime text) :: rest => some (text, rest)
  | _ => none

/-- Whether a word comes first. -/
def startsWord (name : String) (trees : List Tree) : Bool := (keyword? name trees).isSome

/-- Whether punctuation comes first. -/
def startsPunct (cs : List Char) (trees : List Tree) : Bool := (punct? cs trees).isSome

/-- Whether a group of a kind comes first. -/
def startsGroup (delimiter : Delimiter) (trees : List Tree) : Bool :=
  (group? delimiter trees).isSome

/-- Whether a lifetime comes first. -/
def startsLifetime (trees : List Tree) : Bool := (lifetime? trees).isSome

/-- The words that are no identifiers. -/
def reservedWords : List String :=
  ["_", "abstract", "as", "async", "await", "become", "box", "break", "const", "continue",
   "crate", "do", "dyn", "else", "enum", "extern", "false", "final", "fn", "for", "if", "impl",
   "in", "let", "loop", "macro", "match", "mod", "move", "mut", "override", "priv", "pub", "ref",
   "return", "Self", "self", "static", "struct", "super", "trait", "true", "try", "type",
   "typeof", "unsafe", "unsized", "use", "virtual", "where", "while", "yield"]

/-- Whether a word is an identifier. -/
def isIdentifier (word : String) : Bool := !reservedWords.contains word

/-- A first identifier, and the tokens behind it. -/
def identifier? : List Tree → Option (String × List Tree)
  | .leaf _ (.word text) :: rest => if isIdentifier text then some (text, rest) else none
  | _ => none

/-- Whether an identifier comes first. -/
def startsIdentifier (trees : List Tree) : Bool := (identifier? trees).isSome

end EntityTables.Source
