/-
# EntityTables.Source.Reading — steps that read tokens from the front

A reading takes what it needs from the front of a list of tokens and leaves the rest, or fails. It
spells what it reads: the text of the tokens, in the form that a declaration is written in. What a
group holds is read whole.

* `Cursor` — the tokens ahead and what has been spelled; `Reading` — a step over it.
* `Reading.inside`, `Reading.isolated` — reading a group, and reading without spelling.
* `Reading.repeated`, `Reading.commaList` — reading one thing after the other.
-/
import EntityTables.Source.Token

namespace EntityTables.Source

set_option autoImplicit false

/-- The tokens ahead, and the spelling of those behind. -/
structure Cursor where
  trees : List Tree
  spelling : String

/-- A step that reads some first tokens. -/
abbrev Reading (α : Type) := StateT Cursor Option α

namespace Reading

variable {α : Type}

/-! ## Looking ahead -/

/-- The tokens ahead. -/
def upcoming : Reading (List Tree) := do return (← get).trees

/-- Whether the tokens ahead pass a test; none is taken. -/
def ahead (test : List Tree → Bool) : Reading Bool := do return test (← upcoming)

/-- Whether a word comes first. -/
def aheadWord (name : String) : Reading Bool := ahead (startsWord name)

/-- Whether punctuation comes first. -/
def aheadPunct (cs : List Char) : Reading Bool := ahead (startsPunct cs)

/-- Whether a group of a kind comes first. -/
def aheadGroup (delimiter : Delimiter) : Reading Bool := ahead (startsGroup delimiter)

/-- Whether no token is ahead. -/
def atEnd : Reading Bool := ahead List.isEmpty

/-- Fails unless the tokens ahead pass a test. -/
def require (test : List Tree → Bool) : Reading Unit := do
  if ← ahead test then pure () else failure

/-- Runs a reading on some tokens: its value and the tokens that it leaves. -/
def on? (reading : Reading α) (trees : List Tree) : Option (α × List Tree) :=
  (reading ⟨trees, ""⟩).map fun (value, cursor) => (value, cursor.trees)

/-- Whether a reading would succeed on some tokens. -/
def accepts (reading : Reading α) (trees : List Tree) : Bool := (on? reading trees).isSome

/-! ## Spelling -/

/-- Spells a text. -/
def spell (text : String) : Reading Unit :=
  modify fun cursor => { cursor with spelling := cursor.spelling ++ text }

/-- Runs a reading without spelling it: its value, and how it would be spelled. -/
def isolated (reading : Reading α) : Reading (α × String) := fun cursor => do
  let (value, after) ← reading ⟨cursor.trees, ""⟩
  return ((value, after.spelling), ⟨after.trees, cursor.spelling⟩)

/-- How a reading is spelled; it is spelled as well. -/
def spelled (reading : Reading Unit) : Reading String := do
  let (_, text) ← isolated reading
  spell text
  return text

/-- Spells what a reading takes token by token, as it is written. -/
def verbatim (reading : Reading α) : Reading α := fun cursor => do
  let (value, after) ← reading ⟨cursor.trees, ""⟩
  let taken := cursor.trees.take (cursor.trees.length - after.trees.length)
  return (value, ⟨after.trees, cursor.spelling ++ textOf taken⟩)

/-- Spells what a reading takes as it is written, if the reading says so. -/
def verbatimIf (reading : Reading Bool) : Reading Unit := do
  let trees ← upcoming
  let (asWritten, text) ← isolated reading
  let taken := trees.take (trees.length - (← upcoming).length)
  spell (if asWritten then textOf taken else text)

/-! ## Single tokens -/

/-- Takes what a function finds first, and spells it. -/
def taking (find? : List Tree → Option (String × List Tree)) : Reading String := fun cursor => do
  let (text, rest) ← find? cursor.trees
  return (text, ⟨rest, cursor.spelling ++ text⟩)

/-- Takes one token or group. -/
def any : Reading Tree := fun
  | ⟨[], _⟩ => none
  | ⟨tree :: rest, spelling⟩ => some (tree, ⟨rest, spelling ++ tree.text⟩)

/-- Takes all tokens ahead. -/
def everything : Reading (List Tree) := fun cursor =>
  some (cursor.trees, ⟨[], cursor.spelling ++ textOf cursor.trees⟩)

/-- Takes a given word. -/
def word (name : String) : Reading Unit := do
  let _ ← taking fun trees => (keyword? name trees).map (name, ·)

/-- Takes any word. -/
def anyWord : Reading String := taking word?

/-- Takes an identifier. -/
def identifier : Reading String := taking identifier?

/-- Takes a lifetime. -/
def lifetime : Reading String := taking lifetime?

/-- Takes punctuation. -/
def punct (cs : List Char) : Reading Unit := do
  let _ ← taking fun trees => (punct? cs trees).map (String.ofList cs, ·)

/-- Takes a given word if it comes first. -/
def optionalWord (name : String) : Reading Bool := do
  if ← aheadWord name then word name; return true else return false

/-- Takes punctuation if it comes first. -/
def optionalPunct (cs : List Char) : Reading Bool := do
  if ← aheadPunct cs then punct cs; return true else return false

/-! ## Groups -/

/-- Reads a list of tokens to its end. -/
def whole (reading : Reading α) (trees : List Tree) : Option α :=
  match on? reading trees with
  | some (value, []) => some value
  | _ => none

/-- Takes a group, and reads all that it holds. -/
def inside (delimiter : Delimiter) (reading : Reading α) : Reading α := fun cursor => do
  let (held, rest) ← group? delimiter cursor.trees
  let opened := cursor.spelling.push delimiter.opening
  let (value, after) ← reading ⟨held, opened⟩
  if after.trees.isEmpty then return (value, ⟨rest, after.spelling.push delimiter.closing⟩)
  else none

/-- Takes a group of any kind, whatever it holds: its kind. -/
def anyGroup : Reading Delimiter := fun
  | ⟨.group position delimiter trees :: rest, spelling⟩ =>
    some (delimiter, ⟨rest, spelling ++ (Tree.group position delimiter trees).text⟩)
  | _ => none

/-! ## Repetition -/

/-- Takes steps until one of them has a result. -/
def stepwise {σ : Type} (step : σ → Reading (σ ⊕ α)) : Nat → σ → Reading α
  | 0, _ => failure
  | fuel + 1, state => do
    match ← step state with
    | .inl state => stepwise step fuel state
    | .inr value => return value

/-- Takes steps until one of them has a result; each step before the last takes a token. -/
def repeated {σ : Type} (step : σ → Reading (σ ⊕ α)) (state : σ) : Reading α := do
  stepwise step ((← upcoming).length + 1) state

/-- Takes a step as long as it says that another may follow. -/
def many (step : Reading Bool) : Reading Unit :=
  repeated (fun () => do return if ← step then .inl () else .inr ()) ()

/-- Reads values with a separator between them, and perhaps one behind, up to where a test holds;
whether a separator ends them. -/
def separated (separator : List Char) (atEnd : List Tree → Bool) (reading : Reading α) :
    Reading (List α × Bool) := do
  let step := fun (values : List α × Bool) => do
    if ← ahead atEnd then return .inr values
    let values := (values.1 ++ [← reading], false)
    if ← ahead atEnd then return .inr values
    punct separator
    return .inl (values.1, true)
  repeated step ([], false)

/-- Reads values with commas between them, and perhaps one behind, up to where a test holds; whether
a comma ends them. -/
def commaList (atEnd : List Tree → Bool) (reading : Reading α) : Reading (List α × Bool) :=
  separated [','] atEnd reading

/-- Reads all that is ahead as values with commas between them, and perhaps one behind. -/
def commas (reading : Reading α) : Reading (List α) := do
  return (← commaList List.isEmpty reading).1

end Reading

end EntityTables.Source
