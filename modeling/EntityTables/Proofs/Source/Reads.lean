/-
# EntityTables.Proofs.Source.Reads — what readings take of pieces

A reading that is run on the tokens of pieces takes those of the first ones and leaves the others,
wherever the tokens stand and whatever was spelled before. What is known of the steps of a reading in
this form is put together to what is known of the reading.

* `Reads` — the form; `reads_bind`, `reads_repeated` — steps one after the other.
* `reads_word`, `reads_punct`, `reads_inside` and so on — single tokens and groups.
-/
import EntityTables.Proofs.Source.Pieces
import EntityTables.Source.Reading

namespace EntityTables.Source

set_option autoImplicit false

open Reading

variable {α β σ : Type}

/-- A reading takes the tokens of the first pieces and leaves those of the others, with a result of
which something is known. -/
def Reads (reading : Reading α) (before : List Piece) (result : α → Prop) (after : List Piece) :
    Prop :=
  ∀ position spelling, ∃ value behind text, result value ∧
    reading ⟨treesAt position before, spelling⟩ = some (value, ⟨treesAt behind after, text⟩)

/-! ## Steps -/

section Steps

variable {before between after : List Piece} {P : α → Prop} {Q : β → Prop}

theorem reads_pure {a : α} (holds : P a) : Reads (pure a) before P before :=
  fun position spelling => ⟨a, position, spelling, holds, rfl⟩

theorem reads_bind {first : Reading α} {next : α → Reading β} (read : Reads first before P between)
    (others : ∀ a, P a → Reads (next a) between Q after) : Reads (first >>= next) before Q after := by
  intro position spelling
  obtain ⟨a, middle, text, holds, ran⟩ := read position spelling
  obtain ⟨b, behind, more, result, done⟩ := others a holds middle text
  refine ⟨b, behind, more, result, ?_⟩
  show (first _ >>= fun made => next made.1 made.2) = _
  rw [ran]
  exact done

theorem Reads.imp {reading : Reading α} {R : α → Prop} (read : Reads reading before P after)
    (step : ∀ a, P a → R a) : Reads reading before R after := by
  intro position spelling
  obtain ⟨a, behind, text, holds, ran⟩ := read position spelling
  exact ⟨a, behind, text, step a holds, ran⟩

/-- Blanks before what is read do not count. -/
theorem reads_gap {reading : Reading α} {blanks : List Char} (read : Reads reading before P after) :
    Reads reading (.gap blanks :: before) P after :=
  fun position spelling => read (position.behind blanks) spelling

/-- Nor do blanks before what is left. -/
theorem Reads.leave_gap {reading : Reading α} {blanks : List Char}
    (read : Reads reading before P (.gap blanks :: after)) : Reads reading before P after := by
  intro position spelling
  obtain ⟨a, behind, text, holds, ran⟩ := read position spelling
  exact ⟨a, behind.behind blanks, text, holds, ran⟩

end Steps

/-! ## Looking ahead -/

/-- The first piece that is no blank. -/
def first? : List Piece → Option Piece
  | [] => none
  | .gap _ :: rest => first? rest
  | piece :: _ => some piece

/-- How many tokens and groups pieces stand for, those inside of groups aside. -/
def tokens : List Piece → Nat
  | [] => 0
  | .gap _ :: rest => tokens rest
  | _ :: rest => tokens rest + 1

/-- Whether a piece is a certain word. -/
def isWord (name : String) : Option Piece → Bool
  | some (.word text) => text == name
  | _ => false

/-- Whether a piece is a certain punctuation character. -/
def isMark (c : Char) : Option Piece → Bool
  | some (.mark d) => c == d
  | _ => false

/-- Whether a piece is a group of a kind. -/
def isGroup (delimiter : Delimiter) : Option Piece → Bool
  | some (.group found _) => found == delimiter
  | _ => false

/-- Whether a piece is a lifetime. -/
def isLifetime : Option Piece → Bool
  | some (.lifetime _) => true
  | _ => false

section Ahead

variable (position : Position) (pieces : List Piece)

theorem length_treesAt : (treesAt position pieces).length = tokens pieces := by
  fun_induction tokens pieces generalizing position with
  | case1 => rfl
  | case2 blanks rest ih => exact ih _
  | case3 piece rest solid ih =>
    rw [treesAt, List.length_append, ih]
    cases piece with
    | gap blanks => exact absurd rfl (solid blanks)
    | _ => exact Nat.add_comm _ _

/-- The tokens of pieces begin with those of the first piece. -/
theorem treesAt_first :
    treesAt position pieces = [] ∧ first? pieces = none ∨
      ∃ piece behind joint more, first? pieces = some piece ∧ (∀ blanks, piece ≠ .gap blanks) ∧
        treesAt position pieces = piece.treesAt behind joint ++ more := by
  fun_induction first? pieces generalizing position with
  | case1 => exact .inl ⟨rfl, rfl⟩
  | case2 blanks rest ih => exact ih _
  | case3 piece rest solid => exact .inr ⟨piece, _, _, _, rfl, solid, rfl⟩

theorem startsWord_treesAt (name : String) :
    startsWord name (treesAt position pieces) = isWord name (first? pieces) := by
  rcases treesAt_first position pieces with ⟨trees, first⟩ | ⟨piece, _, _, _, first, solid, trees⟩
  · rw [trees, first]
    rfl
  · rw [trees, first]
    cases piece with
    | gap blanks => exact absurd rfl (solid blanks)
    | word text =>
      by_cases same : text = name <;> simp [startsWord, keyword?, isWord, Piece.treesAt, same]
    | _ => rfl

theorem startsPunct_treesAt (c : Char) :
    startsPunct [c] (treesAt position pieces) = isMark c (first? pieces) := by
  rcases treesAt_first position pieces with ⟨trees, first⟩ | ⟨piece, _, _, _, first, solid, trees⟩
  · rw [trees, first]
    rfl
  · rw [trees, first]
    cases piece with
    | gap blanks => exact absurd rfl (solid blanks)
    | mark d => by_cases same : c = d <;> simp [startsPunct, punct?, isMark, Piece.treesAt, same]
    | _ => rfl

/-- Punctuation of several characters begins with the first of them. -/
theorem startsPunct_of_isMark {c : Char} (no : isMark c (first? pieces) = false)
    (more : List Char) : startsPunct (c :: more) (treesAt position pieces) = false := by
  rw [← startsPunct_treesAt position] at no
  cases more with
  | nil => exact no
  | cons d more =>
    generalize treesAt position pieces = trees at no
    unfold startsPunct punct? at no ⊢
    grind

theorem startsGroup_treesAt (delimiter : Delimiter) :
    startsGroup delimiter (treesAt position pieces) = isGroup delimiter (first? pieces) := by
  rcases treesAt_first position pieces with ⟨trees, first⟩ | ⟨piece, _, _, _, first, solid, trees⟩
  · rw [trees, first]
    rfl
  · rw [trees, first]
    cases piece with
    | gap blanks => exact absurd rfl (solid blanks)
    | group found inside =>
      by_cases same : found = delimiter <;>
        simp [startsGroup, group?, isGroup, Piece.treesAt, same]
    | _ => rfl

theorem startsLifetime_treesAt :
    startsLifetime (treesAt position pieces) = isLifetime (first? pieces) := by
  rcases treesAt_first position pieces with ⟨trees, first⟩ | ⟨piece, _, _, _, first, solid, trees⟩
  · rw [trees, first]
    rfl
  · rw [trees, first]
    cases piece with
    | gap blanks => exact absurd rfl (solid blanks)
    | _ => rfl

theorem isEmpty_treesAt : (treesAt position pieces).isEmpty = (first? pieces).isNone := by
  rcases treesAt_first position pieces with ⟨trees, first⟩ | ⟨piece, _, _, _, first, solid, trees⟩
  · rw [trees, first]
    rfl
  · rw [trees, first]
    cases piece with
    | gap blanks => exact absurd rfl (solid blanks)
    | _ => rfl

end Ahead

section Looking

variable {before after : List Piece} {P : α → Prop}

theorem reads_upcoming {next : List Tree → Reading α}
    (read : ∀ position, Reads (next (treesAt position before)) before P after) :
    Reads (upcoming >>= next) before P after :=
  fun position spelling => read position position spelling

theorem reads_ahead {test : List Tree → Bool} (answer : Bool)
    (holds : ∀ position, test (treesAt position before) = answer) :
    Reads (ahead test) before (· = answer) before :=
  fun position spelling => ⟨_, position, spelling, holds position, rfl⟩

theorem reads_require {test : List Tree → Bool}
    (holds : ∀ position, test (treesAt position before) = true) :
    Reads (require test) before (fun _ => True) before := by
  refine reads_bind (reads_ahead _ holds) fun passed same => ?_
  rw [same]
  exact reads_pure trivial

theorem reads_atEnd {answer : Bool} (holds : (first? before).isNone = answer) :
    Reads atEnd before (· = answer) before :=
  reads_ahead _ fun position => (isEmpty_treesAt position before).trans holds

end Looking

/-! ## Single tokens -/

section Tokens

variable {before after rest : List Piece}

/-- What a function finds first is taken. -/
theorem reads_taking {find? : List Tree → Option (String × List Tree)} (text : String)
    (found : ∀ position, ∃ behind, find? (treesAt position before) = some (text, treesAt behind after)) :
    Reads (taking find?) before (· = text) after := by
  intro position spelling
  obtain ⟨behind, taken⟩ := found position
  refine ⟨text, behind, spelling ++ text, rfl, ?_⟩
  show (find? (treesAt position before)).bind _ = _
  rw [taken]
  rfl

theorem reads_word (name : String) :
    Reads (word name) (.word name :: rest) (fun _ => True) rest := by
  refine reads_bind (reads_taking name fun position => ⟨position.behind name.toList, ?_⟩)
    fun _ _ => reads_pure trivial
  have taken : keyword? name (treesAt position (.word name :: rest)) =
      some (treesAt (position.behind name.toList) rest) := if_pos rfl
  rw [taken]
  rfl

theorem reads_anyWord (text : String) : Reads anyWord (.word text :: rest) (· = text) rest :=
  fun position spelling => ⟨text, position.behind text.toList, spelling ++ text, rfl, rfl⟩

theorem reads_identifier {text : String} (named : isIdentifier text = true) :
    Reads identifier (.word text :: rest) (· = text) rest :=
  reads_taking text fun position => ⟨position.behind text.toList, if_pos named⟩

theorem reads_punct (c : Char) : Reads (punct [c]) (.mark c :: rest) (fun _ => True) rest := by
  refine reads_bind (reads_taking (String.ofList [c]) fun position => ⟨position.behind [c], ?_⟩)
    fun _ _ => reads_pure trivial
  have taken : punct? [c] (treesAt position (.mark c :: rest)) =
      some (treesAt (position.behind [c]) rest) := if_pos rfl
  rw [taken]
  rfl

theorem reads_optionalWord_no {name : String} (no : isWord name (first? before) = false) :
    Reads (optionalWord name) before (· = false) before := by
  refine reads_bind (reads_ahead _ fun position =>
    (startsWord_treesAt position before name).trans no)
    fun found same => ?_
  rw [same]
  exact reads_pure rfl

theorem reads_optionalWord_yes (name : String) :
    Reads (optionalWord name) (.word name :: rest) (· = true) rest := by
  refine reads_bind (reads_ahead true fun position => ?_) fun found same => ?_
  · rw [startsWord_treesAt]
    exact beq_self_eq_true name
  · rw [same]
    exact reads_bind (reads_word name) fun _ _ => reads_pure rfl

theorem reads_optionalPunct_no {c : Char} {more : List Char}
    (no : isMark c (first? before) = false) :
    Reads (optionalPunct (c :: more)) before (· = false) before := by
  refine reads_bind (reads_ahead _ fun position => startsPunct_of_isMark position before no more)
    fun found same => ?_
  rw [same]
  exact reads_pure rfl

theorem reads_optionalPunct_yes (c : Char) :
    Reads (optionalPunct [c]) (.mark c :: rest) (· = true) rest := by
  refine reads_bind (reads_ahead true fun position => ?_) fun found same => ?_
  · rw [startsPunct_treesAt]
    exact beq_self_eq_true c
  · rw [same]
    exact reads_bind (reads_punct c) fun _ _ => reads_pure rfl

end Tokens

/-! ## Groups and spelling -/

section Groups

variable {before after rest inner : List Piece} {P : α → Prop} {reading : Reading α}

/-- What a group holds is read whole. -/
theorem reads_inside {delimiter : Delimiter} (read : Reads reading inner P []) :
    Reads (inside delimiter reading) (.group delimiter inner :: rest) P rest := by
  intro position spelling
  obtain ⟨value, behind, text, holds, ran⟩ :=
    read (position.next delimiter.opening) (spelling.push delimiter.opening)
  refine ⟨value, position.behind (Piece.group delimiter inner).chars,
    text.push delimiter.closing, holds, ?_⟩
  have taken : group? delimiter (treesAt position (.group delimiter inner :: rest)) =
      some (treesAt (position.next delimiter.opening) inner,
        treesAt (position.behind (Piece.group delimiter inner).chars) rest) := if_pos rfl
  have ended : treesAt behind [] = [] := by rw [treesAt]
  simp [inside, taken, ran, ended]

theorem reads_isolated (read : Reads reading before P after) :
    Reads (isolated reading) before (fun made => P made.1) after := by
  intro position spelling
  obtain ⟨value, behind, text, holds, ran⟩ := read position ""
  exact ⟨(value, text), behind, spelling, holds, by simp [isolated, ran]⟩

theorem reads_spell (text : String) : Reads (spell text) before (fun _ => True) before :=
  fun position spelling => ⟨(), position, spelling ++ text, trivial, rfl⟩

theorem reads_spelled {reading : Reading Unit} (read : Reads reading before (fun _ => True) after) :
    Reads (spelled reading) before (fun _ => True) after := by
  refine reads_bind (reads_isolated read) fun made _ => ?_
  exact reads_bind (reads_spell made.2) fun _ _ => reads_pure trivial

theorem reads_verbatimIf {reading : Reading Bool} {P : Bool → Prop} (read : Reads reading before P after) :
    Reads (verbatimIf reading) before (fun _ => True) after := by
  refine reads_upcoming fun _ => reads_bind (reads_isolated read) fun made _ => ?_
  exact reads_upcoming fun _ => reads_spell _

/-- What a reading makes of tokens alone. -/
theorem Reads.on? (read : Reads reading before P after) (position : Position) :
    ∃ value behind, P value ∧
      on? reading (treesAt position before) = some (value, treesAt behind after) := by
  obtain ⟨value, behind, text, holds, ran⟩ := read position ""
  exact ⟨value, behind, holds, by simp [Reading.on?, ran]⟩

theorem Reads.whole (read : Reads reading before P []) (position : Position) :
    ∃ value, P value ∧ whole reading (treesAt position before) = some value := by
  obtain ⟨value, behind, holds, ran⟩ := read.on? position
  exact ⟨value, holds, by rw [Reading.whole, ran, treesAt]⟩

end Groups

/-! ## Repetition -/

section Repetition

variable {before between after : List Piece} {P : α → Prop} {step : σ → Reading (σ ⊕ α)}

theorem stepwise_succ (fuel : Nat) (state : σ) (cursor : Cursor) :
    stepwise step (fuel + 1) state cursor = (step state cursor).bind fun made =>
      match made.1 with
      | .inl next => stepwise step fuel next made.2
      | .inr value => some (value, made.2) := by
  show (step state cursor).bind _ = _
  congr 1
  funext made
  rcases made with ⟨next | value, cursor⟩ <;> rfl

/-- More fuel than is needed changes nothing. -/
theorem stepwise_more {fuel more : Nat} (enough : fuel ≤ more) {state : σ} {cursor : Cursor}
    {made : α × Cursor} (ran : stepwise step fuel state cursor = some made) :
    stepwise step more state cursor = some made := by
  induction fuel generalizing more state cursor with
  | zero => cases ran
  | succ fuel ih =>
    obtain ⟨more, rfl⟩ := Nat.exists_eq_add_of_le' (show 1 ≤ more by omega)
    rw [stepwise_succ, Option.bind_eq_some_iff] at ran ⊢
    obtain ⟨⟨found, behind⟩, stepped, others⟩ := ran
    refine ⟨⟨found, behind⟩, stepped, ?_⟩
    cases found with
    | inl next => exact ih (by omega) others
    | inr value => exact others

theorem reads_repeated_done (step : σ → Reading (σ ⊕ α)) {state : σ}
    (read : Reads (step state) before (fun found => ∃ value, found = .inr value ∧ P value) after) :
    Reads (repeated step state) before P after := by
  intro position spelling
  obtain ⟨_, behind, text, ⟨value, rfl, holds⟩, ran⟩ := read position spelling
  refine ⟨value, behind, text, holds, ?_⟩
  show stepwise step (_ + 1) state _ = _
  rw [stepwise_succ, ran]
  rfl

/-- A step that takes a token, and then the others. -/
theorem reads_repeated_more (step : σ → Reading (σ ⊕ α)) (between : List Piece) {state : σ}
    {S : σ → Prop}
    (read : Reads (step state) before (fun found => ∃ next, found = .inl next ∧ S next) between)
    (fewer : tokens between < tokens before)
    (others : ∀ next, S next → Reads (repeated step next) between P after) :
    Reads (repeated step state) before P after := by
  intro position spelling
  obtain ⟨_, middle, text, ⟨next, rfl, holds⟩, ran⟩ := read position spelling
  obtain ⟨value, behind, more, result, done⟩ := others next holds middle text
  refine ⟨value, behind, more, result, ?_⟩
  show stepwise step ((treesAt position before).length + 1) state _ = _
  rw [stepwise_succ, ran]
  refine stepwise_more ?_ done
  rw [length_treesAt, length_treesAt]
  exact fewer

theorem reads_many_done {step : Reading Bool} (read : Reads step before (· = false) after) :
    Reads (many step) before (fun _ => True) after := by
  refine reads_repeated_done _ (reads_bind read fun found same => ?_)
  rw [same]
  exact reads_pure ⟨(), rfl, trivial⟩

theorem reads_many_more {step : Reading Bool} (between : List Piece)
    (read : Reads step before (· = true) between)
    (fewer : tokens between < tokens before)
    (others : Reads (many step) between (fun _ => True) after) :
    Reads (many step) before (fun _ => True) after := by
  refine reads_repeated_more _ _ (S := fun _ => True) (reads_bind read fun found same => ?_) fewer
    fun _ _ => others
  rw [same]
  exact reads_pure ⟨(), rfl, trivial⟩

end Repetition

/-! ## Lists with separators -/

section Separated

variable {before between after rest : List Piece} {P : α → Prop} {reading : Reading α}
  {separator : List Char} {atEnd : List Tree → Bool}

/-- The step that `separated` repeats. -/
def separatedStep (separator : List Char) (atEnd : List Tree → Bool) (reading : Reading α)
    (values : List α × Bool) : Reading (List α × Bool ⊕ List α × Bool) := do
  if ← ahead atEnd then return .inr values
  let values := (values.1 ++ [← reading], false)
  if ← ahead atEnd then return .inr values
  punct separator
  return .inl (values.1, true)

theorem separated_done (ended : ∀ position, atEnd (treesAt position after) = true)
    (values : List α × Bool) :
    Reads (repeated (separatedStep separator atEnd reading) values) after (fun _ => True) after := by
  refine reads_repeated_done _ (reads_bind (reads_ahead _ ended) ?_)
  rintro _ rfl
  exact reads_pure ⟨_, rfl, trivial⟩

theorem separated_last (goes : ∀ position, atEnd (treesAt position before) = false)
    (read : Reads reading before P after)
    (ended : ∀ position, atEnd (treesAt position after) = true) (values : List α × Bool) :
    Reads (repeated (separatedStep separator atEnd reading) values) before (fun _ => True)
      after := by
  refine reads_repeated_done _ (reads_bind (reads_ahead _ goes) ?_)
  rintro _ rfl
  refine reads_bind read fun value _ => reads_bind (reads_ahead _ ended) ?_
  rintro _ rfl
  exact reads_pure ⟨_, rfl, trivial⟩

theorem separated_more (goes : ∀ position, atEnd (treesAt position before) = false)
    (read : Reads reading before P between)
    (more : ∀ position, atEnd (treesAt position between) = false)
    (apart : Reads (punct separator) between (fun _ => True) after)
    (fewer : tokens after < tokens before)
    (others : ∀ values,
      Reads (repeated (separatedStep separator atEnd reading) values) after (fun _ => True) rest)
    (values : List α × Bool) :
    Reads (repeated (separatedStep separator atEnd reading) values) before (fun _ => True)
      rest := by
  refine reads_repeated_more _ _ (S := fun _ => True) (reads_bind (reads_ahead _ goes) ?_) fewer
    fun next _ => others next
  rintro _ rfl
  refine reads_bind read fun value _ => reads_bind (reads_ahead _ more) ?_
  rintro _ rfl
  exact reads_bind apart fun _ _ => reads_pure ⟨_, rfl, trivial⟩

/-- Values with commas between them, up to the end. -/
theorem reads_commas
    (read : ∀ values, Reads (repeated (separatedStep [','] List.isEmpty reading) values) before
      (fun _ => True) []) :
    Reads (commas reading) before (fun _ => True) [] :=
  reads_bind (read ([], false)) fun _ _ => reads_pure trivial

end Separated

end EntityTables.Source
