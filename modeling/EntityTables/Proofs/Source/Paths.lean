/-
# EntityTables.Proofs.Source.Paths — paths read from their pieces

Paths of names, perhaps with `::` before them, and their reading as paths, as types and as the text
of a type. What follows decides where a path ends.

* `Names` — a path; `Names.print` — its pieces; `Names.Valid` — its names are words for a path.
* `reads_path`, `reads_pathType`, `reads_typeText` — a path as an expression and as a type.
-/
import EntityTables.Proofs.Source.Reads
import EntityTables.Source.Nesting

namespace EntityTables.Source

set_option autoImplicit false

open Reading

/-! ## Names -/

/-- Whether a word may be a segment of a path. -/
def isName (text : String) : Bool :=
  isIdentifier text || ["super", "self", "Self", "crate"].contains text

/-- No name is any other word. -/
theorem beq_of_isName {name keyword : String} (named : isName name = true)
    (other : isName keyword = false) : (name == keyword) = false := by
  refine beq_false_of_ne ?_
  rintro rfl
  exact Bool.false_ne_true (other.symm.trans named)

/-- No identifier is a reserved word. -/
theorem beq_of_isIdentifier {name keyword : String} (named : isIdentifier name = true)
    (other : isIdentifier keyword = false) : (name == keyword) = false := by
  refine beq_false_of_ne ?_
  rintro rfl
  exact Bool.false_ne_true (other.symm.trans named)

theorem isName_of_isIdentifier {name : String} (named : isIdentifier name = true) :
    isName name = true := by
  rw [isName, named, Bool.true_or]

/-- A path of names, perhaps with `::` before it. -/
structure Names where
  absolute : Bool
  first : String
  more : List String

/-- The pieces of names with `::` before each. -/
def printMore : List String → List Piece → List Piece
  | [], after => after
  | name :: more, after => .mark ':' :: .mark ':' :: .word name :: printMore more after

/-- The pieces of a path. -/
def Names.print (path : Names) (after : List Piece) : List Piece :=
  match path.absolute with
  | true => .mark ':' :: .mark ':' :: .word path.first :: printMore path.more after
  | false => .word path.first :: printMore path.more after

/-- The path of names as a type. -/
def Names.type (path : Names) : TypeExpr :=
  .path none path.absolute ((path.first :: path.more).map fun name => .mk name .none)

/-- A path of words that may be segments. -/
structure Names.Valid (path : Names) : Prop where
  words : ∀ name ∈ path.first :: path.more, IsWord name
  named : ∀ name ∈ path.first :: path.more, isName name = true

/-- Whether what comes first is none of some punctuation characters. -/
def avoids (cs : List Char) : Option Piece → Bool
  | some (.mark c) => !cs.contains c
  | _ => true

theorem isMark_of_avoids {cs : List Char} {piece? : Option Piece} (avoid : avoids cs piece? = true)
    {c : Char} (member : c ∈ cs) : isMark c piece? = false := by
  unfold avoids at avoid
  split at avoid
  · next d =>
    refine beq_false_of_ne ?_
    rintro rfl
    simp [member] at avoid
  · next other =>
    unfold isMark
    split
    · exact absurd rfl (other _)
    · rfl

instance (path : Names) : Decidable path.Valid :=
  decidable_of_iff ((∀ name ∈ path.first :: path.more, IsWord name) ∧
    ∀ name ∈ path.first :: path.more, isName name = true)
    ⟨fun both => ⟨both.1, both.2⟩, fun valid => ⟨valid.words, valid.named⟩⟩

section Paths

variable {g : Grammar} {inExpression : Bool} {after : List Piece} {name : String}

theorem startsJoined_of_isMark {test : List Tree → Bool} (no : isMark ':' (first? after) = false)
    (position : Position) : startsJoined test (treesAt position after) = false := by
  have none : punct? [':', ':'] (treesAt position after) = none :=
    Option.isSome_eq_false_iff.mp (startsPunct_of_isMark position after no [':'])
      |> Option.isNone_iff_eq_none.mp
  rw [startsJoined, none]

theorem startsOneOf_treesAt (position : Position) (pieces : List Piece) (names : List String) :
    startsOneOf names (treesAt position pieces) =
      names.any fun name => isWord name (first? pieces) := by
  simp only [startsOneOf, startsWord_treesAt]

theorem reads_segment (named : isName name = true)
    (angle : isMark '<' (first? after) = false)
    (joined : ∀ position, startsJoined (startsPunct ['<']) (treesAt position after) = false) :
    Reads (readSegment g inExpression) (.word name :: after) (· = .mk name .none) after := by
  refine reads_bind (reads_ahead _ (startsOneOf_treesAt · _ _)) ?_
  rintro _ rfl
  cases special : ["super", "self", "crate", "try"].any
      fun keyword => isWord keyword (first? (.word name :: after)) with
  | true =>
    refine reads_bind (reads_anyWord name) ?_
    rintro _ rfl
    exact reads_pure rfl
  | false =>
    have plain (text : String) (same : text = name) : Reads (do
        let trees ← upcoming
        if !inExpression && startsPunct ['<'] trees && !startsPunct ['<', '='] trees ||
            startsJoined (startsPunct ['<']) trees then
          return Segment.mk text (← readArguments g)
        else return Segment.mk text .none) after (· = .mk name .none) after := by
      refine reads_upcoming fun position => ?_
      rw [joined, startsPunct_treesAt, angle, Bool.and_false, Bool.false_and, Bool.false_or, same]
      exact reads_pure rfl
    refine reads_bind (reads_ahead _ (startsWord_treesAt · _ "Self")) ?_
    rintro _ rfl
    cases own : isWord "Self" (first? (.word name :: after)) with
    | true => exact reads_bind (reads_anyWord name) plain
    | false =>
      have identifier : isIdentifier name = true := by
        simp [first?, isWord] at own special
        simp [isName, own, special] at named
        exact named
      exact reads_bind (reads_identifier identifier) plain

/-- The step that `readSegments` repeats. -/
def segmentStep (g : Grammar) (inExpression : Bool) (continues : List Tree → Bool)
    (segments : List Segment) : Reading (List Segment ⊕ List Segment) := do
  let segments := segments ++ [← readSegment g inExpression]
  if ← ahead continues then
    punct [':', ':']
    return .inl segments
  else return .inr segments

theorem reads_colons (rest : List Piece) :
    Reads (punct [':', ':']) (.mark ':' :: .mark ':' :: rest) (fun _ => True) rest :=
  fun _ _ => ⟨_, _, _, trivial, rfl⟩

theorem reads_optionalColons_yes (rest : List Piece) :
    Reads (optionalPunct [':', ':']) (.mark ':' :: .mark ':' :: rest) (· = true) rest :=
  fun _ _ => ⟨_, _, _, rfl, rfl⟩

theorem reads_segments {continues : List Tree → Bool} (first : String) (more : List String)
    (named : ∀ name ∈ first :: more, isName name = true)
    (goes : ∀ position name rest,
      continues (treesAt position (.mark ':' :: .mark ':' :: .word name :: rest)) = true)
    (stops : ∀ position, continues (treesAt position after) = false)
    (angle : isMark '<' (first? after) = false) (colon : isMark ':' (first? after) = false) :
    Reads (readSegments g inExpression continues) (.word first :: printMore more after)
      (· = (first :: more).map fun name => .mk name .none) after := by
  suffices all : ∀ found, Reads (repeated (segmentStep g inExpression continues) found)
      (.word first :: printMore more after)
      (· = found ++ (first :: more).map fun name => .mk name .none) after from all []
  induction more generalizing first with
  | nil =>
    intro found
    refine reads_repeated_done _ (reads_bind (reads_segment (named first List.mem_cons_self) angle
      (startsJoined_of_isMark colon)) ?_)
    rintro _ rfl
    refine reads_bind (reads_ahead _ stops) ?_
    rintro _ rfl
    exact reads_pure ⟨_, rfl, rfl⟩
  | cons next more ih =>
    intro found
    refine reads_repeated_more _ (.word next :: printMore more after)
      (S := (· = found ++ [.mk first .none]))
      (reads_bind (reads_segment (named first List.mem_cons_self) rfl fun _ => rfl) ?_)
      (by simp [tokens, printMore]) ?_
    · rintro _ rfl
      refine reads_bind (reads_ahead _ fun position => goes position next _) ?_
      rintro _ rfl
      exact reads_bind (reads_colons _) fun _ _ => reads_pure ⟨_, rfl, rfl⟩
    · rintro _ rfl
      refine (ih next (fun name member => named name (.tail _ member)) _).imp ?_
      rintro _ rfl
      simp

theorem reads_simplePath {path : Names} (valid : path.Valid)
    (angle : isMark '<' (first? after) = false) (colon : isMark ':' (first? after) = false) :
    Reads (readSimplePath g inExpression) (path.print after) (· = path.type) after := by
  obtain ⟨absolute, first, more⟩ := path
  have stops (position : Position) : segmentFollows (treesAt position after) = false := by
    rw [segmentFollows, startsPunct_of_isMark position after colon, Bool.false_and]
  have names : Reads (readSegments g inExpression segmentFollows)
      (.word first :: printMore more after) _ after :=
    reads_segments first more valid.named (fun _ _ _ => rfl) stops angle colon
  cases absolute with
  | true =>
    refine reads_bind (reads_optionalColons_yes _) ?_
    rintro _ rfl
    refine reads_bind names ?_
    rintro _ rfl
    exact reads_pure rfl
  | false =>
    refine reads_bind (reads_optionalPunct_no rfl) ?_
    rintro _ rfl
    refine reads_bind names ?_
    rintro _ rfl
    exact reads_pure rfl

/-- What a path begins with: its first name, or a colon. -/
theorem first?_path (path : Names) (after : List Piece) :
    first? (path.print after) = some (if path.absolute then .mark ':' else .word path.first) := by
  obtain ⟨absolute, first, more⟩ := path
  cases absolute <;> rfl

theorem reads_path {path : Names} (valid : path.Valid)
    (angle : isMark '<' (first? after) = false) (colon : isMark ':' (first? after) = false) :
    Reads (readPath g inExpression) (path.print after) (· = path.type) after := by
  refine reads_bind (reads_ahead false fun position => ?_) ?_
  · rw [startsPunct_treesAt, first?_path]
    cases path.absolute <;> rfl
  · rintro _ rfl
    exact reads_simplePath valid angle colon

theorem startsIdentifier_word (position : Position) (rest : List Piece) :
    startsIdentifier (treesAt position (.word name :: rest)) = isIdentifier name := by
  have found : identifier? (treesAt position (.word name :: rest)) =
      if isIdentifier name = true then
        some (name, treesAt (position.behind name.toList) rest) else none := rfl
  rw [startsIdentifier, found]
  cases isIdentifier name <;> rfl

theorem startsSegment_word (named : isName name = true) (position : Position)
    (rest : List Piece) : startsSegment (treesAt position (.word name :: rest)) = true := by
  rw [startsSegment, startsIdentifier_word, startsOneOf_treesAt]
  simpa [first?, isWord, isName] using named

theorem startsPath_path {path : Names} (valid : path.Valid) (position : Position) :
    startsPath (treesAt position (path.print after)) = true := by
  obtain ⟨absolute, first, more⟩ := path
  cases absolute with
  | true => rfl
  | false =>
    rw [startsPath, Names.print, startsSegment_word (valid.named first List.mem_cons_self),
      Bool.true_or]

/-- A path that begins with the word that operations of the language itself begin with is none. -/
theorem startsBuiltin_path (path : Names) (hash : isMark '#' (first? after) = false)
    (position : Position) : startsBuiltin (treesAt position (path.print after)) = false := by
  obtain ⟨absolute, first, more⟩ := path
  cases absolute with
  | true => rfl
  | false =>
    have behind : startsPunct ['#'] ((treesAt position (.word first :: printMore more after)).drop 1)
        = false := by
      show startsPunct ['#'] (treesAt (position.behind first.toList) (printMore more after)) = false
      cases more with
      | nil => exact (startsPunct_treesAt _ _ _).trans hash
      | cons next more => rfl
    rw [startsBuiltin, Names.print, behind, Bool.and_false]

/-- A path begins with none of the words that are no names. -/
theorem isWord_path {path : Names} (valid : path.Valid) {keyword : String}
    (other : isName keyword = false) : isWord keyword (first? (path.print after)) = false := by
  rw [first?_path]
  cases path.absolute with
  | true => rfl
  | false => exact beq_of_isName (valid.named _ List.mem_cons_self) other

/-- A path is a type, wherever nothing makes it a part of a larger one. -/
theorem reads_pathType {path : Names} {plus : Bool} (valid : path.Valid)
    (ends : avoids [':', '<', '!', '+', '#'] (first? after) = true) :
    Reads (readType g plus) (path.print after) (· = path.type) after := by
  have angle := isMark_of_avoids ends (c := '<') (by decide)
  have colon := isMark_of_avoids ends (c := ':') (by decide)
  have alone : Reads (readPathType g plus) (path.print after) (· = path.type) after := by
    refine reads_bind (reads_path valid angle colon) ?_
    rintro _ rfl
    refine reads_upcoming fun position => ?_
    have bang : startsBang (treesAt position after) = false := by
      rw [startsBang, startsPunct_treesAt, isMark_of_avoids ends (by decide), Bool.false_and]
    have sum : startsPunct ['+'] (treesAt position after) = false := by
      rw [startsPunct_treesAt, isMark_of_avoids ends (by decide)]
    rw [bang, sum, Bool.and_false, Bool.and_false]
    exact reads_pure rfl
  refine reads_upcoming fun position => ?_
  have group : startsGroup .paren (treesAt position (path.print after)) = false := by
    rw [startsGroup_treesAt, first?_path]
    cases path.absolute <;> rfl
  rw [startsWord_treesAt, isWord_path valid rfl, group,
    startsBuiltin_path path (isMark_of_avoids ends (by decide)), startsPath_path valid]
  exact alone

theorem reads_typeText {path : Names} {m : Nat} (valid : path.Valid)
    (ends : avoids [':', '<', '!', '+', '#'] (first? after) = true) :
    Reads (Grammar.nested (m + 1)).typeText (path.print after) (fun _ => True) after :=
  reads_bind (reads_pathType (g := .nested m) valid ends) fun _ _ => reads_pure trivial

theorem reads_closedType {path : Names} {m : Nat} (valid : path.Valid)
    (ends : avoids [':', '<', '!', '+', '#'] (first? after) = true) :
    Reads (Grammar.nested (m + 1)).closedType (path.print after) (fun _ => True) after :=
  reads_bind (reads_pathType (g := .nested m) valid ends) fun _ _ => reads_pure trivial

theorem tokens_printMore (more : List String) (after : List Piece) :
    tokens after ≤ tokens (printMore more after) := by
  induction more with
  | nil => exact Nat.le_refl _
  | cons name more ih =>
    simp only [printMore, tokens]
    omega

theorem tokens_path (path : Names) (after : List Piece) :
    tokens after < tokens (path.print after) := by
  obtain ⟨absolute, first, more⟩ := path
  have rest := tokens_printMore more after
  cases absolute <;> simp only [Names.print, tokens] <;> omega

end Paths

end EntityTables.Source
