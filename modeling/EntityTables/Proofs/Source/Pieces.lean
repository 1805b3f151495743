/-
# EntityTables.Proofs.Source.Pieces — source text put together from pieces

Text is put together from words, punctuation, literals, lifetimes, blanks and groups. If no piece can
be taken for a part of its neighbour, the text is read as the tokens that the pieces stand for.

* `Piece`, `charsOf`, `treesAt` — the pieces, their text and their tokens.
* `Fit` — pieces that keep apart.
* `readTreesUntil_pieces` — the tokens of pieces are read from their text.
-/
import EntityTables.Proofs.Source.Words

namespace EntityTables.Source

set_option autoImplicit false

open EntityTables.Text (quotedChars toList_quoted)

/-! ## Pieces -/

/-- A piece of source text. -/
inductive Piece where
  | gap (blanks : List Char)
  | word (text : String)
  | mark (c : Char)
  /-- The literal of a text. -/
  | quoted (text : String)
  | lifetime (name : String)
  | group (delimiter : Delimiter) (inside : List Piece)

mutual
/-- The characters of a piece. -/
def Piece.chars : Piece → List Char
  | .gap blanks => blanks
  | .word text => text.toList
  | .mark c => [c]
  | .quoted text => (Text.quoted text).toList
  | .lifetime name => '\'' :: name.toList
  | .group delimiter inside => delimiter.opening :: (charsOf inside ++ [delimiter.closing])

/-- The characters of pieces. -/
def charsOf : List Piece → List Char
  | [] => []
  | piece :: rest => piece.chars ++ charsOf rest
end

/-- The place behind some characters. -/
def Position.behind (position : Position) (cs : List Char) : Position := cs.foldl .next position

/-- Whether punctuation comes first, a lifetime's quote included. -/
def beginsMark : List Piece → Bool
  | .mark _ :: _ | .lifetime _ :: _ => true
  | _ => false

mutual
/-- The tokens of a piece at a place; of punctuation it matters whether more of it follows. -/
def Piece.treesAt : Position → Bool → Piece → List Tree
  | _, _, .gap _ => []
  | position, _, .word text => [.leaf position (.word text)]
  | position, joint, .mark c => [.leaf position (.punct c joint)]
  | position, _, .quoted text => [.leaf position (.literal (Text.quoted text))]
  | position, _, .lifetime name =>
    [.leaf position (.lifetime (String.ofList ('\'' :: name.toList)))]
  | position, _, .group delimiter inside =>
    [.group position delimiter (treesAt (position.next delimiter.opening) inside)]

/-- The tokens of pieces from a place on. -/
def treesAt : Position → List Piece → List Tree
  | _, [] => []
  | position, piece :: rest =>
    piece.treesAt position (beginsMark rest) ++ treesAt (position.behind piece.chars) rest
end

/-! ## Pieces that keep apart -/

/-- Whether a piece comes first that would be taken for a part of a word before it. -/
def beginsTight : List Piece → Bool
  | .word _ :: _ | .quoted _ :: _ | .lifetime _ :: _ => true
  | .mark c :: _ => c == '#'
  | _ => false

/-- A piece is not taken for a part of what follows it. -/
def Piece.isApart : Piece → List Piece → Bool
  | .word _, rest | .quoted _, rest | .lifetime _, rest => !beginsTight rest
  | _, _ => true

mutual
/-- A piece is what it is meant to be. -/
def Piece.Fits : Piece → Prop
  | .gap blanks => blanks ≠ [] ∧ ∀ c ∈ blanks, isGap c = true
  | .word text => IsWord text
  | .mark c => c ∈ punctuation ∧ c ≠ '/'
  | .quoted _ => True
  | .lifetime name => IsWord name
  | .group _ inside => Fit inside

/-- Pieces are what they are meant to be, and keep apart. -/
def Fit : List Piece → Prop
  | [] => True
  | piece :: rest => piece.Fits ∧ piece.isApart rest = true ∧ Fit rest
end

mutual
/-- Whether a piece is what it is meant to be can be computed. -/
def Piece.decideFits : ∀ piece : Piece, Decidable piece.Fits
  | .gap blanks =>
    decidable_of_iff (blanks ≠ [] ∧ blanks.all isGap = true)
      (by rw [Piece.Fits, List.all_eq_true])
  | .word text => decidable_of_iff (IsWord text) (by rw [Piece.Fits])
  | .mark c => decidable_of_iff (c ∈ punctuation ∧ c ≠ '/') (by rw [Piece.Fits])
  | .quoted _ => .isTrue (by rw [Piece.Fits]; trivial)
  | .lifetime name => decidable_of_iff (IsWord name) (by rw [Piece.Fits])
  | .group _ inside =>
    have := decideFit inside
    decidable_of_iff (Fit inside) (by rw [Piece.Fits])

/-- Whether pieces fit can be computed. -/
def decideFit : ∀ pieces : List Piece, Decidable (Fit pieces)
  | [] => .isTrue (by rw [Fit]; trivial)
  | piece :: rest =>
    have := piece.decideFits
    have := decideFit rest
    decidable_of_iff (piece.Fits ∧ piece.isApart rest = true ∧ Fit rest) (by rw [Fit])
end

instance (pieces : List Piece) : Decidable (Fit pieces) := decideFit pieces

/-! ## The characters behind pieces -/

/-- The character that closes a group, if tokens are read up to one. -/
def closingChars : Option Delimiter → List Char
  | none => []
  | some delimiter => [delimiter.closing]

/-- What stands behind pieces: the end, or the character that closes their group. -/
def Ends (closing : Option Delimiter) (after : List Char) : Prop := closing = none → after = []

section Behind

variable {closing : Option Delimiter} {after : List Char} {pieces : List Piece}

theorem isGap_ne {c d : Char} (gap : isGap c = true) (other : isGap d = false) : c ≠ d := by
  rintro rfl
  exact Bool.false_ne_true (other.symm.trans gap)

theorem isIdentPart_of_isGap {c : Char} (gap : isGap c = true) : isIdentPart c = false := by
  have apart : ∀ blank ∈ '\u200e' :: '\u200f' :: Text.blanks, isIdentPart blank = false :=
    forall_mem_of_all (by decide +kernel)
  refine apart c ?_
  simp only [isGap, Bool.or_eq_true, beq_iff_eq, Text.isBlank_iff] at gap
  rcases gap with (blank | left) | right
  · exact .tail _ (.tail _ blank)
  · exact left ▸ .head _
  · exact right ▸ .tail _ (.head _)

/-- A word begins with a character that may begin an identifier. -/
theorem IsWord.exists_start {word : String} (isWord : IsWord word) :
    ∃ c tail, word.toList = c :: tail ∧ isIdentStart c = true := by
  have chars := isWord.chars
  generalize word.toList = cs at chars
  cases chars with
  | plain start parts => exact ⟨_, _, rfl, start⟩
  | raw start parts allowed => exact ⟨'r', _, rfl, by decide⟩

/-- What a piece can begin with. -/
def Piece.BeginsWith : Piece → Char → Prop
  | .gap _, c => isGap c = true
  | .word _, c => isIdentStart c = true
  | .mark d, c => c = d
  | .quoted _, c => c = '"'
  | .lifetime _, c => c = '\''
  | .group delimiter _, c => c = delimiter.opening

theorem Piece.Fits.exists_first {piece : Piece} (fits : piece.Fits) :
    ∃ c tail, piece.chars = c :: tail ∧ piece.BeginsWith c := by
  cases piece with
  | gap blanks =>
    obtain ⟨some, blank⟩ := fits
    obtain ⟨c, tail, rfl⟩ := List.exists_cons_of_ne_nil some
    exact ⟨c, tail, rfl, blank c List.mem_cons_self⟩
  | word text => exact IsWord.exists_start fits
  | mark c => exact ⟨c, [], rfl, rfl⟩
  | quoted text =>
    refine ⟨'"', (text.toList.flatMap Text.escape) ++ ['"'], ?_, rfl⟩
    rw [Piece.chars, toList_quoted, quotedChars, List.cons_append]
  | lifetime name => exact ⟨'\'', _, rfl, rfl⟩
  | group delimiter inside => exact ⟨delimiter.opening, _, rfl, rfl⟩

/-- What is no gap does not begin with a blank. -/
theorem Piece.Fits.isGap_first {piece : Piece} (fits : piece.Fits)
    (solid : ∀ blanks, piece ≠ .gap blanks) {c : Char} {tail : List Char}
    (shape : piece.chars = c :: tail) : isGap c = false := by
  obtain ⟨d, more, begins, first⟩ := fits.exists_first
  cases shape.symm.trans begins
  cases piece with
  | gap blanks => exact absurd rfl (solid blanks)
  | word text => exact isGap_of_isIdentStart first
  | mark d =>
    have apart : ∀ mark ∈ punctuation, isGap mark = false := forall_mem_of_all (by decide)
    cases (show c = d from first)
    exact apart c fits.1
  | quoted text =>
    cases (show c = '"' from first)
    decide
  | lifetime name =>
    cases (show c = '\'' from first)
    decide
  | group delimiter inside =>
    cases (show c = delimiter.opening from first)
    cases delimiter <;> decide

/-- What follows pieces is not taken for punctuation behind them, unless it is. -/
theorem startsPunctuation_charsOf (fit : Fit pieces) (ends : Ends closing after) :
    startsPunctuation (charsOf pieces ++ (closingChars closing ++ after)) = beginsMark pieces := by
  have no (c : Char) (more : List Char) (slash : c ≠ '/') (mark : c ∉ punctuation)
      (single : c ≠ '\'') : startsPunctuation (c :: more) = false := by
    unfold startsPunctuation
    split
    · rfl
    · rfl
    · next same =>
      cases same
      simp [mark, single]
    · rfl
  cases pieces with
  | nil =>
    cases closing with
    | none =>
      rw [ends rfl]
      rfl
    | some delimiter => cases delimiter <;> exact no _ _ (by decide) (by decide) (by decide)
  | cons piece rest =>
    obtain ⟨fits, -, -⟩ := fit
    obtain ⟨c, tail, shape, first⟩ := fits.exists_first
    rw [charsOf, shape]
    cases piece with
    | gap blanks =>
      have apart : ∀ mark ∈ punctuation, isGap mark = false := forall_mem_of_all (by decide)
      exact no c _ (isGap_ne first (by decide))
        (fun member => Bool.false_ne_true ((apart c member).symm.trans first))
        (isGap_ne first (by decide))
    | word text =>
      exact no c _ (ne_of_isIdentStart first (by decide)) (not_mem_punctuation first)
        (ne_of_isIdentStart first (by decide))
    | mark d =>
      cases (show c = d from first)
      exact startsPunctuation_mark fits.1 fits.2 _
    | quoted text =>
      cases (show c = '"' from first)
      exact no _ _ (by decide) (by decide) (by decide)
    | lifetime name =>
      cases (show c = '\'' from first)
      rfl
    | group delimiter inside =>
      cases (show c = delimiter.opening from first)
      cases delimiter <;> exact no _ _ (by decide) (by decide) (by decide)

/-- What follows pieces is no part of a word before it, unless it is tight. -/
theorem apart_charsOf (fit : Fit pieces) (loose : beginsTight pieces = false)
    (ends : Ends closing after) :
    Apart (charsOf pieces ++ (closingChars closing ++ after)) := by
  cases pieces with
  | nil =>
    cases closing with
    | none =>
      rw [ends rfl]
      exact apart_nil
    | some delimiter =>
      cases delimiter <;>
        exact apart_cons (by decide) (by decide) (by decide) (by decide)
  | cons piece rest =>
    obtain ⟨fits, -, -⟩ := fit
    obtain ⟨c, tail, shape, first⟩ := fits.exists_first
    rw [charsOf, shape]
    cases piece with
    | gap blanks =>
      exact apart_cons (isGap_ne first (by decide)) (isGap_ne first (by decide))
        (isGap_ne first (by decide)) (isIdentPart_of_isGap first)
    | mark d =>
      cases (show c = d from first)
      have apart : ∀ mark ∈ punctuation, mark ≠ '"' ∧ mark ≠ '\'' ∧ isIdentPart mark = false :=
        forall_mem_of_all (by decide)
      obtain ⟨double, single, part⟩ := apart c fits.1
      exact apart_cons double single (by simpa [beginsTight] using loose) part
    | group delimiter inside =>
      cases (show c = delimiter.opening from first)
      cases delimiter <;> exact apart_cons (by decide) (by decide) (by decide) (by decide)
    | word text | quoted text | lifetime name => cases loose

/-- Pieces begin with no slash. -/
theorem ne_slash_of_charsOf (closing : Option Delimiter) (fit : Fit pieces)
    (ends : Ends closing after) {c : Char} {more : List Char}
    (shape : charsOf pieces ++ (closingChars closing ++ after) = c :: more) : c ≠ '/' := by
  cases pieces with
  | nil =>
    cases closing with
    | none =>
      rw [ends rfl] at shape
      cases shape
    | some delimiter => cases delimiter <;> cases shape <;> decide
  | cons piece rest =>
    obtain ⟨fits, -, -⟩ := fit
    obtain ⟨d, tail, begins, first⟩ := fits.exists_first
    rw [charsOf, begins] at shape
    cases shape
    cases piece with
    | gap blanks => exact isGap_ne first (by decide)
    | word text => exact ne_of_isIdentStart first (by decide)
    | mark e =>
      cases (show c = e from first)
      exact fits.2
    | quoted text =>
      cases (show c = '"' from first)
      decide
    | lifetime name =>
      cases (show c = '\'' from first)
      decide
    | group delimiter inside =>
      cases (show c = delimiter.opening from first)
      cases delimiter <;> decide

end Behind

/-! ## Reading -/

section Reading

variable {closing : Option Delimiter} {after : List Char}

theorem skipGaps_solid {c : Char} (gap : isGap c = false) (slash : c ≠ '/') (fuel : Nat)
    (rest : List Char) : skipGaps fuel (c :: rest) = c :: rest := by
  cases fuel with
  | zero => rfl
  | succ fuel =>
    unfold skipGaps
    split
    · next same => exact absurd (List.cons.inj same).1 slash
    · next same => exact absurd (List.cons.inj same).1 slash
    · next same =>
      cases same
      rw [if_neg (by simp [gap])]
    · next same => cases same

theorem skipGaps_gap {c : Char} (gap : isGap c = true) (fuel : Nat) (rest : List Char) :
    skipGaps (fuel + 1) (c :: rest) = skipGaps fuel rest := by
  have slash : c ≠ '/' := isGap_ne gap (by decide)
  conv_lhs => unfold skipGaps
  split
  · next same => exact absurd (List.cons.inj same).1 slash
  · next same => exact absurd (List.cons.inj same).1 slash
  · next same =>
    cases same
    rw [if_pos gap]
  · next same => cases same

/-- Blanks and comments that are skipped with enough steps for what is behind them. -/
def Skipped (front : List Char) : Prop :=
  ∀ (rest : List Char) (fuel : Nat), rest.length < fuel →
    ∃ left, rest.length < left ∧ skipGaps (front.length + fuel) (front ++ rest) = skipGaps left rest

theorem Skipped.append {front more : List Char} (skipped : Skipped front)
    (others : Skipped more) : Skipped (front ++ more) := by
  intro rest fuel enough
  obtain ⟨between, some, first⟩ := skipped (more ++ rest) (more.length + fuel)
    (by rw [List.length_append]; omega)
  rw [List.length_append] at some
  obtain ⟨left, enough, second⟩ := others rest (between - more.length) (by omega)
  refine ⟨left, enough, ?_⟩
  rw [show more.length + (between - more.length) = between by omega] at second
  rw [List.length_append, List.append_assoc, Nat.add_assoc, first, second]

theorem skipped_blanks {blanks : List Char} (gaps : ∀ c ∈ blanks, isGap c = true) :
    Skipped blanks := by
  intro rest fuel enough
  refine ⟨fuel, enough, ?_⟩
  induction blanks with
  | nil => simp
  | cons c blanks ih =>
    obtain ⟨gap, others⟩ := List.forall_mem_cons.mp gaps
    rw [List.length_cons, Nat.add_right_comm, List.cons_append, skipGaps_gap gap, ih others]

/-- A comment up to the end of its line. -/
theorem skipped_comment (text : List Char) (line : ∀ c ∈ text, c ≠ '\n' ∧ c ≠ '\r')
    (plain : ∀ c ∈ text.head?, c ≠ '/' ∧ c ≠ '!') : Skipped ('/' :: '/' :: (text ++ ['\n'])) := by
  intro rest fuel enough
  have split : splitLine (text ++ '\n' :: rest) = (text, '\n' :: rest) := by
    clear plain
    induction text with
    | nil => rfl
    | cons c text ih =>
      obtain ⟨⟨feed, back⟩, others⟩ := List.forall_mem_cons.mp line
      rw [List.cons_append, splitLine, ih others]
      · exact feed
      · intro _ same
        exact absurd same back
  have doc : isLineDoc ('/' :: '/' :: (text ++ '\n' :: rest)) = false := by
    cases text with
    | nil => rfl
    | cons c text =>
      obtain ⟨slash, bang⟩ := plain c rfl
      unfold isLineDoc
      split
      · rfl
      · next same =>
        cases same
        exact absurd rfl slash
      · next same =>
        cases same
        exact absurd rfl bang
      · rfl
  refine ⟨text.length + fuel + 1, by omega, ?_⟩
  have length : ('/' :: '/' :: (text ++ ['\n'])).length + fuel = text.length + fuel + 1 + 1 + 1 := by
    simp only [List.length_cons, List.length_append, List.length_nil]
    omega
  have text : '/' :: '/' :: (text ++ ['\n']) ++ rest = '/' :: '/' :: (text ++ '\n' :: rest) := by
    simp
  rw [length, text, skipGaps, doc, split]
  simp only [Bool.false_eq_true, if_false]
  exact skipGaps_gap (by decide) _ _

theorem advance_append (position : Position) (cs rest : List Char) :
    advance position (cs ++ rest) rest = position.behind cs := by
  unfold advance Position.behind
  rw [List.length_append, Nat.add_sub_cancel, List.take_left']
  rfl

theorem Position.behind_append (position : Position) (cs more : List Char) :
    position.behind (cs ++ more) = (position.behind cs).behind more := List.foldl_append ..

/-- The blanks before pieces, and the pieces behind them. -/
theorem exists_solid {pieces : List Piece} (fit : Fit pieces) :
    ∃ blanks rest, charsOf pieces = blanks ++ charsOf rest ∧ (∀ c ∈ blanks, isGap c = true) ∧
      Fit rest ∧ (∀ c more, charsOf rest = c :: more → isGap c = false) ∧
      ∀ position, treesAt position pieces = treesAt (position.behind blanks) rest := by
  induction pieces with
  | nil => exact ⟨[], [], rfl, nofun, trivial, nofun, fun _ => rfl⟩
  | cons piece rest ih =>
    cases piece with
    | gap blanks =>
      obtain ⟨⟨-, blank⟩, -, fit⟩ := fit
      obtain ⟨more, solid, same, skipped, fits, first, trees⟩ := ih fit
      refine ⟨blanks ++ more, solid, ?_, ?_, fits, first, fun position => ?_⟩
      · rw [charsOf, Piece.chars, same, List.append_assoc]
      · intro c member
        rcases List.mem_append.mp member with here | there
        · exact blank c here
        · exact skipped c there
      · rw [Position.behind_append, ← trees]
        rfl
    | word text | mark d | quoted text | lifetime name | group delimiter inside =>
      refine ⟨[], _, (List.nil_append _).symm, nofun, fit, ?_, fun _ => rfl⟩
      intro c more shape
      obtain ⟨d, tail, begins, -⟩ := fit.1.exists_first
      rw [charsOf, begins] at shape
      cases shape
      exact fit.1.isGap_first nofun begins

theorem readDoc_eq_none {c : Char} (slash : c ≠ '/') (more : List Char) :
    readDoc (c :: more) = none := by
  unfold readDoc
  split
  · next same => exact absurd (List.cons.inj same).1 slash
  · next same => exact absurd (List.cons.inj same).1 slash
  · rfl

section Steps

variable {blanks more behind : List Char} {c : Char} {fuel : Nat} {position finish : Position}
  {trees : List Tree} (skipped : Skipped blanks)

include skipped

theorem skipGaps_before (gap : isGap c = false) (slash : c ≠ '/') :
    skipGaps ((blanks ++ c :: more).length + 1) (blanks ++ c :: more) = c :: more := by
  obtain ⟨left, -, same⟩ := skipped (c :: more) ((c :: more).length + 1) (Nat.lt_succ_self _)
  rw [List.length_append, Nat.add_assoc, same, skipGaps_solid gap slash]

/-- A token, and the tokens behind it. -/
theorem readTreesUntil_leaf {chars tail : List Char} {leaf : Leaf} (shape : chars = c :: tail)
    (gap : isGap c = false) (slash : c ≠ '/') (opening : opened? c = none)
    (closes : ¬ (c = ')' ∨ c = ']' ∨ c = '\x7d'))
    (read : readLeaf (chars ++ behind) = some (leaf, behind))
    (others : readTreesUntil closing fuel ((position.behind blanks).behind chars) behind =
      some (trees, finish, after)) :
    readTreesUntil closing (fuel + 1) position (blanks ++ (chars ++ behind)) =
      some (.leaf (position.behind blanks) leaf :: trees, finish, after) := by
  rw [← advance_append _ chars behind] at others
  subst shape
  rw [List.cons_append] at read others ⊢
  rw [readTreesUntil]
  simp only [skipGaps_before skipped gap slash, advance_append, readDoc_eq_none slash,
    opening, ite_self, closes, if_false, read, Option.bind_eq_bind, Option.bind_some, others]
  rfl

/-- A group, and the tokens behind it. -/
theorem readTreesUntil_group {delimiter : Delimiter} {inside : List Tree} {closed : Position}
    (fault : dropWord? faultMark (delimiter.opening :: more) = none)
    (held : readTreesUntil (some delimiter) fuel
      ((position.behind blanks).next delimiter.opening) more = some (inside, closed, behind))
    (others : readTreesUntil closing fuel closed behind = some (trees, finish, after)) :
    readTreesUntil closing (fuel + 1) position (blanks ++ delimiter.opening :: more) =
      some (.group (position.behind blanks) delimiter inside :: trees, finish, after) := by
  have gap : isGap delimiter.opening = false := by cases delimiter <;> decide
  have slash : delimiter.opening ≠ '/' := by cases delimiter <;> decide
  have opening : opened? delimiter.opening = some delimiter := by cases delimiter <;> rfl
  rw [readTreesUntil]
  simp only [skipGaps_before skipped gap slash, advance_append, readDoc_eq_none slash, fault,
    Option.isSome_none, Bool.false_eq_true, if_false, opening, held, Option.bind_eq_bind,
    Option.bind_some, others]
  rfl

/-- The end of pieces: that of the text, or the character that closes their group. -/
theorem readTreesUntil_end (ends : Ends closing after) :
    readTreesUntil closing (fuel + 1) position (blanks ++ (closingChars closing ++ after)) =
      some ([], (position.behind blanks).behind (closingChars closing), after) := by
  cases closing with
  | none =>
    have skip : skipGaps ((blanks ++ []).length + 1) (blanks ++ []) = [] := by
      obtain ⟨left, some, same⟩ := skipped [] 1 Nat.zero_lt_one
      rw [List.length_append, Nat.add_assoc]
      refine same.trans ?_
      cases left with
      | zero => rfl
      | succ left => rfl
    have place := advance_append position blanks []
    rw [ends rfl, readTreesUntil]
    simp only [closingChars, List.append_nil] at skip place ⊢
    simp only [skip, place]
    rfl
  | some delimiter =>
    have gap : isGap delimiter.closing = false := by cases delimiter <;> decide
    have slash : delimiter.closing ≠ '/' := by cases delimiter <;> decide
    have opening : opened? delimiter.closing = none := by cases delimiter <;> rfl
    have closes : delimiter.closing = ')' ∨ delimiter.closing = ']' ∨
        delimiter.closing = '\x7d' := by cases delimiter <;> decide
    rw [readTreesUntil]
    simp only [closingChars, List.singleton_append, skipGaps_before skipped gap slash,
      advance_append, readDoc_eq_none slash, opening, ite_self, closes, if_true]
    rfl

end Steps

/-- Whether a group begins with what stands for a fault depends on its first character. -/
theorem dropWord?_faultMark {delimiter : Delimiter} {more : List Char}
    (slash : ∀ c rest, more = c :: rest → c ≠ '/') :
    dropWord? faultMark (delimiter.opening :: more) = none := by
  have mark : faultMark = '(' :: '/' :: faultMark.tail.tail := by decide
  rw [mark, dropWord?]
  split
  · cases more with
    | nil => rfl
    | cons c rest => rw [dropWord?, if_neg (slash c rest rfl).symm]
  · rfl

/-- What is no gap and no group is read as one token. -/
theorem readLeaf_piece {piece : Piece} {others : List Piece} (here : piece.Fits)
    (apart : piece.isApart others = true) (behind : Fit others) (ends : Ends closing after)
    (solid : ∀ blanks, piece ≠ .gap blanks)
    (single : ∀ delimiter inside, piece ≠ .group delimiter inside) :
    ∃ c tail leaf, piece.chars = c :: tail ∧ c ≠ '/' ∧ opened? c = none ∧
      ¬ (c = ')' ∨ c = ']' ∨ c = '\x7d') ∧
      readLeaf (piece.chars ++ (charsOf others ++ (closingChars closing ++ after))) =
        some (leaf, charsOf others ++ (closingChars closing ++ after)) ∧
      ∀ position, piece.treesAt position (beginsMark others) = [.leaf position leaf] := by
  have loose (tight : (!beginsTight others) = true) :
      Apart (charsOf others ++ (closingChars closing ++ after)) :=
    apart_charsOf behind (by simpa using tight) ends
  have brackets {c : Char} (no : c ∉ ['(', '[', '\x7b', ')', ']', '\x7d']) :
      opened? c = none ∧ ¬ (c = ')' ∨ c = ']' ∨ c = '\x7d') := by
    simp only [List.mem_cons, List.not_mem_nil, or_false, not_or] at no
    refine ⟨?_, by simp [no]⟩
    unfold opened?
    split <;> simp_all
  obtain ⟨c, tail, shape, first⟩ := here.exists_first
  cases piece with
  | gap blanks => exact absurd rfl (solid blanks)
  | group delimiter inside => exact absurd rfl (single delimiter inside)
  | word text =>
    have no : ∀ d ∈ ['(', '[', '\x7b', ')', ']', '\x7d'], isIdentStart d = false :=
      forall_mem_of_all (by decide)
    obtain ⟨opening, closes⟩ := brackets (c := c) fun member =>
      Bool.false_ne_true ((no c member).symm.trans first)
    exact ⟨c, tail, _, shape, ne_of_isIdentStart first (by decide), opening, closes,
      readLeaf_word here (loose apart), fun _ => rfl⟩
  | mark d =>
    cases (show c = d from first)
    have no : ∀ mark ∈ punctuation, mark ∉ ['(', '[', '\x7b', ')', ']', '\x7d'] :=
      forall_mem_of_all (by decide)
    obtain ⟨opening, closes⟩ := brackets (no c here.1)
    have joint := startsPunctuation_charsOf behind ends
    refine ⟨c, [], .punct c (beginsMark others), rfl, here.2, opening, closes, ?_, fun _ => rfl⟩
    rw [← joint]
    exact readLeaf_mark here.1 here.2 _
  | quoted text =>
    cases (show c = '"' from first)
    have plain := loose apart
    refine ⟨_, tail, _, shape, by decide, rfl, by decide, readLeaf_quoted text ?_, fun _ => rfl⟩
    intro c more same
    have part := plain.2 c more same
    rw [← Bool.not_eq_true]
    intro start
    rw [isIdentPart_of_start start] at part
    cases part
  | lifetime name =>
    exact ⟨'\'', name.toList, _, rfl, by decide, rfl, by decide,
      readLeaf_lifetime here (loose apart), fun _ => rfl⟩

/-- The tokens of pieces are read from their text, up to the end or the closing character behind
them. -/
theorem readTreesUntil_pieces {fuel : Nat} {front : List Char} (pieces : List Piece)
    (closing : Option Delimiter) (after : List Char) (skipped : Skipped front) (fit : Fit pieces) (ends : Ends closing after) (position : Position)
    (enough : (front ++ (charsOf pieces ++ (closingChars closing ++ after))).length < fuel) :
    readTreesUntil closing fuel position
        (front ++ (charsOf pieces ++ (closingChars closing ++ after))) =
      some (treesAt (position.behind front) pieces,
        (position.behind front).behind (charsOf pieces ++ closingChars closing), after) := by
  induction fuel generalizing closing after front pieces position with
  | zero => exact absurd enough (Nat.not_lt_zero _)
  | succ fuel ih =>
    have none : Skipped [] := skipped_blanks nofun
    obtain ⟨blanks, rest, same, gaps, fits, first, trees⟩ := exists_solid fit
    have skipped := skipped.append (skipped_blanks gaps)
    have text : front ++ (charsOf pieces ++ (closingChars closing ++ after)) =
        (front ++ blanks) ++ (charsOf rest ++ (closingChars closing ++ after)) := by
      simp only [same, List.append_assoc]
    have place : (position.behind front).behind (charsOf pieces ++ closingChars closing) =
        (position.behind (front ++ blanks)).behind (charsOf rest ++ closingChars closing) := by
      simp only [same, List.append_assoc, Position.behind_append]
    rw [text] at enough ⊢
    rw [trees, place, ← Position.behind_append]
    cases rest with
    | nil => exact readTreesUntil_end skipped ends
    | cons piece others =>
      obtain ⟨here, apart, behind⟩ := fits
      have solid (blank : List Char) : piece ≠ .gap blank := by
        rintro rfl
        obtain ⟨some, gaps⟩ := here
        obtain ⟨c, tail, rfl⟩ := List.exists_cons_of_ne_nil some
        have no := first c _ rfl
        rw [gaps c List.mem_cons_self] at no
        cases no
      -- what remains is shorter, as every piece has a first character
      obtain ⟨c, tail, shape, -⟩ := here.exists_first
      have rest := ih others closing after none behind ends
        ((position.behind (front ++ blanks)).behind piece.chars) (by
          simp only [charsOf, shape, List.length_append, List.length_cons, List.length_nil]
            at enough ⊢
          omega)
      rw [charsOf, List.append_assoc piece.chars, List.append_assoc piece.chars,
        Position.behind_append _ piece.chars]
      by_cases single : ∃ delimiter inside, piece = .group delimiter inside
      · obtain ⟨delimiter, inside, rfl⟩ := single
        have text : Piece.chars (.group delimiter inside) ++
            (charsOf others ++ (closingChars closing ++ after)) =
              delimiter.opening :: (charsOf inside ++ (closingChars (some delimiter) ++
                (charsOf others ++ (closingChars closing ++ after)))) := by
          simp [Piece.chars, closingChars]
        have held := ih inside (some delimiter) (charsOf others ++ (closingChars closing ++ after)) none
          here nofun
          ((position.behind (front ++ blanks)).next delimiter.opening) (by
            rw [charsOf, List.append_assoc (Piece.chars _), text] at enough
            simp only [List.length_append, List.length_cons, List.length_nil] at enough ⊢
            omega)
        have slash : ∀ c rest, charsOf inside ++ (closingChars (some delimiter) ++
            (charsOf others ++ (closingChars closing ++ after))) = c :: rest → c ≠ '/' :=
          fun c rest shape => ne_slash_of_charsOf (some delimiter) here nofun shape
        rw [text]
        exact readTreesUntil_group skipped (dropWord?_faultMark slash) held rest
      · obtain ⟨c, tail, leaf, shape, slash, opening, closes, read, tokens⟩ :=
          readLeaf_piece here apart behind ends solid fun delimiter inside same =>
            single ⟨delimiter, inside, same⟩
        have whole := readTreesUntil_leaf skipped shape
          (first c (tail ++ charsOf others) (by rw [charsOf, shape]; rfl)) slash opening closes
          read rest
        rw [whole, treesAt, tokens]
        rfl

/-- The tokens of a text that is put together from pieces, behind comments and blanks. -/
theorem readTrees?_pieces {text : String} {front : List Char} {pieces : List Piece}
    (skipped : Skipped front) (fit : Fit pieces) (first : ∀ c ∈ front.head?, c ≠ '\ufeff')
    (some : front ≠ [])
    (shape : text.toList = front ++ charsOf pieces) :
    readTrees? text = Option.some (treesAt (Position.origin.behind front) pieces) := by
  have enough : (front ++ (charsOf pieces ++ (closingChars none ++ []))).length <
      text.toList.length + 1 := by
    rw [shape]
    simp [closingChars]
  have read := readTreesUntil_pieces pieces none [] skipped fit (fun _ => rfl) Position.origin
    enough
  simp only [closingChars, List.append_nil] at read
  unfold readTrees?
  obtain ⟨c, more, rfl⟩ := List.exists_cons_of_ne_nil some
  have other := first c rfl
  rw [shape] at read ⊢
  simp only [List.cons_append] at read ⊢
  split
  · next same => exact absurd (List.cons.inj same).1 other
  · simp only [read]
    rfl

end Reading

end EntityTables.Source
