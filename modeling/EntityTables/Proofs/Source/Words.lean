/-
# EntityTables.Proofs.Source.Words — single tokens read from their text

A word is read as a token if what follows cannot be taken for a part of it: no further letter, no
quote and no hash. Punctuation, lifetimes and string literals have conditions of the same kind.

* `IsWord` — a text that is one word; `Apart` — what may follow it.
* `readLeaf_word`, `readLeaf_mark`, `readLeaf_quoted`, `readLeaf_lifetime` — the tokens.
-/
import EntityTables.Proofs.Text.Digits
import EntityTables.Proofs.Text.Literal
import EntityTables.Source.TokenReader
import Mathlib.Data.List.TakeWhile

namespace EntityTables.Source

set_option autoImplicit false

open EntityTables.Text (quoted quotedChars toList_quoted)

/-! ## Characters -/

section Characters

variable {c d : Char}

theorem ne_of_isIdentStart (start : isIdentStart c = true) (other : isIdentStart d = false) :
    c ≠ d := by
  rintro rfl
  exact Bool.false_ne_true (other.symm.trans start)

theorem ne_of_isIdentPart (part : isIdentPart c = true) (other : isIdentPart d = false) :
    c ≠ d := by
  rintro rfl
  exact Bool.false_ne_true (other.symm.trans part)

theorem isIdentPart_of_start (start : isIdentStart c = true) : isIdentPart c = true := by
  simp [isIdentPart, start]

/-- What a list's members are is found by looking at each of them. -/
theorem forall_mem_of_all {α : Type} {items : List α} {holds : α → Prop} [DecidablePred holds]
    (all : (items.all fun item => decide (holds item)) = true) : ∀ item ∈ items, holds item :=
  fun item member => of_decide_eq_true (List.all_eq_true.mp all item member)

/-- No blank begins an identifier. -/
theorem isGap_of_isIdentStart (start : isIdentStart c = true) : isGap c = false := by
  have apart : ∀ blank ∈ '\u200e' :: '\u200f' :: Text.blanks, isIdentStart blank = false :=
    forall_mem_of_all (by decide +kernel)
  rw [← Bool.not_eq_true]
  intro gap
  have member : c ∈ '\u200e' :: '\u200f' :: Text.blanks := by
    simp only [isGap, Bool.or_eq_true, beq_iff_eq, Text.isBlank_iff] at gap
    rcases gap with (blank | left) | right
    · exact .tail _ (.tail _ blank)
    · exact left ▸ .head _
    · exact right ▸ .tail _ (.head _)
  exact Bool.false_ne_true ((apart c member).symm.trans start)

/-- No digit begins an identifier. -/
theorem isDigit_of_isIdentStart (start : isIdentStart c = true) : c.isDigit = false := by
  rw [← Bool.not_eq_true, isDigit_iff]
  rintro ⟨low, high⟩
  unfold isIdentStart at start
  rw [if_pos (by omega), Bool.or_eq_true, isAlpha_iff, beq_iff_eq] at start
  rcases start with letter | rfl
  · omega
  · exact absurd high (by decide)

/-- The letters among the hexadecimal digits stand for ten and above. -/
theorem le_hexValue? (digit : c.isDigit = false) {n : Nat} (found : Json.hexValue? c = some n) :
    10 ≤ n := by
  have outside : ¬ ('0' ≤ c ∧ c ≤ '9') := by
    intro inside
    simp only [Char.le_def, UInt32.le_iff_toNat_le] at inside
    rw [isDigit_iff.mpr inside] at digit
    cases digit
  unfold Json.hexValue? at found
  rw [if_neg outside] at found
  split at found
  · cases found
    omega
  · split at found
    · cases found
      omega
    · cases found

/-- No punctuation begins an identifier. -/
theorem not_mem_punctuation (start : isIdentStart c = true) : c ∉ punctuation := by
  have apart : ∀ mark ∈ punctuation, isIdentStart mark = false := forall_mem_of_all (by decide)
  exact fun member => Bool.false_ne_true ((apart c member).symm.trans start)

end Characters

/-! ## What stands behind -/

/-- No quote and no hash comes first. -/
def Quoteless (cs : List Char) : Prop :=
  ∀ c more, cs = c :: more → c ≠ '"' ∧ c ≠ '\'' ∧ c ≠ '#'

/-- Nothing comes first that would be taken for a part of a word before it. -/
def Apart (cs : List Char) : Prop :=
  Quoteless cs ∧ ∀ c more, cs = c :: more → isIdentPart c = false

theorem apart_nil : Apart [] := ⟨nofun, nofun⟩

theorem apart_cons {c : Char} {more : List Char} (quote : c ≠ '"') (single : c ≠ '\'')
    (hash : c ≠ '#') (part : isIdentPart c = false) : Apart (c :: more) := by
  refine ⟨?_, ?_⟩
  · rintro _ _ ⟨⟩
    exact ⟨quote, single, hash⟩
  · rintro _ _ ⟨⟩
    exact part

section Words

variable {tail rest more : List Char}

theorem quoteless_append (parts : ∀ c ∈ tail, isIdentPart c = true) (apart : Apart rest) :
    Quoteless (tail ++ rest) := by
  cases tail with
  | nil => exact apart.1
  | cons c tail =>
    rintro _ _ ⟨⟩
    have part := parts c List.mem_cons_self
    exact ⟨ne_of_isIdentPart part (by decide), ne_of_isIdentPart part (by decide),
      ne_of_isIdentPart part (by decide)⟩

theorem takeWhile_word (parts : ∀ c ∈ tail, isIdentPart c = true) (apart : Apart rest) :
    (tail ++ rest).takeWhile isIdentPart = tail ∧ (tail ++ rest).dropWhile isIdentPart = rest := by
  rw [List.takeWhile_append_of_pos parts, List.dropWhile_append_of_pos parts]
  cases rest with
  | nil => exact ⟨List.append_nil _, rfl⟩
  | cons c more =>
    have other := apart.2 c more rfl
    rw [List.takeWhile_cons_of_neg (by simp [other]), List.dropWhile_cons_of_neg (by simp [other])]
    exact ⟨List.append_nil _, rfl⟩

/-- Where no quote follows, no string begins, raw or not. -/
theorem readString_eq_none {cs : List Char} (quoteless : Quoteless cs)
    (raw : ∀ more, cs = 'r' :: more → Quoteless more) (quoting : Quoting) :
    readString quoting cs = none := by
  unfold readString
  split
  · exact absurd rfl (quoteless _ _ rfl).1
  · next rest =>
    have none : (rest.takeWhile (· == '#')).length = 0 := by
      cases rest with
      | nil => rfl
      | cons c more =>
        have hash := (raw _ rfl c more rfl).2.2
        rw [List.takeWhile_cons_of_neg (by simpa using hash)]
        rfl
    simp only [none, List.drop_zero]
    split
    · exact absurd rfl (raw _ rfl _ _ rfl).1
    · rfl
  · rfl

/-- What does not begin with a digit is no number, and without a parenthesis no fault. -/
theorem numberEnd?_eq_none {c : Char} (cs : List Char) (digit : c.isDigit = false)
    (paren : c ≠ '(') :
    floatEnd? (c :: cs) = none ∧ integerEnd? (c :: cs) = none ∧
      dropWord? faultMark (c :: cs) = none := by
  have zero : c ≠ '0' := by
    rintro rfl
    cases digit
  have none : afterDigits 10 false (c :: cs) = none := by
    rw [afterDigits, digit]
    simp only [Bool.false_eq_true, if_false]
    split
    · rfl
    · split
      · next d found =>
        have large := le_hexValue? digit found
        rw [if_neg (by omega)]
      · rfl
  refine ⟨?_, ?_, ?_⟩
  · simp [floatEnd?, digit]
  · have shape : integerEnd? (c :: cs) = (afterDigits 10 false (c :: cs)).bind wordEnd? := by
      unfold integerEnd?
      split <;> simp_all
    rw [shape, none]
    rfl
  · rw [show faultMark = '(' :: faultMark.tail from rfl, dropWord?, if_neg paren.symm]

end Words

theorem dropWord?_eq_some {word cs rest : List Char} (found : dropWord? word cs = some rest) :
    cs = word ++ rest := by
  induction word generalizing cs with
  | nil => exact Option.some.inj found
  | cons w word ih =>
    cases cs with
    | nil => cases found
    | cons c cs =>
      rw [dropWord?] at found
      split at found
      · next same => rw [ih found, same, List.cons_append]
      · cases found

/-! ## Words -/

/-- A text is one word, raw or not. -/
def IsWord (word : String) : Prop := readWord word.toList = some (word, [])

instance (word : String) : Decidable (IsWord word) := inferInstanceAs (Decidable (_ = _))

/-- The characters of a word: a letter or underscore and what may follow it, perhaps behind the mark
of a raw identifier. -/
inductive WordChars : List Char → Prop
  | plain {c : Char} {tail : List Char} (start : isIdentStart c = true)
      (parts : ∀ d ∈ tail, isIdentPart d = true) : WordChars (c :: tail)
  | raw {c : Char} {tail : List Char} (start : isIdentStart c = true)
      (parts : ∀ d ∈ tail, isIdentPart d = true)
      (allowed : neverRaw.contains (String.ofList (c :: tail)) = false) :
      WordChars ('r' :: '#' :: c :: tail)

theorem readIdentChars_cons {c : Char} {tail rest : List Char} (start : isIdentStart c = true)
    (parts : ∀ d ∈ tail, isIdentPart d = true) (apart : Apart rest) :
    readIdentChars (c :: (tail ++ rest)) = some (c :: tail, rest) := by
  obtain ⟨taken, left⟩ := takeWhile_word parts apart
  rw [readIdentChars, if_pos start, taken, left]

theorem readIdentChars_eq_some {cs word rest : List Char}
    (read : readIdentChars cs = some (word, rest)) :
    cs = word ++ rest ∧ ∃ c tail, word = c :: tail ∧ isIdentStart c = true ∧
      ∀ d ∈ tail, isIdentPart d = true := by
  cases cs with
  | nil => cases read
  | cons c tail =>
    rw [readIdentChars] at read
    split at read
    · next start =>
      cases read
      refine ⟨?_, c, _, rfl, start, fun d member => List.mem_takeWhile_imp member⟩
      rw [List.cons_append, List.takeWhile_append_dropWhile]
    · cases read

theorem IsWord.chars {word : String} (isWord : IsWord word) : WordChars word.toList := by
  unfold IsWord readWord at isWord
  split at isWord
  · next rest shape =>
    obtain ⟨⟨found, left⟩, read, kept⟩ := Option.bind_eq_some_iff.mp isWord
    simp only at kept
    by_cases never : neverRaw.contains (String.ofList found) = true
    · rw [if_pos never] at kept
      cases kept
    · rw [if_neg never] at kept
      cases kept
      obtain ⟨rfl, c, tail, rfl, start, parts⟩ := readIdentChars_eq_some read
      rw [shape, List.append_nil]
      exact .raw start parts (by simpa using never)
  · obtain ⟨⟨found, left⟩, read, same⟩ := Option.map_eq_some_iff.mp isWord
    cases same
    obtain ⟨whole, c, tail, rfl, start, parts⟩ := readIdentChars_eq_some read
    rw [whole, List.append_nil]
    exact .plain start parts

/-- Where no other literal begins, a text's end is the literal's. -/
theorem literalEnd?_of_string {c : Char} {cs value left : List Char} (byte : c ≠ 'b')
    (cText : c ≠ 'c') (single : c ≠ '\'')
    (string : readString .text (c :: cs) = some (value, left)) :
    literalEnd? (c :: cs) = some (afterSuffix left) := by
  unfold literalEnd?
  dsimp only
  split
  · next found =>
    split at found
    · next same => exact absurd (List.cons.inj same).1 byte
    · next same => exact absurd (List.cons.inj same).1 byte
    · next same => exact absurd (List.cons.inj same).1 cText
    · next same => exact absurd (List.cons.inj same).1 single
    · rw [string] at found
      cases found
      rfl
  · next missing =>
    split at missing
    · next same => exact absurd (List.cons.inj same).1 byte
    · next same => exact absurd (List.cons.inj same).1 byte
    · next same => exact absurd (List.cons.inj same).1 cText
    · next same => exact absurd (List.cons.inj same).1 single
    · rw [string] at missing
      cases missing

/-- Where no other literal begins and no text and no number is read, there is no literal. -/
theorem literalEnd?_eq_none {c : Char} {cs : List Char} (byte : c ≠ 'b') (cText : c ≠ 'c')
    (single : c ≠ '\'') (string : readString .text (c :: cs) = none)
    (float : floatEnd? (c :: cs) = none) (integer : integerEnd? (c :: cs) = none)
    (fault : dropWord? faultMark (c :: cs) = none) : literalEnd? (c :: cs) = none := by
  unfold literalEnd?
  simp only [float, integer, fault]
  split
  · next found =>
    split at found
    · next same => exact absurd (List.cons.inj same).1 byte
    · next same => exact absurd (List.cons.inj same).1 byte
    · next same => exact absurd (List.cons.inj same).1 cText
    · next same => exact absurd (List.cons.inj same).1 single
    · rw [string] at found
      cases found
  · rfl

section Word

variable {word : String} {rest : List Char} (isWord : IsWord word) (apart : Apart rest)
include isWord apart

theorem readWord_word : readWord (word.toList ++ rest) = some (word, rest) := by
  have chars := isWord.chars
  have name : String.ofList word.toList = word := String.ofList_toList
  generalize word.toList = cs at chars name
  cases chars with
  | @plain c tail start parts =>
    have read := readIdentChars_cons start parts apart
    unfold readWord
    split
    · next more shape =>
      -- the mark of a raw identifier is no part of a word without it
      obtain ⟨rfl, behind⟩ := List.cons.inj shape
      exact absurd rfl (quoteless_append parts apart _ _ behind).2.2
    · rw [List.cons_append, read]
      exact congrArg (fun word => some (word, rest)) name
  | @raw c tail start parts allowed =>
    have read := readIdentChars_cons start parts apart
    show (readIdentChars (c :: (tail ++ rest))).bind _ = _
    rw [read]
    show (if neverRaw.contains (String.ofList (c :: tail)) = true then none else _) = _
    rw [allowed]
    exact congrArg (fun word => some (word, rest)) name

/-- No word is taken for a literal. -/
theorem literalEnd?_word : literalEnd? (word.toList ++ rest) = none := by
  have chars := isWord.chars
  generalize word.toList = cs at chars
  cases chars with
  | @plain c tail start parts =>
    have quoteless := quoteless_append parts apart
    have behind (more : List Char) (shape : tail ++ rest = 'r' :: more) : Quoteless more := by
      cases tail with
      | nil =>
        have part := apart.2 _ _ shape
        cases part
      | cons d tail =>
        cases shape
        exact quoteless_append (fun d member => parts d (.tail _ member)) apart
    have strings := readString_eq_none quoteless behind
    obtain ⟨float, integer, fault⟩ := numberEnd?_eq_none (tail ++ rest)
      (isDigit_of_isIdentStart start) (ne_of_isIdentStart start (by decide))
    unfold literalEnd?
    simp only [List.cons_append, float, integer, fault]
    split
    · next found =>
      split at found
      · next more shape =>
        obtain ⟨-, same⟩ := List.cons.inj shape
        exact absurd rfl (quoteless _ _ same).2.1
      · next more _ shape =>
        obtain ⟨-, rfl⟩ := List.cons.inj shape
        rw [strings] at found
        cases found
      · next more shape =>
        obtain ⟨-, rfl⟩ := List.cons.inj shape
        rw [strings] at found
        cases found
      · next more shape =>
        obtain ⟨rfl, -⟩ := List.cons.inj shape
        exact absurd start (by decide)
      · have all : ∀ d ∈ c :: tail, isIdentPart d = true :=
          List.forall_mem_cons.mpr ⟨isIdentPart_of_start start, parts⟩
        have whole := quoteless_append all apart
        rw [List.cons_append] at whole
        rw [readString_eq_none whole (by rintro _ ⟨⟩; exact quoteless)] at found
        cases found
    · rfl
  | @raw c tail start parts allowed =>
    obtain ⟨float, integer, fault⟩ := numberEnd?_eq_none (c := 'r') ('#' :: c :: (tail ++ rest))
      (by decide) (by decide)
    -- one hash, and no quote behind it
    have string : readString .text ('r' :: '#' :: c :: (tail ++ rest)) = none := by
      have hash : c ≠ '#' := ne_of_isIdentStart start (by decide)
      have count : ('#' :: c :: (tail ++ rest)).takeWhile (· == '#') = ['#'] := by
        rw [List.takeWhile_cons_of_pos (by decide),
          List.takeWhile_cons_of_neg (by simpa using hash)]
      rw [readString, count]
      dsimp only [List.length_cons, List.length_nil, List.drop_succ_cons, List.drop_zero]
      split
      · next more shape =>
        obtain ⟨rfl, -⟩ := List.cons.inj shape
        exact absurd start (by decide)
      · rfl
    exact literalEnd?_eq_none (by decide) (by decide) (by decide) string float integer fault

/-- The mark of a literal is no beginning of a word. -/
theorem literalMarks_word :
    (literalMarks.any fun mark => (dropWord? mark.toList (word.toList ++ rest)).isSome) =
      false := by
  have chars := isWord.chars
  generalize word.toList = cs at chars
  rw [List.any_eq_false]
  intro mark member found
  obtain ⟨left, found⟩ := Option.isSome_iff_exists.mp found
  have shape := dropWord?_eq_some found
  cases chars with
  | @plain c tail start parts =>
    -- the first character that is no part of a word is a quote or a hash, on one side only
    have quotes : ∀ mark ∈ literalMarks, ((mark.toList.dropWhile isIdentPart).head?.any fun q =>
        decide (q = '"' ∨ q = '\'' ∨ q = '#')) = true := by decide
    obtain ⟨q, back, dropped, quote⟩ : ∃ q back,
        mark.toList.dropWhile isIdentPart = q :: back ∧ (q = '"' ∨ q = '\'' ∨ q = '#') := by
      have found := quotes mark member
      cases all : mark.toList.dropWhile isIdentPart with
      | nil =>
        rw [all] at found
        cases found
      | cons q back =>
        rw [all] at found
        exact ⟨q, back, rfl, of_decide_eq_true found⟩
    have all : ∀ d ∈ c :: tail, isIdentPart d = true :=
      List.forall_mem_cons.mpr ⟨isIdentPart_of_start start, parts⟩
    have behind := (takeWhile_word all apart).2
    rw [shape, List.dropWhile_append, dropped] at behind
    obtain ⟨double, single, hash⟩ := apart.1 q (back ++ left) behind.symm
    rcases quote with same | same | same
    · exact double same
    · exact single same
    · exact hash same
  | @raw c tail start parts allowed =>
    have quote : '"' ≠ c := (ne_of_isIdentStart start (by decide)).symm
    have hash : '#' ≠ c := (ne_of_isIdentStart start (by decide)).symm
    simp [literalMarks] at member
    rcases member with rfl | rfl | rfl | rfl | rfl | rfl | rfl | rfl | rfl | rfl <;>
      simp [dropWord?, quote, hash] at found

/-- A word is read as one token. -/
theorem readLeaf_word : readLeaf (word.toList ++ rest) = some (.word word, rest) := by
  have read := readWord_word isWord apart
  have literal := literalEnd?_word isWord apart
  have marks := literalMarks_word isWord apart
  have chars := isWord.chars
  obtain ⟨c, more, shape, start⟩ : ∃ c more, word.toList ++ rest = c :: more ∧
      isIdentStart c = true := by
    generalize word.toList = cs at chars
    cases chars with
    | plain start parts => exact ⟨_, _, rfl, start⟩
    | raw start parts allowed => exact ⟨'r', _, rfl, by decide⟩
  rw [shape] at read literal marks ⊢
  have plain : startsPunctuation (c :: more) = false := by
    have single := ne_of_isIdentStart start (d := '\'') (by decide)
    unfold startsPunctuation
    split
    · rfl
    · rfl
    · next first _ _ _ same =>
      cases same
      simp [not_mem_punctuation start, single]
    · rfl
  unfold readLeaf
  rw [literal]
  dsimp only
  split
  · next more same =>
    obtain ⟨rfl, -⟩ := List.cons.inj same
    exact absurd start (by decide)
  · next first rest _ same =>
    cases same
    rw [plain, marks, read]
    rfl
  · next none => cases none

/-- A word behind a quote is read as a lifetime. -/
theorem readLeaf_lifetime :
    readLeaf ('\'' :: (word.toList ++ rest)) =
      some (.lifetime (String.ofList ('\'' :: word.toList)), rest) := by
  have read := readWord_word isWord apart
  have literal := literalEnd?_word isWord apart
  have unquoted : readChar .text (word.toList ++ rest) = none := by
    have chars := isWord.chars
    generalize word.toList = cs at chars
    have second (c d : Char) (more : List Char) (backslash : c ≠ '\\') (single : d ≠ '\'') :
        readChar .text (c :: d :: more) = none := by
      simp [readChar, dropWord?, single.symm]
    have alone (c : Char) (backslash : c ≠ '\\') : readChar .text [c] = none := by
      simp [readChar, dropWord?]
    cases chars with
    | @plain c tail start parts =>
      have backslash : c ≠ '\\' := ne_of_isIdentStart start (by decide)
      have quoteless := quoteless_append parts apart
      rw [List.cons_append]
      cases behind : tail ++ rest with
      | nil => exact alone c backslash
      | cons d more => exact second c d more backslash (quoteless d more behind).2.1
    | raw start parts allowed => exact second 'r' '#' _ (by decide) (by decide)
  obtain ⟨float, integer, fault⟩ := numberEnd?_eq_none (c := '\'') (word.toList ++ rest)
    (by decide) (by decide)
  have none : literalEnd? ('\'' :: (word.toList ++ rest)) = none := by
    unfold literalEnd?
    simp only [float, integer, fault, unquoted]
    rfl
  have name : readLifetime (word.toList ++ rest) =
      some (.lifetime (String.ofList ('\'' :: word.toList)), rest) := by
    unfold readLifetime
    rw [read]
    simp only [Option.bind_eq_bind, Option.bind_some, literal]
    split
    · exact absurd rfl (apart.1 _ _ rfl).2.1
    · exact absurd rfl (apart.1 _ _ rfl).2.2
    · rfl
  unfold readLeaf
  rw [none]
  exact name

end Word

/-! ## Punctuation and strings -/

theorem literalEnd?_mark {c : Char} (mark : c ∈ punctuation) (rest : List Char) :
    literalEnd? (c :: rest) = none := by
  have apart : ∀ mark ∈ punctuation, mark.isDigit = false ∧ mark ≠ '(' ∧ mark ≠ 'b' ∧ mark ≠ 'c' ∧
      mark ≠ '\'' ∧ mark ≠ '"' ∧ mark ≠ 'r' := forall_mem_of_all (by decide)
  obtain ⟨digit, paren, b, c', single, double, r⟩ := apart c mark
  obtain ⟨float, integer, fault⟩ := numberEnd?_eq_none rest digit paren
  have string : readString .text (c :: rest) = none := by
    unfold readString
    split
    · next same => exact absurd (List.cons.inj same).1 double
    · next same => exact absurd (List.cons.inj same).1 r
    · rfl
  exact literalEnd?_eq_none b c' single string float integer fault

theorem startsPunctuation_mark {c : Char} (mark : c ∈ punctuation) (slash : c ≠ '/')
    (rest : List Char) : startsPunctuation (c :: rest) = true := by
  unfold startsPunctuation
  split
  · next same => exact absurd (List.cons.inj same).1 slash
  · next same => exact absurd (List.cons.inj same).1 slash
  · next same =>
    cases same
    simp [mark]
  · next same => cases same

/-- Punctuation is read as a token that knows what follows it. -/
theorem readLeaf_mark {c : Char} (mark : c ∈ punctuation) (slash : c ≠ '/') (rest : List Char) :
    readLeaf (c :: rest) = some (.punct c (startsPunctuation rest), rest) := by
  have single : c ≠ '\'' := by
    rintro rfl
    exact absurd mark (by decide)
  unfold readLeaf
  rw [literalEnd?_mark mark]
  dsimp only
  split
  · next same => exact absurd (List.cons.inj same).1 single
  · next same =>
    cases same
    rw [if_pos (startsPunctuation_mark mark slash rest)]
  · next same => cases same

/-- A literal is read as one token, unless a suffix follows it. -/
theorem readLeaf_quoted (text : String) {rest : List Char}
    (plain : ∀ c more, rest = c :: more → isIdentStart c = false) :
    readLeaf ((quoted text).toList ++ rest) = some (.literal (quoted text), rest) := by
  have suffix : afterSuffix rest = rest := by
    unfold afterSuffix
    split
    · rfl
    · next c more => rw [if_neg (by simp [plain c more rfl])]
  have shape : (quoted text).toList ++ rest =
      '"' :: (text.toList.flatMap Text.escape ++ '"' :: rest) := by
    rw [toList_quoted]
    simp [quotedChars]
  have ends : literalEnd? ((quoted text).toList ++ rest) = some rest := by
    have string : readString .text ((quoted text).toList ++ rest) = some (text.toList, rest) := by
      rw [toList_quoted]
      exact readString_quotedChars _ _
    rw [shape] at string ⊢
    exact (literalEnd?_of_string (by decide) (by decide) (by decide) string).trans
      (congrArg some suffix)
  have taken : ((quoted text).toList ++ rest).take
      (((quoted text).toList ++ rest).length - rest.length) = (quoted text).toList := by
    rw [List.length_append, Nat.add_sub_cancel, List.take_left']
    rfl
  unfold readLeaf
  rw [ends]
  dsimp only
  rw [taken, String.ofList_toList]

end EntityTables.Source
