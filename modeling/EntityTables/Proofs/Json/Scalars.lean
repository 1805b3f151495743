/-
# EntityTables.Proofs.Json.Scalars — strings and integers in JSON text

What is written for one character of a string is one piece for the reader: the character itself, a
letter behind a backslash, or a number. So a string is read piece by piece as it was written, and
nothing behind its closing quote matters. An integer is written without a leading zero, and the
reader takes all of its digits.

* `Spells`, `exists_spells` — a character and the piece that is written for it.
* `readPieces_flatMap` — the pieces of a whole string, up to the quote that closes it.
* `ofChars?_ofInt` — an integer is read from its text.
-/
import EntityTables.Json.Reader
import EntityTables.Json.Writer
import EntityTables.Proofs.Text.Digits
import EntityTables.Proofs.Text.Literal
import Mathlib.Data.List.TakeWhile

namespace EntityTables.Json

set_option autoImplicit false

/-! ## Strings -/

theorem hexQuad?_control {n : Nat} (control : n < 0x20) :
    hexQuad? '0' '0' (Nat.digitChar (n / 16)) (Nat.digitChar (n % 16)) = some n := by
  have high := Source.hexValue?_digitChar (show n / 16 < 16 by omega)
  have low := Source.hexValue?_digitChar (show n % 16 < 16 by omega)
  have zero : hexValue? '0' = some 0 := by decide
  simp only [hexQuad?, zero, high, low, Option.bind_eq_bind, Option.bind_some, Option.pure_def,
    Option.some.injEq]
  omega

/-- Some text of a string is one piece of it, and the piece stands for a character. -/
structure Spells (text : List Char) (piece : Piece) (c : Char) : Prop where
  read : ∀ rest, readPieces (text.map some ++ rest) =
    (readPieces rest).map fun (pieces, rest) => (piece :: pieces, rest)
  joined : ∀ pieces, joinPieces (piece :: pieces) = (joinPieces pieces).map (c :: ·)
  escaped : piece.isEscape = needsEscape c

/-- A letter behind a backslash. -/
theorem Spells.letter {letter c : Char} (means : simpleEscape? letter = some c)
    (needed : needsEscape c = true) : Spells ['\\', letter] (.escape c) c where
  read rest := by
    have letters : letter ≠ 'u' := by
      rintro rfl
      cases means
    show readPieces (some '\\' :: some letter :: rest) = _
    rw [readPieces]
    · simp only [means, Option.bind_eq_bind, Option.bind_some]
      cases readPieces rest <;> rfl
    · intro a b c d more same
      exact absurd (Option.some.inj same) letters
  joined pieces := by rw [joinPieces]
  escaped := needed.symm

/-- A control by its number. -/
theorem Spells.control {c : Char} (control : c.toNat < 0x20) :
    Spells ['\\', 'u', '0', '0', Nat.digitChar (c.toNat / 16), Nat.digitChar (c.toNat % 16)]
      (.unit c.toNat) c where
  read rest := by
    show readPieces (some '\\' :: some 'u' :: some '0' :: some '0' ::
      some (Nat.digitChar (c.toNat / 16)) :: some (Nat.digitChar (c.toNat % 16)) :: rest) = _
    rw [readPieces, hexQuad?_control control]
    cases readPieces rest <;> rfl
  joined pieces := by
    have low : ¬ (0xd800 ≤ c.toNat ∧ c.toNat < 0xdc00) := by omega
    have high : ¬ (0xdc00 ≤ c.toNat ∧ c.toNat < 0xe000) := by omega
    have half : ¬ (0xd800 ≤ c.toNat ∧ c.toNat < 0xe000) := by omega
    cases pieces with
    | nil => simp [joinPieces, half]
    | cons piece rest =>
      cases piece with
      | unit n => rw [joinPieces, if_neg low, if_neg high, Char.ofNat_toNat]
      | _ => simp [joinPieces, half]
  escaped := by simp [Piece.isEscape, needsEscape, control]

/-- A character as it stands. -/
theorem Spells.plain {c : Char} (needless : needsEscape c = false) : Spells [c] (.char c) c where
  read rest := by
    simp only [needsEscape, Bool.or_eq_false_iff, beq_eq_false_iff_ne, decide_eq_false_iff_not]
      at needless
    obtain ⟨⟨quote, backslash⟩, printed⟩ := needless
    show readPieces (some c :: rest) = _
    rw [readPieces, if_neg printed]
    · cases readPieces rest <;> rfl
    · exact fun same => absurd same quote
    · exact fun _ _ _ _ _ _ same => absurd same backslash
    · exact fun _ _ _ same => absurd same backslash
  joined pieces := by rw [joinPieces]
  escaped := needless.symm

/-- What is written for a character is one piece, which stands for the character. -/
theorem exists_spells (c : Char) : ∃ piece, Spells (jsonEscape c) piece c := by
  unfold jsonEscape
  split
  · exact ⟨_, .letter rfl rfl⟩
  · exact ⟨_, .letter rfl rfl⟩
  · exact ⟨_, .letter rfl rfl⟩
  · exact ⟨_, .letter rfl rfl⟩
  · exact ⟨_, .letter rfl rfl⟩
  · exact ⟨_, .letter rfl rfl⟩
  · exact ⟨_, .letter rfl rfl⟩
  · next quote backslash _ _ _ _ _ =>
    split
    · next control => exact ⟨_, .control control⟩
    · next printed =>
      refine ⟨_, .plain ?_⟩
      simp only [needsEscape, Bool.or_eq_false_iff, beq_eq_false_iff_ne, decide_eq_false_iff_not]
      exact ⟨⟨quote, backslash⟩, printed⟩

/-- The characters of a string are its pieces up to the quote that closes it. -/
theorem readPieces_flatMap (cs : List Char) (rest : List (Option Char)) :
    ∃ pieces, readPieces ((cs.flatMap jsonEscape).map some ++ some '"' :: rest) =
        some (pieces, rest) ∧
      joinPieces pieces = some cs ∧ pieces.any Piece.isEscape = cs.any needsEscape := by
  induction cs with
  | nil => exact ⟨[], rfl, rfl, rfl⟩
  | cons c cs ih =>
    obtain ⟨pieces, read, joined, escaped⟩ := ih
    obtain ⟨piece, spelled⟩ := exists_spells c
    refine ⟨piece :: pieces, ?_, ?_, ?_⟩
    · rw [List.flatMap_cons, List.map_append, List.append_assoc, spelled.read, read]
      rfl
    · rw [spelled.joined, joined]
      rfl
    · rw [List.any_cons, List.any_cons, spelled.escaped, escaped]

/-! ## Integers -/

/-- The digits of no number but zero begin with a zero. -/
theorem eq_zero_of_toDigits {n : Nat} {rest : List Char}
    (digits : Nat.toDigits 10 n = '0' :: rest) : n = 0 := by
  induction n using Nat.strongRecOn generalizing rest with
  | _ n ih =>
    by_cases small : n < 10
    · rw [Nat.toDigits_of_lt_base small] at digits
      have first : Nat.digitChar n = '0' := (List.cons.inj digits).1
      interval_cases n <;> first | rfl | exact absurd first (by decide)
    · have parts := Nat.toDigits_append_toDigits (b := 10) (n := n / 10) (d := n % 10) (by decide)
        (by omega) (Nat.mod_lt n (by decide))
      rw [Nat.div_add_mod, digits] at parts
      cases front : Nat.toDigits 10 (n / 10) with
      | nil => exact absurd front Nat.toDigits_ne_nil
      | cons c more =>
        rw [front, List.cons_append] at parts
        obtain ⟨rfl, -⟩ := List.cons.inj parts
        have none := ih (n / 10) (by omega) front
        omega

theorem takeWhile_toDigits (n : Nat) :
    (Nat.toDigits 10 n).takeWhile Char.isDigit = Nat.toDigits 10 n :=
  List.takeWhile_eq_self_iff.mpr fun _ member => isDigit_toDigits member

/-- The digits of a number are read as a whole. -/
theorem readWhole_toDigits (n : Nat) :
    readWhole (Nat.toDigits 10 n) = some (Nat.toDigits 10 n, []) := by
  have taken := takeWhile_toDigits n
  have left : (Nat.toDigits 10 n).dropWhile Char.isDigit = [] :=
    List.dropWhile_eq_nil_iff.mpr fun _ member => isDigit_toDigits member
  cases digits : Nat.toDigits 10 n with
  | nil => exact absurd digits Nat.toDigits_ne_nil
  | cons c rest =>
    rw [digits] at taken left
    by_cases zero : c = '0'
    · subst zero
      have none := eq_zero_of_toDigits digits
      subst none
      cases digits
      rfl
    · rw [readWhole, readDigits, taken, left]
      exact fun _ same => zero (List.cons.inj same).1

theorem readNumeral_negative (n : Nat) :
    readNumeral ('-' :: Nat.toDigits 10 n) = some (⟨true, Nat.toDigits 10 n, [], none⟩, []) := by
  simp [readNumeral, readWhole_toDigits, readFraction, readExponent]

theorem readNumeral_toDigits (n : Nat) :
    readNumeral (Nat.toDigits 10 n) = some (⟨false, Nat.toDigits 10 n, [], none⟩, []) := by
  unfold readNumeral
  split
  next found =>
    split at found
    · next digits =>
      have sign := isDigit_toDigits (n := n) (c := '-') (by simp [digits])
      exact absurd sign (by decide)
    · cases found
      simp [readWhole_toDigits, readFraction, readExponent]

theorem chars_ofInt (i : Int) :
    (Numeral.ofInt i).chars = (if i < 0 then ['-'] else []) ++ Nat.toDigits 10 i.natAbs := by
  simp [Numeral.chars, Numeral.ofInt]

theorem mem_chars_ofInt {i : Int} {c : Char} (member : c ∈ (Numeral.ofInt i).chars) :
    c = '-' ∨ c.isDigit = true := by
  rw [chars_ofInt] at member
  rcases List.mem_append.mp member with sign | digits
  · split at sign
    · exact .inl (List.mem_singleton.mp sign)
    · cases sign
  · exact .inr (isDigit_toDigits digits)

/-- An integer is read from what is written for it. -/
theorem ofChars?_ofInt (i : Int) : Numeral.ofChars? (Numeral.ofInt i).chars = some (.ofInt i) := by
  have read : readNumeral (Numeral.ofInt i).chars = some (.ofInt i, []) := by
    by_cases negative : i < 0
    · have text : (Numeral.ofInt i).chars = '-' :: Nat.toDigits 10 i.natAbs := by
        simp [Numeral.chars, Numeral.ofInt, negative]
      rw [text, Numeral.ofInt, decide_eq_true negative]
      exact readNumeral_negative _
    · have text : (Numeral.ofInt i).chars = Nat.toDigits 10 i.natAbs := by
        simp [Numeral.chars, Numeral.ofInt, negative]
      rw [text, Numeral.ofInt, decide_eq_false negative]
      exact readNumeral_toDigits _
  unfold Numeral.ofChars?
  rw [read]

end EntityTables.Json
