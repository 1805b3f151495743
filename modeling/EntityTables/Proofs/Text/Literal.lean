/-
# EntityTables.Proofs.Text.Literal — a quoted literal reads back as its text

A literal as generated source writes it is read by the rules of source text, where every character
of it is either an escape or stands for itself. Both sides go character by character: what is
written for one character is read as that character.

* `readBraced_toDigits` — the number in the braces of an escape.
* `readQuoted_escape` — one character; `readString_quotedChars` — the whole literal.
-/
import EntityTables.Source.Literal
import EntityTables.Text.Literal
import Mathlib.Tactic.IntervalCases

namespace EntityTables.Source

set_option autoImplicit false

open Text (escape quotedChars isHidden)

/-! ## Numbers of characters -/

theorem hexValue?_digitChar {digit : Nat} (small : digit < 16) :
    Json.hexValue? (Nat.digitChar digit) = some digit := by
  interval_cases digit <;> rfl

/-- The digits of a number are those of its sixteenth part and one more. -/
theorem toDigits_split {n : Nat} (large : 16 ≤ n) :
    Nat.toDigits 16 n = Nat.toDigits 16 (n / 16) ++ [Nat.digitChar (n % 16)] := by
  have digit : n % 16 < 16 := Nat.mod_lt n (by decide)
  have parts := Nat.toDigits_append_toDigits (b := 16) (n := n / 16) (d := n % 16) (by decide)
    (by omega) digit
  rw [Nat.toDigits_of_lt_base digit, Nat.div_add_mod] at parts
  exact parts.symm

theorem length_toDigits_le {n k : Nat} (some : 0 < k) (small : n < 16 ^ k) :
    (Nat.toDigits 16 n).length ≤ k := by
  induction k generalizing n with
  | zero => omega
  | succ k ih =>
    by_cases large : 16 ≤ n
    · rw [toDigits_split large, List.length_append, List.length_singleton]
      have more : 0 < k := by
        rcases Nat.eq_zero_or_pos k with rfl | more
        · omega
        · exact more
      have part : n / 16 < 16 ^ k := by
        rw [Nat.pow_succ] at small
        omega
      exact Nat.succ_le_succ (ih more part)
    · rw [Nat.toDigits_of_lt_base (by omega)]
      simp

theorem readBraced_digit {digit : Nat} (small : digit < 16) {count value : Nat}
    (few : count < 6) (rest : List Char) :
    readBraced count value (Nat.digitChar digit :: rest) =
      readBraced (count + 1) (value * 16 + digit) rest := by
  rw [readBraced, hexValue?_digitChar small]
  exact if_neg (by omega)

/-- The digits of a number are read as the number, behind those read before. -/
theorem readBraced_toDigits (n : Nat) {count value : Nat} (rest : List Char)
    (few : count + (Nat.toDigits 16 n).length ≤ 6) :
    readBraced count value (Nat.toDigits 16 n ++ rest) =
      readBraced (count + (Nat.toDigits 16 n).length)
        (value * 16 ^ (Nat.toDigits 16 n).length + n) rest := by
  induction n using Nat.strongRecOn generalizing rest with
  | _ n ih =>
    by_cases large : 16 ≤ n
    · rw [toDigits_split large, List.length_append, List.length_singleton] at few ⊢
      have digit : n % 16 < 16 := Nat.mod_lt n (by decide)
      rw [List.append_assoc, List.singleton_append, ih (n / 16) (by omega) _ (by omega),
        readBraced_digit digit (by omega)]
      congr 1
      rw [Nat.pow_succ, Nat.add_mul, Nat.mul_assoc]
      omega
    · rw [Nat.toDigits_of_lt_base (by omega)]
      rw [Nat.toDigits_of_lt_base (by omega), List.length_singleton] at few
      rw [List.singleton_append, readBraced_digit (by omega) (by omega)]
      simp

theorem charOfNumber?_toNat (c : Char) : charOfNumber? c.toNat = some c := by
  have valid : c.toNat < 0xd800 ∨ (0xdfff < c.toNat ∧ c.toNat < 0x110000) := c.valid
  unfold charOfNumber?
  rw [if_pos (by omega), Char.ofNat_toNat]

/-- A number in braces is the character of that number. -/
theorem readEscape_number (c : Char) (rest : List Char) :
    readEscape .text ('u' :: '\x7b' :: (Nat.toDigits 16 c.toNat ++ '\x7d' :: rest)) =
      some (c, rest) := by
  have valid : c.toNat < 0xd800 ∨ (0xdfff < c.toNat ∧ c.toNat < 0x110000) := c.valid
  have short : (Nat.toDigits 16 c.toNat).length ≤ 6 :=
    length_toDigits_le (by decide) (by omega)
  have some : (Nat.toDigits 16 c.toNat).length ≠ 0 := by
    have := Nat.length_toDigits_pos (b := 16) (n := c.toNat)
    omega
  have closing : Json.hexValue? '\x7d' = none := by decide
  have read : readBraced 0 0 (Nat.toDigits 16 c.toNat ++ '\x7d' :: rest) =
      Option.some (c.toNat, rest) := by
    rw [readBraced_toDigits _ _ (by omega), readBraced, closing, Nat.zero_mul, Nat.zero_add,
      Nat.zero_add]
    simp [some]
  rw [readEscape]
  simp [read, charOfNumber?_toNat]

/-! ## Characters -/

/-- A character that is no quote, backslash or carriage return stands for itself. -/
theorem readQuoted_plain {c : Char} (quote : c ≠ '"') (backslash : c ≠ '\\') (back : c ≠ '\r')
    (fuel : Nat) (rest : List Char) :
    readQuoted .text (fuel + 1) (c :: rest) =
      (readQuoted .text fuel rest).map fun (value, rest) => (c :: value, rest) := by
  rw [readQuoted]
  · cases readQuoted .text fuel rest <;> simp
  · exact fun same => absurd same quote
  · intro _ same
    exact absurd same back
  · intro same
    exact absurd same back
  · intro _ same
    exact absurd same backslash
  · intro _ same
    exact absurd same backslash
  · intro same
    exact absurd same backslash

/-- Behind a backslash that ends no line stands an escape. -/
theorem readQuoted_backslash {c : Char} {escaped rest : List Char} (fuel : Nat)
    (unbroken : ∀ more, escaped ≠ '\n' :: more ∧ escaped ≠ '\r' :: '\n' :: more)
    (read : readEscape .text escaped = some (c, rest)) :
    readQuoted .text (fuel + 1) ('\\' :: escaped) =
      (readQuoted .text fuel rest).map fun (value, rest) => (c :: value, rest) := by
  rw [readQuoted]
  · rw [read]
    cases behind : readQuoted .text fuel rest <;> simp [behind]
  · exact fun more => (unbroken more).1
  · exact fun more => (unbroken more).2

/-- What is written for one character is read as that character. -/
theorem readQuoted_escape (c : Char) (fuel : Nat) (rest : List Char) :
    readQuoted .text (fuel + 1) (escape c ++ rest) =
      (readQuoted .text fuel rest).map fun (value, rest) => (c :: value, rest) := by
  unfold escape
  split
  · exact readQuoted_backslash fuel (by simp) rfl
  · exact readQuoted_backslash fuel (by simp) rfl
  · exact readQuoted_backslash fuel (by simp) rfl
  · exact readQuoted_backslash fuel (by simp) rfl
  · exact readQuoted_backslash fuel (by simp) rfl
  · exact readQuoted_backslash fuel (by simp) rfl
  · next zero tab back line quote backslash =>
    split
    · have number := readEscape_number c rest
      simpa using readQuoted_backslash fuel (by simp) number
    · exact readQuoted_plain quote backslash back fuel rest

/-- The characters of a literal are read up to the quote that closes it. -/
theorem readQuoted_flatMap (cs rest : List Char) (fuel : Nat) (enough : cs.length < fuel) :
    readQuoted .text fuel (cs.flatMap escape ++ '"' :: rest) = some (cs, rest) := by
  induction cs generalizing fuel with
  | nil =>
    obtain ⟨fuel, rfl⟩ := Nat.exists_eq_succ_of_ne_zero (Nat.ne_of_gt enough)
    rfl
  | cons c cs ih =>
    obtain ⟨fuel, rfl⟩ := Nat.exists_eq_succ_of_ne_zero (Nat.ne_of_gt (Nat.zero_lt_of_lt enough))
    rw [List.length_cons] at enough
    rw [List.flatMap_cons, List.append_assoc, readQuoted_escape, ih fuel (by omega)]
    rfl

theorem length_escape_pos (c : Char) : 0 < (escape c).length := by
  unfold escape
  split <;> simp
  split <;> simp

theorem length_le_flatMap_escape (cs : List Char) : cs.length ≤ (cs.flatMap escape).length := by
  induction cs with
  | nil => simp
  | cons c cs ih =>
    have some := length_escape_pos c
    simp only [List.flatMap_cons, List.length_cons, List.length_append]
    omega

/-- A literal is read as the text that it was written for. -/
theorem readString_quotedChars (cs rest : List Char) :
    readString .text (quotedChars cs ++ rest) = some (cs, rest) := by
  have shape : quotedChars cs ++ rest = '"' :: (cs.flatMap escape ++ '"' :: rest) := by
    simp [quotedChars]
  rw [shape, readString]
  refine readQuoted_flatMap cs rest _ ?_
  have fewer := length_le_flatMap_escape cs
  simp only [List.length_append, List.length_cons]
  omega

end EntityTables.Source
