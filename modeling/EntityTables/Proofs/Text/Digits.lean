/-
# EntityTables.Proofs.Text.Digits — integers as decimal text

Readers of numbers fold digits from the left, each ten times what stands before it. This module has
what their proofs share: the digits of a number are digits, they fold to the number, and the text of
an integer is its digits behind a sign, if it has one. Digits and letters are told apart by their
codes.
-/

namespace EntityTables

set_option autoImplicit false

section Characters

variable {c : Char}

theorem isDigit_iff : c.isDigit = true ↔ 48 ≤ c.toNat ∧ c.toNat ≤ 57 := by
  simp only [Char.isDigit, Bool.and_eq_true, decide_eq_true_eq, ge_iff_le,
    UInt32.le_iff_toNat_le]
  exact Iff.rfl

theorem isAlpha_iff :
    c.isAlpha = true ↔ (65 ≤ c.toNat ∧ c.toNat ≤ 90) ∨ (97 ≤ c.toNat ∧ c.toNat ≤ 122) := by
  show (decide (c.val ≥ 65 ∧ c.val ≤ 90) || (decide (c.val ≥ 97) && decide (c.val ≤ 122))) = true ↔ _
  simp only [Bool.or_eq_true, Bool.and_eq_true, decide_eq_true_eq, ge_iff_le,
    UInt32.le_iff_toNat_le]
  exact Iff.rfl

/-- A letter is no digit. -/
theorem isDigit_of_isAlpha (letter : c.isAlpha = true) : c.isDigit = false := by
  rw [← Bool.not_eq_true, isDigit_iff]
  rw [isAlpha_iff] at letter
  omega

end Characters

theorem isDigit_toDigits {n : Nat} {c : Char} (member : c ∈ Nat.toDigits 10 n) :
    c.isDigit = true :=
  Nat.isDigit_of_mem_toDigits (by decide) (by decide) member

/-- The digits of a number are that number. -/
theorem foldl_toDigits (n : Nat) :
    (Nat.toDigits 10 n).foldl (fun n c => n * 10 + (c.toNat - '0'.toNat)) 0 = n := by
  have number := Nat.ofDigitChars_ten_toDigits (n := n)
  have steps : (fun sofar (c : Char) => 10 * sofar + (c.toNat - '0'.toNat)) =
      fun sofar c => sofar * 10 + (c.toNat - '0'.toNat) := by
    funext sofar c
    omega
  rwa [Nat.ofDigitChars_eq_foldl, steps] at number

theorem toString_of_nonneg {i : Int} (some : 0 ≤ i) :
    (toString i).toList = Nat.toDigits 10 i.toNat := by
  rw [Int.toString_eq_repr, Int.repr_eq_if, if_pos some, Nat.repr_eq_ofList_toDigits,
    String.toList_ofList]

theorem toString_of_neg {i : Int} (negative : i < 0) :
    (toString i).toList = '-' :: Nat.toDigits 10 (-i).toNat := by
  rw [Int.toString_eq_repr, Int.repr_eq_if, if_neg (by omega), Nat.repr_eq_ofList_toDigits]
  simp

end EntityTables
