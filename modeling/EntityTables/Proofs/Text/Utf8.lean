/-
# EntityTables.Proofs.Text.Utf8 — characters are read from their bytes

The bytes of a character tell by the first of them how many there are, and the bounds on the second
one are those that keep each character to a single form. The proofs are by the four lengths, with
the bytes given by their numbers.

* `first_encodeChar` — a character from its bytes, whatever follows them.
* `scan_encode` — characters from the bytes of all of them.
-/
import EntityTables.Text.Utf8
import Mathlib.Tactic.SplitIfs

namespace EntityTables.Utf8

set_option autoImplicit false

theorem toNat_toUInt8 {n : Nat} (small : n < 0x100) : n.toUInt8.toNat = n := by
  simp only [Nat.toUInt8, UInt8.toNat_ofNat']
  omega

theorem following?_toUInt8 {a : Nat} (byte : a < 0x100) :
    following? a.toUInt8 =
      if a < 0x80 then some 0
      else if a < 0xc2 then none
      else if a < 0xe0 then some 1
      else if a < 0xf0 then some 2
      else if a < 0xf5 then some 3
      else none := by
  simp only [following?, UInt8.lt_iff_toNat_lt, toNat_toUInt8 byte, UInt8.reduceToNat]

theorem toUInt8_eq_iff {a : Nat} (first : a < 0x100) (b : UInt8) :
    a.toUInt8 = b ↔ a = b.toNat := by
  rw [← UInt8.toNat_inj, toNat_toUInt8 first]

/-- A byte behind the first, and what it adds to the character's number. -/
theorem tail_toUInt8 {a : Nat} (byte : 0x80 ≤ a ∧ a < 0xc0) :
    isTail a.toUInt8 = true ∧ tailBits a.toUInt8 = a - 0x80 := by
  have number := toNat_toUInt8 (show a < 0x100 by omega)
  refine ⟨?_, congrArg (· - 0x80) number⟩
  simp only [isTail, UInt8.lt_iff_toNat_lt, UInt8.le_iff_toNat_le, number, UInt8.reduceToNat,
    Bool.and_eq_true, decide_eq_true_eq]
  exact byte

/-- A second byte, in the bounds that some first bytes set. -/
theorem isSecond_toUInt8 {a b : Nat} (first : a < 0x100) (second : 0x80 ≤ b ∧ b < 0xc0)
    (long : a = 0xe0 → 0xa0 ≤ b) (surrogate : a = 0xed → b < 0xa0) (longer : a = 0xf0 → 0x90 ≤ b)
    (last : a = 0xf4 → b < 0x90) : isSecond a.toUInt8 b.toUInt8 = true := by
  have number := toNat_toUInt8 (show b < 0x100 by omega)
  simp only [isSecond, isTail, toUInt8_eq_iff first, UInt8.lt_iff_toNat_lt,
    UInt8.le_iff_toNat_le, number, UInt8.reduceToNat]
  split_ifs <;> simp only [Bool.and_eq_true, decide_eq_true_eq] <;> omega

/-! ## One character, by the number of its bytes -/

theorem first_one {a : Nat} {c : Char} (head : a < 0x80) (means : a = c.toNat)
    (rest : List UInt8) : first a.toUInt8 rest = .ok (c, 0) := by
  have byte : a < 0x100 := by omega
  have follow : following? a.toUInt8 = some 0 := by rw [following?_toUInt8 byte, if_pos head]
  unfold first
  rw [follow, toNat_toUInt8 byte, means, Char.ofNat_toNat]
  cases rest <;> rfl

theorem first_two {a b : Nat} {c : Char} (head : 0xc2 ≤ a ∧ a < 0xe0)
    (second : 0x80 ≤ b ∧ b < 0xc0) (means : (a - 0xc0) * 0x40 + (b - 0x80) = c.toNat)
    (rest : List UInt8) : first a.toUInt8 (b.toUInt8 :: rest) = .ok (c, 1) := by
  have byte : a < 0x100 := by omega
  have follow : following? a.toUInt8 = some 1 := by
    rw [following?_toUInt8 byte, if_neg (by omega), if_neg (by omega), if_pos head.2]
  have fits : isSecond a.toUInt8 b.toUInt8 = true :=
    isSecond_toUInt8 byte second (by omega) (by omega) (by omega) (by omega)
  simp [first, follow, fits, toNat_toUInt8 byte, (tail_toUInt8 second).2, means]

theorem first_three {a b d : Nat} {c : Char} (head : 0xe0 ≤ a ∧ a < 0xf0)
    (second : 0x80 ≤ b ∧ b < 0xc0) (long : a = 0xe0 → 0xa0 ≤ b) (surrogate : a = 0xed → b < 0xa0)
    (third : 0x80 ≤ d ∧ d < 0xc0)
    (means : ((a - 0xe0) * 0x40 + (b - 0x80)) * 0x40 + (d - 0x80) = c.toNat)
    (rest : List UInt8) : first a.toUInt8 (b.toUInt8 :: d.toUInt8 :: rest) = .ok (c, 2) := by
  have byte : a < 0x100 := by omega
  have follow : following? a.toUInt8 = some 2 := by
    rw [following?_toUInt8 byte, if_neg (by omega), if_neg (by omega), if_neg (by omega),
      if_pos head.2]
  have fits : isSecond a.toUInt8 b.toUInt8 = true :=
    isSecond_toUInt8 byte second long surrogate (by omega) (by omega)
  simp [first, follow, fits, toNat_toUInt8 byte, (tail_toUInt8 second).2, tail_toUInt8 third, means]

theorem first_four {a b d e : Nat} {c : Char} (head : 0xf0 ≤ a ∧ a < 0xf5)
    (second : 0x80 ≤ b ∧ b < 0xc0) (longer : a = 0xf0 → 0x90 ≤ b) (last : a = 0xf4 → b < 0x90)
    (third : 0x80 ≤ d ∧ d < 0xc0) (fourth : 0x80 ≤ e ∧ e < 0xc0)
    (means : (((a - 0xf0) * 0x40 + (b - 0x80)) * 0x40 + (d - 0x80)) * 0x40 + (e - 0x80) =
      c.toNat)
    (rest : List UInt8) :
    first a.toUInt8 (b.toUInt8 :: d.toUInt8 :: e.toUInt8 :: rest) = .ok (c, 3) := by
  have byte : a < 0x100 := by omega
  have follow : following? a.toUInt8 = some 3 := by
    rw [following?_toUInt8 byte, if_neg (by omega), if_neg (by omega), if_neg (by omega),
      if_neg (by omega), if_pos head.2]
  have fits : isSecond a.toUInt8 b.toUInt8 = true :=
    isSecond_toUInt8 byte second (by omega) (by omega) longer last
  simp [first, follow, fits, toNat_toUInt8 byte, (tail_toUInt8 second).2, tail_toUInt8 third,
    tail_toUInt8 fourth, means]

/-- A character's bytes are a first one and later ones, and it is read from them. -/
theorem first_encodeChar (c : Char) : ∃ a tail, encodeChar c = a :: tail ∧
    ∀ rest, first a (tail ++ rest) = .ok (c, tail.length) := by
  have valid : c.toNat < 0xd800 ∨ 0xdfff < c.toNat ∧ c.toNat < 0x110000 := c.valid
  obtain ⟨n, number⟩ : ∃ n, c.toNat = n := ⟨_, rfl⟩
  rw [number] at valid
  unfold encodeChar
  rw [number]
  simp only
  split_ifs with one two three
  · exact ⟨_, [], rfl, first_one one number.symm⟩
  · exact ⟨_, [_], rfl, first_two (by omega) (by omega) (by omega)⟩
  · exact ⟨_, [_, _], rfl, first_three (by omega) (by omega) (by omega) (by omega) (by omega)
      (by omega)⟩
  · exact ⟨_, [_, _, _], rfl, first_four (by omega) (by omega) (by omega) (by omega) (by omega)
      (by omega) (by omega)⟩

/-- The bytes inside a character are passed over. -/
theorem scanFrom_append (inside rest : List UInt8) :
    scanFrom inside.length (inside ++ rest) = scanFrom 0 rest := by
  induction inside with
  | nil => rfl
  | cons b inside ih => exact ih

/-- The bytes of characters are read as those characters. -/
theorem scan_encode (cs : List Char) : scan (encode cs) = cs.map some := by
  unfold scan encode
  induction cs with
  | nil => rfl
  | cons c cs ih =>
    obtain ⟨a, tail, bytes, read⟩ := first_encodeChar c
    rw [List.flatMap_cons, bytes, List.cons_append, scanFrom, read]
    simp only [scanFrom_append, ih, List.map_cons]

end EntityTables.Utf8
