/-
# EntityTables.Proofs.Binary.Nearest — the numbers of a format are nearest to themselves

A quotient that is a number of the format rounds to the pattern of that number, and the pattern
stands for the number again. All values are taken as rationals.

* `Format.Fits` — the mantissas and exponents of a format; `Format.pack` — their patterns.
* `nearest_of_fits`, `ofBinary_of_fits` — what has the value of a pattern has that pattern.
* `read_signed_pack`, `fits_of_read` — reading gives back what was packed, and nothing else.
-/
import EntityTables.Binary.Format
import Mathlib.Algebra.Order.Field.Power
import Mathlib.Data.Int.Log
import Mathlib.Data.Rat.Floor
import Mathlib.Tactic.FieldSimp
import Mathlib.Tactic.Linarith
import Mathlib.Tactic.Ring

namespace EntityTables.Binary

set_option autoImplicit false

/-! ## Powers of two -/

theorem twoTo_eq (n : Nat) : twoTo n = 2 ^ n := rfl

theorem twoTo_pos (n : Nat) : 0 < twoTo n := Nat.two_pow_pos n

theorem twoTo_add (m n : Nat) : twoTo (m + n) = twoTo m * twoTo n := Nat.pow_add 2 m n

theorem twoTo_succ (n : Nat) : twoTo (n + 1) = 2 * twoTo n := by
  rw [twoTo_eq, twoTo_eq, Nat.pow_succ, Nat.mul_comm]

namespace Format

theorem scale_snd_pos {n d : Nat} (positive : 0 < d) (e : Int) : 0 < (scale n d e).2 := by
  cases e with
  | ofNat k => exact positive
  | negSucc k => exact Nat.mul_pos positive (twoTo_pos (k + 1))

/-- Scaling multiplies the value of a quotient. -/
theorem scale_value (n d : Nat) (e : Int) :
    ((scale n d e).1 : ℚ) / (scale n d e).2 = n / d * 2 ^ e := by
  cases e with
  | ofNat k =>
    simp only [scale, twoTo_eq, Int.ofNat_eq_natCast, zpow_natCast]
    push_cast
    ring
  | negSucc k =>
    simp only [scale, twoTo_eq, zpow_negSucc]
    push_cast
    rw [div_mul_eq_div_div, div_eq_mul_inv ((n : ℚ) / d)]

theorem le_log_iff {r : ℚ} (positive : 0 < r) {e : Int} : e ≤ Int.log 2 r ↔ 2 ^ e ≤ r := by
  have found := Int.zpow_le_iff_le_log (b := 2) (x := e) (by decide) positive
  simpa using found.symm

theorem log_lt_iff {r : ℚ} (positive : 0 < r) {e : Int} : Int.log 2 r < e ↔ r < 2 ^ e := by
  have found := Int.lt_zpow_iff_log_lt (b := 2) (x := e) (by decide) positive
  simpa using found.symm

/-- The exponent found by comparing lengths is the logarithm of the value. -/
theorem floorLog_eq {n d : Nat} (top : 0 < n) (bottom : 0 < d) :
    floorLog n d = Int.log 2 ((n : ℚ) / d) := by
  have positive : (0 : ℚ) < n / d := by positivity
  have nLow : ((2 : ℚ) ^ (n.log2 : ℤ)) ≤ n := by
    exact_mod_cast Nat.log2_self_le (Nat.pos_iff_ne_zero.mp top)
  have nHigh : (n : ℚ) < 2 ^ ((n.log2 : ℤ) + 1) := by
    exact_mod_cast (Nat.lt_log2_self : n < 2 ^ (n.log2 + 1))
  have dLow : ((2 : ℚ) ^ (d.log2 : ℤ)) ≤ d := by
    exact_mod_cast Nat.log2_self_le (Nat.pos_iff_ne_zero.mp bottom)
  have dHigh : (d : ℚ) < 2 ^ ((d.log2 : ℤ) + 1) := by
    exact_mod_cast (Nat.lt_log2_self : d < 2 ^ (d.log2 + 1))
  set guess : ℤ := (n.log2 : ℤ) - d.log2 with guess_eq
  -- The guess is right or one too high.
  have low : guess - 1 ≤ Int.log 2 ((n : ℚ) / d) := by
    rw [le_log_iff positive, le_div_iff₀ (by positivity)]
    calc (2 : ℚ) ^ (guess - 1) * d
        ≤ 2 ^ (guess - 1) * 2 ^ ((d.log2 : ℤ) + 1) := by gcongr
      _ = 2 ^ (n.log2 : ℤ) := by rw [← zpow_add₀ (by norm_num)]; congr 1; omega
      _ ≤ n := nLow
  have high : Int.log 2 ((n : ℚ) / d) < guess + 1 := by
    rw [log_lt_iff positive, div_lt_iff₀ (by positivity)]
    calc (n : ℚ) < 2 ^ ((n.log2 : ℤ) + 1) := nHigh
      _ = 2 ^ (guess + 1) * 2 ^ (d.log2 : ℤ) := by
          rw [← zpow_add₀ (by norm_num)]; congr 1; omega
      _ ≤ 2 ^ (guess + 1) * d := by gcongr
  have test : (scale d n guess).1 ≤ (scale d n guess).2 ↔ guess ≤ Int.log 2 ((n : ℚ) / d) := by
    have scaled := scale_value d n guess
    have below := scale_snd_pos (n := d) top guess
    rw [le_log_iff positive, le_div_iff₀ (by positivity), ← Nat.cast_le (α := ℚ),
      ← div_le_one (by exact_mod_cast below), scaled, div_mul_eq_mul_div,
      div_le_one (by exact_mod_cast top), mul_comm]
  unfold floorLog
  simp only [← guess_eq]
  split
  · next found =>
    have := test.mp found
    omega
  · next beyond =>
    have := test.not.mp beyond
    omega

/-! ## The numbers of a format -/

/-- Mantissas and exponents as a format reads them from its patterns: a mantissa has a leading one
unless the exponent is the least. -/
structure Fits (format : Format) (m : Nat) (e : Int) : Prop where
  least : format.leastExponent ≤ e
  narrow : m < twoTo (format.fractionBits + 1)
  leading : e ≠ format.leastExponent → twoTo format.fractionBits ≤ m
  below : (e - format.leastExponent + 1).toNat < twoTo format.exponentBits - 1

/-- The pattern of a mantissa and an exponent. -/
def pack (format : Format) (m : Nat) (e : Int) : Nat :=
  if m < twoTo format.fractionBits then m
  else
    (e - format.leastExponent + 1).toNat * twoTo format.fractionBits +
      (m - twoTo format.fractionBits)

variable {format : Format} {m : Nat} {e : Int}

theorem Fits.pack_lt (fits : format.Fits m e) : format.pack m e < format.infinityBits := by
  have below := fits.below
  have narrow := fits.narrow
  have whole : (twoTo format.exponentBits - 1 - 1 + 1) * twoTo format.fractionBits ≤
      format.infinityBits := Nat.mul_le_mul_right _ (by omega)
  rw [Nat.succ_mul] at whole
  rw [twoTo_succ] at narrow
  unfold pack
  split
  · omega
  · have field : (e - format.leastExponent + 1).toNat * twoTo format.fractionBits ≤
        (twoTo format.exponentBits - 1 - 1) * twoTo format.fractionBits :=
      Nat.mul_le_mul_right _ (by omega)
    omega

/-- The exponent that rounding chooses for a number of the format is the number's own. -/
theorem Fits.exponent_eq (fits : format.Fits m e) (some : 0 < m) :
    max format.leastExponent (Int.log 2 ((m : ℚ) * 2 ^ e) - format.fractionBits) = e := by
  have positive : (0 : ℚ) < m * 2 ^ e := by positivity
  have least := fits.least
  have narrow : (m : ℚ) < 2 ^ ((format.fractionBits : ℤ) + 1) := by
    exact_mod_cast fits.narrow
  have below : Int.log 2 ((m : ℚ) * 2 ^ e) < format.fractionBits + 1 + e := by
    rw [log_lt_iff positive, zpow_add₀ (by norm_num)]
    gcongr
  by_cases leading : twoTo format.fractionBits ≤ m
  · have full : (2 : ℚ) ^ (format.fractionBits : ℤ) ≤ m := by exact_mod_cast leading
    have above : format.fractionBits + e ≤ Int.log 2 ((m : ℚ) * 2 ^ e) := by
      rw [le_log_iff positive, zpow_add₀ (by norm_num)]
      gcongr
    omega
  · have same : e = format.leastExponent := by
      by_contra other
      exact leading (fits.leading other)
    omega

theorem roundEven_mul {d : Nat} (positive : 0 < d) (m : Nat) : roundEven (m * d) d = m := by
  simp [roundEven, Nat.mul_div_cancel m positive, positive]

/-- A quotient of the value of a pattern has that pattern. -/
theorem nearest_of_fits (fits : format.Fits m e) {n d : Nat} (bottom : 0 < d)
    (value : (n : ℚ) / d = m * 2 ^ e) : format.nearest n d = format.pack m e := by
  have positive : (0 : ℚ) < d := by exact_mod_cast bottom
  rcases Nat.eq_zero_or_pos m with rfl | some
  · have zero : n = 0 := by
      rw [Nat.cast_zero, zero_mul, div_eq_zero_iff] at value
      rcases value with top | none
      · exact_mod_cast top
      · exact absurd none positive.ne'
    simp [nearest, pack, zero, twoTo_pos]
  · have top : n ≠ 0 := by
      rintro rfl
      rw [Nat.cast_zero, zero_div] at value
      have : (0 : ℚ) < m * 2 ^ e := by positivity
      exact this.ne value
    have exponent : max format.leastExponent (floorLog n d - format.fractionBits) = e := by
      rw [floorLog_eq (Nat.pos_of_ne_zero top) bottom, value, fits.exponent_eq some]
    have scaled : (scale n d (-e)).1 = m * (scale n d (-e)).2 := by
      have below := scale_snd_pos (n := n) bottom (-e)
      have ratio : ((scale n d (-e)).1 : ℚ) / (scale n d (-e)).2 = m := by
        rw [scale_value, value, mul_assoc, ← zpow_add₀ (by norm_num), add_neg_cancel, zpow_zero,
          mul_one]
      rw [div_eq_iff (by exact_mod_cast below.ne')] at ratio
      exact_mod_cast ratio
    have mantissa : roundEven (scale n d (-e)).1 (scale n d (-e)).2 = m := by
      rw [scaled, roundEven_mul (scale_snd_pos bottom (-e))]
    rw [nearest, if_neg top]
    simp only [exponent, mantissa]
    exact Nat.min_eq_left fits.pack_lt.le

/-- A number that has the value of a pattern, however it is written, has that pattern. -/
theorem ofBinary_of_fits (fits : format.Fits m e) {n : Nat} {q : Int}
    (value : (n : ℚ) * 2 ^ q = m * 2 ^ e) (negative : Bool) :
    format.ofBinary negative n q = format.signed negative (format.pack m e) := by
  have scaled := scale_value n 1 q
  rw [Nat.cast_one, div_one, value] at scaled
  have nearest := nearest_of_fits fits (scale_snd_pos Nat.one_pos q) scaled
  simp only [ofBinary, nearest]

/-! ## Patterns -/

/-- A pattern of three fields, read field by field. -/
theorem fields_of_pattern {a b : Nat} (s E F : Nat) (small : E < twoTo b) (part : F < twoTo a) :
    (s * twoTo (a + b) + (E * twoTo a + F)) / twoTo (a + b) = s ∧
      (s * twoTo (a + b) + (E * twoTo a + F)) / twoTo a % twoTo b = E ∧
      (s * twoTo (a + b) + (E * twoTo a + F)) % twoTo a = F := by
  have inner : E * twoTo a + F < twoTo (a + b) := by
    have step : (E + 1) * twoTo a ≤ twoTo b * twoTo a := Nat.mul_le_mul_right _ small
    rw [Nat.succ_mul] at step
    rw [twoTo_add, Nat.mul_comm (twoTo a)]
    omega
  have regroup : s * twoTo (a + b) + (E * twoTo a + F) = (s * twoTo b + E) * twoTo a + F := by
    rw [twoTo_add]
    ring
  refine ⟨?_, ?_, ?_⟩
  · rw [Nat.mul_comm, Nat.mul_add_div (twoTo_pos _), Nat.div_eq_of_lt inner, Nat.add_zero]
  · rw [regroup, Nat.mul_comm, Nat.mul_add_div (twoTo_pos a), Nat.div_eq_of_lt part, Nat.add_zero,
      Nat.mul_comm, Nat.mul_add_mod, Nat.mod_eq_of_lt small]
  · rw [regroup, Nat.mul_comm, Nat.mul_add_mod, Nat.mod_eq_of_lt part]

/-- The sign as the leading bit of a pattern. -/
theorem signed_eq (format : Format) (negative : Bool) (bits : Nat) :
    format.signed negative bits =
      negative.toNat * twoTo (format.fractionBits + format.exponentBits) + bits := by
  cases negative <;> simp [signed, signBit]

/-- What a pattern of three fields stands for. -/
theorem read_signed (format : Format) (negative : Bool) {E F : Nat}
    (small : E < twoTo format.exponentBits) (part : F < twoTo format.fractionBits) :
    format.read (format.signed negative (E * twoTo format.fractionBits + F)) =
      if E = twoTo format.exponentBits - 1 then
        if F = 0 then .infinity negative else .notANumber
      else if E = 0 then .finite negative F format.leastExponent
      else
        .finite negative (twoTo format.fractionBits + F)
          (format.leastExponent + ((E : Int) - 1)) := by
  obtain ⟨sign, exponent, fraction⟩ := fields_of_pattern negative.toNat E F small part
  have leading : (negative.toNat % 2 == 1) = negative := by cases negative <;> rfl
  rw [signed_eq]
  simp only [read, signBit, sign, exponent, fraction, leading]

theorem read_signed_pack (fits : format.Fits m e) (negative : Bool) :
    format.read (format.signed negative (format.pack m e)) = .finite negative m e := by
  have below := fits.below
  have narrow := fits.narrow
  have least := fits.least
  rw [twoTo_succ] at narrow
  unfold pack
  split
  · next part =>
    have same : e = format.leastExponent := by
      by_contra other
      exact absurd (fits.leading other) (by omega)
    have found := read_signed format negative (E := 0) (twoTo_pos _) part
    rw [Nat.zero_mul, Nat.zero_add] at found
    rw [found, if_neg (by omega), if_pos rfl, same]
  · rw [read_signed format negative (by omega) (by omega), if_neg (by omega), if_neg (by omega)]
    have mantissa : twoTo format.fractionBits + (m - twoTo format.fractionBits) = m := by omega
    have exponent :
        format.leastExponent + (((e - format.leastExponent + 1).toNat : Int) - 1) = e := by omega
    rw [mantissa, exponent]

/-- A pattern has three fields. -/
theorem exists_signed {bits : Nat} (fit : bits < 2 * format.signBit) :
    ∃ (negative : Bool) (E F : Nat),
      E < twoTo format.exponentBits ∧ F < twoTo format.fractionBits ∧
        bits = format.signed negative (E * twoTo format.fractionBits + F) := by
  have split : twoTo (format.fractionBits + format.exponentBits) =
      twoTo format.fractionBits * twoTo format.exponentBits := twoTo_add _ _
  refine ⟨decide (format.signBit ≤ bits), bits % format.signBit / twoTo format.fractionBits,
    bits % format.signBit % twoTo format.fractionBits, ?_, Nat.mod_lt _ (twoTo_pos _), ?_⟩
  · rw [Nat.div_lt_iff_lt_mul (twoTo_pos _), Nat.mul_comm, ← split]
    exact Nat.mod_lt _ (twoTo_pos _)
  · rw [Nat.mul_comm, Nat.div_add_mod, signed_eq]
    have signBit : format.signBit = twoTo (format.fractionBits + format.exponentBits) := rfl
    rw [← signBit]
    by_cases negative : format.signBit ≤ bits
    · have rest : bits % format.signBit = bits - format.signBit := by
        rw [Nat.mod_eq_sub_mod negative, Nat.mod_eq_of_lt (by omega)]
      simp only [negative, decide_true, Bool.toNat_true, rest]
      omega
    · simp only [negative, decide_false, Bool.toNat_false, Nat.mod_eq_of_lt (not_le.mp negative)]
      omega

/-- A pattern that stands for a number is the packed one. -/
theorem fits_of_read (wide : 2 ≤ format.exponentBits) {bits : Nat} {negative : Bool}
    (fit : bits < 2 * format.signBit) (read : format.read bits = .finite negative m e) :
    format.Fits m e ∧ bits = format.signed negative (format.pack m e) := by
  obtain ⟨sign, E, F, small, part, rfl⟩ := exists_signed fit
  have four : 4 ≤ twoTo format.exponentBits := Nat.pow_le_pow_right Nat.two_pos wide
  rw [read_signed format sign small part] at read
  split at read
  · split at read <;> cases read
  · next notLast =>
    split at read
    · next zero =>
      cases read
      refine ⟨⟨le_refl _, ?_, fun other => absurd rfl other, ?_⟩, ?_⟩
      · rw [twoTo_succ]
        omega
      · omega
      · rw [pack, if_pos part, zero, Nat.zero_mul, Nat.zero_add]
    · next normal =>
      cases read
      have field : (format.leastExponent + ((E : Int) - 1) - format.leastExponent + 1).toNat = E :=
        by omega
      refine ⟨⟨by omega, ?_, fun _ => by omega, by omega⟩, ?_⟩
      · rw [twoTo_succ]
        omega
      · rw [pack, if_neg (by omega), field, Nat.add_sub_cancel_left]

/-- The pattern of what a pattern stands for is that pattern again, unless it is no number. -/
theorem ofReading_read (wide : 2 ≤ format.exponentBits) {bits : Nat}
    (fit : bits < 2 * format.signBit) (number : format.read bits ≠ .notANumber) :
    format.ofReading (format.read bits) = bits := by
  cases found : format.read bits with
  | notANumber => exact absurd found number
  | finite negative m e =>
    obtain ⟨fits, same⟩ := fits_of_read wide fit found
    rw [ofReading, ofBinary_of_fits fits rfl, same]
  | infinity negative =>
    obtain ⟨sign, E, F, small, part, rfl⟩ := exists_signed fit
    rw [read_signed format sign small part] at found
    split at found
    · next last =>
      split at found
      · next zero =>
        cases found
        rw [ofReading, infinityBits, last, zero, Nat.add_zero]
      · cases found
    · split at found <;> cases found

end Format

end EntityTables.Binary
