/-
# EntityTables.Proofs.Binary.Number — numbers that survive their conversions

Widening a single precision number is exact, so rounding it again gives it back, and an integer that
a double precision number stands for has that number as its nearest one, but for the sign of zero.

* `Single.toSingle_toDouble` — widened and rounded, a number is the same.
* `Double.ofInt_of_toInt?` — a number that is an integer, as that integer and back.
* `Double.Equals` — equality by value; numbers that are none equal nothing.
-/
import EntityTables.Binary.Number
import EntityTables.Proofs.Binary.Nearest
import Mathlib.Data.Nat.Cast.Field

namespace EntityTables

set_option autoImplicit false

open Binary

/-! ## Patterns of the two precisions -/

namespace Double

theorem bits_lt (x : Double) : x.bits.toNat < 2 * (Format.of .double).signBit :=
  x.bits.toNat_lt

/-- A pattern below the weight of the sign twice over has all its bits in the number. -/
theorem read_mk {bits : Nat} (fit : bits < 2 * (Format.of .double).signBit) :
    (⟨bits.toUInt64⟩ : Double).read = (Format.of .double).read bits := by
  unfold read
  congr 1
  exact Nat.mod_eq_of_lt fit

end Double

namespace Single

theorem bits_lt (x : Single) : x.bits.toNat < 2 * (Format.of .single).signBit :=
  x.bits.toNat_lt

/-- A number is the nearest one to what it stands for. -/
theorem ofReading_read {x : Single} (number : x.read ≠ .notANumber) :
    (⟨((Format.of .single).ofReading x.read).toUInt32⟩ : Single) = x := by
  have same : (Format.of .single).ofReading ((Format.of .single).read x.bits.toNat) = x.bits.toNat :=
    Format.ofReading_read (by decide) x.bits_lt number
  unfold read
  rw [same]
  simp

end Single

theorem Binary.Format.Fits.signed_lt {format : Format} {m : Nat} {e : Int} (fits : format.Fits m e)
    (negative : Bool) : format.signed negative (format.pack m e) < 2 * format.signBit := by
  have low := fits.pack_lt
  have high : format.infinityBits ≤ format.signBit := by
    rw [Format.infinityBits, Format.signBit, twoTo_add, Nat.mul_comm]
    exact Nat.mul_le_mul_left _ (Nat.sub_le _ _)
  rw [Format.signed_eq]
  have signBit : format.signBit = twoTo (format.fractionBits + format.exponentBits) := rfl
  cases negative <;> simp only [Bool.toNat_true, Bool.toNat_false] <;> omega

/-! ## Widening -/

/-- A number of single precision is one of double precision, with a longer mantissa. -/
theorem Binary.Format.Fits.widen {m : Nat} {e : Int} (fits : (Format.of .single).Fits m e) :
    ∃ (n : Nat) (q : Int), (Format.of .double).Fits n q ∧ (n : ℚ) * 2 ^ q = m * 2 ^ e := by
  have singleLeast : (Format.of .single).leastExponent = -149 := by decide
  have doubleLeast : (Format.of .double).leastExponent = -1074 := by decide
  have singleRange : twoTo (Format.of .single).exponentBits = 256 := by decide
  have doubleRange : twoTo (Format.of .double).exponentBits = 2048 := by decide
  have least := fits.least
  have below := fits.below
  rw [singleLeast] at least below
  rw [singleRange] at below
  rcases Nat.eq_zero_or_pos m with rfl | some
  · refine ⟨0, -1074, ⟨by rw [doubleLeast], twoTo_pos _, fun other => absurd doubleLeast.symm other,
      ?_⟩, by simp⟩
    rw [doubleLeast, doubleRange]
    decide
  · have low : 2 ^ m.log2 ≤ m := Nat.log2_self_le some.ne'
    have high : m < 2 ^ (m.log2 + 1) := Nat.lt_log2_self
    have short : m.log2 < 24 := (Nat.log2_lt some.ne').mpr fits.narrow
    have whole : 2 ^ m.log2 * 2 ^ (52 - m.log2) = twoTo 52 := by
      rw [← Nat.pow_add, twoTo_eq]
      congr 1
      omega
    refine ⟨m * 2 ^ (52 - m.log2), e - (52 - m.log2 : Nat), ⟨?_, ?_, fun _ => ?_, ?_⟩, ?_⟩
    · rw [doubleLeast]
      omega
    · show m * 2 ^ (52 - m.log2) < twoTo 53
      rw [twoTo_succ, ← whole]
      rw [Nat.pow_succ] at high
      calc m * 2 ^ (52 - m.log2) < 2 ^ m.log2 * 2 * 2 ^ (52 - m.log2) :=
            Nat.mul_lt_mul_of_pos_right high (Nat.two_pow_pos _)
        _ = 2 * (2 ^ m.log2 * 2 ^ (52 - m.log2)) := by ring
    · show twoTo 52 ≤ _
      rw [← whole]
      exact Nat.mul_le_mul_right _ low
    · rw [doubleLeast, doubleRange]
      omega
    · push_cast
      rw [mul_assoc, ← zpow_natCast, ← zpow_add₀ (by norm_num)]
      congr 2
      omega

namespace Single

/-- Whether the bits stand for no number. -/
def isNaN (x : Single) : Bool := x.read == .notANumber

theorem read_toDouble_infinity {x : Single} {negative : Bool}
    (infinite : x.read = .infinity negative) : x.toDouble.read = .infinity negative := by
  unfold toDouble
  rw [infinite]
  cases negative <;> decide

theorem read_toDouble_notANumber {x : Single} (none : x.read = .notANumber) :
    x.toDouble.read = .notANumber := by
  unfold toDouble
  rw [none]
  decide

/-- Widening keeps sign and value. -/
theorem read_toDouble_finite {x : Single} {negative : Bool} {m : Nat} {e : Int}
    (finite : x.read = .finite negative m e) :
    ∃ (n : Nat) (q : Int),
      x.toDouble.read = .finite negative n q ∧ (n : ℚ) * 2 ^ q = m * 2 ^ e := by
  obtain ⟨fits, -⟩ := Format.fits_of_read (by decide) x.bits_lt finite
  obtain ⟨n, q, wide, same⟩ := fits.widen
  refine ⟨n, q, ?_, same⟩
  unfold toDouble
  rw [finite, Format.ofReading, Format.ofBinary_of_fits wide same.symm,
    Double.read_mk (wide.signed_lt negative), Format.read_signed_pack wide]

theorem isNaN_toDouble (x : Single) : x.toDouble.isNaN = x.isNaN := by
  unfold Double.isNaN isNaN
  cases found : x.read with
  | notANumber => rw [read_toDouble_notANumber found]
  | infinity negative => rw [read_toDouble_infinity found]
  | finite negative m e =>
    obtain ⟨n, q, wide, -⟩ := read_toDouble_finite found
    rw [wide]
    rfl

/-- Widened and rounded again, a number is the same. -/
theorem toSingle_toDouble {x : Single} (number : x.isNaN = false) : x.toDouble.toSingle = x := by
  have some : x.read ≠ .notANumber := by
    intro none
    simp [isNaN, none] at number
  have same := ofReading_read some
  unfold Double.toSingle
  cases found : x.read with
  | notANumber => exact absurd found some
  | infinity negative => rw [read_toDouble_infinity found, ← found, same]
  | finite negative m e =>
    obtain ⟨n, q, wide, value⟩ := read_toDouble_finite found
    obtain ⟨fits, pattern⟩ := Format.fits_of_read (by decide) x.bits_lt found
    rw [wide, Format.ofReading, Format.ofBinary_of_fits fits value, ← pattern]
    simp

/-- What is no number stays none. -/
theorem isNaN_toSingle_toDouble {x : Single} (none : x.isNaN = true) :
    x.toDouble.toSingle.isNaN = true := by
  have found : x.read = .notANumber := by simpa [isNaN] using none
  unfold Double.toSingle
  rw [read_toDouble_notANumber found]
  decide

end Single

/-! ## Integers -/

namespace Double

/-- A double precision number that is an integer is finite, and of that integer's value. -/
theorem finite_of_toInt? {x : Double} {i : Int} (integral : x.toInt? = some i) :
    ∃ (negative : Bool) (m : Nat) (e : Int),
      x.read = .finite negative m e ∧ i = withSign negative i.natAbs ∧
        (i.natAbs : ℚ) = m * 2 ^ e := by
  unfold toInt? at integral
  have absolute (negative : Bool) (n : Nat) : (withSign negative n).natAbs = n := by
    cases negative <;> simp [withSign]
  cases found : x.read with
  | notANumber => simp [found] at integral
  | infinity negative => simp [found] at integral
  | finite negative m e =>
    refine ⟨negative, m, e, rfl, ?_⟩
    rw [found] at integral
    cases e with
    | ofNat k =>
      simp only [Option.some.injEq] at integral
      subst integral
      rw [absolute]
      refine ⟨rfl, ?_⟩
      rw [twoTo_eq, Int.ofNat_eq_natCast, zpow_natCast]
      push_cast
      ring
    | negSucc k =>
      simp only at integral
      split at integral
      · next even =>
        simp only [Option.some.injEq] at integral
        subst integral
        rw [absolute]
        refine ⟨rfl, ?_⟩
        rw [Nat.cast_div (Nat.dvd_of_mod_eq_zero even) (by exact_mod_cast (twoTo_pos _).ne'),
          twoTo_eq, zpow_negSucc, div_eq_mul_inv]
        push_cast
        ring
      · cases integral

/-- The number nearest to an integer other than zero is the one that stands for it. -/
theorem ofInt_of_toInt? {x : Double} {i : Int} (integral : x.toInt? = some i) (other : i ≠ 0) :
    ofInt i = x := by
  obtain ⟨negative, m, e, finite, sign, value⟩ := finite_of_toInt? integral
  obtain ⟨fits, pattern⟩ := Format.fits_of_read (by decide) x.bits_lt finite
  have size : 0 < i.natAbs := Int.natAbs_pos.mpr other
  have signs : decide (i < 0) = negative := by
    cases negative <;> simp only [withSign, if_true, Bool.false_eq_true, if_false] at sign <;>
      simp <;> omega
  have whole : (i.natAbs : ℚ) * 2 ^ (0 : Int) = m * 2 ^ e := by rw [zpow_zero, mul_one, value]
  unfold ofInt
  rw [signs, Format.ofBinary_of_fits fits whole, ← pattern]
  simp

/-! ## Equality by value -/

/-- Two numbers have the same value; what is no number has none. -/
def Equals (x y : Double) : Prop := x.compare? y = some .eq

instance (x y : Double) : Decidable (x.Equals y) := inferInstanceAs (Decidable (_ = _))

theorem compareScaled_self (a p : Int) : compareScaled a p a p = .eq := by
  simp [compareScaled]

theorem Equals.refl {x : Double} (number : x.isNaN = false) : x.Equals x := by
  have some : x.read ≠ .notANumber := by
    intro none
    simp [isNaN, none] at number
  unfold Equals compare?
  cases found : x.read with
  | notANumber => exact absurd found some
  | infinity negative => simp
  | finite negative m e => simp [compareScaled_self]

theorem Equals.number {x y : Double} (equal : x.Equals y) : x.isNaN = false := by
  unfold isNaN
  cases found : x.read with
  | notANumber => simp [Equals, compare?, found] at equal
  | infinity negative => rfl
  | finite negative m e => rfl

/-- Every zero equals the one without a sign. -/
theorem equals_zero {x : Double} (zero : x.toInt? = some 0) : x.Equals ⟨0⟩ := by
  obtain ⟨negative, m, e, finite, -, value⟩ := finite_of_toInt? zero
  have none : m = 0 := by
    rw [Int.natAbs_zero, Nat.cast_zero, eq_comm, mul_eq_zero] at value
    rcases value with left | right
    · exact_mod_cast left
    · exact absurd right (by positivity)
  have plain : (⟨0⟩ : Double).read = .finite false 0 (-1074) := by decide
  unfold Equals compare?
  rw [finite, plain, none]
  cases negative <;> simp [compareScaled, withSign]

/-- A number without the sign of zero, as a table holds it. -/
def unsigned (x : Double) : Double := if x.toInt? = some 0 then ⟨0⟩ else x

theorem equals_unsigned {x : Double} (number : x.isNaN = false) : x.Equals x.unsigned := by
  unfold unsigned
  split
  · next zero => exact equals_zero zero
  · exact Equals.refl number

end Double

namespace Single

/-- Two numbers have the same value; what is no number has none. -/
def Equals (x y : Single) : Prop := x.toDouble.Equals y.toDouble

instance (x y : Single) : Decidable (x.Equals y) := inferInstanceAs (Decidable (_ = _))

/-- Numbers with the same value are told apart in double precision as well. -/
theorem Equals.eq_of_toDouble {x y : Single} (equal : x.Equals y)
    (wide : x.toDouble = y.toDouble) : x = y := by
  have left : x.isNaN = false := (isNaN_toDouble x).symm.trans equal.number
  have right : y.isNaN = false := by rw [← isNaN_toDouble, ← wide, isNaN_toDouble, left]
  rw [← toSingle_toDouble left, wide, toSingle_toDouble right]

theorem equals_unsigned {x : Single} (number : x.isNaN = false) :
    x.Equals x.toDouble.unsigned.toSingle := by
  have wide : x.toDouble.isNaN = false := (isNaN_toDouble x).trans number
  unfold Equals Double.unsigned
  split
  · next zero =>
    have plain : (⟨0⟩ : Double).toSingle.toDouble = ⟨0⟩ := by decide
    rw [plain]
    exact Double.equals_zero zero
  · rw [toSingle_toDouble number]
    exact Double.Equals.refl wide

end Single

end EntityTables
