/-
# EntityTables.Proofs.Value.Dates — which dates are read back from their milliseconds

A date is held as its milliseconds, rounded down. Leap seconds have no milliseconds of their own:
theirs are those of the next second, and the date that is read is in that second. Behind the very
last second there is no next one, so a date of its leap second is held and cannot be read.

* `Instant.floor` — a date rounded down to the millisecond; `Instant.carried?` — a date with its leap
  second carried into the next second, if there is one.
* `Instant.ofStored_toStored_eq` — what is read back, of every date.
* `Instant.exists_ofStored_iff`, `Instant.readsBack_unless_beyond` — which dates are read back.
-/
import EntityTables.Value.Conversion

namespace EntityTables

set_option autoImplicit false

namespace Instant

/-! ## The milliseconds that are held -/

/-- The milliseconds of a date are a stored number as they are. -/
theorem toInt_toStored (instant : Instant) : instant.toStored.toInt = instant.millis := by
  obtain ⟨low, high⟩ := instant.inRange
  have fit := instant.nanosFit
  refine Int64.toInt_ofInt_of_le ?_ ?_ <;> unfold millis <;> omega

theorem ofStored_toStored_millis (instant : Instant) (column : String) :
    ofStored column instant.toStored =
      match ofMillis? instant.millis with
      | some read => .ok read
      | none => .error (.decode column (.dateRange instant.millis)) := by
  have read (millis : Int) (held : instant.toStored.toInt = millis) :
      ofStored column instant.toStored =
        match ofMillis? millis with
        | some read => .ok read
        | none => .error (.decode column (.dateRange millis)) := by
    subst held
    rfl
  exact read _ instant.toInt_toStored

/-! ## Rounding down, and leap seconds -/

/-- A date rounded down to the millisecond. -/
def floor (instant : Instant) : Instant where
  seconds := instant.seconds
  nanos := instant.nanos / 1000000 * 1000000
  inRange := instant.inRange
  nanosFit := Nat.lt_of_le_of_lt (Nat.div_mul_le_self _ _) instant.nanosFit

/-- The last second of all. -/
def lastSecond : Int := 8210266876799

/-- A point in a leap second. -/
def IsLeap (instant : Instant) : Prop := 1000000000 ≤ instant.nanos

instance (instant : Instant) : Decidable instant.IsLeap := inferInstanceAs (Decidable (_ ≤ _))

/-- A point in the leap second of the last second. -/
def IsBeyond (instant : Instant) : Prop := instant.seconds = lastSecond ∧ instant.IsLeap

instance (instant : Instant) : Decidable instant.IsBeyond := inferInstanceAs (Decidable (_ ∧ _))

/-- A date outside leap seconds is as it is; one in a leap second is that far into the next second,
if there is a next one. -/
def carried? (instant : Instant) : Option Instant :=
  if leap : instant.IsLeap then
    if next : instant.seconds < lastSecond then
      some
        { seconds := instant.seconds + 1
          nanos := instant.nanos - 1000000000
          inRange := by
            obtain ⟨low, high⟩ := instant.inRange
            unfold lastSecond at next
            omega
          nanosFit := Nat.lt_of_le_of_lt (Nat.sub_le _ _) instant.nanosFit }
    else none
  else some instant

theorem carried?_eq_none_iff (instant : Instant) : instant.carried? = none ↔ instant.IsBeyond := by
  have high : instant.seconds ≤ lastSecond := instant.inRange.2
  unfold carried? IsBeyond
  split
  · next leap =>
    split
    · next next =>
      simp only [reduceCtorEq, false_iff]
      exact fun beyond => absurd beyond.1 (Int.ne_of_lt next)
    · next none =>
      simp only [true_iff]
      exact ⟨Int.le_antisymm high (Int.not_lt.mp none), leap⟩
  · next short => simp [short]

/-- Carrying a leap second changes no milliseconds and leaves none. -/
theorem millis_of_carried? {instant next : Instant} (carried : instant.carried? = some next) :
    next.millis = instant.millis ∧ next.nanos < 1000000000 := by
  have fit := instant.nanosFit
  unfold carried? at carried
  split at carried
  · next leap =>
    unfold IsLeap at leap
    split at carried
    · cases carried
      simp only [millis]
      omega
    · cases carried
  · next short =>
    cases carried
    exact ⟨rfl, Nat.lt_of_not_le short⟩

/-! ## Reading back -/

/-- Outside leap seconds the milliseconds stand for the date itself, rounded down. -/
theorem ofMillis?_millis {instant : Instant} (short : instant.nanos < 1000000000) :
    ofMillis? instant.millis = some instant.floor := by
  obtain ⟨seconds, nanos, ⟨low, high⟩, fit⟩ := instant
  simp only at short
  have range : -8334601228800000 ≤ seconds * 1000 + (nanos : Int) / 1000000 ∧
      seconds * 1000 + (nanos : Int) / 1000000 ≤ 8210266876799999 := by omega
  have parts : (seconds * 1000 + (nanos : Int) / 1000000) / 1000 = seconds ∧
      ((seconds * 1000 + (nanos : Int) / 1000000) % 1000).toNat * 1000000 =
        nanos / 1000000 * 1000000 := by omega
  simp only [millis, ofMillis?, range, and_self, dite_true, parts, floor]

/-- The leap second of the last second has milliseconds that stand for no date. -/
theorem ofMillis?_of_isBeyond {instant : Instant} (beyond : instant.IsBeyond) :
    ofMillis? instant.millis = none := by
  have outside : ¬ instant.millis ≤ 8210266876799999 := by
    obtain ⟨last, leap⟩ := beyond
    unfold millis
    unfold lastSecond at last
    unfold IsLeap at leap
    omega
  rw [← Option.not_isSome_iff_eq_none, ofMillis?_isSome_iff]
  exact fun range => outside range.2

/-- What is read back of a date: the date with its leap second carried, rounded down to the
millisecond, or an error that names the milliseconds if nothing can be carried. -/
theorem ofStored_toStored_eq (instant : Instant) (column : String) :
    ofStored column instant.toStored =
      match instant.carried? with
      | some next => .ok next.floor
      | none => .error (.decode column (.dateRange instant.millis)) := by
  rw [ofStored_toStored_millis]
  cases carried : instant.carried? with
  | some next =>
    obtain ⟨same, short⟩ := millis_of_carried? carried
    rw [← same, ofMillis?_millis short]
  | none => rw [ofMillis?_of_isBeyond ((carried?_eq_none_iff instant).mp carried)]

/-- A date that is rounded down is stored as it was. -/
theorem toStored_floor (instant : Instant) : instant.floor.toStored = instant.toStored := by
  refine congrArg Int64.ofInt ?_
  simp only [millis, floor]
  omega

/-- A date is read back exactly if it is not in the leap second of the last second, and then stored
as the same milliseconds again. Outside leap seconds it comes back rounded down to the millisecond,
in a leap second as the point that is as far into the next second. -/
theorem readsBack_unless_beyond (instant : Instant) (column : String) :
    (instant.IsBeyond →
      ofStored column instant.toStored = .error (.decode column (.dateRange instant.millis))) ∧
    (¬ instant.IsBeyond → ∃ read, ofStored column instant.toStored = .ok read ∧
      read.toStored = instant.toStored ∧
      (¬ instant.IsLeap → read = instant.floor) ∧
      (instant.IsLeap → read.seconds = instant.seconds + 1 ∧
        read.nanos = (instant.nanos - 1000000000) / 1000000 * 1000000)) := by
  rw [ofStored_toStored_eq]
  constructor
  · intro beyond
    rw [(carried?_eq_none_iff instant).mpr beyond]
  · intro within
    have some : instant.carried? ≠ none := fun none =>
      within ((carried?_eq_none_iff instant).mp none)
    obtain ⟨next, carried⟩ := Option.ne_none_iff_exists'.mp some
    rw [carried]
    refine ⟨next.floor, rfl, ?_, ?_, ?_⟩
    · rw [toStored_floor]
      exact congrArg Int64.ofInt (millis_of_carried? carried).1
    · intro short
      rw [carried?, dif_neg short] at carried
      cases carried
      rfl
    · intro leap
      rw [carried?, dif_pos leap] at carried
      split at carried
      · cases carried
        exact ⟨rfl, rfl⟩
      · cases carried

/-- The last nanosecond of the leap second of the last second. -/
theorem readsBack_unless_beyond_last :
    (⟨lastSecond, 1999999999, by decide, by decide⟩ : Instant).IsBeyond ∧
    ofStored "stamp" (⟨lastSecond, 1999999999, by decide, by decide⟩ : Instant).toStored =
      .error (.decode "stamp" (.dateRange 8210266876800999)) :=
  ⟨by decide, (readsBack_unless_beyond _ "stamp").1 (by decide)⟩

/-- The last millisecond of a date that can be read. -/
def lastMillis : Int := 8210266876799999

/-- A date can be read from its milliseconds exactly if these are not beyond the last. -/
theorem exists_ofStored_iff (instant : Instant) (column : String) :
    (∃ read, ofStored column instant.toStored = .ok read) ↔ instant.millis ≤ lastMillis := by
  have low : -8334601228800000 ≤ instant.millis := by
    have range := instant.inRange.1
    unfold millis
    omega
  rw [ofStored_toStored_millis]
  cases found : ofMillis? instant.millis with
  | some read =>
    have range := ofMillis?_isSome_iff.mp (found ▸ rfl : (ofMillis? instant.millis).isSome = true)
    exact ⟨fun _ => range.2, fun _ => ⟨read, rfl⟩⟩
  | none =>
    have outside : ¬ (ofMillis? instant.millis).isSome = true := by simp [found]
    rw [ofMillis?_isSome_iff] at outside
    constructor
    · rintro ⟨_, ⟨⟩⟩
    · intro high
      exact absurd ⟨low, high⟩ outside

end Instant

end EntityTables
