/-
# EntityTables.Calendar.Instant — points in time

A point in time is a count of seconds since 1970 and of nanoseconds within the second. In a leap
second the nanoseconds run on beyond a thousand million; a count of seconds and nanoseconds has one
only in the last second of a minute. The years -262143 to 262142 are covered.

* `Instant.millis` — the count of milliseconds, rounded down.
* `Instant.ofMillis?` — the point of such a count; `ofMillis?_isSome_iff` gives its range.
-/

namespace EntityTables

set_option autoImplicit false

/-- A point in time. -/
structure Instant where
  seconds : Int
  nanos : Nat
  inRange : -8334601228800 ≤ seconds ∧ seconds ≤ 8210266876799
  nanosFit : nanos < 2000000000
  deriving DecidableEq

namespace Instant

/-- The start of 1970. -/
def epoch : Instant := ⟨0, 0, by decide, by decide⟩

instance : Inhabited Instant := ⟨epoch⟩

/-- The point of a second and a nanosecond, if both are in range. -/
def ofParts? (seconds : Int) (nanos : Nat) : Option Instant :=
  if range : -8334601228800 ≤ seconds ∧ seconds ≤ 8210266876799 then
    if fit : nanos < 1000000000 ∨ (nanos < 2000000000 ∧ seconds % 60 = 59) then
      some ⟨seconds, nanos, range, by omega⟩
    else none
  else none

/-- Milliseconds since 1970, rounded down; a leap second counts beyond its second. -/
def millis (instant : Instant) : Int := instant.seconds * 1000 + instant.nanos / 1000000

/-- The point that a count of milliseconds stands for. -/
def ofMillis? (millis : Int) : Option Instant :=
  if range : -8334601228800000 ≤ millis ∧ millis ≤ 8210266876799999 then
    some ⟨millis / 1000, (millis % 1000).toNat * 1000000, by omega, by omega⟩
  else none

theorem ofMillis?_isSome_iff {millis : Int} :
    (ofMillis? millis).isSome = true ↔
      -8334601228800000 ≤ millis ∧ millis ≤ 8210266876799999 := by
  unfold ofMillis?
  split <;> simp_all

end Instant

end EntityTables
