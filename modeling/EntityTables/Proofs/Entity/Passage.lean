/-
# EntityTables.Proofs.Entity.Passage — a value stored, carried, and restored

Column values reach the reader as they were written, or by way of something that keeps them but for
the form of numbers. Either way a value that its type can store comes back the same.

* `Passage` — what becomes of column values on their way; `Passage.direct` — nothing.
* `FieldType.Alike` — when a value that was read counts as the one that was written.
* `FieldType.restore_carried` — what was stored is restored alike.
-/
import EntityTables.Proofs.Binary.Number
import EntityTables.Proofs.Entity.Stored
import EntityTables.Proofs.Value.Dates

namespace EntityTables

set_option autoImplicit false

/-- What becomes of column values between writing and reading, and which numbers count as the same
then. -/
structure Passage where
  carry : Value → Value
  /-- The numbers that come through. -/
  Takes : Double → Prop
  SameSingle : Single → Single → Prop
  SameDouble : Double → Double → Prop
  carry_other : ∀ v, (∀ x, v ≠ .real x) → carry v = v
  carry_single : ∀ x : Single, Takes x.toDouble →
    ∃ y, carry (.real x.toDouble) = .real y ∧ SameSingle x y.toSingle
  carry_double : ∀ x, Takes x → ∃ y, carry (.real x) = .real y ∧ SameDouble x y

/-- Nothing becomes of column values. A single precision number that is none may come back with
other bits. -/
def Passage.direct : Passage where
  carry v := v
  Takes _ := True
  SameSingle x y := x = y ∨ x.isNaN = true ∧ y.isNaN = true
  SameDouble x y := x = y
  carry_other _ _ := rfl
  carry_single x _ := by
    refine ⟨_, rfl, ?_⟩
    cases number : x.isNaN with
    | true => exact .inr ⟨rfl, Single.isNaN_toSingle_toDouble number⟩
    | false => exact .inl (Single.toSingle_toDouble number).symm
  carry_double x _ := ⟨x, rfl, rfl⟩

/-- The class of the values that a column of a storage class is given. -/
def Storage.kind : Storage → ValueKind
  | integer => .integer
  | real => .real
  | text => .text
  | blob => .blob

/-! ## What can be stored, and what counts as the same -/

/-- A point in time on a whole millisecond, outside leap seconds. -/
def Instant.IsWhole (instant : Instant) : Prop :=
  instant.nanos < 1000000000 ∧ instant.nanos % 1000000 = 0

instance (instant : Instant) : Decidable instant.IsWhole := inferInstanceAs (Decidable (_ ∧ _))

/-- The codec reads back what it writes of an object. -/
def Codec.ReadsBack {α : Type} (codec : Codec α) (a : α) : Prop :=
  ∀ body, codec.encodeBody a = .ok body → codec.decodeBody codec.version body = .ok a

variable {objects : Objects} {passage : Passage}

namespace PlainType

/-- A value that its column keeps: a number that comes through, a date on a whole millisecond, an
object that its codec reads back. -/
def Storable (passage : Passage) : (type : PlainType objects) → type.Carrier → Prop
  | .single, x => passage.Takes x.toDouble
  | .double, x => passage.Takes x
  | .dateTime, d => d.IsWhole
  | .object key, a => (objects.codec key).ReadsBack a
  | _, _ => True

/-- A value that was read counts as the one that was written. -/
def Alike (passage : Passage) : (type : PlainType objects) → type.Carrier → type.Carrier → Prop
  | .single, x, y => passage.SameSingle x y
  | .double, x, y => passage.SameDouble x y
  | .integer _, i, j => i = j
  | .boolean, a, b => a = b
  | .char, c, d => c = d
  | .text, s, t => s = t
  | .dateTime, d, e => d = e
  | .bytes, a, b => a = b
  | .object _, a, b => a = b

end PlainType

namespace FieldType

/-- A field's value that its column keeps. -/
def Storable (passage : Passage) : (type : FieldType objects) → type.Carrier → Prop
  | .plain type, a => type.Storable passage a
  | .optional _, none => True
  | .optional type, some a => type.Storable passage a
  | .relation _, _ => True

/-- A field's value that was read counts as the one that was written; a relation has what every
record starts with. -/
def Alike (passage : Passage) : (type : FieldType objects) → type.Carrier → type.Carrier → Prop
  | .plain type, a, b => type.Alike passage a b
  | .optional _, none, none => True
  | .optional type, some a, some b => type.Alike passage a b
  | .optional _, _, _ => False
  | .relation declared, _, b => b = objects.initialRelation declared

end FieldType

/-! ## Values of each class -/

theorem toInt_toStored {type : IntType} (i : type.Range) : i.toStored.toInt = i.1 := by
  obtain ⟨low, high⟩ := i.2.int64
  simp only [IntType.least, IntType.greatest] at low high
  exact Int64.toInt_ofInt_of_le (by omega) (by omega)

theorem narrow_toStored {type : IntType} (column : String) (i : type.Range) :
    narrow type column i.toStored = .ok i := by
  have holds : type.Holds i.toStored.toInt := by
    rw [toInt_toStored]
    exact i.2
  unfold narrow
  rw [dif_pos holds]
  exact congrArg Except.ok (Subtype.ext (toInt_toStored i))

/-- A date on a whole millisecond is rounded down to itself. -/
theorem Instant.floor_eq_self {instant : Instant} (whole : instant.IsWhole) :
    instant.floor = instant := by
  obtain ⟨seconds, nanos, range, fit⟩ := instant
  have same : nanos / 1000000 * 1000000 = nanos := Nat.div_mul_cancel (Nat.dvd_of_mod_eq_zero whole.2)
  simp only [floor, same]

theorem Instant.ofStored_toStored {instant : Instant} (whole : instant.IsWhole)
    (column : String) : ofStored column instant.toStored = .ok instant := by
  rw [ofStored_toStored_millis, ofMillis?_millis whole.1, floor_eq_self whole]

theorem boolOfStored_storedBool (b : Bool) : boolOfStored (storedBool b) = b := by
  cases b <;> rfl

/-! ## Round trips -/

namespace PlainType

variable {type : PlainType objects} {a : type.Carrier} {value : Value}

/-- What was stored has the class of its type and is never missing. -/
theorem kind_of_store (stored : type.store a = .ok value) :
    value.isNull = false ∧ value.kind = type.storage.kind := by
  cases type with
  | object key =>
    unfold store at stored
    cases written : (objects.codec key).serialize a with
    | error fault => simp [written, Except.mapError, Except.map] at stored
    | ok bytes =>
      simp only [written, Except.mapError, Except.map, Except.ok.injEq] at stored
      subst stored
      exact ⟨rfl, rfl⟩
  | _ => cases stored; exact ⟨rfl, rfl⟩

/-- What was stored is restored alike, whatever way it came. -/
theorem restore_carried (storable : type.Storable passage a) (stored : type.store a = .ok value)
    (column : String) :
    ∃ b, type.restore column (passage.carry value) = .ok b ∧ type.Alike passage a b ∧
      passage.carry value ≠ .null := by
  cases type with
  | integer width =>
    cases stored
    rw [passage.carry_other _ (by simp)]
    exact ⟨a, narrow_toStored column a, rfl, by simp⟩
  | boolean =>
    cases stored
    rw [passage.carry_other _ (by simp)]
    exact ⟨a, congrArg Except.ok (boolOfStored_storedBool a), rfl, by simp⟩
  | single =>
    cases stored
    obtain ⟨y, carried, same⟩ := passage.carry_single a storable
    rw [Value.ofSingle, carried]
    exact ⟨y.toSingle, rfl, same, by simp⟩
  | double =>
    cases stored
    obtain ⟨y, carried, same⟩ := passage.carry_double a storable
    rw [carried]
    exact ⟨y, rfl, same, by simp⟩
  | char =>
    cases stored
    rw [passage.carry_other _ (by simp [Value.ofChar])]
    exact ⟨a, by simp [restore, accessor, Accessor.ofValue, Accessor.ofValue?, Value.ofChar,
      ofAccessed, textToChar, bind, Except.bind], rfl, by simp [Value.ofChar]⟩
  | text =>
    cases stored
    rw [passage.carry_other _ (by simp)]
    exact ⟨a, rfl, rfl, by simp⟩
  | dateTime =>
    cases stored
    rw [passage.carry_other _ (by simp)]
    exact ⟨a, Instant.ofStored_toStored storable column, rfl, by simp⟩
  | bytes =>
    cases stored
    rw [passage.carry_other _ (by simp)]
    exact ⟨a, rfl, rfl, by simp⟩
  | object key =>
    unfold store at stored
    cases written : (objects.codec key).serialize a with
    | error fault => simp [written, Except.mapError, Except.map] at stored
    | ok bytes =>
      simp only [written, Except.mapError, Except.map, Except.ok.injEq] at stored
      subst stored
      rw [passage.carry_other _ (by simp)]
      have back := Codec.deserialize_serialize storable written
      refine ⟨a, ?_, rfl, by simp⟩
      simp [restore, accessor, Accessor.ofValue, Accessor.ofValue?, ofAccessed, bind, Except.bind,
        back, Except.mapError]

end PlainType

namespace FieldType

variable {type : FieldType objects} {a : type.Carrier} {value : Value}

/-- What was stored is restored alike, whatever way it came. -/
theorem restore_carried (storable : type.Storable passage a) (stored : type.store a = .ok value)
    (column : String) :
    ∃ b, type.restore column (passage.carry value) = .ok b ∧ type.Alike passage a b := by
  cases type with
  | plain type =>
    obtain ⟨b, restored, alike, -⟩ := PlainType.restore_carried storable stored column
    exact ⟨b, restored, alike⟩
  | optional type =>
    cases a with
    | none =>
      cases stored
      rw [passage.carry_other _ (by simp)]
      exact ⟨none, rfl, trivial⟩
    | some a =>
      obtain ⟨b, restored, alike, present⟩ := PlainType.restore_carried storable stored column
      refine ⟨some b, ?_, alike⟩
      simp only [restore, present, if_false, restored]
      rfl
  | relation declared => cases stored

end FieldType

end EntityTables
