/-
# EntityTables.Proofs.Codec.Inversion — objects are read back from their bytes

A value becomes JSON, the JSON becomes text and the text becomes bytes, and each step is undone when
the bytes are read. Two kinds of types stand outside: a number that is not finite has no text, and
an option of an option has one text for two values.

* `JsonForm.IsInvertible` — the types that are read back, over any family of integer types.
* `JsonForm.IsValue` — what the lists of sets and maps have to be; a hashed one is a list in the
  order in which it is traversed, whatever that is.
* `JsonForm.ofJson?_toJson` — a value is read back from its JSON.
* `JsonForm.codec_inverts` — and from its bytes.
-/
import EntityTables.Codec.JsonBody
import EntityTables.Proofs.Action
import EntityTables.Proofs.Codec.Collections
import EntityTables.Proofs.Json.Text
import EntityTables.Proofs.Text.Utf8

namespace EntityTables

set_option autoImplicit false

/-! ## Integers -/

theorem digitsValue_toDigits (n : Nat) : digitsValue (Nat.toDigits 10 n) = n := foldl_toDigits n

/-- The digits of an integer are that integer. -/
theorem Numeral.toInt?_ofInt (i : Int) : (Numeral.ofInt i).toInt? = some i := by
  have digits := digitsValue_toDigits i.natAbs
  by_cases negative : i < 0
  · rw [Numeral.ofInt, decide_eq_true negative]
    show (if digitsValue (Nat.toDigits 10 i.natAbs) = 0 then none else _) = _
    rw [digits, if_neg (by omega)]
    exact congrArg some (by omega)
  · rw [Numeral.ofInt, decide_eq_false negative]
    show some (digitsValue (Nat.toDigits 10 i.natAbs) : Int) = _
    rw [digits]
    exact congrArg some (by omega)

/-- An integer is written alike as a number and as a text. -/
theorem toList_toString (i : Int) : (toString i).toList = (Numeral.ofInt i).chars := by
  rw [Json.chars_ofInt]
  by_cases negative : i < 0
  · have magnitude : (-i).toNat = i.natAbs := by omega
    rw [toString_of_neg negative, magnitude, if_pos negative, List.singleton_append]
  · have magnitude : i.toNat = i.natAbs := by omega
    rw [toString_of_nonneg (by omega), magnitude, if_neg negative, List.nil_append]

variable {ι : Type} [IntegerTypes ι]

/-- A value of an integer type is read from its digits, the least and the greatest as well. -/
theorem IntegerTypes.ofNumeral?_ofInt {type : ι} (i : Range type) :
    ofNumeral? type (.ofInt i.1) = some i := by
  unfold ofNumeral?
  rw [Numeral.toInt?_ofInt]
  exact dif_pos i.2

/-! ## Keys -/

theorem needsEscape_ofInt (i : Int) : (toString i).toList.any needsEscape = false := by
  rw [toList_toString]
  refine List.any_eq_false.mpr fun c member => ?_
  rcases Json.mem_chars_ofInt member with rfl | digit
  · decide
  · have low : 48 ≤ c.toNat := by
      simp only [Char.isDigit, Bool.and_eq_true, decide_eq_true_eq, ge_iff_le,
        UInt32.le_iff_toNat_le] at digit
      exact digit.1
    simp only [needsEscape, Bool.or_eq_true, beq_iff_eq, decide_eq_true_eq, not_or]
    refine ⟨⟨?_, ?_⟩, by omega⟩
    all_goals
      rintro rfl
      exact absurd digit (by decide)

/-- A key is read from its text. -/
theorem KeyForm.ofKey?_toText (type : KeyForm ι) (key : type.Carrier) :
    type.ofKey? (.ofText (type.toText key)) = some key := by
  cases type with
  | text => rfl
  | integer type =>
    show (if (toString key.1).toList.any needsEscape = true then none else _) = _
    rw [needsEscape_ofInt, if_neg (by decide)]
    show (Numeral.ofChars? (toString key.1).toList).bind _ = _
    rw [toList_toString, Json.ofChars?_ofInt, Option.bind_some, IntegerTypes.ofNumeral?_ofInt]

/-! ## Values -/

namespace JsonForm

/-- An optional value. -/
def isOption : JsonForm ι → Bool
  | option _ => true
  | _ => false

/-- A type no two of whose values are written alike. -/
def IsInvertible : JsonForm ι → Prop
  | text | boolean | integer _ => True
  | double => False
  | option element => element.isOption = false ∧ element.IsInvertible
  | vector element | deque element | treeSet element | hashSet element => element.IsInvertible
  | treeMap _ value | hashMap _ value => value.IsInvertible

/-- A value that its type can have: trees are ascending, and nothing is twice in a set or twice a
key of a map. -/
def IsValue : (type : JsonForm ι) → type.Carrier → Prop
  | text, _ | boolean, _ | integer _, _ | double, _ => True
  | option element, a? => ∀ a ∈ a?, element.IsValue a
  | vector element, as | deque element, as => ∀ a ∈ as, element.IsValue a
  | treeSet element, as => (∀ a ∈ as, element.IsValue a) ∧ as.Pairwise (element.order · · = .lt)
  | hashSet element, as => (∀ a ∈ as, element.IsValue a) ∧ as.Nodup
  | treeMap key value, entries =>
    (∀ entry ∈ entries, value.IsValue entry.2) ∧ entries.Pairwise (key.order ·.1 ·.1 = .lt)
  | hashMap _ value, entries =>
    (∀ entry ∈ entries, value.IsValue entry.2) ∧ (entries.map Prod.fst).Nodup

/-- What is written for a value is put together from texts, integers, truth values and nulls. -/
theorem isPlain_toJson {type : JsonForm ι} (invertible : type.IsInvertible) (a : type.Carrier) :
    (type.toJson a).IsPlain := by
  induction type with
  | text => exact .text a
  | boolean => exact .bool a
  | integer type => exact .int a.1
  | double => cases invertible
  | option element ih =>
    cases a with
    | none => exact .null
    | some a => exact ih invertible.2 a
  | vector element ih | deque element ih | treeSet element ih | hashSet element ih =>
    exact .array (List.forall_mem_map.mpr fun member _ => ih invertible member)
  | treeMap key value ih | hashMap key value ih =>
    exact .record (List.forall_mem_map.mpr fun entry _ => ih invertible entry.2)

/-- Only a missing value is written as null. -/
theorem toJson_ne_null {type : JsonForm ι} (invertible : type.IsInvertible)
    (given : type.isOption = false) (a : type.Carrier) : type.toJson a ≠ .null := by
  cases type with
  | double => cases invertible
  | option element => cases given
  | _ => exact Json.noConfusion

/-- The entries of a map are read from its object. -/
theorem entriesOfJson?_record (key : KeyForm ι) {value : JsonForm ι}
    {entries : List (key.Carrier × value.Carrier)}
    (reads : ∀ entry ∈ entries, value.ofJson? (value.toJson entry.2) = some entry.2) :
    entriesOfJson? key.ofKey? value.ofJson?
      (.record (entries.map fun entry => (key.toText entry.1, value.toJson entry.2))) =
        some entries := by
  show ((entries.map _).map _).mapM _ = some entries
  rw [List.map_map, mapM_eq_some_iff, List.forall₂_map_left_iff, List.forall₂_same]
  intro entry member
  simp [KeyForm.ofKey?_toText, reads entry member]

/-- Elements are read one by one. -/
theorem mapM_ofJson? {element : JsonForm ι} {as : List element.Carrier}
    (reads : ∀ a ∈ as, element.ofJson? (element.toJson a) = some a) :
    (as.map element.toJson).mapM element.ofJson? = some as := by
  rw [mapM_eq_some_iff, List.forall₂_map_left_iff, List.forall₂_same]
  exact reads

/-- A value is read back from its JSON. -/
theorem ofJson?_toJson {type : JsonForm ι} (invertible : type.IsInvertible) {a : type.Carrier}
    (is : type.IsValue a) : type.ofJson? (type.toJson a) = some a := by
  induction type with
  | text => rfl
  | boolean => rfl
  | integer type => exact IntegerTypes.ofNumeral?_ofInt a
  | double => cases invertible
  | option element ih =>
    cases a with
    | none => rfl
    | some a =>
      have given := toJson_ne_null invertible.2 invertible.1 a
      have read := ih invertible.2 (is a rfl)
      rw [toJson, ofJson?, read, Option.map_some]
      exact given
  | vector element ih | deque element ih =>
    exact mapM_ofJson? fun b member => ih invertible (is b member)
  | treeSet element ih =>
    have read := mapM_ofJson? fun b member => ih invertible (is.1 b member)
    simp [toJson, ofJson?, Json.array?, read, treeSetOf_ascending is.2]
  | hashSet element ih =>
    have read := mapM_ofJson? fun b member => ih invertible (is.1 b member)
    simp [toJson, ofJson?, Json.array?, read, hashSetOf_nodup is.2]
  | treeMap key value ih =>
    have read := entriesOfJson?_record key fun b member => ih invertible (is.1 b member)
    simp [toJson, ofJson?, read, treeMapOf_ascending is.2]
  | hashMap key value ih =>
    have read := entriesOfJson?_record key fun b member => ih invertible (is.1 b member)
    simp [toJson, ofJson?, read, hashMapOf_nodup is.2]

end JsonForm

/-- A codec whose bodies are plain JSON that is read back also reads its own bytes back. -/
theorem jsonCodec_inverts {α : Type} (typeName : String) {toJson : α → Json}
    {ofJson? : Json → Option α} {a : α} (plain : (toJson a).IsPlain)
    (reads : ofJson? (toJson a) = some a) :
    ∃ bytes, (jsonCodec typeName toJson ofJson?).serialize a = .ok bytes ∧
      (jsonCodec typeName toJson ofJson?).deserialize bytes = .ok a := by
  refine ⟨_, rfl, Codec.deserialize_serialize (fun body written => ?_) rfl⟩
  cases written
  simp only [jsonCodec, Utf8.scan_encode, plain.ofScan?, Option.bind_some, reads]

/-- Whatever integer types there are, a value of a type without floats, and without an option of an
option, always has bytes, and they are read as the same value. The list of a hashed set or map may
be any without repetition, so the order in which it was traversed does not matter. -/
theorem JsonForm.codec_inverts {type : JsonForm ι} (invertible : type.IsInvertible)
    {a : type.Carrier} (is : type.IsValue a) :
    ∃ bytes, type.codec.serialize a = .ok bytes ∧ type.codec.deserialize bytes = .ok a :=
  jsonCodec_inverts type.typeName (isPlain_toJson invertible a) (ofJson?_toJson invertible is)

/-- Texts with every kind of escape, the limits of the widest integers as keys and as members, and
missing values among the rest. -/
theorem JsonForm.codec_inverts_limits :
    let type : JsonForm FixedWidth :=
      .hashMap (.integer .uint128) (.deque (.option (.treeMap .text (.treeSet (.integer .int128)))))
    let limits : List (IntegerTypes.Range FixedWidth.int128) :=
      [⟨-2 ^ 127, by decide⟩, ⟨2 ^ 127 - 1, by decide⟩]
    let a : type.Carrier :=
      [(⟨2 ^ 128 - 1, by decide⟩, [none, some [("", []), ("\"\\/\n\x00\x7fé😀", limits)]]),
        (⟨0, by decide⟩, [])]
    type.IsInvertible ∧ type.IsValue a ∧
      ∃ bytes, type.codec.serialize a = .ok bytes ∧ type.codec.deserialize bytes = .ok a := by
  intro type limits a
  have invertible : type.IsInvertible := ⟨rfl, trivial⟩
  have is : type.IsValue a := by
    simp only [type, limits, a, JsonForm.IsValue, List.forall_mem_cons, List.not_mem_nil, false_implies,
      implies_true, and_true, Option.mem_some_iff, forall_eq']
    decide
  exact ⟨invertible, is, JsonForm.codec_inverts invertible is⟩

end EntityTables
