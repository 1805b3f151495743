/-
# EntityTables.Codec.JsonType — types with a JSON form

Texts, truth values, integers and double precision numbers, optional values, sequences, sets and
maps of them. A set or map is either a tree, kept in ascending order, or hashed, kept in the order
in which a traversal meets its members, whatever that order is. An object may hold integers that no
column has room for, so which integer types there are is left open.

* `IntegerTypes` — a family of integer types; those of columns, and `FixedWidth`.
* `JsonForm`, `KeyForm` — types over a family; `JsonType`, `KeyType` — over the types of columns.
* `JsonForm.Carrier` — the values of a type; `JsonForm.order` — the order of trees.
* `JsonForm.typeName` — the full name of a type, for messages.
-/
import EntityTables.Value.Conversion

namespace EntityTables

set_option autoImplicit false

/-- A family of integer types, each with its range. -/
class IntegerTypes (ι : Type) where
  name : ι → String
  least : ι → Int
  greatest : ι → Int
  least_le_zero : ∀ type, least type ≤ 0
  zero_le_greatest : ∀ type, 0 ≤ greatest type
  /-- Whether a zero with a sign is read as a zero; most types take it for no integer. -/
  readsSignedZero : ι → Bool

namespace IntegerTypes

variable {ι : Type} [IntegerTypes ι]

/-- The value lies in the type's range. -/
def Holds (type : ι) (i : Int) : Prop := least type ≤ i ∧ i ≤ greatest type

instance (type : ι) (i : Int) : Decidable (Holds type i) := inferInstanceAs (Decidable (_ ∧ _))

/-- Every type holds zero. -/
theorem holds_zero (type : ι) : Holds type 0 := ⟨least_le_zero type, zero_le_greatest type⟩

/-- The values of an integer type. -/
abbrev Range (type : ι) : Type := { i : Int // Holds type i }

end IntegerTypes

instance : IntegerTypes IntType where
  name := IntType.name
  least := IntType.least
  greatest := IntType.greatest
  least_le_zero type := type.holds_zero.1
  zero_le_greatest type := type.holds_zero.2
  readsSignedZero _ := false

/-- All integer types of a fixed width: those of columns, and three that no column has room for. -/
inductive FixedWidth where
  | column (type : IntType)
  | uint64
  | int128
  | uint128
  deriving DecidableEq, Inhabited

instance : IntegerTypes FixedWidth where
  name
    | .column type => type.name
    | .uint64 => "u64"
    | .int128 => "i128"
    | .uint128 => "u128"
  least
    | .column type => type.least
    | .int128 => -170141183460469231731687303715884105728
    | .uint64 | .uint128 => 0
  greatest
    | .column type => type.greatest
    | .uint64 => 18446744073709551615
    | .int128 => 170141183460469231731687303715884105727
    | .uint128 => 340282366920938463463374607431768211455
  least_le_zero
    | .column type => type.holds_zero.1
    | .uint64 | .int128 | .uint128 => by decide
  zero_le_greatest
    | .column type => type.holds_zero.2
    | .uint64 | .int128 | .uint128 => by decide
  readsSignedZero type := type = .int128

/-- The forms of map keys. -/
inductive KeyForm (ι : Type) where
  | text
  | integer (type : ι)
  deriving DecidableEq, Inhabited

/-- Types with a JSON form. -/
inductive JsonForm (ι : Type) where
  | text
  | boolean
  | integer (type : ι)
  | double
  | option (element : JsonForm ι)
  | vector (element : JsonForm ι)
  | deque (element : JsonForm ι)
  | treeSet (element : JsonForm ι)
  | hashSet (element : JsonForm ι)
  | treeMap (key : KeyForm ι) (value : JsonForm ι)
  | hashMap (key : KeyForm ι) (value : JsonForm ι)
  deriving DecidableEq, Inhabited

/-- The types of map keys, with the integers of columns. -/
abbrev KeyType : Type := KeyForm IntType

/-- Types with a JSON form, with the integers of columns. -/
abbrev JsonType : Type := JsonForm IntType

section

variable {ι : Type} [IntegerTypes ι]

/-- The keys of a type. -/
@[reducible] def KeyForm.Carrier : KeyForm ι → Type
  | .text => String
  | .integer type => IntegerTypes.Range type

/-- The values of a type. -/
@[reducible] def JsonForm.Carrier : JsonForm ι → Type
  | .text => String
  | .boolean => Bool
  | .integer type => IntegerTypes.Range type
  | .double => Double
  | .option element => Option element.Carrier
  | .vector element | .deque element | .treeSet element | .hashSet element => List element.Carrier
  | .treeMap key value | .hashMap key value => List (key.Carrier × value.Carrier)

/-- The value that a type starts with: empty, zero, or none. -/
def JsonForm.initial : (type : JsonForm ι) → type.Carrier
  | .text => ""
  | .boolean => false
  | .integer type => ⟨0, IntegerTypes.holds_zero type⟩
  | .double => ⟨0⟩
  | .option _ => none
  | .vector _ | .deque _ | .treeSet _ | .hashSet _ | .treeMap _ _ | .hashMap _ _ => []

/-- The full name of a key type. -/
def KeyForm.typeName : KeyForm ι → String
  | text => "alloc::string::String"
  | integer type => IntegerTypes.name type

/-- The full name of a type. -/
def JsonForm.typeName : JsonForm ι → String
  | text => "alloc::string::String"
  | boolean => "bool"
  | integer type => IntegerTypes.name type
  | double => "f64"
  | option element => "core::option::Option<" ++ element.typeName ++ ">"
  | vector element => "alloc::vec::Vec<" ++ element.typeName ++ ">"
  | deque element => "alloc::collections::vec_deque::VecDeque<" ++ element.typeName ++ ">"
  | treeSet element => "alloc::collections::btree::set::BTreeSet<" ++ element.typeName ++ ">"
  | hashSet element => "std::collections::hash::set::HashSet<" ++ element.typeName ++ ">"
  | treeMap key value =>
      "alloc::collections::btree::map::BTreeMap<" ++ key.typeName ++ ", " ++ value.typeName ++ ">"
  | hashMap key value =>
      "std::collections::hash::map::HashMap<" ++ key.typeName ++ ", " ++ value.typeName ++ ">"

end

/-- Lists compared by their first difference, a beginning before the whole. -/
def compareLists {α : Type} (order : α → α → Ordering) : List α → List α → Ordering
  | [], [] => .eq
  | [], _ :: _ => .lt
  | _ :: _, [] => .gt
  | a :: as, b :: bs => (order a b).then (compareLists order as bs)

section

variable {ι : Type} [IntegerTypes ι]

/-- The order of keys: texts by code point, integers by value. -/
def KeyForm.order : (type : KeyForm ι) → type.Carrier → type.Carrier → Ordering
  | .text, a, b => compareOfLessAndEq a b
  | .integer _, a, b => compare a.1 b.1

/-- The order of values: nothing before something, sequences by their first difference. Numbers
that are not integers have no order of their own; their bits serve. -/
def JsonForm.order : (type : JsonForm ι) → type.Carrier → type.Carrier → Ordering
  | .text, a, b => compareOfLessAndEq a b
  | .boolean, a, b => compare a.toNat b.toNat
  | .integer _, a, b => compare a.1 b.1
  | .double, a, b => compare a.bits.toNat b.bits.toNat
  | .option _, none, none => .eq
  | .option _, none, some _ => .lt
  | .option _, some _, none => .gt
  | .option element, some a, some b => element.order a b
  | .vector element, a, b | .deque element, a, b | .treeSet element, a, b
  | .hashSet element, a, b => compareLists element.order a b
  | .treeMap key value, a, b | .hashMap key value, a, b =>
    compareLists (fun x y => (key.order x.1 y.1).then (value.order x.2 y.2)) a b

end

/-- Adds a member to an ascending list, unless it is there. -/
def insertMember {α : Type} (order : α → α → Ordering) (a : α) : List α → List α
  | [] => [a]
  | b :: rest =>
    match order a b with
    | .lt => a :: b :: rest
    | .eq => b :: rest
    | .gt => b :: insertMember order a rest

/-- Sets a key's value in a list ascending by key. -/
def insertEntry {α β : Type} (order : α → α → Ordering) (key : α) (value : β) :
    List (α × β) → List (α × β)
  | [] => [(key, value)]
  | (other, old) :: rest =>
    match order key other with
    | .lt => (key, value) :: (other, old) :: rest
    | .eq => (other, value) :: rest
    | .gt => (other, old) :: insertEntry order key value rest

/-- Adds a member at the end, unless it is there. -/
def addMember {α : Type} (order : α → α → Ordering) (a : α) : List α → List α
  | [] => [a]
  | b :: rest => if order a b = .eq then b :: rest else b :: addMember order a rest

/-- Sets a key's value in place, or adds the key at the end. -/
def addEntry {α β : Type} (order : α → α → Ordering) (key : α) (value : β) :
    List (α × β) → List (α × β)
  | [] => [(key, value)]
  | (other, old) :: rest =>
    if order key other = .eq then (other, value) :: rest
    else (other, old) :: addEntry order key value rest

/-- The tree set of members in any order. -/
def treeSetOf {α : Type} (order : α → α → Ordering) (members : List α) : List α :=
  members.foldl (fun set a => insertMember order a set) []

/-- The tree map of entries in any order; of two with one key the later counts. -/
def treeMapOf {α β : Type} (order : α → α → Ordering) (entries : List (α × β)) : List (α × β) :=
  entries.foldl (fun map entry => insertEntry order entry.1 entry.2 map) []

/-- The hashed set of members, in the order in which they first come. -/
def hashSetOf {α : Type} (order : α → α → Ordering) (members : List α) : List α :=
  members.foldl (fun set a => addMember order a set) []

/-- The hashed map of entries; of two with one key the later counts. -/
def hashMapOf {α β : Type} (order : α → α → Ordering) (entries : List (α × β)) : List (α × β) :=
  entries.foldl (fun map entry => addEntry order entry.1 entry.2 map) []

end EntityTables
