/-
# EntityTables.Value.RowValues — values by column name, in the order they were first put

A name occurs once. Putting a value under a name already there replaces it in place; a name that
was removed and is put again goes to the end.

* `RowValues.put`, `get?`, `remove`, `ofPairs`; `entries` is the view the lemmas speak of.
* `get?_put` — a put is seen under its own name and no other.
-/
import EntityTables.Value.Basic

namespace EntityTables

set_option autoImplicit false

/-- A list of pairs with one value replaced in place, or a new pair at its end. -/
def putPair (name : String) (value : Value) : List (String × Value) → List (String × Value)
  | [] => [(name, value)]
  | (other, old) :: rest =>
    if other = name then (other, value) :: rest else (other, old) :: putPair name value rest

/-- A list of pairs without the first one of a name. -/
def removePair (name : String) : List (String × Value) → List (String × Value)
  | [] => []
  | (other, old) :: rest => if other = name then rest else (other, old) :: removePair name rest

/-- The value of the first pair of a name. -/
def findPair? (name : String) : List (String × Value) → Option Value
  | [] => none
  | (other, value) :: rest => if other = name then some value else findPair? name rest

theorem map_fst_putPair (name : String) (value : Value) (pairs : List (String × Value)) :
    (putPair name value pairs).map Prod.fst =
      if name ∈ pairs.map Prod.fst then pairs.map Prod.fst else pairs.map Prod.fst ++ [name] := by
  induction pairs with
  | nil => simp [putPair]
  | cons pair rest ih =>
    obtain ⟨other, old⟩ := pair
    simp only [putPair]
    split
    · next same => simp [same]
    · next different =>
      simp only [List.map_cons, ih, List.mem_cons]
      have : ¬ name = other := fun same => different same.symm
      simp only [this, false_or]
      split <;> simp

theorem nodup_putPair {name : String} {value : Value} {pairs : List (String × Value)}
    (h : (pairs.map Prod.fst).Nodup) : ((putPair name value pairs).map Prod.fst).Nodup := by
  rw [map_fst_putPair]
  split
  · exact h
  · next fresh =>
    rw [List.nodup_append]
    refine ⟨h, by simp, ?_⟩
    intro a member b single
    rw [List.mem_singleton.mp single]
    rintro rfl
    exact fresh member

theorem removePair_sublist (name : String) (pairs : List (String × Value)) :
    (removePair name pairs).Sublist pairs := by
  induction pairs with
  | nil => simp [removePair]
  | cons pair rest ih =>
    simp only [removePair]
    split
    · exact List.sublist_cons_self ..
    · exact ih.cons_cons _

theorem nodup_removePair {name : String} {pairs : List (String × Value)}
    (h : (pairs.map Prod.fst).Nodup) : ((removePair name pairs).map Prod.fst).Nodup :=
  ((removePair_sublist name pairs).map Prod.fst).nodup h

/-- Values by column name, each name once, in insertion order. -/
structure RowValues where
  entries : List (String × Value)
  distinct : (entries.map Prod.fst).Nodup
  deriving DecidableEq

namespace RowValues

/-- No values. -/
def empty : RowValues := ⟨[], by simp⟩

instance : Inhabited RowValues := ⟨empty⟩

/-- Puts a value under a name, in place of an earlier one. -/
def put (values : RowValues) (name : String) (value : Value) : RowValues :=
  ⟨putPair name value values.entries, nodup_putPair values.distinct⟩

/-- The value under a name. -/
def get? (values : RowValues) (name : String) : Option Value := findPair? name values.entries

/-- Whether there is a value under a name. -/
def contains (values : RowValues) (name : String) : Bool := (values.get? name).isSome

/-- The values without that of a name. -/
def erase (values : RowValues) (name : String) : RowValues :=
  ⟨removePair name values.entries, nodup_removePair values.distinct⟩

/-- Takes the value of a name out. -/
def remove (values : RowValues) (name : String) : Option Value × RowValues :=
  (values.get? name, values.erase name)

/-- How many names there are. -/
def size (values : RowValues) : Nat := values.entries.length

/-- Whether there are none. -/
def isEmpty (values : RowValues) : Bool := values.entries.isEmpty

/-- The names, in order. -/
def columns (values : RowValues) : List String := values.entries.map Prod.fst

/-- The values, in the order of their names. -/
def values (rowValues : RowValues) : List Value := rowValues.entries.map Prod.snd

/-- The pairs put one after the other. -/
def ofPairs (pairs : List (String × Value)) : RowValues :=
  pairs.foldl (fun values pair => values.put pair.1 pair.2) empty

theorem findPair?_putPair (name other : String) (value : Value) (pairs : List (String × Value)) :
    findPair? other (putPair name value pairs) =
      if other = name then some value else findPair? other pairs := by
  induction pairs with
  | nil =>
    by_cases same : other = name
    · simp [putPair, findPair?, same]
    · have : ¬ name = other := fun h => same h.symm
      simp [putPair, findPair?, same, this]
  | cons pair rest ih =>
    obtain ⟨first, old⟩ := pair
    by_cases same : first = name
    · by_cases asked : other = name
      · simp [putPair, findPair?, same, asked]
      · have : ¬ name = other := fun h => asked h.symm
        simp [putPair, findPair?, same, asked, this]
    · by_cases asked : first = other
      · have : ¬ other = name := fun h => same (asked.trans h)
        simp [putPair, findPair?, asked, this]
      · simp [putPair, findPair?, same, asked, ih]

@[simp] theorem get?_put (values : RowValues) (name other : String) (value : Value) :
    (values.put name value).get? other = if other = name then some value else values.get? other :=
  findPair?_putPair name other value values.entries

end RowValues

end EntityTables
