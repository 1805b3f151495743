/-
# EntityTables.Proofs.Schema.TableNames — which types share the name of a table

The table of a type is named after its path, each separator turned into an underscore. An underscore
may also stand inside a name of the path, and then nothing tells the two apart: what is left of a
path are its words, the pieces of its names between underscores.

* `IsPath` — a path as its names joined by `::`; `wordsOf` — its words.
* `toList_tableName` — the table's name has all words of the path, joined by underscores.
* `tableName_inj_iff` — two paths have one table name exactly if they have the same words.
* `sameName_tableName_iff` — the same where ASCII case makes no difference, as in a database.
-/
import EntityTables.Schema.Basic
import EntityTables.Sql.Keyword
import Mathlib.Data.List.Basic

namespace EntityTables

set_option autoImplicit false

/-- A path is its names joined by `::`. No name has a separator in it, as no identifier has. -/
structure IsPath (names : List String) (path : String) : Prop where
  written : path = "::".intercalate names
  named : names ≠ []
  plain : ∀ name ∈ names, ':' ∉ name.toList ∧ '.' ∉ name.toList

/-- The words of names, each name spelled in some way: the pieces between underscores, in order. -/
def wordsOf (spelled : String → List Char) (names : List String) : List (List Char) :=
  names.flatMap fun name => (spelled name).splitOn '_'

/-! ## Separators -/

/-- Characters that begin no separator stay as they are. -/
theorem joinPath_append {name : List Char} (plain : ':' ∉ name ∧ '.' ∉ name) (rest : List Char) :
    joinPath (name ++ rest) = name ++ joinPath rest := by
  induction name with
  | nil => rfl
  | cons c name ih =>
    simp only [List.mem_cons, not_or] at plain
    obtain ⟨⟨colon, others⟩, period, more⟩ := plain
    rw [List.cons_append, joinPath, ih ⟨others, more⟩, List.cons_append]
    · intro behind same
      exact absurd same.symm colon
    · exact fun same => period same.symm

theorem joinPath_intercalate {names : List (List Char)}
    (plain : ∀ name ∈ names, ':' ∉ name ∧ '.' ∉ name) :
    joinPath ([':', ':'].intercalate names) = ['_'].intercalate names := by
  induction names with
  | nil => rfl
  | cons name rest ih =>
    have first := plain name List.mem_cons_self
    have behind := ih fun other member => plain other (List.mem_cons_of_mem name member)
    cases rest with
    | nil =>
      have whole := joinPath_append first []
      rw [List.append_nil] at whole
      simpa [joinPath] using whole
    | cons next more =>
      rw [List.intercalate_cons_cons, List.intercalate_cons_cons, List.append_assoc,
        joinPath_append first, ← behind]
      simp [joinPath]

/-- The name of a type's table is the names of the type's path, joined by underscores. -/
theorem toList_tableName {names : List String} {path : String} (is : IsPath names path) :
    (tableName path).toList = ['_'].intercalate (names.map String.toList) := by
  have plain : ∀ name ∈ names.map String.toList, ':' ∉ name ∧ '.' ∉ name := by
    intro name member
    obtain ⟨text, among, rfl⟩ := List.mem_map.mp member
    exact is.plain text among
  unfold tableName
  rw [String.toList_ofList, is.written, String.toList_intercalate]
  exact joinPath_intercalate plain

/-! ## Words -/

/-- Joining pieces by underscores and splitting again splits each piece. -/
theorem splitOn_intercalate_pieces {pieces : List (List Char)} (some : pieces ≠ []) :
    (['_'].intercalate pieces).splitOn '_' = pieces.flatMap (List.splitOn '_') := by
  induction pieces with
  | nil => exact absurd rfl some
  | cons piece rest ih =>
    cases rest with
    | nil => simp
    | cons next more =>
      rw [List.intercalate_cons_cons, List.append_assoc, List.singleton_append, List.flatMap_cons,
        ← ih (List.cons_ne_nil next more)]
      exact List.splitOnP_append_cons piece _ (beq_self_eq_true '_')

theorem intercalate_inj_iff {pieces others : List (List Char)} (some : pieces ≠ [])
    (more : others ≠ []) :
    ['_'].intercalate pieces = ['_'].intercalate others ↔
      pieces.flatMap (List.splitOn '_') = others.flatMap (List.splitOn '_') := by
  rw [← splitOn_intercalate_pieces some, ← splitOn_intercalate_pieces more]
  constructor
  · exact congrArg (List.splitOn '_')
  · intro same
    have joined (cs : List Char) : ['_'].intercalate (cs.splitOn '_') = cs :=
      List.intercalate_splitOn '_'
    rw [← joined (['_'].intercalate pieces), same, joined]

section Paths

variable {names others : List String} {path other : String}

/-- Two types have the same table exactly if the names of their paths have the same words. -/
theorem tableName_inj_iff (first : IsPath names path) (second : IsPath others other) :
    tableName path = tableName other ↔
      wordsOf String.toList names = wordsOf String.toList others := by
  rw [← String.toList_inj, toList_tableName first, toList_tableName second,
    intercalate_inj_iff (by simpa using first.named) (by simpa using second.named),
    List.flatMap_map, List.flatMap_map]
  rfl

/-- An underscore is neither upper nor lower case. -/
theorem map_toUpper_intercalate (pieces : List (List Char)) :
    (['_'].intercalate pieces).map Char.toUpper =
      ['_'].intercalate (pieces.map (List.map Char.toUpper)) := by
  have sign : Char.toUpper '_' = '_' := by decide
  induction pieces with
  | nil => rfl
  | cons piece rest ih =>
    cases rest with
    | nil => simp
    | cons next more =>
      rw [List.intercalate_cons_cons, List.map_append, List.map_append, ih]
      simp [List.intercalate_cons_cons, sign]

theorem foldCase_tableName (is : IsPath names path) :
    Sql.foldCase (tableName path) = ['_'].intercalate (names.map Sql.foldCase) := by
  unfold Sql.foldCase
  rw [toList_tableName is, map_toUpper_intercalate, List.map_map]
  rfl

/-- A database takes the tables of two types for one exactly if the names of their paths have the
same words up to ASCII case. -/
theorem sameName_tableName_iff (first : IsPath names path) (second : IsPath others other) :
    Sql.sameName (tableName path) (tableName other) = true ↔
      wordsOf Sql.foldCase names = wordsOf Sql.foldCase others := by
  unfold Sql.sameName
  rw [beq_iff_eq, foldCase_tableName first, foldCase_tableName second,
    intercalate_inj_iff (by simpa using first.named) (by simpa using second.named),
    List.flatMap_map, List.flatMap_map]
  rfl

end Paths

end EntityTables
