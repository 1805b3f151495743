/-
# EntityTables.Proofs.Schema.Stored — schemas survive their text

A part that is left out when a schema is written is filled in by the reader as it was, and every
label is read as what it was written for. So a schema is the one that is read from its text,
whatever its names and paths are made of and whether or not its columns go together.

* `Json.fields?_record` — what an object gives for the fields of a structure.
* `Schema.ofJson?_toJson`, `Schema.ofText?_stored` — a schema from its JSON, from its text.
-/
import EntityTables.Proofs.Action
import EntityTables.Proofs.Json.Text
import EntityTables.Schema.Stored

namespace EntityTables

set_option autoImplicit false

/-! ## Objects -/

theorem Json.textMembers?_record (members : List (String × Json)) :
    (Json.record members).textMembers? = some members := by
  show (members.map _).mapM _ = some members
  rw [mapM_eq_some_iff, List.forall₂_map_left_iff, List.forall₂_same]
  exact fun _ _ => rfl

/-- What is given for the fields of an object. -/
theorem Json.fields?_record (names : List String) (members : List (String × Json)) :
    (Json.record members).fields? names = names.mapM (single? members) := by
  show (Json.record members).textMembers?.bind _ = _
  rw [textMembers?_record, Option.bind_some]

/-! ## Parts of a schema -/

theorem DeclaredType.isPlain_toJson (declared : DeclaredType) : declared.toJson.IsPlain := by
  unfold toJson
  split
  · exact .text _
  · exact .record (by simp [Json.IsPlain.text])

theorem DeclaredType.ofJson?_toJson (declared : DeclaredType) :
    ofJson? declared.toJson = some declared := by
  unfold toJson
  split
  · next label same =>
    have plain := ofPlainLabel?_label (congrArg Prod.snd same)
    rwa [same] at plain
  · next label path same =>
    have carried := ofPathLabel?_label (congrArg Prod.snd same)
    rwa [same] at carried

theorem ColumnKind.ofJson?_toJson (kind : ColumnKind) : ofJson? kind.toJson = some kind :=
  ofLabel?_label kind

namespace Column

theorem isPlain_toJson (column : Column) : column.toJson.IsPlain := by
  refine .record ?_
  cases column.field? <;>
    simp [Json.IsPlain.text, Json.IsPlain.bool, ColumnKind.toJson,
      column.declaredType.isPlain_toJson]

/-- A column is read from its JSON, with its field or without. -/
theorem ofJson?_toJson (column : Column) : ofJson? column.toJson = some column := by
  obtain ⟨name, field?, declared, kind, nullable⟩ := column
  unfold ofJson? toJson
  rw [Json.fields?_record]
  cases field? <;>
    simp [fieldNames, Json.single?, Json.required, Json.optional, Json.defaulted, Json.text,
      Json.text?, Json.bool?, DeclaredType.ofJson?_toJson, ColumnKind.ofJson?_toJson]

end Column

/-! ## Schemas -/

namespace Schema

theorem isPlain_toJson (schema : Schema) : schema.toJson.IsPlain := by
  have columns : (Json.array (schema.columns.map Column.toJson)).IsPlain :=
    .array (List.forall_mem_map.mpr fun column _ => column.isPlain_toJson)
  refine .record ?_
  cases schema.parent? <;> simp [Json.IsPlain.text, columns]

theorem columnsOfJson?_toJson (columns : List Column) :
    columnsOfJson? (.array (columns.map Column.toJson)) = some columns := by
  show (columns.map Column.toJson).mapM Column.ofJson? = some columns
  rw [mapM_eq_some_iff, List.forall₂_map_left_iff, List.forall₂_same]
  exact fun column _ => column.ofJson?_toJson

/-- A schema is read from its JSON, with a parent or without. -/
theorem ofJson?_toJson (schema : Schema) : ofJson? schema.toJson = some schema := by
  obtain ⟨target, identity, columns, parent?⟩ := schema
  unfold ofJson? toJson
  rw [Json.fields?_record]
  cases parent? <;>
    simp [fieldNames, Json.single?, Json.required, Json.optional, Json.text, Json.text?,
      columnsOfJson?_toJson]

theorem ofText?_of_chars {schema : Schema} {text : String}
    (written : schema.toJson.chars = text.toList) : ofText? text = some schema := by
  unfold ofText? Json.ofText?
  rw [← written, schema.isPlain_toJson.ofScan?, Option.bind_some, ofJson?_toJson]

/-- A schema is read from its text, whatever its columns and texts are. -/
theorem ofText?_stored (schema : Schema) : ofText? schema.stored = some schema :=
  ofText?_of_chars String.toList_ofList.symm

end Schema

end EntityTables
