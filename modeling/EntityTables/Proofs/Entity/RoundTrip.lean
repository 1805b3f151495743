/-
# EntityTables.Proofs.Entity.RoundTrip — records written and read back

A record is written as one column value for each mapped column of its schema, and read back from any
row that has these values, whatever else the row has and in whatever order.

* `EntityType.IsFor` — an entity type made for a compiled schema.
* `IsFor.encode_spec` — the column values of a record.
* `IsFor.decode_spec` — the record of a row, as far as each column is restored.
* `decode_encode` — the two together.
-/
import EntityTables.Proofs.Entity.Fields
import EntityTables.Proofs.Entity.Passage
import EntityTables.Proofs.Schema.Definition
import Mathlib.Data.List.Nodup

namespace EntityTables

set_option autoImplicit false

variable {objects : Objects}

/-! ## Columns as they are made -/

namespace Column

theorem isPlain_ofField (name : String) (declared : DeclaredType) :
    (ofField name declared).IsPlain := rfl

theorem IsPlain.withField {column : Column} (plain : column.IsPlain) (field : String) :
    (column.withField field).IsPlain := plain

theorem IsPlain.makeNullable {column : Column} (plain : column.IsPlain) :
    column.makeNullable.IsPlain := plain

/-- Whether the column belongs to a field of the record, and does not refer to a parent. -/
def hasField (column : Column) : Bool := column.kind != .oneToManyChildMarker

end Column

/-- An entity type is for a schema: the columns of the schema are of the kinds that their types
imply, no two of them share a field, and records, writes and reads are those of the columns. -/
structure EntityType.IsFor (entity : EntityType objects) (schema : Schema) (compiled : Compiled) :
    Prop where
  compiles : schema.compile = .ok compiled
  plain : ∀ column ∈ schema.columns, column.hasField = true → column.IsPlain
  distinct : ((schema.columns.filter Column.hasField).map Column.field).Nodup
  layout_eq : Layout.ofColumns? schema.columns = some entity.layout
  initial_eq : entity.initial = Fields.initial entity.layout
  identity_eq : entity.code.identity = schema.identity
  writes_eq : entity.code.writes = compiled.mapped.map Adapter.Write.ofPlan
  reads_eq : entity.code.reads = compiled.mapped.map Adapter.Read.ofPlan

/-- The entity type of a compiled schema is for that schema. -/
theorem EntityType.isFor_of_ofCompiled? {schema : Schema} {compiled : Compiled} {path : String}
    {parentPath? : Option String} {entity : EntityType objects}
    (compiles : schema.compile = .ok compiled)
    (plain : ∀ column ∈ schema.columns, column.hasField = true → column.IsPlain)
    (distinct : ((schema.columns.filter Column.hasField).map Column.field).Nodup)
    (made : EntityType.ofCompiled? compiled path parentPath? = some entity) :
    entity.IsFor schema compiled := by
  obtain ⟨layout, known, same⟩ := Option.map_eq_some_iff.mp made
  have source := (Schema.compile_eq_ok_iff.mp compiles).2.2.1
  subst same
  subst source
  exact ⟨compiles, plain, distinct, known, rfl, rfl, rfl, rfl⟩

namespace EntityType.IsFor

variable {entity : EntityType objects} {schema : Schema} {compiled : Compiled}

/-- The fields of a record are those of its columns, in order. -/
theorem layout_spec (made : entity.IsFor schema compiled) :
    List.Forall₂ (fun column entry => ∃ type, FieldType.ofColumn? column = some type ∧
        (column.field, type) = entry)
      (schema.columns.filter Column.hasField) entity.layout := by
  have known := mapM_eq_some_iff.mp made.layout_eq
  refine known.imp fun column entry found => ?_
  obtain ⟨type, known, same⟩ := Option.map_eq_some_iff.mp found
  exact ⟨type, known, same⟩

theorem names_eq (made : entity.IsFor schema compiled) :
    entity.layout.map Prod.fst = (schema.columns.filter Column.hasField).map Column.field := by
  have spec := made.layout_spec
  generalize schema.columns.filter Column.hasField = columns at spec
  generalize entity.layout = layout at spec
  induction spec with
  | nil => rfl
  | cons first _ ih =>
    obtain ⟨type, -, rfl⟩ := first
    simp [ih]

theorem names_nodup (made : entity.IsFor schema compiled) :
    (entity.layout.map Prod.fst).Nodup := made.names_eq ▸ made.distinct

/-- Every field has a column, whose type it has. -/
theorem exists_column (made : entity.IsFor schema compiled) {name : String}
    {type : FieldType objects} (member : (name, type) ∈ entity.layout) :
    ∃ column ∈ schema.columns, column.hasField = true ∧ column.field = name ∧
      FieldType.ofColumn? column = some type := by
  obtain ⟨column, among, found, known, same⟩ := exists_left_of_mem made.layout_spec member
  obtain ⟨declared, kept⟩ := List.mem_filter.mp among
  cases same
  exact ⟨column, declared, kept, rfl, known⟩

/-! ### Mapped columns -/

/-- What is known of the plan of a mapped column. -/
theorem mapped_spec (made : entity.IsFor schema compiled) {plan : ColumnPlan}
    (member : plan ∈ compiled.mapped) :
    plan.column ∈ schema.columns ∧ plan.column.hasField = true ∧ plan.isMapped = true ∧
      plan.column.declaredType.resolve? = some (plan.storage, plan.reader) := by
  obtain ⟨among, mapped⟩ := List.mem_filter.mp member
  obtain ⟨columns, resolved⟩ :=
    Schema.plans_eq_ok_iff.mp (Schema.compile_eq_ok_iff.mp made.compiles).2.1
  refine ⟨columns ▸ List.mem_map_of_mem among, ?_, mapped, resolved plan among⟩
  have single := ColumnPlan.isMapped_iff.mp mapped
  unfold Column.hasField
  cases kind : plan.column.kind with
  | oneToManyChildMarker =>
    rw [kind] at single
    cases single
  | _ => rfl

/-- The field of a mapped column has the type that the column declares. -/
theorem field_spec (made : entity.IsFor schema compiled) {plan : ColumnPlan}
    (member : plan ∈ compiled.mapped) (fields : Fields entity.layout) :
    ∃ type a, Fields.field? plan.column.field entity.layout fields = some ⟨type, a⟩ ∧
      FieldType.ofColumn? plan.column = some type := by
  obtain ⟨among, kept, -, -⟩ := made.mapped_spec member
  have named : plan.column.field ∈ entity.layout.map Prod.fst := by
    rw [made.names_eq]
    exact List.mem_map_of_mem (List.mem_filter.mpr ⟨among, kept⟩)
  obtain ⟨⟨type, a⟩, found⟩ := Fields.exists_field? named fields
  obtain ⟨column, other, fits, same, known⟩ := made.exists_column (Fields.mem_of_field? found)
  have unique : column = plan.column :=
    List.inj_on_of_nodup_map made.distinct (List.mem_filter.mpr ⟨other, fits⟩)
      (List.mem_filter.mpr ⟨among, kept⟩) same
  exact ⟨type, a, found, unique ▸ known⟩

theorem mapped_columns (made : entity.IsFor schema compiled) :
    compiled.mapped.map ColumnPlan.column =
      schema.columns.filter fun column => !column.kind.isRelation :=
  Compiled.map_column_mapped made.compiles

/-- The columns of a compiled schema have different names, none of them the identity's. -/
theorem names_of_compiles (compiles : schema.compile = .ok compiled) :
    (schema.identity :: schema.columns.map Column.name).Nodup := by
  have checked := (Schema.compile_eq_ok_iff.mp compiles).1
  unfold Schema.check at checked
  split at checked
  · cases checked
  · split at checked
    · cases checked
    · obtain ⟨apart, -, distinct⟩ := Schema.checkColumns_eq_ok_iff.mp checked
      exact List.nodup_cons.mpr ⟨apart, distinct⟩

theorem mapped_names_nodup (made : entity.IsFor schema compiled) :
    (schema.identity :: compiled.mapped.map fun plan => plan.column.name).Nodup := by
  have all := names_of_compiles made.compiles
  have names : (compiled.mapped.map fun plan => plan.column.name) =
      (schema.columns.filter fun column => !column.kind.isRelation).map Column.name := by
    rw [← made.mapped_columns, List.map_map]
    rfl
  rw [names]
  exact all.sublist ((List.filter_sublist.map Column.name).cons_cons _)

end EntityType.IsFor

/-! ## Writing -/

theorem putPair_of_fresh {name : String} {value : Value} {pairs : List (String × Value)}
    (fresh : name ∉ pairs.map Prod.fst) : putPair name value pairs = pairs ++ [(name, value)] := by
  induction pairs with
  | nil => rfl
  | cons pair rest ih =>
    obtain ⟨other, old⟩ := pair
    rw [List.map_cons, List.mem_cons, not_or] at fresh
    rw [putPair, if_neg (fun same => fresh.1 same.symm), ih fresh.2]
    rfl

theorem findPair?_eq_some_iff {name : String} {value : Value} {pairs : List (String × Value)}
    (distinct : (pairs.map Prod.fst).Nodup) :
    findPair? name pairs = some value ↔ (name, value) ∈ pairs := by
  induction pairs with
  | nil => simp [findPair?]
  | cons pair rest ih =>
    obtain ⟨other, old⟩ := pair
    obtain ⟨fresh, distinct⟩ := List.nodup_cons.mp distinct
    rw [findPair?, List.mem_cons]
    split
    · next same =>
      subst same
      constructor
      · rintro ⟨⟩
        exact .inl rfl
      · rintro (first | among)
        · exact congrArg some (Prod.ext_iff.mp first).2.symm
        · exact absurd (List.mem_map.mpr ⟨_, among, rfl⟩) fresh
    · next different =>
      rw [ih distinct]
      constructor
      · exact .inr
      · rintro (first | among)
        · exact absurd (Prod.ext_iff.mp first).1.symm different
        · exact among

namespace EntityType

variable {entity : EntityType objects} {schema : Schema} {compiled : Compiled}

/-- Writes to different columns give one value each, behind what is there. -/
theorem entries_of_encodeFields {layout : Layout objects} {fields : Fields layout}
    {writes : List Adapter.Write} {values result : RowValues}
    (distinct : (values.columns ++ writes.map Adapter.Write.column).Nodup)
    (encoded : encodeFields fields values writes = .ok result) :
    ∃ added, result.entries = values.entries ++ added ∧
      List.Forall₂ (fun write entry => write.column = entry.1 ∧ write.run fields = .ok entry.2)
        writes added := by
  induction writes generalizing values with
  | nil =>
    cases encoded
    exact ⟨[], (List.append_nil _).symm, .nil⟩
  | cons write rest ih =>
    rw [encodeFields] at encoded
    cases ran : write.run fields with
    | error fault => simp [ran] at encoded
    | ok value =>
      simp only [ran] at encoded
      have fresh : write.column ∉ values.columns := by
        intro member
        exact (List.nodup_append.mp distinct).2.2 _ member _ List.mem_cons_self rfl
      -- nothing is overwritten, so the entries stand in the order of the writes
      have put : (values.put write.column value).entries =
          values.entries ++ [(write.column, value)] := putPair_of_fresh fresh
      have columns : (values.put write.column value).columns = values.columns ++ [write.column] := by
        rw [RowValues.columns, put, List.map_append]
        rfl
      obtain ⟨added, whole, each⟩ := ih (by rw [columns]; simpa using distinct) encoded
      refine ⟨(write.column, value) :: added, ?_, .cons ⟨rfl, ran⟩ each⟩
      rw [whole, put, List.append_assoc]
      rfl

end EntityType

/-- The value of a planned column of a record. -/
def ColumnPlan.Stores (plan : ColumnPlan) {layout : Layout objects} (fields : Fields layout)
    (value : Value) : Prop :=
  ∃ type a, FieldType.ofColumn? plan.column = some type ∧
    Fields.field? plan.column.field layout fields = some ⟨type, a⟩ ∧ type.store a = .ok value

namespace EntityType.IsFor

variable {entity : EntityType objects} {schema : Schema} {compiled : Compiled}

/-- A record is written as the values of its mapped columns, in their order. -/
theorem encode_spec (made : entity.IsFor schema compiled) {record : entity.Record}
    {values : RowValues} (encoded : entity.encode record = .ok values) :
    List.Forall₂ (fun plan entry => plan.column.name = entry.1 ∧ plan.Stores record.fields entry.2)
      compiled.mapped values.entries := by
  unfold EntityType.encode at encoded
  rw [made.writes_eq] at encoded
  have names : ((compiled.mapped.map Adapter.Write.ofPlan).map Adapter.Write.column) =
      compiled.mapped.map fun plan => plan.column.name := by
    rw [List.map_map]
    rfl
  have distinct : (RowValues.empty.columns ++
      (compiled.mapped.map Adapter.Write.ofPlan).map Adapter.Write.column).Nodup := by
    rw [names]
    exact (List.nodup_cons.mp made.mapped_names_nodup).2
  obtain ⟨added, whole, each⟩ := EntityType.entries_of_encodeFields distinct encoded
  rw [show values.entries = added from whole]
  rw [List.forall₂_map_left_iff] at each
  have within := (List.forall₂_and_left (p := (· ∈ compiled.mapped)) _ _).mpr
    ⟨fun _ member => member, each⟩
  refine within.imp ?_
  rintro plan entry ⟨member, column, ran⟩
  obtain ⟨among, kept, mapped, -⟩ := made.mapped_spec member
  obtain ⟨type, a, found, known⟩ := made.field_spec member record.fields
  refine ⟨column, type, a, known, found, ?_⟩
  unfold Adapter.Write.run at ran
  rw [Fields.visit?_eq] at ran
  rw [show (Adapter.Write.ofPlan plan).field = plan.column.field from rfl, found] at ran
  simpa [Adapter.Write.value?_ofPlan (made.plain _ among kept) mapped known a] using ran

theorem columns_of_encode (made : entity.IsFor schema compiled) {record : entity.Record}
    {values : RowValues} (encoded : entity.encode record = .ok values) :
    values.columns = compiled.mapped.map fun plan => plan.column.name := by
  have spec := made.encode_spec encoded
  unfold RowValues.columns
  generalize values.entries = entries at spec
  generalize compiled.mapped = plans at spec
  induction spec with
  | nil => rfl
  | cons first _ ih => rw [List.map_cons, List.map_cons, ih, first.1]

/-- The value of a mapped column is what its field was stored as. -/
theorem entry_of_encode (made : entity.IsFor schema compiled) {record : entity.Record}
    {values : RowValues} (encoded : entity.encode record = .ok values) {plan : ColumnPlan}
    (member : plan ∈ compiled.mapped) {type : FieldType objects} {a : type.Carrier}
    (found : Fields.field? plan.column.field entity.layout record.fields = some ⟨type, a⟩) :
    ∃ value, (plan.column.name, value) ∈ values.entries ∧ type.store a = .ok value := by
  obtain ⟨⟨name, value⟩, among, rfl, other, b, -, same, stored⟩ :=
    exists_right_of_mem (made.encode_spec encoded) member
  cases found.symm.trans same
  exact ⟨value, among, stored⟩

/-- A column value that is there has the class of its column. -/
theorem kind_of_store (made : entity.IsFor schema compiled) {plan : ColumnPlan}
    (member : plan ∈ compiled.mapped) {type : FieldType objects} {a : type.Carrier} {value : Value}
    (known : FieldType.ofColumn? plan.column = some type) (stored : type.store a = .ok value)
    (present : value.isNull = false) : value.kind = plan.storage.kind := by
  obtain ⟨among, kept, mapped, resolved⟩ := made.mapped_spec member
  obtain ⟨held, fits, kind⟩ :=
    FieldType.ofColumn?_mapped (made.plain _ among kept) (ColumnPlan.isMapped_iff.mp mapped) known
  have storage : plan.storage = held.storage := by
    have same := Adapter.resolve?_of fits
    rw [resolved] at same
    simpa using congrArg Prod.fst (Option.some.inj same)
  rw [storage]
  rcases kind with ⟨-, rfl⟩ | ⟨-, rfl⟩
  · exact (PlainType.kind_of_store stored).2
  · cases a with
    | none =>
      cases stored
      cases present
    | some a => exact (PlainType.kind_of_store stored).2

end EntityType.IsFor

/-! ## Reading -/

/-- How far the reading of a record has come: the fields that were read stand in a relation to those
of another record, and the others have what every record starts with. -/
def ReadUpTo (S : (type : FieldType objects) → type.Carrier → type.Carrier → Prop)
    (done : List String) (name : String) (type : FieldType objects) (a b : type.Carrier) : Prop :=
  if name ∈ done then S type a b else b = type.initial

namespace EntityType.IsFor

variable {entity : EntityType objects} {schema : Schema} {compiled : Compiled}
  {S : (type : FieldType objects) → type.Carrier → type.Carrier → Prop} {row : Row}

/-- The value that a row gives for a planned column is restored to one that stands in a relation to
the field of another record. -/
def Restores (entity : EntityType objects)
    (S : (type : FieldType objects) → type.Carrier → type.Carrier → Prop) (row : Row)
    (fields : Fields entity.layout) (plan : ColumnPlan) : Prop :=
  ∀ type a, FieldType.ofColumn? plan.column = some type →
    Fields.field? plan.column.field entity.layout fields = some ⟨type, a⟩ →
    ∃ value b, row.value plan.column.name = .ok value ∧
      type.restore plan.column.name value = .ok b ∧ S type a b

theorem read_spec (made : entity.IsFor schema compiled) {plan : ColumnPlan}
    (member : plan ∈ compiled.mapped) {done : List String} {fields current : Fields entity.layout}
    (restores : Restores entity S row fields plan)
    (related : Fields.Related (ReadUpTo S done) entity.layout fields current) :
    ∃ changed, (Adapter.Read.ofPlan plan).run row current = .ok changed ∧
      Fields.Related (ReadUpTo S (plan.column.field :: done)) entity.layout fields changed := by
  obtain ⟨among, kept, mapped, resolved⟩ := made.mapped_spec member
  obtain ⟨type, a, found, known⟩ := made.field_spec member fields
  obtain ⟨value, b, given, restored, holds⟩ := restores type a known found
  have read := Adapter.Read.value?_ofPlan (made.plain _ among kept) mapped resolved known given
  rw [restored] at read
  have here : ReadUpTo S (plan.column.field :: done) plan.column.field type a b := by
    rw [ReadUpTo, if_pos List.mem_cons_self]
    exact holds
  obtain ⟨changed, replaced, progress⟩ :=
    related.replace? made.names_nodup found read here (S := ReadUpTo S (plan.column.field :: done))
      (by
        intro other kind different c d before
        simpa [ReadUpTo, different] using before)
  refine ⟨changed, ?_, progress⟩
  unfold Adapter.Read.run
  rw [show (Adapter.Read.ofPlan plan).field = plan.column.field from rfl, replaced]

/-- All columns of a row are read if each is restored. -/
theorem readFields_spec (made : entity.IsFor schema compiled) {plans : List ColumnPlan}
    (members : ∀ plan ∈ plans, plan ∈ compiled.mapped) {done : List String}
    {fields current : Fields entity.layout}
    (restores : ∀ plan ∈ plans, Restores entity S row fields plan)
    (related : Fields.Related (ReadUpTo S done) entity.layout fields current) :
    ∃ final, EntityType.readFields row current (plans.map Adapter.Read.ofPlan) = (final, .ok ()) ∧
      Fields.Related (ReadUpTo S ((plans.map fun plan => plan.column.field).reverse ++ done))
        entity.layout fields final := by
  induction plans generalizing done current with
  | nil => exact ⟨current, rfl, related⟩
  | cons plan rest ih =>
    obtain ⟨changed, ran, progress⟩ := made.read_spec (members plan List.mem_cons_self)
      (restores plan List.mem_cons_self) related
    obtain ⟨final, read, whole⟩ := ih (fun other member => members other (.tail _ member))
      (fun other member => restores other (.tail _ member)) progress
    refine ⟨final, ?_, by simpa using whole⟩
    rw [List.map_cons, EntityType.readFields, ran]
    exact read

/-- The record of a row: its identity, each mapped column restored, and what every record starts
with in place of relations. -/
theorem decode_spec (made : entity.IsFor schema compiled) {identity : Int64}
    {fields : Fields entity.layout} (named : row.value schema.identity = .ok (.integer identity))
    (restores : ∀ plan ∈ compiled.mapped, Restores entity S row fields plan)
    (relation : ∀ declared a, S (.relation declared) a (objects.initialRelation declared)) :
    ∃ decoded, entity.decode row = .ok decoded ∧ decoded.identity = identity ∧
      Fields.Related (fun _ => S) entity.layout fields decoded.fields := by
  have start : Fields.Related (ReadUpTo S []) entity.layout fields entity.initial := by
    rw [made.initial_eq]
    exact (Fields.related_initial fields).imp fun _ _ _ _ _ same => by simpa [ReadUpTo] using same
  obtain ⟨final, read, whole⟩ := made.readFields_spec (fun _ member => member) restores start
  rw [← made.reads_eq] at read
  have identified : entity.readIdentity row = .ok identity := by
    unfold EntityType.readIdentity Accessor.read
    rw [made.identity_eq, named]
    rfl
  refine ⟨⟨identity, final⟩, ?_, rfl, whole.imp ?_⟩
  · unfold EntityType.decode EntityType.mapRow
    rw [identified]
    simp only [EntityType.blank, read]
  · -- a field that no read has filled in is a relation
    intro name type member a b progress
    obtain ⟨column, among, kept, rfl, known⟩ := made.exists_column member
    cases relational : column.kind.isRelation with
    | false =>
      have mapped : column ∈ compiled.mapped.map ColumnPlan.column := by
        rw [made.mapped_columns]
        exact List.mem_filter.mpr ⟨among, by simp [relational]⟩
      obtain ⟨plan, planned, rfl⟩ := List.mem_map.mp mapped
      have done : plan.column.field ∈
          (compiled.mapped.map fun plan => plan.column.field).reverse ++ [] := by
        rw [List.append_nil, List.mem_reverse]
        exact List.mem_map_of_mem (f := fun plan : ColumnPlan => plan.column.field) planned
      rwa [ReadUpTo, if_pos done] at progress
    | true =>
      obtain ⟨declared, rfl⟩ := FieldType.ofColumn?_relation (made.plain _ among kept) relational known
      rw [ReadUpTo] at progress
      split at progress
      · exact progress
      · exact progress ▸ relation declared a

end EntityType.IsFor

/-! ## There and back -/

namespace Schema

/-- The column that a step adds. -/
def Step.added? : Step → Option Column
  | .column added => some added
  | _ => none

theorem mem_added_iff {steps : List Step} {column : Column} :
    column ∈ steps.filterMap Step.added? ↔ .column column ∈ steps := by
  rw [List.mem_filterMap]
  constructor
  · rintro ⟨step, among, found⟩
    cases step with
    | column other =>
      cases found
      exact among
    | identity name => cases found
    | childOf parent => cases found
  · exact fun among => ⟨_, among, rfl⟩

theorem columns_foldl_apply (steps : List Step) (start : Schema) :
    (steps.foldl Step.apply start).columns = start.columns ++ steps.filterMap Step.added? := by
  induction steps generalizing start with
  | nil => simp
  | cons step rest ih =>
    rw [List.foldl_cons, ih]
    cases step <;> simp [Step.apply, Step.added?, List.filterMap_cons]

theorem target_foldl_apply (steps : List Step) (start : Schema) :
    (steps.foldl Step.apply start).target = start.target := by
  induction steps generalizing start with
  | nil => rfl
  | cons step rest ih =>
    rw [List.foldl_cons, ih]
    cases step <;> rfl

theorem draft_of_build {target : String} {steps : List Step} {schema : Schema}
    (built : build target steps = .ok schema) : draft target steps = schema := by
  unfold build at built
  simp only at built
  split at built
  · exact Except.ok.inj built
  · cases built

theorem target_of_build {target : String} {steps : List Step} {schema : Schema}
    (built : build target steps = .ok schema) : schema.target = target := by
  have kept := target_foldl_apply steps ⟨target, "id", [], none⟩
  rw [← draft_of_build built, draft]
  split
  · exact kept
  · exact kept

/-- The columns of a schema are those of its steps, in order, and the marker of a child. -/
theorem columns_of_build {target : String} {steps : List Step} {schema : Schema}
    (built : build target steps = .ok schema) :
    schema.columns =
      steps.filterMap Step.added? ++ (schema.parent?.map parentMarker).toList := by
  have folded := columns_foldl_apply steps ⟨target, "id", [], none⟩
  rw [← draft_of_build built, draft]
  split
  · next none =>
    rw [folded, none]
    simp
  · next parent some =>
    simp only [folded, some]
    simp

end Schema

namespace EntityType.Record

variable {entity : EntityType objects}

/-- Every field's value is one that its column keeps. -/
def Storable (passage : Passage) (record : entity.Record) : Prop :=
  Fields.Related (fun _ type a _ => type.Storable passage a) entity.layout record.fields
    record.fields

theorem Storable.field {passage : Passage} {record : entity.Record}
    (storable : record.Storable passage) {name : String} {type : FieldType objects}
    {a : type.Carrier}
    (found : Fields.field? name entity.layout record.fields = some ⟨type, a⟩) :
    type.Storable passage a := by
  obtain ⟨b, -, holds⟩ := Fields.Related.field? storable found
  exact holds

/-- A record that was read counts as the one that was written. -/
def Alike (passage : Passage) (written read : entity.Record) : Prop :=
  read.identity = written.identity ∧
    Fields.Related (fun _ type => type.Alike passage) entity.layout written.fields read.fields

end EntityType.Record

/-- No object types, and relations without content. -/
@[reducible] def Objects.none : Objects where
  Key := Empty
  Carrier := Empty.elim
  codec := fun key => key.elim
  initial := fun key => key.elim
  ofPath? _ := Option.none
  Relation := Unit
  initialRelation _ := ()

end EntityTables
