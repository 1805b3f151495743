/-
# EntityTables.Proofs.Entity.Determinism — equal records and their column values

Two records with equal fields are written side by side. Each write makes a value of both or fails on
both alike, so the records fail alike or fill the same columns. A column is given the same value as
long as the two values of its field are in step, that is, as long as hashed sets and maps in them
are traversed in the same order.

* `Objects.Form` — how the objects of a type become bytes, which says when two of them are equal.
* `FieldType.Same`, `FieldType.InStep` — equal values of a field, and such in step.
* `Agree` — the column values of two equal values; `Adapter.Write.agree` — of a field's.
* `Adapter.Write.run_same`, `run_inStep` — one write on two records; `encodeFields_same`,
  `encodeFields_inStep` — one after the other.
* `EntityType.encode_determined` — what equal fields determine of the column values, and what not.
-/
import EntityTables.Proofs.Codec.Traversal
import EntityTables.Proofs.Entity.RoundTrip
import EntityTables.Proofs.Value.RowValues

namespace EntityTables

set_option autoImplicit false

/-! ## Outcomes -/

section

variable {ε α : Type}

/-- How a computation ends, whatever it gives. -/
def outcome (x : Except ε α) : Except ε Unit := x.map fun _ => ()

theorem outcome_cases {x y : Except ε α} (ends : outcome x = outcome y) :
    (∃ fault, x = .error fault ∧ y = .error fault) ∨ ∃ a b, x = .ok a ∧ y = .ok b := by
  cases x with
  | error fault =>
    cases y with
    | error other =>
      cases ends
      exact .inl ⟨fault, rfl, rfl⟩
    | ok b => cases ends
  | ok a =>
    cases y with
    | error other => cases ends
    | ok b => exact .inr ⟨a, b, rfl, rfl⟩

end

variable {ι : Type} [IntegerTypes ι] {objects : Objects}

/-! ## Objects -/

/-- How the objects of a type become bytes: by a codec of their own, as values with a JSON form, or
as structures of such values. -/
inductive Objects.Form (ι : Type) [IntegerTypes ι] (objects : Objects) (key : objects.Key) where
  | own
  | json (type : JsonForm ι) (formed : type.IsFormed)
    (content : objects.Carrier key → type.Carrier)
    (written : ∀ a, (objects.codec key).serialize a = type.codec.serialize (content a))
  | fields (typeName : String) (types : List (String × JsonForm ι))
    (formed : ∀ field ∈ types, field.2.IsFormed)
    (content : objects.Carrier key → FieldValues types)
    (written : ∀ a, (objects.codec key).serialize a =
      (structureCodec typeName types).serialize (content a))

namespace Objects.Form

variable {key : objects.Key}

/-- Equal objects. -/
def Same : objects.Form ι key → objects.Carrier key → objects.Carrier key → Prop
  | own, a, b => a = b
  | json type _ content _, a, b => type.Equal (content a) (content b)
  | fields _ types _ content _, a, b =>
    FieldValues.Related JsonForm.Equal types (content a) (content b)

/-- Objects that are traversed alike. -/
def InStep : objects.Form ι key → objects.Carrier key → objects.Carrier key → Prop
  | own, _, _ => True
  | json type _ content _, a, b => type.InStep (content a) (content b)
  | fields _ types _ content _, a, b =>
    FieldValues.Related JsonForm.InStep types (content a) (content b)

/-- Nothing in the objects of the type is hashed, nor a number with a point. -/
def IsOrdered : objects.Form ι key → Prop
  | own => True
  | json type _ _ _ => type.IsOrdered
  | fields _ types _ _ _ => ∀ field ∈ types, field.2.IsOrdered

/-- As far as the objects of the type have a JSON form, no two have the same bytes. -/
def IsInvertible : objects.Form ι key → Prop
  | own => True
  | json type _ _ _ => type.IsInvertible
  | fields _ types _ _ _ => ∀ field ∈ types, field.2.IsInvertible

variable {form : objects.Form ι key} {a b : objects.Carrier key}

/-- Equal objects have bytes, or fail to have them, alike. -/
theorem outcome_serialize (same : form.Same a b) :
    outcome ((objects.codec key).serialize a) = outcome ((objects.codec key).serialize b) := by
  cases form with
  | own => rw [show a = b from same]
  | json type formed content written =>
    rw [written, written]
    rfl
  | fields typeName types formed content written =>
    rw [written, written]
    rfl

theorem serialize_eq (same : form.Same a b) (step : form.InStep a b) :
    (objects.codec key).serialize a = (objects.codec key).serialize b := by
  cases form with
  | own => rw [show a = b from same]
  | json type formed content written =>
    rw [written, written]
    exact JsonForm.Equal.serialize_eq same formed step
  | fields typeName types formed content written =>
    rw [written, written]
    exact FieldValues.serialize_eq typeName formed same step

theorem inStep_of_serialize (same : form.Same a b) (invertible : form.IsInvertible)
    (bytes : (objects.codec key).serialize a = (objects.codec key).serialize b) :
    form.InStep a b := by
  cases form with
  | own => trivial
  | json type formed content written =>
    rw [written, written] at bytes
    exact JsonForm.Equal.inStep_of_serialize same invertible bytes
  | fields typeName types formed content written =>
    rw [written, written] at bytes
    exact FieldValues.inStep_of_serialize invertible same bytes

theorem inStep_of_isOrdered (ordered : form.IsOrdered) (same : form.Same a b) :
    form.InStep a b := by
  cases form with
  | own => trivial
  | json type formed content written => exact JsonForm.Equal.inStep_of_isOrdered ordered same
  | fields typeName types formed content written =>
    exact FieldValues.inStep_of_isOrdered ordered same

end Objects.Form

/-! ## Fields -/

variable (form : (key : objects.Key) → objects.Form ι key)

namespace PlainType

/-- Equal values; numbers with a point are equal by value as well. -/
def Same : (type : PlainType objects) → type.Carrier → type.Carrier → Prop
  | .single, x, y => x = y ∨ x.Equals y
  | .double, x, y => x = y ∨ x.Equals y
  | .object key, a, b => (form key).Same a b
  | .integer _, i, j => i = j
  | .boolean, a, b => a = b
  | .char, c, d => c = d
  | .text, s, t => s = t
  | .dateTime, d, e => d = e
  | .bytes, a, b => a = b

/-- Values that are traversed alike, zeros with the same sign. -/
def InStep : (type : PlainType objects) → type.Carrier → type.Carrier → Prop
  | .single, x, y => x = y
  | .double, x, y => x = y
  | .object key, a, b => (form key).InStep a b
  | _, _, _ => True

/-- Nothing in the values is hashed, nor a number with a point. -/
def IsOrdered : PlainType objects → Prop
  | .single | .double => False
  | .object key => (form key).IsOrdered
  | _ => True

/-- The bytes of objects can be read back. -/
def IsInvertible : PlainType objects → Prop
  | .object key => (form key).IsInvertible
  | _ => True

end PlainType

namespace FieldType

/-- Equal values of a field; what a relation holds does not count. -/
def Same : (type : FieldType objects) → type.Carrier → type.Carrier → Prop
  | .plain type, a, b => type.Same form a b
  | .optional _, none, none => True
  | .optional type, some a, some b => type.Same form a b
  | .optional _, _, _ => False
  | .relation _, _, _ => True

/-- Values of a field that are traversed alike. -/
def InStep : (type : FieldType objects) → type.Carrier → type.Carrier → Prop
  | .plain type, a, b => type.InStep form a b
  | .optional type, some a, some b => type.InStep form a b
  | _, _, _ => True

/-- Nothing in a field is hashed, nor a number with a point. -/
def IsOrdered : FieldType objects → Prop
  | .plain type | .optional type => type.IsOrdered form
  | .relation _ => True

/-- The bytes of objects in a field can be read back. -/
def IsInvertible : FieldType objects → Prop
  | .plain type | .optional type => type.IsInvertible form
  | .relation _ => True

end FieldType

variable {form}

theorem PlainType.inStep_of_isOrdered {type : PlainType objects} (ordered : type.IsOrdered form)
    {a b : type.Carrier} (same : type.Same form a b) : type.InStep form a b := by
  cases type with
  | single | double => cases ordered
  | object key => exact (form key).inStep_of_isOrdered ordered same
  | _ => trivial

theorem FieldType.inStep_of_isOrdered {type : FieldType objects} (ordered : type.IsOrdered form)
    {a b : type.Carrier} (same : type.Same form a b) : type.InStep form a b := by
  cases type with
  | plain type => exact PlainType.inStep_of_isOrdered ordered same
  | optional type =>
    cases a <;> cases b
    · trivial
    · trivial
    · trivial
    · exact PlainType.inStep_of_isOrdered ordered same
  | relation declared => trivial

/-! ## One value -/

/-- How the column values of two equal values go together: both are there, or both are missing for
one fault; they are the same if the two are in step, and where bytes can be read back, only then. -/
structure Agree (left right : Option (Except Error Value)) (InStep IsInvertible : Prop) : Prop where
  ends : left.map outcome = right.map outcome
  same : InStep → left = right
  step : IsInvertible → ∀ value, left = some (.ok value) → right = some (.ok value) → InStep

namespace Agree

variable {InStep IsInvertible : Prop}

theorem none : Agree .none .none InStep IsInvertible := ⟨rfl, fun _ => rfl, nofun⟩

theorem of_inStep (value? : Option (Except Error Value)) (step : InStep) :
    Agree value? value? InStep IsInvertible := ⟨rfl, fun _ => rfl, fun _ _ _ _ => step⟩

/-- What holds of two values holds of them behind a test. -/
theorem ite {left right : Option (Except Error Value)} (test : Prop) [Decidable test]
    (agree : Agree left right InStep IsInvertible) :
    Agree (if test then left else .none) (if test then right else .none) InStep IsInvertible := by
  split
  · exact agree
  · exact .none

end Agree

namespace Adapter

/-- The column value of an object's bytes, or the fault in their place. -/
def ofBytes (bytes : Except CodecFault (List UInt8)) : Except Error Value :=
  (bytes.mapError Error.codec).map Value.blob

theorem ofBytes_eq_ok_iff {bytes : Except CodecFault (List UInt8)} {value : Value} :
    ofBytes bytes = .ok value ↔ ∃ content, bytes = .ok content ∧ value = .blob content := by
  cases bytes with
  | error fault => simp [ofBytes, Except.mapError, Except.map]
  | ok content => simp [ofBytes, Except.mapError, Except.map, eq_comm]

theorem agree_ofBytes {key : objects.Key} {a b : objects.Carrier key}
    (same : (form key).Same a b) :
    Agree (some (ofBytes ((objects.codec key).serialize a)))
      (some (ofBytes ((objects.codec key).serialize b)))
      ((form key).InStep a b) (form key).IsInvertible where
  ends := by
    rcases outcome_cases ((form key).outcome_serialize same) with
      ⟨fault, left, right⟩ | ⟨content, other, left, right⟩
    · rw [left, right]
    · rw [left, right]
      rfl
  same step := by rw [(form key).serialize_eq same step]
  step invertible value left right := by
    obtain ⟨content, first, rfl⟩ := ofBytes_eq_ok_iff.mp (Option.some.inj left)
    obtain ⟨other, second, alike⟩ := ofBytes_eq_ok_iff.mp (Option.some.inj right)
    cases alike
    exact (form key).inStep_of_serialize same invertible (first.trans second.symm)

theorem agree_ofSingle {x y : Single} (same : x = y ∨ x.Equals y) (IsInvertible : Prop) :
    Agree (some (.ok (.ofSingle x))) (some (.ok (.ofSingle y))) (x = y) IsInvertible where
  ends := rfl
  same step := by rw [step]
  step _ value left right := by
    have wide := Value.real.inj (Except.ok.inj (Option.some.inj (left.trans right.symm)))
    exact same.elim id fun equal => equal.eq_of_toDouble wide

theorem agree_real (x y : Double) (IsInvertible : Prop) :
    Agree (some (.ok (.real x))) (some (.ok (.real y))) (x = y) IsInvertible where
  ends := rfl
  same step := by rw [step]
  step _ value left right :=
    Value.real.inj (Except.ok.inj (Option.some.inj (left.trans right.symm)))

/-- The column values of equal values. -/
theorem Encoding.agree (encoding : Encoding) {type : PlainType objects} {a b : type.Carrier}
    (same : type.Same form a b) :
    Agree (encoding.value? type a) (encoding.value? type b) (type.InStep form a b)
      (type.IsInvertible form) := by
  cases type with
  | object key => exact .ite _ (agree_ofBytes same)
  | single => exact .ite _ (agree_ofSingle same _)
  | double => exact .ite _ (agree_real a b _)
  | _ =>
    rw [show a = b from same]
    exact .of_inStep _ trivial

/-- The column values of a field's equal values. -/
theorem Write.agree (write : Write) {type : FieldType objects} {a b : type.Carrier}
    (same : type.Same form a b) :
    Agree (write.value? type a) (write.value? type b) (type.InStep form a b)
      (type.IsInvertible form) := by
  cases type with
  | plain type =>
    simp only [value?]
    split
    · exact .none
    · exact write.encoding.agree same
  | optional type =>
    cases a with
    | none =>
      cases b with
      | none => exact .of_inStep _ trivial
      | some b => cases same
    | some a =>
      cases b with
      | none => cases same
      | some b => exact .ite _ (write.encoding.agree same)
  | relation declared => exact .none

/-! ## One write on two records -/

namespace Write

variable {write : Write} {layout : Layout objects} {fields others : Fields layout}

theorem run_of_field? {type : FieldType objects} {a : type.Carrier}
    (found : fields.field? write.field layout = some ⟨type, a⟩) :
    write.run fields =
      (write.value? type a).getD (.error (.configuration (.misfit write.field))) := by
  unfold run
  rw [Fields.visit?_eq, found, Option.map_some]
  cases write.value? type a <;> rfl

theorem value?_of_run {type : FieldType objects} {a : type.Carrier} {value : Value}
    (found : fields.field? write.field layout = some ⟨type, a⟩)
    (ran : write.run fields = .ok value) : write.value? type a = some (.ok value) := by
  rw [run_of_field? found] at ran
  cases made : write.value? type a with
  | none =>
    rw [made] at ran
    cases ran
  | some made? =>
    rw [made] at ran
    exact congrArg some ran

theorem run_of_no_field (missing : fields.field? write.field layout = none) :
    write.run fields = .error (.configuration (.misfit write.field)) := by
  unfold run
  rw [Fields.visit?_eq, missing]
  rfl

/-- A write makes a column value of both records or fails on both alike. -/
theorem run_same (write : Write)
    (same : Fields.Related (fun _ => FieldType.Same form) layout fields others) :
    outcome (write.run fields) = outcome (write.run others) := by
  rcases same.field?_cases write.field with ⟨left, right⟩ | ⟨type, a, b, left, right, same⟩
  · rw [run_of_no_field left, run_of_no_field right]
  · rw [run_of_field? left, run_of_field? right]
    have ends := (write.agree same).ends
    generalize write.value? type a = value at ends ⊢
    generalize write.value? type b = other at ends ⊢
    cases value <;> cases other
    · rfl
    · cases ends
    · cases ends
    · exact Option.some.inj ends

/-- Of records in step a write makes the same. -/
theorem run_inStep (write : Write)
    (same : Fields.Related (fun _ => FieldType.Same form) layout fields others)
    (step : Fields.Related (fun _ => FieldType.InStep form) layout fields others) :
    write.run fields = write.run others := by
  rcases (same.and step).field?_cases write.field with
    ⟨left, right⟩ | ⟨type, a, b, left, right, same, step⟩
  · rw [run_of_no_field left, run_of_no_field right]
  · rw [run_of_field? left, run_of_field? right, (write.agree same).same step]

end Write

end Adapter

/-! ## All writes -/

namespace EntityType

variable {layout : Layout objects} {fields others : Fields layout}

/-- Writes fail on both records alike, or fill the same columns. -/
theorem encodeFields_same
    (same : Fields.Related (fun _ => FieldType.Same form) layout fields others)
    (writes : List Adapter.Write) {values started : RowValues}
    (columns : values.columns = started.columns) :
    (encodeFields fields values writes).map RowValues.columns =
      (encodeFields others started writes).map RowValues.columns := by
  induction writes generalizing values started with
  | nil => exact congrArg Except.ok columns
  | cons write rest ih =>
    rw [encodeFields, encodeFields]
    rcases outcome_cases (write.run_same same) with
      ⟨fault, left, right⟩ | ⟨value, other, left, right⟩
    · rw [left, right]
    · rw [left, right]
      exact ih (by rw [RowValues.columns_put, RowValues.columns_put, columns])

/-- Of records in step writes make the same values. -/
theorem encodeFields_inStep
    (same : Fields.Related (fun _ => FieldType.Same form) layout fields others)
    (step : Fields.Related (fun _ => FieldType.InStep form) layout fields others)
    (values : RowValues) (writes : List Adapter.Write) :
    encodeFields fields values writes = encodeFields others values writes := by
  induction writes generalizing values with
  | nil => rfl
  | cons write rest ih =>
    rw [encodeFields, encodeFields, write.run_inStep same step]
    cases write.run others with
    | error fault => rfl
    | ok value => exact ih _

/-- The value of a column that one write alone fills is what the write makes. -/
theorem get?_of_encodeFields {writes : List Adapter.Write} {values : RowValues}
    (distinct : (writes.map Adapter.Write.column).Nodup)
    (encoded : encodeFields fields .empty writes = .ok values) {write : Adapter.Write}
    (member : write ∈ writes) :
    ∃ value, values.get? write.column = some value ∧ write.run fields = .ok value := by
  have alone : (RowValues.empty.columns ++ writes.map Adapter.Write.column).Nodup := distinct
  obtain ⟨added, whole, each⟩ := entries_of_encodeFields alone encoded
  obtain ⟨⟨column, value⟩, among, rfl, ran⟩ := exists_right_of_mem each member
  refine ⟨value, (findPair?_eq_some_iff values.distinct).mpr ?_, ran⟩
  rw [whole]
  exact among

namespace Record

variable {entity : EntityType objects}

/-- Records with equal fields; neither identities nor relations count. -/
def Same (form : (key : objects.Key) → objects.Form ι key) (first second : entity.Record) : Prop :=
  Fields.Related (fun _ => FieldType.Same form) entity.layout first.fields second.fields

/-- Records whose hashed sets and maps are traversed alike, zeros with the same sign. -/
def InStep (form : (key : objects.Key) → objects.Form ι key) (first second : entity.Record) :
    Prop :=
  Fields.Related (fun _ => FieldType.InStep form) entity.layout first.fields second.fields

theorem Same.inStep_of_isOrdered {first second : entity.Record}
    (ordered : ∀ field ∈ entity.layout, field.2.IsOrdered form) (same : first.Same form second) :
    first.InStep form second :=
  Fields.Related.imp (fun name type member _ _ equal =>
    FieldType.inStep_of_isOrdered (ordered (name, type) member) equal) same

end Record

end EntityType

/-- Equal records fail to be encoded alike, or fill the same columns. They have the same column
values if their hashed sets and maps are traversed in the same order, and zeros have the same sign;
so they always have, if nothing in their type is hashed or a number with a point. The bytes of a
hashed set or map follow its traversal: a column that one write fills has the same value if its
field is in step, and as far as bytes can be read back, only then. -/
theorem EntityType.encode_determined {entity : EntityType objects}
    {form : (key : objects.Key) → objects.Form ι key} {first second : entity.Record}
    (same : first.Same form second) :
    (entity.encode first).map RowValues.columns = (entity.encode second).map RowValues.columns ∧
      (first.InStep form second → entity.encode first = entity.encode second) ∧
      ((∀ field ∈ entity.layout, field.2.IsOrdered form) →
        entity.encode first = entity.encode second) ∧
      ((entity.code.writes.map Adapter.Write.column).Nodup →
        ∀ values others, entity.encode first = .ok values → entity.encode second = .ok others →
          ∀ write ∈ entity.code.writes, ∀ type a b,
            first.fields.field? write.field entity.layout = some ⟨type, a⟩ →
            second.fields.field? write.field entity.layout = some ⟨type, b⟩ →
              (type.InStep form a b →
                values.get? write.column = others.get? write.column) ∧
              (type.IsInvertible form →
                values.get? write.column = others.get? write.column → type.InStep form a b)) := by
  have steady (step : first.InStep form second) : entity.encode first = entity.encode second :=
    encodeFields_inStep same step .empty entity.code.writes
  refine ⟨encodeFields_same same _ rfl, steady,
    fun ordered => steady (same.inStep_of_isOrdered ordered), ?_⟩
  intro distinct values others left right write member type a b here there
  obtain ⟨value, found, made⟩ := get?_of_encodeFields distinct left member
  obtain ⟨other, known, alike⟩ := get?_of_encodeFields distinct right member
  obtain ⟨_, again, equal⟩ := Fields.Related.field? same here
  cases again.symm.trans there
  have agree := write.agree equal
  have first := Adapter.Write.value?_of_run here made
  have second := Adapter.Write.value?_of_run there alike
  rw [found, known]
  constructor
  · intro step
    have one := (first.symm.trans (agree.same step)).trans second
    exact congrArg some (Except.ok.inj (Option.some.inj one))
  · rintro invertible ⟨⟩
    exact agree.step invertible value first second

/-- Collections as the types of objects. -/
@[reducible] def Objects.collections : Objects where
  Key := { type : JsonType // type.IsFormed }
  Carrier key := key.1.Carrier
  codec key := key.1.codec
  initial key := key.1.initial
  ofPath?
    | "HashMap<String,i32>" => some ⟨.hashMap .text (.integer .int32), trivial⟩
    | "HashSet<String>" => some ⟨.hashSet .text, trivial⟩
    | "BTreeSet<u32>" => some ⟨.treeSet (.integer .uint32), trivial⟩
    | _ => Option.none
  Relation := Unit
  initialRelation _ := ()

/-- Collections are written as they are. -/
def Objects.asCollection (key : Objects.collections.Key) :
    Objects.collections.Form IntType key :=
  .json key.1 key.2 id fun _ => rfl

/-- The schema of a type with a hashed map, a hashed set and a tree. -/
def Schema.post : Schema :=
  Schema.draft "blog::Post"
    [.column (Column.ofField "scores" (.object "HashMap<String,i32>")),
      .column (Column.ofField "topics" (.object "HashSet<String>")),
      .column (Column.ofField "readers" (.object "BTreeSet<u32>"))]

/-- The type compiled. -/
def Compiled.post : Compiled :=
  let plans := Schema.post.columns.map fun column => ColumnPlan.mk column .blob .object
  ⟨Schema.post, Schema.post.definition plans, plans⟩

/-- Two records with the same scores, topics and readers have different bytes for the scores and the
topics, which are met in another order, and the same for the readers. -/
theorem EntityType.encode_determined_post :
    ∃ (entity : EntityType Objects.collections) (first second : entity.Record)
      (values others : RowValues), Schema.post.compile = .ok .post ∧
        EntityType.ofCompiled? .post "blog::Post" none = some entity ∧
        first.Same Objects.asCollection second ∧
        entity.encode first = .ok values ∧ entity.encode second = .ok others ∧
        values.get? "readers" = others.get? "readers" ∧
        values.get? "scores" ≠ others.get? "scores" ∧
        values.get? "topics" ≠ others.get? "topics" := by
  let scores : JsonType := .hashMap .text (.integer .int32)
  let topics : JsonType := .hashSet .text
  let readers : JsonType := .treeSet (.integer .uint32)
  let layout : Layout Objects.collections :=
    [("scores", .plain (.object ⟨scores, trivial⟩)), ("topics", .plain (.object ⟨topics, trivial⟩)),
      ("readers", .plain (.object ⟨readers, trivial⟩))]
  let entity : EntityType Objects.collections :=
    { path := "blog::Post", code := .ofCompiled .post, parentPath? := none, layout,
      initial := Fields.initial layout }
  let one : IntegerTypes.Range IntType.int32 := ⟨1, by decide⟩
  let two : IntegerTypes.Range IntType.int32 := ⟨2, by decide⟩
  let reader : IntegerTypes.Range IntType.uint32 := ⟨7, by decide⟩
  let first : entity.Record := ⟨0, ([("a", one), ("b", two)], ["x", "y"], [reader], ())⟩
  let second : entity.Record := ⟨0, ([("b", two), ("a", one)], ["y", "x"], [reader], ())⟩
  have compiles : Schema.post.compile = .ok .post :=
    Schema.compile_eq_ok_iff.mpr ⟨by decide, by decide, rfl, rfl⟩
  have same : first.Same Objects.asCollection second := by
    have scored : scores.IsValue first.fields.1 := ⟨fun _ _ => trivial, by decide⟩
    have named : topics.IsValue ["x", "y"] := ⟨fun _ _ => trivial, by decide⟩
    have read : readers.IsValue [reader] := ⟨fun _ _ => trivial, List.pairwise_singleton _ _⟩
    exact ⟨.hashMap_of_perm scored (.swap _ _ _), .hashSet_of_perm named (.swap _ _ _), .self read,
      trivial⟩
  obtain ⟨-, -, -, columns⟩ := EntityType.encode_determined same
  have determined := columns (by decide) _ _ rfl rfl
  refine ⟨entity, first, second, _, _, compiles, rfl, same, rfl, rfl, ?_, fun alike => ?_,
    fun alike => ?_⟩
  · have readers := determined ⟨"readers", "readers", false, .object⟩ (by decide) _ _ _ rfl rfl
    exact readers.1 trivial
  · have scores := determined ⟨"scores", "scores", false, .object⟩ (by decide) _ _ _ rfl rfl
    have step := scores.2 trivial alike
    exact absurd step.1 (by decide)
  · have topics := determined ⟨"topics", "topics", false, .object⟩ (by decide) _ _ _ rfl rfl
    have step : ["x", "y"] = ["y", "x"] := topics.2 trivial alike
    exact absurd step (by decide)

end EntityTables
