/-
# EntityTables.Entity.Statement — what the statements of an adapter do

An adapter writes fields into column values and reads them back, one statement a column. A
statement fits the fields of one type; of a field of another type it makes nothing.

* `Encoding.value?`, `Decoding.field?` — one value; nothing where the types do not fit.
* `Write.run`, `Read.run` — one statement on the fields of a record.
-/
import EntityTables.Adapter.Code
import EntityTables.Entity.Fields
import EntityTables.Value.Row

namespace EntityTables

set_option autoImplicit false

/-- The 64-bit integer type holds every 64-bit integer. -/
theorem IntType.holds_toInt (i : Int64) : IntType.int64.Holds i.toInt := by
  have low := i.le_toInt
  have high := i.toInt_lt
  simp only [IntType.Holds, IntType.least, IntType.greatest]
  omega

/-- Any 64-bit integer as a value of the 64-bit integer type. -/
def IntType.Range.ofInt64 (i : Int64) : IntType.int64.Range := ⟨i.toInt, IntType.holds_toInt i⟩

namespace Adapter

variable {objects : Objects}

/-- The column value of a field's value. -/
def Encoding.value? (encoding : Encoding) :
    (type : PlainType objects) → type.Carrier → Option (Except Error Value)
  | .integer _, i => if encoding = .copied then some (.ok (.integer i.toStored)) else none
  | .boolean, b =>
    if encoding = .boolean then some (.ok (.integer (storedBool b)))
    else if encoding = .copied then some (.ok (.ofBool b)) else none
  | .single, x => if encoding = .copied then some (.ok (.ofSingle x)) else none
  | .double, x => if encoding = .copied then some (.ok (.real x)) else none
  | .char, c => if encoding = .copied then some (.ok (.ofChar c)) else none
  | .text, s => if encoding = .text then some (.ok (.text s)) else none
  | .dateTime, d => if encoding = .date then some (.ok (.integer d.toStored)) else none
  | .bytes, content => if encoding = .bytes then some (.ok (.blob content)) else none
  | .object key, a =>
    if encoding = .object then
      some (((objects.codec key).serialize a).mapError Error.codec |>.map Value.blob)
    else none

/-- The field's value of what an accessor gave for a column. -/
def Decoding.field? (decoding : Decoding) (column : String) :
    (type : PlainType objects) → Value → Option (Except Error type.Carrier)
  | .integer type, .integer i =>
    match decoding, type with
    | .narrow, type => some (EntityTables.narrow type column i)
    | .direct, .int64 => some (.ok (.ofInt64 i))
    | _, _ => none
  | .boolean, .integer i => if decoding = .boolean then some (.ok (boolOfStored i)) else none
  | .single, .real x => if decoding = .single then some (.ok x.toSingle) else none
  | .double, .real x => if decoding = .direct then some (.ok x) else none
  | .char, .text s => if decoding = .char then some (textToChar column s) else none
  | .text, .text s => if decoding = .direct then some (.ok s) else none
  | .dateTime, .integer i =>
    if decoding = .date then some (Instant.ofStored column i) else none
  | .bytes, .blob content => if decoding = .direct then some (.ok content) else none
  | .object key, .blob content =>
    if decoding = .object then
      some (((objects.codec key).deserialize content).mapError Error.codec)
    else none
  | _, _ => none

/-- The column value that a write makes of a field's value. -/
def Write.value? (write : Write) :
    (type : FieldType objects) → type.Carrier → Option (Except Error Value)
  | .plain type, value => if write.optional then none else write.encoding.value? type value
  | .optional _, none => if write.optional then some (.ok .null) else none
  | .optional type, some value => if write.optional then write.encoding.value? type value else none
  | .relation _, _ => none

/-- Carries out a write: the column value of its field. -/
def Write.run (write : Write) {layout : Layout objects} (fields : Fields layout) :
    Except Error Value :=
  match fields.visit? write.field write.value? layout with
  | some (some value) => value
  | _ => .error (.configuration (.misfit write.field))

/-- What a read makes of a row for its field. -/
def Read.value? (read : Read) (row : Row) :
    (type : FieldType objects) → Option (Except Error type.Carrier)
  | .plain type =>
    if read.optional then none
    else
      match read.accessor.read row read.column with
      | .error fault => some (.error fault)
      | .ok raw => read.decoding.field? read.column type raw
  | .optional type =>
    if read.optional then
      match read.accessor.readOptional row read.column with
      | .error fault => some (.error fault)
      | .ok none => some (.ok none)
      | .ok (some raw) =>
        (read.decoding.field? read.column type raw).map fun decoded => decoded.map some
    else none
  | .relation _ => none

/-- Carries out a read: the fields with the one it is about overwritten. -/
def Read.run (read : Read) (row : Row) {layout : Layout objects} (fields : Fields layout) :
    Except Error (Fields layout) :=
  match fields.replace? read.field (read.value? row) layout with
  | some replaced => replaced
  | none => .error (.configuration (.misfit read.field))

end Adapter

end EntityTables
