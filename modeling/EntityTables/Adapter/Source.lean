/-
# EntityTables.Adapter.Source — the adapter of an entity, as source text

Prints `Adapter.Code` as the implementation block that gives a type its table. Names of columns and
types go into string literals; the type's own name, its fields and its parent stand bare.

* `Code.lines` — the text with the depth of each line; `Code.source` — the text itself.
-/
import EntityTables.Adapter.Code
import EntityTables.Text.Literal

namespace EntityTables.Adapter

set_option autoImplicit false

open EntityTables.Text (quoted)

/-- The expression for a declared type. -/
def typeTerm (declared : DeclaredType) : String :=
  match declared.label with
  | (label, none) => "::rowforge::compiler::DeclaredType::" ++ label
  | (label, some path) =>
      "::rowforge::compiler::DeclaredType::" ++ label ++
        "(::std::string::String::from(" ++ quoted path ++ "))"

/-- The expression for a column. -/
def ColumnTerm.source (term : ColumnTerm) : String :=
  "::rowforge::compiler::ColumnDescriptor::new(" ++ quoted term.name ++ ", " ++
    typeTerm term.declaredType ++ ")" ++
    (match term.field? with
      | some field => ".with_field(" ++ quoted field ++ ")"
      | none => "") ++
    if term.nullable then ".nullable()" else ""

/-- The expression that encodes a value: `place` names the value, `reference` borrows it. -/
def Encoding.source (encoding : Encoding) (place reference : String) : String :=
  match encoding with
  | copied => "::rowforge::Value::from(" ++ place ++ ")"
  | text => "::rowforge::Value::from(::std::string::String::as_str(" ++ reference ++ "))"
  | bytes => "::rowforge::Value::from(::std::vec::Vec::as_slice(" ++ reference ++ "))"
  | boolean =>
      "::rowforge::Value::Integer(::rowforge::convert::bool_to_integer(" ++ place ++ "))"
  | date => "::rowforge::Value::Integer(::rowforge::convert::date_to_millis(" ++ reference ++ "))"
  | object => "::rowforge::Value::Blob(::rowforge::codec::serialize(" ++ reference ++ ")?)"

/-- The expression that decodes what the accessor gave for a column. -/
def Decoding.source (decoding : Decoding) (column raw : String) : String :=
  match decoding with
  | direct => raw
  | boolean => "::rowforge::convert::integer_to_bool(" ++ raw ++ ")"
  | single => raw ++ " as f32"
  | char => "::rowforge::convert::text_to_char(" ++ quoted column ++ ", &" ++ raw ++ ")?"
  | date => "::rowforge::convert::millis_to_date(" ++ quoted column ++ ", " ++ raw ++ ")?"
  | object => "::rowforge::codec::deserialize(&" ++ raw ++ ")?"
  | narrow => "::rowforge::convert::narrow(" ++ quoted column ++ ", " ++ raw ++ ")?"

/-- The statement that writes a column. -/
def Write.source (write : Write) : String :=
  let value :=
    if write.optional then
      "match &self." ++ write.field ++ " \x7b Some(v) => " ++ write.encoding.source "*v" "v" ++
        ", None => ::rowforge::Value::Null \x7d"
    else write.encoding.source ("self." ++ write.field) ("&self." ++ write.field)
  "values.put(" ++ quoted write.column ++ ", " ++ value ++ ");"

/-- The statement that reads a column. -/
def Read.source (read : Read) : String :=
  let value :=
    if read.optional then
      "match row.optional_" ++ read.accessor.name ++ "(" ++ quoted read.column ++
        ")? \x7b Some(raw) => Some(" ++ read.decoding.source read.column "raw" ++
        "), None => None \x7d"
    else
      read.decoding.source read.column
        ("row." ++ read.accessor.name ++ "(" ++ quoted read.column ++ ")?")
  "target." ++ read.field ++ " = " ++ value ++ ";"

/-- A line of source with the depth it is indented to. -/
abbrev Line := Nat × String

/-- A line as text; an empty one has no indentation. -/
def Line.text (line : Line) : String :=
  if line.2 = "" then "\n" else String.join (List.replicate line.1 "    ") ++ line.2 ++ "\n"

namespace Code

/-- The block that names the type's path. -/
def typePathLines (code : Code) : List Line :=
  [(1, "fn type_path() -> &'static str \x7b"),
   (2, "concat!(module_path!(), \"::\", " ++ quoted code.typeName ++ ")"),
   (1, "\x7d")]

/-- The block that states the schema again. -/
def schemaLines (code : Code) : List Line :=
  [(1, "fn schema_model() -> ::std::result::Result<::rowforge::compiler::SchemaModel, " ++
      "::rowforge::compiler::SchemaError> \x7b"),
   (2, "::rowforge::compiler::SchemaModel::builder(Self::type_path())"),
   (3, ".identity(" ++ quoted code.identity ++ ")")] ++
  code.columns.map (fun term => (3, ".column(" ++ term.source ++ ")")) ++
  (match code.parent? with
    | some parent => [(3, ".child_of(<" ++ parent ++ " as ::rowforge::Entity>::type_path())")]
    | none => []) ++
  [(3, ".build()"), (1, "\x7d")]

/-- The blocks that give and take the identity. -/
def identityLines (code : Code) : List Line :=
  [(1, "fn identity(&self) -> i64 \x7b"),
   (2, "self." ++ code.identity),
   (1, "\x7d"),
   (0, ""),
   (1, "fn set_identity(&mut self, identity: i64) \x7b"),
   (2, "self." ++ code.identity ++ " = identity;"),
   (1, "\x7d")]

/-- The block that writes a record's columns. -/
def encodeLines (code : Code) : List Line :=
  [(1, "fn encode(&self) -> ::rowforge::Result<::rowforge::RowValues> \x7b")] ++
  (if code.writes.isEmpty then [(2, "Ok(::rowforge::RowValues::new())")]
    else
      [(2, "let mut values = ::rowforge::RowValues::new();")] ++
      code.writes.map (fun write => (2, write.source)) ++
      [(2, "Ok(values)")]) ++
  [(1, "\x7d")]

/-- The block that reads a row into a record, the identity first. -/
def decodeLines (code : Code) : List Line :=
  [(1, "fn map_row(row: &::rowforge::Row, target: &mut Self) -> ::rowforge::Result<()> \x7b"),
   (2, "target." ++ code.identity ++ " = row.integer(" ++ quoted code.identity ++ ")?;")] ++
  code.reads.map (fun read => (2, read.source)) ++
  [(2, "Ok(())"), (1, "\x7d")]

/-- The whole text, line by line. -/
def lines (code : Code) : List Line :=
  [(0, "// Generated by rowforge. Do not modify!"),
   (0, "impl ::rowforge::Entity for " ++ code.typeName ++ " \x7b")] ++
  code.typePathLines ++ [(0, "")] ++
  code.schemaLines ++ [(0, "")] ++
  code.identityLines ++ [(0, "")] ++
  code.encodeLines ++ [(0, "")] ++
  code.decodeLines ++
  [(0, "\x7d")]

/-- The adapter as source text. -/
def source (code : Code) : String := String.join (code.lines.map Line.text)

end Code

/-- The source text of a compiled schema's adapter. -/
def render (compiled : Compiled) : String := (Code.ofCompiled compiled).source

end EntityTables.Adapter
