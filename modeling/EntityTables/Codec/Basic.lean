/-
# EntityTables.Codec.Basic — objects as bytes

The bytes of an object begin with a mark and with the version of the codec that wrote them. A codec
reads the bodies of its own version and of older ones; a newer body is refused before it is looked
at.

* `Codec` — how one type's bodies are written and read; `serialize`, `deserialize` — the framing.
* `deserialize_serialize` — a codec that reads its own bodies back also reads its own bytes back.
-/
import EntityTables.Error

namespace EntityTables

set_option autoImplicit false

/-- How the objects of a type become the body of a blob, and back. -/
structure Codec (α : Type) where
  /-- The type's full name, for messages. -/
  typeName : String
  version : UInt8
  encodeBody : α → Except CodecFault (List UInt8)
  /-- Reads a body of the given version, which is never above the codec's own. -/
  decodeBody : UInt8 → List UInt8 → Except CodecFault α

namespace Codec

variable {α : Type}

/-- The mark that every blob begins with. -/
def mark : UInt8 := 0xb7

/-- The bytes of an object. -/
def serialize (codec : Codec α) (a : α) : Except CodecFault (List UInt8) :=
  (codec.encodeBody a).map fun body => mark :: codec.version :: body

/-- The object of bytes. -/
def deserialize (codec : Codec α) (bytes : List UInt8) : Except CodecFault α :=
  match bytes with
  | first :: version :: body =>
    if first = mark then
      if codec.version < version then
        .error (.newerVersion codec.typeName version.toNat codec.version.toNat)
      else codec.decodeBody version body
    else .error (.noHeader codec.typeName)
  | short => .error (.tooShort codec.typeName short.length)

theorem deserialize_serialize {codec : Codec α} {a : α} {bytes : List UInt8}
    (readsBack : ∀ body,
      codec.encodeBody a = .ok body → codec.decodeBody codec.version body = .ok a)
    (written : codec.serialize a = .ok bytes) : codec.deserialize bytes = .ok a := by
  unfold serialize at written
  cases encoded : codec.encodeBody a with
  | error fault => simp [encoded, Except.map] at written
  | ok body =>
    simp only [encoded, Except.map, Except.ok.injEq] at written
    subst written
    simp [deserialize, readsBack body encoded]

end Codec

end EntityTables
