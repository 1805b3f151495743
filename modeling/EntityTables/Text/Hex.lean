/-
# EntityTables.Text.Hex — bytes as hexadecimal digits

Two lower-case digits a byte when written; either case when read, and nothing but whole pairs.

* `Hex.encode`, `Hex.decode?`.
-/
import EntityTables.Json.Reader

namespace EntityTables.Hex

set_option autoImplicit false

/-- The two digits of a byte. -/
def digits (b : UInt8) : List Char :=
  [Nat.digitChar (b.toNat / 16), Nat.digitChar (b.toNat % 16)]

/-- The digits of bytes. -/
def encode (bytes : List UInt8) : List Char := bytes.flatMap digits

/-- The bytes of digits. -/
def decode? : List Char → Option (List UInt8)
  | [] => some []
  | high :: low :: rest => do
    let a ← Json.hexValue? high
    let b ← Json.hexValue? low
    return (a * 16 + b).toUInt8 :: (← decode? rest)
  | [_] => none

end EntityTables.Hex
