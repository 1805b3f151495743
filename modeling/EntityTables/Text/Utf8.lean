/-
# EntityTables.Text.Utf8 — UTF-8, with the place where bytes stop being text

Encodes characters, and decodes bytes up to the first that no character allows. A fault tells where
the broken sequence begins and, unless the bytes merely end too early, how many bytes of it had
been a beginning of some character.

* `encode`, `decode`; `Utf8Fault.message` — the wording of a fault.
* `scan` — the characters of bytes, with the bytes between them that belong to none.
-/

namespace EntityTables

set_option autoImplicit false

/-- Where bytes are no text: the index at which the sequence begins, and its length unless the
bytes end inside it. -/
structure Utf8Fault where
  index : Nat
  length? : Option Nat
  deriving DecidableEq, Inhabited

/-- The wording of a fault. -/
def Utf8Fault.message (fault : Utf8Fault) : String :=
  match fault.length? with
  | some length =>
      "invalid utf-8 sequence of " ++ toString length ++ " bytes from index " ++
        toString fault.index
  | none => "incomplete utf-8 byte sequence from index " ++ toString fault.index

namespace Utf8

/-- The bytes of a character. -/
def encodeChar (c : Char) : List UInt8 :=
  let n := c.toNat
  if n < 0x80 then [n.toUInt8]
  else if n < 0x800 then [(0xc0 + n / 0x40).toUInt8, (0x80 + n % 0x40).toUInt8]
  else if n < 0x10000 then
    [(0xe0 + n / 0x1000).toUInt8, (0x80 + n / 0x40 % 0x40).toUInt8, (0x80 + n % 0x40).toUInt8]
  else
    [(0xf0 + n / 0x40000).toUInt8, (0x80 + n / 0x1000 % 0x40).toUInt8,
     (0x80 + n / 0x40 % 0x40).toUInt8, (0x80 + n % 0x40).toUInt8]

/-- The bytes of characters. -/
def encode (cs : List Char) : List UInt8 := cs.flatMap encodeChar

/-- How many bytes follow a first byte; none if no character begins with it. -/
def following? (first : UInt8) : Option Nat :=
  if first < 0x80 then some 0
  else if first < 0xc2 then none
  else if first < 0xe0 then some 1
  else if first < 0xf0 then some 2
  else if first < 0xf5 then some 3
  else none

/-- Whether a byte goes on with a character. -/
def isTail (b : UInt8) : Bool := 0x80 ≤ b && b < 0xc0

/-- Whether a byte may follow a certain first one: no overlong form, no surrogate, and nothing
above the last code point. -/
def isSecond (first b : UInt8) : Bool :=
  if first = 0xe0 then 0xa0 ≤ b && b < 0xc0
  else if first = 0xed then 0x80 ≤ b && b < 0xa0
  else if first = 0xf0 then 0x90 ≤ b && b < 0xc0
  else if first = 0xf4 then 0x80 ≤ b && b < 0x90
  else isTail b

/-- The six bits that a later byte adds. -/
def tailBits (b : UInt8) : Nat := b.toNat - 0x80

/-- The character that a first byte and the bytes behind it begin with, and how many of these are
its own; or the length of the broken sequence, unless the bytes end inside it. -/
def first (a : UInt8) (rest : List UInt8) : Except (Option Nat) (Char × Nat) :=
  match following? a, rest with
  | none, _ => .error (some 1)
  | some 0, _ => .ok (Char.ofNat a.toNat, 0)
  | some _, [] => .error none
  | some n, b :: rest =>
    if !isSecond a b then .error (some 1)
    else
      match n, rest with
      | 1, _ => .ok (Char.ofNat ((a.toNat - 0xc0) * 0x40 + tailBits b), 1)
      | _, [] => .error none
      | n, c :: rest =>
        if !isTail c then .error (some 2)
        else
          match n, rest with
          | 2, _ =>
            .ok (Char.ofNat (((a.toNat - 0xe0) * 0x40 + tailBits b) * 0x40 + tailBits c), 2)
          | _, [] => .error none
          | _, d :: _ =>
            if !isTail d then .error (some 3)
            else
              .ok (Char.ofNat ((((a.toNat - 0xf0) * 0x40 + tailBits b) * 0x40 + tailBits c) * 0x40 +
                tailBits d), 3)

/-- The characters of bytes, of which so many at the beginning belong to a character before them;
the index counts from the first of all. -/
def decodeFrom (index : Nat) : Nat → List UInt8 → Except Utf8Fault (List Char)
  | _, [] => .ok []
  | inside + 1, _ :: rest => decodeFrom (index + 1) inside rest
  | 0, a :: rest =>
    match first a rest with
    | .ok (c, taken) => (decodeFrom (index + 1) taken rest).map (c :: ·)
    | .error length? => .error ⟨index, length?⟩

/-- The characters of bytes, or the first fault. -/
def decode (bytes : List UInt8) : Except Utf8Fault (List Char) := decodeFrom 0 0 bytes

/-- The characters of bytes, of which so many at the beginning belong to a character before them;
a byte that no character begins with stands as `none`. -/
def scanFrom : Nat → List UInt8 → List (Option Char)
  | _, [] => []
  | inside + 1, _ :: rest => scanFrom inside rest
  | 0, a :: rest =>
    match first a rest with
    | .ok (c, taken) => some c :: scanFrom taken rest
    | .error _ => none :: scanFrom 0 rest

/-- The characters of bytes, and `none` for each byte that belongs to no character. -/
def scan (bytes : List UInt8) : List (Option Char) := scanFrom 0 bytes

end Utf8

end EntityTables
