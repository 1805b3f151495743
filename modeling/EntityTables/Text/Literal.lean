/-
# EntityTables.Text.Literal — quoted string literals of generated source

How a text is written between double quotes in generated source and in messages: six characters
have an escape of their own, marks that would attach to the quote and characters without a visible
form become `\u` with their number, and everything else stands for itself.

* `escape` — one character as written; `quoted` — the literal of a whole text.
-/
import EntityTables.Text.CombiningMarks
import EntityTables.Text.Unprintable

namespace EntityTables.Text

set_option autoImplicit false

/-- Whether a number lies in one of the ranges. -/
def inRanges (ranges : List (Nat × Nat)) (n : Nat) : Bool :=
  ranges.any fun r => r.1 ≤ n && n ≤ r.2

/-- Characters that a literal may not show as they are. -/
def isHidden (c : Char) : Bool :=
  if 0x20 ≤ c.toNat && c.toNat < 0x7f then false
  else inRanges combiningRanges c.toNat || inRanges unprintableRanges c.toNat

/-- One character as a literal writes it. -/
def escape (c : Char) : List Char :=
  match c with
  | '\x00' => ['\\', '0']
  | '\t' => ['\\', 't']
  | '\r' => ['\\', 'r']
  | '\n' => ['\\', 'n']
  | '"' => ['\\', '"']
  | '\\' => ['\\', '\\']
  | _ => if isHidden c then ['\\', 'u', '\x7b'] ++ Nat.toDigits 16 c.toNat ++ ['\x7d'] else [c]

/-- The literal of a text: its characters escaped, between double quotes. -/
def quotedChars (cs : List Char) : List Char := '"' :: cs.flatMap escape ++ ['"']

/-- The literal of a text: its characters escaped, between double quotes. -/
def quoted (s : String) : String := String.ofList (quotedChars s.toList)

theorem toList_quoted (s : String) : (quoted s).toList = quotedChars s.toList := by
  simp [quoted]

end EntityTables.Text
