/-
# EntityTables.Text.Blank — Unicode white space

The property `White_Space` as a list of its 25 characters. Names are checked with it for being
blank, and content identifiers exclude it from their parts.

* `isBlank` — the property; `isBlank_of_isWhitespace`: core's ASCII class lies inside it.
* `allBlank` — a text without any other character; the empty text is one.
-/

namespace EntityTables.Text

set_option autoImplicit false

/-- The characters with the property `White_Space`, in code point order. -/
def blanks : List Char :=
  ['\t', '\n', '\x0b', '\x0c', '\r', ' ', '\u0085', '\u00a0', '\u1680', '\u2000', '\u2001',
   '\u2002', '\u2003', '\u2004', '\u2005', '\u2006', '\u2007', '\u2008', '\u2009', '\u200a',
   '\u2028', '\u2029', '\u202f', '\u205f', '\u3000']

/-- Whether a character has the property `White_Space`. -/
def isBlank (c : Char) : Bool := blanks.contains c

/-- A text that holds nothing but white space. -/
def allBlank (s : String) : Bool := s.toList.all isBlank

theorem isBlank_iff {c : Char} : isBlank c = true ↔ c ∈ blanks := by
  simp [isBlank]

theorem isBlank_of_isWhitespace {c : Char} (h : c.isWhitespace = true) : isBlank c = true := by
  simp only [Char.isWhitespace, Bool.or_eq_true, decide_eq_true_eq] at h
  rcases h with ((rfl | rfl) | rfl) | rfl <;> decide

end EntityTables.Text
