/-
# EntityTables.Proofs.Sql.Lexing — the tokens of a text that is put together from pieces

Statements are put together from words, signs and quoted names. `Cuts cs ts` says that the text `cs`
is cut into the tokens `ts`; each piece adds its own token in front of those of the text behind it,
as long as that text does not go on with the piece.

* `visible` — the part of a text that is read, up to its first NUL.
* `Spells` — a piece of text that is cut into its own tokens wherever it stands.
* `Parted` — what can stand behind a word; `Spells.name` — a name as `quoteName` writes it is one
  token, whatever characters are in it.
* `Writes` — a piece of one statement, without NUL and semicolon; `Writes.tokens_eq` — its tokens.
-/
import EntityTables.Proofs.Text.Digits
import EntityTables.Sql.StatementReader
import Mathlib.Data.List.TakeWhile

namespace EntityTables.Sql

set_option autoImplicit false

/-! ## Cutting step by step -/

/-- A text is cut into tokens, with as many steps as it has characters or more. -/
def Cuts (cs : List Char) (ts : List Token) : Prop :=
  ∀ steps, cs.length ≤ steps → tokensWithin steps cs = ts

/-- Characters that are neither blank nor begin a comment. -/
def isSolid (c : Char) : Bool := !isBlank c && c != '-' && c != '/'

theorem dropBlanks_solid {c : Char} (solid : isSolid c = true) (steps : Nat) (cs : List Char) :
    dropBlanks (steps + 1) (c :: cs) = c :: cs := by
  simp only [isSolid, Bool.and_eq_true, Bool.not_eq_true', bne_iff_ne] at solid
  obtain ⟨⟨blank, dash⟩, slash⟩ := solid
  unfold dropBlanks
  split
  · rfl
  · simp_all
  · simp_all
  · simp_all
  · rename_i same
    cases same
    simp [blank]

theorem Cuts.nil : Cuts [] [] := by
  intro steps _
  cases steps <;> simp [tokensWithin, firstToken?, dropBlanks]

/-- A blank before a text adds no token. -/
theorem Cuts.blank {cs : List Char} {ts : List Token} (cut : Cuts cs ts) :
    Cuts (' ' :: cs) ts := by
  intro steps enough
  obtain ⟨steps, rfl⟩ : ∃ n, steps = n + 1 := ⟨steps - 1, by simp at enough; omega⟩
  have same : firstToken? (' ' :: cs) = firstToken? cs := by
    simp [firstToken?, dropBlanks, isBlank]
  have rest := cut (steps + 1) (by simp at enough; omega)
  simp only [tokensWithin, same] at rest ⊢
  exact rest

/-- One token in front of a text. -/
theorem Cuts.token {c : Char} {cs rest : List Char} {t : Token} {ts : List Token}
    (solid : isSolid c = true) (found : tokenFrom c cs = (t, rest))
    (shorter : rest.length ≤ cs.length) (cut : Cuts rest ts) : Cuts (c :: cs) (t :: ts) := by
  intro steps enough
  obtain ⟨steps, rfl⟩ : ∃ n, steps = n + 1 := ⟨steps - 1, by simp at enough; omega⟩
  have first : firstToken? (c :: cs) = some (t, rest) := by
    simp [firstToken?, dropBlanks_solid solid, found]
  simp only [tokensWithin, first, List.cons.injEq, true_and]
  exact cut steps (by simp at enough; omega)

/-! ## What is read of a text -/

/-- The part of a text that is read: it ends at the first NUL. -/
def visible (text : String) : List Char := text.toList.takeWhile (· != '\x00')

theorem takeWhile_append_of_free {cs : List Char} (free : '\x00' ∉ cs) (rest : List Char) :
    (cs ++ rest).takeWhile (· != '\x00') = cs ++ rest.takeWhile (· != '\x00') := by
  refine List.takeWhile_append_of_pos fun c member => ?_
  simp only [bne_iff_ne, ne_eq]
  rintro rfl
  exact free member

theorem visible_append {a : String} (free : '\x00' ∉ a.toList) (b : String) :
    visible (a ++ b) = a.toList ++ visible b := by
  rw [visible, String.toList_append, takeWhile_append_of_free free, visible]

/-- What is read of a text begins as the text does. -/
theorem mem_head?_of_visible {text : String} {c : Char} (first : c ∈ (visible text).head?) :
    c ∈ text.toList.head? := by
  unfold visible at first
  cases parts : text.toList with
  | nil =>
    rw [parts] at first
    cases first
  | cons d cs =>
    rw [parts, List.takeWhile_cons] at first
    split at first
    · exact first
    · cases first

/-- The tokens of a text without NUL. -/
theorem tokens_eq_of_cuts {text : String} {ts : List Token} (free : '\x00' ∉ text.toList)
    (cut : Cuts text.toList ts) : tokens text = ts := by
  have whole : visible text = text.toList := by
    simpa [visible] using takeWhile_append_of_free free []
  change tokensWithin (visible text).length (visible text) = ts
  rw [whole]
  exact cut _ (Nat.le_refl _)

/-! ## Signs and placeholders -/

/-- The signs that one character stands for, whatever follows it. -/
def soleSign? : Char → Option Sign
  | '(' => some .leftParen
  | ')' => some .rightParen
  | ',' => some .comma
  | ';' => some .semicolon
  | '*' => some .star
  | _ => none

theorem Cuts.sign {c : Char} {s : Sign} {cs : List Char} {ts : List Token}
    (alone : soleSign? c = some s) (cut : Cuts cs ts) : Cuts (c :: cs) (.sign s :: ts) := by
  have found : isSolid c = true ∧ tokenFrom c cs = (.sign s, cs) := by
    unfold soleSign? at alone
    split at alone <;> cases alone <;>
      exact ⟨by decide, by simp [tokenFrom, isWordStart, signToken]⟩
  exact cut.token found.1 found.2 (Nat.le_refl _)

/-! ## Words and names -/

/-- A text ends, or goes on with a character that neither goes on with a word nor opens a quote. -/
def Bounded (rest : List Char) : Prop := ∀ c ∈ rest.head?, c ∈ [' ', ',', '(', ')', ';']

theorem Bounded.nil : Bounded [] := by simp [Bounded]

theorem Bounded.cons {c : Char} {cs : List Char} (among : c ∈ [' ', ',', '(', ')', ';']) :
    Bounded (c :: cs) := by
  simpa [Bounded] using among

/-- A text ends, or goes on with a character that is no part of a word and no quote. -/
def Parted (rest : List Char) : Prop :=
  ∀ c ∈ rest.head?, isWordPart c = false ∧ c ≠ '"' ∧ c ≠ '\''

theorem Bounded.parted {rest : List Char} (bounded : Bounded rest) : Parted rest := by
  intro c first
  have none : ∀ c ∈ [' ', ',', '(', ')', ';'], isWordPart c = false ∧ c ≠ '"' ∧ c ≠ '\'' := by
    simp only [List.forall_mem_cons, List.not_mem_nil, false_implies, implies_true, and_true]
    decide
  exact none c (bounded c first)

/-! A name that is written without quotes has only characters that a reader has in words. -/

theorem isWordStart_of_isNameStart {c : Char} (start : isNameStart c = true) :
    isWordStart c = true := by
  rw [isWordStart, ← isNameStart, start, Bool.true_or]

theorem isWordPart_of_isNamePart {c : Char} (part : isNamePart c = true) :
    isWordPart c = true := by
  rw [isWordPart, ← isNamePart, part, Bool.true_or, Bool.true_or]

/-- The whole of a word is taken, and nothing behind it. -/
theorem Parted.span {word rest : List Char} (parts : ∀ c ∈ word, isNamePart c = true)
    (parted : Parted rest) :
    (word ++ rest).takeWhile isWordPart = word ∧ (word ++ rest).dropWhile isWordPart = rest := by
  have all : ∀ c ∈ word, isWordPart c = true :=
    fun c member => isWordPart_of_isNamePart (parts c member)
  have behind : rest.takeWhile isWordPart = [] ∧ rest.dropWhile isWordPart = rest := by
    cases rest with
    | nil => simp
    | cons c cs => simp [(parted c (by simp)).1]
  rw [List.takeWhile_append_of_pos all, List.dropWhile_append_of_pos all]
  simp [behind]

/-- What a text can be that is a word: a letter or underscore, then also digits. -/
def isWordText (text : String) : Bool :=
  match text.toList with
  | [] => false
  | c :: rest => isNameStart c && rest.all isNamePart

theorem isBare_iff {name : String} :
    isBare name = true ↔ isWordText name = true ∧ isKeyword name = false := by
  unfold isBare isWordText
  cases name.toList <;> simp

/-- What is written without quotes is no keyword to a reader. -/
theorem not_readsAsKeyword_of_isBare {name : String} (bare : isBare name = true) :
    readsAsKeyword name = false := by
  cases reads : readsAsKeyword name with
  | false => rfl
  | true => exact (isKeyword_of_readsAsKeyword reads).symm.trans (isBare_iff.mp bare).2

theorem isNameStart_iff {c : Char} :
    isNameStart c = true ↔ c.isAlpha = true ∨ c = '_' := by
  simp [isNameStart]

theorem not_isDigit_of_isNameStart {c : Char} (start : isNameStart c = true) :
    c.isDigit = false := by
  rcases isNameStart_iff.mp start with letter | rfl
  · exact isDigit_of_isAlpha letter
  · decide

theorem isSolid_of_isNameStart {c : Char} (start : isNameStart c = true) : isSolid c = true := by
  have none : ∀ c ∈ [' ', '\t', '\n', '\r', '\x0c', '-', '/'], isNameStart c = false := by
    simp only [List.forall_mem_cons, List.not_mem_nil, false_implies, implies_true, and_true]
    decide
  have apart : c ∉ [' ', '\t', '\n', '\r', '\x0c', '-', '/'] := by
    intro member
    rw [none c member] at start
    exact absurd start (by decide)
  simpa [isSolid, isBlank, and_assoc] using apart

theorem head?_append_ne_quote {cs rest : List Char} (parts : ∀ c ∈ cs, isNamePart c = true)
    (parted : Parted rest) : (cs ++ rest).head? ≠ some '\'' := by
  cases cs with
  | nil =>
    intro quote
    exact (parted '\'' quote).2.2 rfl
  | cons c cs =>
    intro quote
    simp only [List.cons_append, List.head?_cons, Option.some.injEq] at quote
    exact absurd (parts c (by simp)) (by rw [quote]; decide)

/-- A word is read to its end. -/
theorem tokenFrom_word {c : Char} {cs rest : List Char} (start : isNameStart c = true)
    (parts : ∀ c ∈ cs, isNamePart c = true) (parted : Parted rest) :
    tokenFrom c (cs ++ rest) = (.word (String.ofList (c :: cs)), rest) := by
  obtain ⟨taken, left⟩ := parted.span parts
  have notQuote : c ≠ '"' := by rintro rfl; exact absurd start (by decide)
  have notMark : c ≠ '?' := by rintro rfl; exact absurd start (by decide)
  have notDigit := not_isDigit_of_isNameStart start
  have notBlob := head?_append_ne_quote parts parted
  unfold tokenFrom
  rw [if_neg notQuote, if_neg notMark, if_neg (by simp [notDigit]),
    if_neg (fun both => notBlob both.2), if_pos (isWordStart_of_isNameStart start)]
  simp [wordToken, taken, left]

/-- A name between quotes is read to the quote that closes it. -/
theorem tokenFrom_quotedName (name : String) {rest : List Char} (parted : Parted rest) :
    tokenFrom '"' (doubleQuotes name.toList ++ '"' :: rest) = (.quoted name, rest) := by
  have apart : rest.head? ≠ some '"' := fun quote => (parted '"' quote).2.1 rfl
  simp [tokenFrom, quotedToken, readQuoted_doubleQuotes _ _ apart]

/-- A text is cut into tokens of its own wherever it stands before a bounded text. -/
def Spells (text : String) (ts : List Token) : Prop :=
  ∀ rest us, Bounded rest → Cuts rest us → Cuts (text.toList ++ rest) (ts ++ us)

theorem Spells.cuts {text : String} {ts : List Token} (spelled : Spells text ts) :
    Cuts text.toList ts := by
  simpa using spelled [] [] .nil .nil

theorem Spells.word {text : String} (word : isWordText text = true) :
    Spells text [.word text] := by
  intro rest us bounded cut
  unfold isWordText at word
  split at word
  · cases word
  · rename_i c cs shape
    simp only [Bool.and_eq_true, List.all_eq_true] at word
    have same : String.ofList (c :: cs) = text := by rw [← shape, String.ofList_toList]
    have found := tokenFrom_word word.1 word.2 bounded.parted
    rw [same] at found
    rw [shape]
    exact cut.token (isSolid_of_isNameStart word.1) found (by simp)

/-- The token of a name as `quoteName` writes it. -/
def nameToken (name : String) : Token := if isBare name then .word name else .quoted name

/-- A name is one token, whatever characters are in it. -/
theorem Spells.name (name : String) : Spells (quoteName name) [nameToken name] := by
  cases bare : isBare name with
  | true =>
    simpa [quoteName, nameToken, bare] using Spells.word (isBare_iff.mp bare).1
  | false =>
    intro rest us bounded cut
    have found := tokenFrom_quotedName name bounded.parted
    rw [toList_quoteName_of_not_bare bare]
    simp only [nameToken, bare, Bool.false_eq_true, if_false, List.cons_append, List.append_assoc,
      List.nil_append]
    exact cut.token (by decide) found (by simp; omega)

/-! ## Pieces side by side -/

/-- Two pieces with a blank between them. -/
theorem Spells.blank {a b : String} {ts us : List Token} (left : Spells a ts)
    (right : Spells b us) : Spells (a ++ " " ++ b) (ts ++ us) := by
  intro rest vs bounded cut
  have behind := left _ _ (.cons (by simp)) (right rest vs bounded cut).blank
  simpa using behind

theorem Spells.parens {a : String} {ts : List Token} (inner : Spells a ts) :
    Spells ("(" ++ a ++ ")") (.sign .leftParen :: ts ++ [.sign .rightParen]) := by
  intro rest vs _ cut
  have closed := Cuts.sign (show soleSign? ')' = some .rightParen from rfl) cut
  have opened := Cuts.sign (show soleSign? '(' = some .leftParen from rfl)
    (inner _ _ (.cons (by simp)) closed)
  simpa using opened

theorem Spells.semicolon {a : String} {ts : List Token} (inner : Spells a ts) :
    Spells (a ++ ";") (ts ++ [.sign .semicolon]) := by
  intro rest vs _ cut
  have closed := Cuts.sign (show soleSign? ';' = some .semicolon from rfl) cut
  simpa using inner _ _ (.cons (by simp)) closed

theorem Spells.placeholder : Spells "?" [.placeholder] := by
  intro rest us bounded cut
  have notDigit : rest.head?.any Char.isDigit = false := by
    cases rest with
    | nil => rfl
    | cons c cs =>
      have none : ∀ c ∈ [' ', ',', '(', ')', ';'], c.isDigit = false := by
        simp only [List.forall_mem_cons, List.not_mem_nil, false_implies, implies_true, and_true]
        decide
      simpa using none c (bounded c (by simp))
  have found : tokenFrom '?' rest = (.placeholder, rest) := by simp [tokenFrom, notDigit]
  exact cut.token (by decide) found (Nat.le_refl _)

theorem Spells.star : Spells "*" [.sign .star] := by
  intro rest us _ cut
  exact Cuts.sign (show soleSign? '*' = some .star from rfl) cut

/-- An equals sign between blanks. -/
theorem Spells.equal {a b : String} {ts us : List Token} (left : Spells a ts)
    (right : Spells b us) : Spells (a ++ " = " ++ b) (ts ++ .sign .equal :: us) := by
  intro rest vs bounded cut
  have sign : Cuts ('=' :: ' ' :: (b.toList ++ rest)) (.sign .equal :: (us ++ vs)) :=
    (right rest vs bounded cut).blank.token (by decide)
      (by simp [tokenFrom, isWordStart, signToken]) (Nat.le_refl _)
  simpa using left _ _ (.cons (by simp)) sign.blank

/-- Items with commas between them, at least one. -/
theorem Spells.commas {α : Type} {text : α → String} {ts : α → List Token} {items : List α}
    (each : ∀ a ∈ items, Spells (text a) (ts a)) (some : items ≠ []) :
    Spells (", ".intercalate (items.map text)) ([.sign .comma].intercalate (items.map ts)) := by
  induction items with
  | nil => exact absurd rfl some
  | cons a rest ih =>
    cases rest with
    | nil => simpa using each a (by simp)
    | cons b rest =>
      intro behind us bounded cut
      have last := ih (fun c member => each c (List.mem_cons_of_mem a member)) (by simp)
        behind us bounded cut
      have comma := Cuts.sign (show soleSign? ',' = Option.some .comma from rfl) last.blank
      have first := each a (by simp) _ _ (.cons (by simp)) comma
      simpa using first

/-! ## Texts without NUL -/

/-- Writing quotes twice neither adds nor removes a NUL. -/
theorem nul_mem_doubleQuotes {cs : List Char} : '\x00' ∈ doubleQuotes cs ↔ '\x00' ∈ cs := by
  unfold doubleQuotes
  rw [List.mem_flatMap]
  constructor
  · rintro ⟨c, among, written⟩
    split at written
    · exact absurd written (by decide)
    · rwa [List.mem_singleton.mp written]
  · intro member
    exact ⟨_, member, by simp⟩

/-- A word has no NUL. -/
theorem nul_notMem_of_isWordText {text : String} (word : isWordText text = true) :
    '\x00' ∉ text.toList := by
  intro nul
  unfold isWordText at word
  split at word
  · cases word
  · next c rest parts =>
    rw [parts] at nul
    simp only [Bool.and_eq_true, List.all_eq_true] at word
    rcases List.mem_cons.mp nul with rfl | behind
    · exact absurd word.1 (by decide)
    · exact absurd (word.2 _ behind) (by decide)

theorem nul_notMem_append {a b : String} (left : '\x00' ∉ a.toList) (right : '\x00' ∉ b.toList) :
    '\x00' ∉ (a ++ b).toList := by
  rw [String.toList_append, List.mem_append, not_or]
  exact ⟨left, right⟩

theorem mem_toList_quoteName {name : String} :
    '\x00' ∈ (quoteName name).toList ↔ '\x00' ∈ name.toList := by
  cases bare : isBare name with
  | true => rw [toList_quoteName_of_bare bare]
  | false =>
    rw [toList_quoteName_of_not_bare bare]
    simp [nul_mem_doubleQuotes]

theorem not_mem_intercalate {α : Type} {sep : List α} {items : List (List α)} {a : α}
    (apart : a ∉ sep) (each : ∀ item ∈ items, a ∉ item) : a ∉ sep.intercalate items := by
  induction items with
  | nil => simp
  | cons item rest ih =>
    cases rest with
    | nil => simpa using each item (by simp)
    | cons other rest =>
      have behind := ih fun item member => each item (List.mem_cons_of_mem _ member)
      simp only [List.intercalate_cons_cons, List.mem_append, not_or]
      exact ⟨⟨each item (by simp), apart⟩, behind⟩

/-- A piece of one statement: cut into tokens of its own, with no NUL and no semicolon. -/
structure Writes (text : String) (ts : List Token) : Prop where
  spells : Spells text ts
  free : '\x00' ∉ text.toList
  single : .sign .semicolon ∉ ts

namespace Writes

variable {a b : String} {ts us : List Token}

theorem word (text : String) (word : isWordText text = true) : Writes text [.word text] :=
  ⟨.word word, nul_notMem_of_isWordText word, by simp⟩

theorem name {name : String} (free : '\x00' ∉ name.toList) :
    Writes (quoteName name) [nameToken name] := by
  refine ⟨.name name, mem_toList_quoteName.not.mpr free, ?_⟩
  unfold nameToken
  split <;> simp

theorem blank (left : Writes a ts) (right : Writes b us) : Writes (a ++ " " ++ b) (ts ++ us) := by
  refine ⟨left.spells.blank right.spells, ?_, by simp [left.single, right.single]⟩
  exact nul_notMem_append (nul_notMem_append left.free (by decide)) right.free

theorem parens (inner : Writes a ts) :
    Writes ("(" ++ a ++ ")") (.sign .leftParen :: ts ++ [.sign .rightParen]) := by
  refine ⟨inner.spells.parens, ?_, by simp [inner.single]⟩
  exact nul_notMem_append (nul_notMem_append (by decide) inner.free) (by decide)

theorem placeholder : Writes "?" [.placeholder] := ⟨.placeholder, by decide, by decide⟩

theorem star : Writes "*" [.sign .star] := ⟨.star, by decide, by decide⟩

theorem equal (left : Writes a ts) (right : Writes b us) :
    Writes (a ++ " = " ++ b) (ts ++ .sign .equal :: us) := by
  refine ⟨left.spells.equal right.spells, ?_, by simp [left.single, right.single]⟩
  exact nul_notMem_append (nul_notMem_append left.free (by decide)) right.free

theorem commas {α : Type} {text : α → String} {ts : α → List Token} {items : List α}
    (each : ∀ a ∈ items, Writes (text a) (ts a)) (some : items ≠ []) :
    Writes (", ".intercalate (items.map text)) ([.sign .comma].intercalate (items.map ts)) := by
  refine ⟨.commas (fun a member => (each a member).spells) some, ?_, ?_⟩
  · rw [String.toList_intercalate]
    refine not_mem_intercalate (by decide) fun cs among => ?_
    obtain ⟨piece, written, rfl⟩ := List.mem_map.mp among
    obtain ⟨a, member, rfl⟩ := List.mem_map.mp written
    exact (each a member).free
  · refine not_mem_intercalate (by decide) fun piece among => ?_
    obtain ⟨a, member, rfl⟩ := List.mem_map.mp among
    exact (each a member).single

theorem tokens_eq (written : Writes a ts) : tokens a = ts :=
  tokens_eq_of_cuts written.free written.spells.cuts

theorem tokens_closed (written : Writes a ts) : tokens (a ++ ";") = ts ++ [.sign .semicolon] :=
  tokens_eq_of_cuts (nul_notMem_append written.free (by decide)) written.spells.semicolon.cuts

end Writes

end EntityTables.Sql
