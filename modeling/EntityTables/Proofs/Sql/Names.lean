/-
# EntityTables.Proofs.Sql.Names — names are read back as they were written

A name stands in SQL text bare or between quotes. Bare it must be taken for nothing but a name,
neither for a keyword nor for part of a longer word; between quotes every quote inside it must be
told from the one that closes it. In both forms the first token of the text is the name itself, and
what stands behind it is left for the next token.

* `Token.identifier?` — the name that a token stands for; no keyword stands for one.
* `firstToken?_quoteName` — what the first token of a text is that begins with a name.
* `quoteName_readsBack` — names read back, each with its own spelling.
* `identifiers_of_tokens` — a list of names reads back name by name.
-/
import EntityTables.Proofs.Sql.Prefixes

namespace EntityTables.Sql

set_option autoImplicit false

/-! ## What stands behind a name -/

/-- The first token of a text, and then the tokens of the text behind it. -/
theorem tokens_of_firstToken? {text rest : String} {t : Token}
    (found : firstToken? (visible text) = some (t, visible rest)) :
    tokens text = t :: tokens rest := by
  have shorter := firstToken?_shorter found
  obtain ⟨steps, more⟩ : ∃ steps, (visible text).length = steps + 1 :=
    Nat.exists_eq_add_one_of_ne_zero (Nat.ne_of_gt (Nat.zero_lt_of_lt shorter))
  have behind := cuts_tokens (visible rest) steps (by omega)
  change tokensWithin (visible text).length (visible text) = t :: tokens rest
  rw [more, tokensWithin, found]
  exact congrArg (t :: ·) behind

theorem parted_of_among {rest : List Char}
    (among : ∀ c ∈ rest.head?, c ∈ [' ', ',', '(', ')', '.', '=', ';']) : Parted rest := by
  intro c first
  have none : ∀ c ∈ [' ', ',', '(', ')', '.', '=', ';'],
      isWordPart c = false ∧ c ≠ '"' ∧ c ≠ '\'' := by
    simp only [List.forall_mem_cons, List.not_mem_nil, false_implies, implies_true, and_true]
    decide
  exact none c (among c first)

theorem Parted.visible {rest : String} (parted : Parted rest.toList) : Parted (visible rest) :=
  fun c first => parted c (mem_head?_of_visible first)

/-! ## The token of a name -/

/-- The name that a token stands for. What a reader knows as a keyword is that before it is a name. -/
def Token.identifier? : Token → Option String
  | .word text => if readsAsKeyword text then none else some text
  | .quoted name => some name
  | _ => none

/-- A name as it is written stands for itself, bare or between quotes. -/
@[simp] theorem identifier?_nameToken (name : String) :
    (nameToken name).identifier? = some name := by
  cases bare : isBare name with
  | true => simp [nameToken, bare, Token.identifier?, not_readsAsKeyword_of_isBare bare]
  | false => simp [nameToken, bare, Token.identifier?]

/-- A name is the first token of a text that begins with it, and nothing behind it is taken. -/
theorem firstToken?_quoteName (name : String) {rest : List Char} (parted : Parted rest) :
    firstToken? ((quoteName name).toList ++ rest) = some (nameToken name, rest) := by
  cases bare : isBare name with
  | true =>
    have word := (isBare_iff.mp bare).1
    unfold isWordText at word
    split at word
    · cases word
    · next c cs shape =>
      simp only [Bool.and_eq_true, List.all_eq_true] at word
      have same : String.ofList (c :: cs) = name := by rw [← shape, String.ofList_toList]
      have solid := dropBlanks_solid (isSolid_of_isNameStart word.1) (cs ++ rest).length
        (cs ++ rest)
      have taken := tokenFrom_word word.1 word.2 parted
      rw [toList_quoteName_of_bare bare, shape, List.cons_append, firstToken?, List.length_cons,
        solid]
      simp [taken, nameToken, bare, same]
  | false =>
    have solid := dropBlanks_solid (show isSolid '"' = true by decide)
      (doubleQuotes name.toList ++ '"' :: rest).length (doubleQuotes name.toList ++ '"' :: rest)
    have taken := tokenFrom_quotedName name parted
    rw [toList_quoteName_of_not_bare bare, List.cons_append, List.cons_append, List.append_assoc,
      List.singleton_append, firstToken?, List.length_cons, solid]
    simp [taken, nameToken, bare]

/-- No two names are written alike. -/
theorem eq_of_quoteName_eq {a b : String} (same : quoteName a = quoteName b) : a = b := by
  have ends : Parted [] := by simp [Parted]
  have left := firstToken?_quoteName a ends
  have right := firstToken?_quoteName b ends
  rw [same, right] at left
  simp only [Option.some.injEq, Prod.mk.injEq, and_true] at left
  have names := congrArg Token.identifier? left
  rw [identifier?_nameToken, identifier?_nameToken] at names
  exact (Option.some.inj names).symm

/-- A name without NUL, before any text that goes on with no word and opens no quote, is read as one
token. The token is no keyword and stands for that name, the text behind it is left as it is, and no
other name is written alike. -/
theorem quoteName_readsBack {name rest : String} (free : '\x00' ∉ name.toList)
    (parted : Parted rest.toList) :
    (∃ token : Token, token.identifier? = some name ∧
      firstToken? (visible (quoteName name ++ rest)) = some (token, visible rest) ∧
      tokens (quoteName name ++ rest) = token :: tokens rest) ∧
    ∀ other, quoteName other = quoteName name → other = name := by
  have found : firstToken? (visible (quoteName name ++ rest)) =
      some (nameToken name, visible rest) := by
    rw [visible_append (mem_toList_quoteName.not.mpr free)]
    exact firstToken?_quoteName name parted.visible
  refine ⟨⟨nameToken name, identifier?_nameToken name, found, tokens_of_firstToken? found⟩, ?_⟩
  intro other same
  exact eq_of_quoteName_eq same

/-- A reserved word with a quote behind it, before the column of that table. -/
theorem quoteName_readsBack_reserved :
    (∃ token : Token, token.identifier? = some "order\"" ∧
      firstToken? (visible (quoteName "order\"" ++ ".id")) = some (token, visible ".id") ∧
      tokens (quoteName "order\"" ++ ".id") = token :: tokens ".id") ∧
    ∀ other, quoteName other = quoteName "order\"" → other = "order\"" :=
  quoteName_readsBack (by decide) (parted_of_among (by rintro c ⟨⟩; decide))

/-! ## Lists of names -/

/-- The names that tokens stand for. -/
def identifiers (ts : List Token) : List String := ts.filterMap Token.identifier?

theorem identifiers_append (ts us : List Token) :
    identifiers (ts ++ us) = identifiers ts ++ identifiers us := List.filterMap_append

theorem identifiers_name (name : String) : identifiers [nameToken name] = [name] :=
  List.filterMap_cons_some (identifier?_nameToken name)

/-- Commas between names stand for no name. -/
theorem identifiers_commas (names : List String) :
    identifiers ([.sign .comma].intercalate (names.map fun name => [nameToken name])) = names := by
  induction names with
  | nil => rfl
  | cons name rest ih =>
    cases rest with
    | nil => exact identifiers_name name
    | cons other rest =>
      rw [List.map_cons, List.map_cons] at *
      rw [List.intercalate_cons_cons, identifiers_append, identifiers_append, identifiers_name, ih]
      rfl

/-- Names with commas between them are read back one by one, before any text that is bounded. -/
theorem identifiers_of_tokens {names : List String} {rest : String} (some : names ≠ [])
    (free : ∀ name ∈ names, '\x00' ∉ name.toList) (bounded : Bounded rest.toList) :
    identifiers (tokens (", ".intercalate (names.map quoteName) ++ rest)) =
      names ++ identifiers (tokens rest) := by
  have written : Writes (", ".intercalate (names.map quoteName))
      ([.sign .comma].intercalate (names.map fun name => [nameToken name])) :=
    .commas (fun name member => .name (free name member)) some
  rw [written.tokens_append bounded, identifiers_append, identifiers_commas]

end EntityTables.Sql
