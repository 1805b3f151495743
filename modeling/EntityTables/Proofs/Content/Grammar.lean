/-
# EntityTables.Proofs.Content.Grammar — the one reading of an identifier

What an identifier looks like is told here by a grammar of characters, part by part, without saying
how a text is read. A text is read exactly as the identifier that it spells, so it has one reading at
most, and every other text is refused as it is.

* `SpellsNumber`, `IsTable`, `Ending` — the parts; `Spells` — whole identifiers.
* `integer?_eq_some_iff`, `selector?_eq_some_iff`, `ofText?_eq_some_iff` — each reader finds what is
  spelled.
* `ContentUri.parse_exact` — the reading of every text, and of the texts that identifiers have.
-/
import EntityTables.Proofs.Content.Uri

namespace EntityTables.ContentUri

set_option autoImplicit false

/-! ## The grammar -/

/-- The digits of a number, with any zeros before them. -/
structure IsDecimal (digits : List Char) (n : Nat) : Prop where
  some : digits ≠ []
  plain : ∀ c ∈ digits, c.isDigit = true
  value : Nat.ofDigitChars 10 digits 0 = n

/-- A number with a sign or without. -/
inductive SpellsNumber : List Char → Int → Prop
  | unsigned {digits : List Char} {n : Nat} (decimal : IsDecimal digits n) : SpellsNumber digits n
  | plus {digits : List Char} {n : Nat} (decimal : IsDecimal digits n) :
      SpellsNumber ('+' :: digits) n
  | minus {digits : List Char} {n : Nat} (decimal : IsDecimal digits n) :
      SpellsNumber ('-' :: digits) (-n)

/-- A table's name: an ASCII letter or underscore, and then those and digits. -/
def IsTable (table : List Char) : Prop :=
  ∃ first rest, table = first :: rest ∧ (first.isAlpha = true ∨ first = '_') ∧
    ∀ c ∈ rest, c.isAlpha = true ∨ c = '_' ∨ c.isDigit = true

/-- What stands behind a table: nothing, or a slash and the number of a row. -/
inductive Ending : List Char → RowSelector → Prop
  | all : Ending [] .all
  | row {number : List Char} {value : Int} (spelled : SpellsNumber number value)
      (least : 0 ≤ value) (most : value ≤ 9223372036854775807) :
      Ending ('/' :: number) (.row (Int64.ofInt value))

/-- The characters of an identifier, in their order; one slash more may stand at the end. -/
structure Spells (text : String) (uri : ContentUri) : Prop where
  authority : IsAuthority uri.authority
  table : IsTable uri.table.toList
  parts : ∃ ending slash, Ending ending uri.selector ∧ (slash = [] ∨ slash = ['/']) ∧
    text.toList = "content://".toList ++ uri.authority.toList ++ ['/'] ++ uri.table.toList ++
      ending ++ slash

/-! ## Numbers -/

section Numbers

variable {cs : List Char}

theorem decimal?_eq_some_iff {n : Nat} : decimal? cs = some n ↔ IsDecimal cs n := by
  have fold (cs : List Char) :
      cs.foldl (fun n c => n * 10 + (c.toNat - '0'.toNat)) 0 = Nat.ofDigitChars 10 cs 0 := by
    rw [Nat.ofDigitChars_eq_foldl]
    refine congrArg (fun step => cs.foldl step 0) ?_
    funext n c
    omega
  cases cs with
  | nil => exact ⟨nofun, fun decimal => absurd rfl decimal.some⟩
  | cons c rest =>
    show (if (c :: rest).all Char.isDigit = true then _ else _) = some n ↔ _
    rw [fold]
    by_cases digits : (c :: rest).all Char.isDigit = true
    · rw [if_pos digits]
      constructor
      · rintro ⟨⟩
        exact ⟨List.cons_ne_nil c rest, List.all_eq_true.mp digits, rfl⟩
      · exact fun decimal => congrArg some decimal.value
    · rw [if_neg digits]
      exact ⟨nofun, fun decimal => absurd (List.all_eq_true.mpr decimal.plain) digits⟩

/-- An integer is read exactly as the number that it spells. -/
theorem integer?_eq_some_iff {value : Int} : integer? cs = some value ↔ SpellsNumber cs value := by
  constructor
  · intro read
    unfold integer? at read
    split at read
    · obtain ⟨i, taken, rfl⟩ := Option.map_eq_some_iff.mp read
      obtain ⟨n, number, same⟩ := Option.bind_eq_some_iff.mp taken
      cases same
      exact .minus (decimal?_eq_some_iff.mp number)
    · obtain ⟨n, number, rfl⟩ := Option.map_eq_some_iff.mp read
      exact .plus (decimal?_eq_some_iff.mp number)
    · obtain ⟨n, number, rfl⟩ := Option.map_eq_some_iff.mp read
      exact .unsigned (decimal?_eq_some_iff.mp number)
  · intro spelled
    cases spelled with
    | @unsigned _ n decimal =>
      obtain ⟨c, rest, rfl⟩ := List.exists_cons_of_ne_nil decimal.some
      rw [integer?_digits (decimal.plain c List.mem_cons_self), decimal?_eq_some_iff.mpr decimal]
      rfl
    | plus decimal => rw [integer?, decimal?_eq_some_iff.mpr decimal]; rfl
    | minus decimal => rw [integer?, decimal?_eq_some_iff.mpr decimal]; rfl

theorem identity?_eq_some_iff {identity : Int64} :
    identity? cs = some identity ↔
      ∃ value, SpellsNumber cs value ∧ 0 ≤ value ∧ value ≤ 9223372036854775807 ∧
        identity = Int64.ofInt value := by
  unfold identity?
  constructor
  · intro read
    split at read
    · next value number =>
      split at read
      · next range =>
        cases read
        exact ⟨value, integer?_eq_some_iff.mp number, range.1, range.2, rfl⟩
      · cases read
    · cases read
  · rintro ⟨value, spelled, least, most, rfl⟩
    rw [integer?_eq_some_iff.mpr spelled]
    simp only
    rw [if_pos ⟨least, most⟩]

/-- A number has characters, and they may stand in a part. -/
theorem SpellsNumber.part {value : Int} (spelled : SpellsNumber cs value) :
    cs ≠ [] ∧ ∀ c ∈ cs, isPartChar c = true := by
  have digits {digits : List Char} {n : Nat} (decimal : IsDecimal digits n) :
      ∀ c ∈ digits, isPartChar c = true :=
    fun c member => isPartChar_of_isDigit (decimal.plain c member)
  cases spelled with
  | unsigned decimal => exact ⟨decimal.some, digits decimal⟩
  | plus decimal => exact ⟨List.cons_ne_nil _ _, List.forall_mem_cons.mpr ⟨by decide, digits decimal⟩⟩
  | minus decimal => exact ⟨List.cons_ne_nil _ _, List.forall_mem_cons.mpr ⟨by decide, digits decimal⟩⟩

end Numbers

/-! ## Parts -/

theorem isTableName_iff {table : List Char} : isTableName table = true ↔ IsTable table := by
  have start (c : Char) : (c.isDigit = false ∧ isTableChar c = true) ↔
      (c.isAlpha = true ∨ c = '_') := by
    have apart (c : Char) (either : c.isAlpha = true ∨ c = '_') : c.isDigit = false := by
      rcases either with letter | rfl
      · exact isDigit_of_isAlpha letter
      · decide
    simp only [isTableChar, Char.isAlphanum, Bool.or_eq_true, beq_iff_eq]
    constructor
    · rintro ⟨other, (letter | digit) | line⟩
      · exact .inl letter
      · exact absurd digit (by simp [other])
      · exact .inr line
    · intro either
      exact ⟨apart c either, either.imp_left .inl⟩
  have other (c : Char) : isTableChar c = true ↔ c.isAlpha = true ∨ c = '_' ∨ c.isDigit = true := by
    simp only [isTableChar, Char.isAlphanum, Bool.or_eq_true, beq_iff_eq]
    rw [or_assoc, or_comm (a := c.isDigit = true)]
  cases table with
  | nil =>
    refine ⟨fun none => absurd none Bool.false_ne_true, ?_⟩
    rintro ⟨_, _, same, -⟩
    cases same
  | cons c rest =>
    have whole : isTableName (c :: rest) = true ↔
        (c.isDigit = false ∧ isTableChar c = true) ∧ ∀ c ∈ rest, isTableChar c = true := by
      simp [isTableName, and_assoc]
    rw [whole, start]
    constructor
    · rintro ⟨first, plain⟩
      exact ⟨c, rest, rfl, first, fun c member => (other c).mp (plain c member)⟩
    · rintro ⟨_, _, same, first, plain⟩
      cases same
      exact ⟨first, fun c member => (other c).mpr (plain c member)⟩

theorem dropPart?_eq_some_iff {part cs rest : List Char} :
    dropPart? part cs = some rest ↔ cs = part ++ rest := by
  constructor
  · intro dropped
    induction part generalizing cs with
    | nil =>
      cases dropped
      rfl
    | cons p part ih =>
      cases cs with
      | nil => cases dropped
      | cons c cs =>
        rw [dropPart?] at dropped
        by_cases same : p = c
        · rw [if_pos same] at dropped
          rw [same, ih dropped, List.cons_append]
        · rw [if_neg same] at dropped
          cases dropped
  · rintro rfl
    exact dropPart?_append part rest

/-- What stands behind a table is read exactly as what it spells, a slash at the end or not. -/
theorem selector?_eq_some_iff {cs : List Char} {selector : RowSelector} :
    selector? cs = some selector ↔
      ∃ ending slash, Ending ending selector ∧ (slash = [] ∨ slash = ['/']) ∧
        cs = ending ++ slash := by
  constructor
  · intro read
    unfold selector? at read
    split at read
    · cases read
      exact ⟨[], [], .all, .inl rfl, rfl⟩
    · cases read
      exact ⟨[], ['/'], .all, .inr rfl, rfl⟩
    · next rest _ =>
      simp only at read
      split at read
      · next slash =>
        obtain ⟨identity, number, rfl⟩ := Option.map_eq_some_iff.mp read
        obtain ⟨value, spelled, least, most, rfl⟩ := identity?_eq_some_iff.mp number
        refine ⟨_, _, .row spelled least most, slash, ?_⟩
        rw [List.cons_append, List.takeWhile_append_dropWhile]
      · cases read
    · cases read
  · rintro ⟨ending, slash, spelled, last, rfl⟩
    cases spelled with
    | all =>
      rcases last with rfl | rfl
      · rfl
      · rfl
    | @row number value spelled least most =>
      obtain ⟨some, plain⟩ := spelled.part
      have ends : ∀ c ∈ slash.head?, isPartChar c = false := by
        rcases last with rfl | rfl
        · simp
        · simp [isPartChar]
      obtain ⟨taken, left⟩ := span_append plain ends
      obtain ⟨c, rest, rfl⟩ := List.exists_cons_of_ne_nil some
      have read : identity? (c :: rest) = Option.some (Int64.ofInt value) :=
        identity?_eq_some_iff.mpr ⟨value, spelled, least, most, rfl⟩
      show selector? ('/' :: (c :: rest ++ slash)) = _
      rw [List.cons_append] at taken left ⊢
      simp only [selector?, taken, left, last, if_true, read, Option.map_some]

/-! ## Whole identifiers -/

theorem Ending.head? {ending slash : List Char} {selector : RowSelector}
    (spelled : Ending ending selector) (last : slash = [] ∨ slash = ['/']) :
    ∀ c ∈ (ending ++ slash).head?, isTableChar c = false := by
  have divides : isTableChar '/' = false := by decide
  cases spelled with
  | all =>
    rcases last with rfl | rfl
    · simp
    · simp [divides]
  | row => simp [divides]

/-- A text is read exactly as the identifier that it spells. -/
theorem ofText?_eq_some_iff {text : String} {uri : ContentUri} :
    ofText? text = some uri ↔ Spells text uri := by
  have opening : "content://".toList = scheme := by decide
  constructor
  · intro read
    simp only [ofText?, ofChars?, Option.bind_eq_bind, Option.bind_eq_some_iff] at read
    obtain ⟨rest, opened, read⟩ := read
    have whole := dropPart?_eq_some_iff.mp opened
    split at read
    · cases read
    · next filled =>
      obtain ⟨behind, divided, read⟩ := Option.bind_eq_some_iff.mp read
      have divides := dropPart?_eq_some_iff.mp divided
      split at read
      · next named =>
        obtain ⟨selector, ended, made⟩ := Option.bind_eq_some_iff.mp read
        cases made
        obtain ⟨ending, slash, spelled, last, tail⟩ := selector?_eq_some_iff.mp ended
        refine ⟨⟨?_, ?_⟩, ?_, ending, slash, spelled, last, ?_⟩
        · intro empty
          exact filled (List.isEmpty_iff.mpr (by simpa using empty))
        · intro c member
          rw [String.toList_ofList] at member
          exact List.mem_takeWhile_imp member
        · rw [String.toList_ofList]
          exact isTableName_iff.mp named
        · rw [opening, whole]
          simp only [String.toList_ofList, List.append_assoc]
          rw [← tail, List.takeWhile_append_dropWhile, ← divides, List.takeWhile_append_dropWhile]
      · cases read
  · rintro ⟨authority, table, ending, slash, spelled, last, whole⟩
    have named := isTableName_iff.mpr table
    have authorityTaken := span_append authority.plain
      (show ∀ c ∈ ('/' :: (uri.table.toList ++ (ending ++ slash))).head?, isPartChar c = false by
        simp [isPartChar])
    have tableTaken := span_append (isTableChar_of_isTableName named) (spelled.head? last)
    have filled : uri.authority.toList.isEmpty = false := by
      simpa [List.isEmpty_eq_false_iff] using authority.some
    have parts : text.toList =
        scheme ++ (uri.authority.toList ++ '/' :: (uri.table.toList ++ (ending ++ slash))) := by
      rw [whole, opening]
      simp
    rw [ofText?, parts, ofChars?, dropPart?_append]
    simp only [Option.bind_eq_bind, Option.bind_some, authorityTaken, filled, Bool.false_eq_true,
      if_false, dropPart?, if_true, tableTaken, named]
    rw [selector?_eq_some_iff.mpr ⟨ending, slash, spelled, last, rfl⟩]
    simp

/-- The text of an identifier with such parts is that identifier again. -/
theorem parse_text {uri : ContentUri} (authority : IsAuthority uri.authority)
    (table : IsTable uri.table.toList)
    (some : ∀ identity, uri.selector = .row identity → 0 ≤ identity) :
    parse uri.text = .ok uri :=
  parse_eq_ok_iff.mpr (ofText?_text authority (isTableName_iff.mpr table) some)

/-- Every text is read exactly as the identifier that it spells, which is read again from its own
text, and is refused as it is if it spells none; the identifiers of all tables and rows are read
from their texts if their authority and table are written like that and their number is not
negative. -/
theorem parse_exact (text : String) :
    (∀ uri, parse text = .ok uri ↔ Spells text uri) ∧
    (∀ error, parse text = .error error ↔ error = .unknownUri text ∧ ∀ uri, ¬ Spells text uri) ∧
    (∀ uri, parse text = .ok uri → parse uri.text = .ok uri) ∧
    ∀ authority table, IsAuthority authority → IsTable table.toList →
      parse (collection authority table).text = .ok (collection authority table) ∧
      ∀ identity : Int64, 0 ≤ identity →
        parse (row authority table identity).text = .ok (row authority table identity) := by
  have reads (uri : ContentUri) : parse text = .ok uri ↔ Spells text uri :=
    parse_eq_ok_iff.trans ofText?_eq_some_iff
  refine ⟨reads, ?_, ?_, ?_⟩
  · intro error
    rw [parse_eq_error_iff, Option.eq_none_iff_forall_ne_some]
    simp only [ne_eq, ofText?_eq_some_iff]
  · intro uri read
    obtain ⟨authority, table, -⟩ := (reads uri).mp read
    exact parse_text authority table (ofText?_eq_some (parse_eq_ok_iff.mp read)).2
  · intro authority table is named
    refine ⟨parse_text is named nofun, fun identity some => parse_text is named fun other same => ?_⟩
    cases same
    exact some

/-- A sign, zeros and a slash at the end do not keep a text from being the identifier of a row, whose
own text has none of them. -/
theorem parse_exact_note :
    parse "content://org.example/shop_Note/+007/" = .ok (row "org.example" "shop_Note" 7) ∧
      (row "org.example" "shop_Note" 7).text = "content://org.example/shop_Note/7" ∧
        parse "content://org.example/shop_Note/7" = .ok (row "org.example" "shop_Note" 7) := by
  have authority : IsAuthority "org.example" := by decide
  have table : IsTable "shop_Note".toList :=
    ⟨'s', "hop_Note".toList, by decide, by decide, List.forall_iff_forall_mem.mp (by decide)⟩
  have seven : IsDecimal "007".toList 7 :=
    ⟨by decide, List.forall_iff_forall_mem.mp (by decide), by decide⟩
  have text : (row "org.example" "shop_Note" 7).text = "content://org.example/shop_Note/7" := by
    decide
  refine ⟨((parse_exact _).1 _).mpr ⟨authority, table, _, ['/'],
    .row (.plus seven) (by decide) (by decide), .inr rfl, by decide⟩, text, ?_⟩
  rw [← text]
  exact ((parse_exact "").2.2.2 _ _ authority table).2 7 (by decide)

end EntityTables.ContentUri
