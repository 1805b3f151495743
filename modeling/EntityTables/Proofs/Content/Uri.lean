/-
# EntityTables.Proofs.Content.Uri — which identifiers are read back from their texts

An identifier is written whatever its parts are, and read only if its authority is one, its table's
name is one and its identity is not negative. So the text of an identifier is read as something else
or as nothing exactly if one of these fails, and what is read has always such parts.

* `IsAuthority` — the authorities that are read.
* `ofText?_text` — the text of an identifier with such parts is that identifier.
* `ofText?_eq_some` — the parts of an identifier that was read.
* `isTableName_tableName_iff` — whether the table of a type has a name that is read.
-/
import EntityTables.Content.Uri
import EntityTables.Proofs.Schema.TableNames
import EntityTables.Proofs.Text.Digits
import Mathlib.Data.List.TakeWhile

namespace EntityTables

set_option autoImplicit false

namespace ContentUri

/-- An authority that identifiers can have: not empty, without slashes and blanks. -/
structure IsAuthority (authority : String) : Prop where
  some : authority ≠ ""
  plain : ∀ c ∈ authority.toList, isPartChar c = true

instance (authority : String) : Decidable (IsAuthority authority) :=
  decidable_of_iff (authority ≠ "" ∧ authority.toList.all isPartChar = true)
    ⟨fun both => ⟨both.1, List.all_eq_true.mp both.2⟩,
      fun is => ⟨is.some, List.all_eq_true.mpr is.plain⟩⟩

/-! ## Identities -/

/-- The digits of a number are that number. -/
theorem decimal?_toDigits (n : Nat) : decimal? (Nat.toDigits 10 n) = some n := by
  have digits : (Nat.toDigits 10 n).all Char.isDigit = true :=
    List.all_eq_true.mpr fun c member => isDigit_toDigits member
  have number := foldl_toDigits n
  cases text : Nat.toDigits 10 n with
  | nil => exact absurd text Nat.toDigits_ne_nil
  | cons c rest =>
    rw [text] at digits number
    show (if (c :: rest).all Char.isDigit = true then _ else _) = some n
    rw [if_pos digits, number]

/-- A number without a sign is not negative. -/
theorem integer?_digits {c : Char} {rest : List Char} (digit : c.isDigit = true) :
    integer? (c :: rest) = (decimal? (c :: rest)).map Int.ofNat := by
  unfold integer?
  split
  · next same =>
    cases same
    exact absurd digit (by decide)
  · next same =>
    cases same
    exact absurd digit (by decide)
  · rfl

/-- An identity is read back from its text if it is not negative. -/
theorem identity?_toString {identity : Int64} (some : 0 ≤ identity) :
    identity? (toString identity.toInt).toList = .some identity := by
  have nonneg : 0 ≤ identity.toInt := Int64.le_iff_toInt_le.mp some
  have range := identity.toInt_lt
  have read : integer? (toString identity.toInt).toList = .some identity.toInt := by
    rw [toString_of_nonneg nonneg]
    have digits : ∀ c ∈ Nat.toDigits 10 identity.toInt.toNat, c.isDigit = true :=
      fun c member => isDigit_toDigits member
    have number := decimal?_toDigits identity.toInt.toNat
    cases text : Nat.toDigits 10 identity.toInt.toNat with
    | nil => exact absurd text Nat.toDigits_ne_nil
    | cons c rest =>
      rw [text] at digits number
      rw [integer?_digits (digits c List.mem_cons_self), number, Option.map_some]
      exact congrArg Option.some (Int.toNat_of_nonneg nonneg)
  rw [identity?, read]
  simp only
  rw [if_pos ⟨nonneg, by omega⟩, Int64.ofInt_toInt]

/-- No identity that is read is negative. -/
theorem nonneg_of_identity? {cs : List Char} {identity : Int64}
    (read : identity? cs = some identity) : 0 ≤ identity := by
  unfold identity? at read
  split at read
  · next i _ =>
    split at read
    · next range =>
      cases read
      rw [Int64.le_iff_toInt_le, Int64.toInt_ofInt_of_le (by omega) (by omega)]
      exact range.1
    · cases read
  · cases read

theorem isPartChar_of_isDigit {c : Char} (digit : c.isDigit = true) : isPartChar c = true := by
  have none : ∀ blank ∈ Text.blanks, blank.isDigit = false := by
    simp only [Text.blanks, List.forall_mem_cons, List.not_mem_nil, false_implies, implies_true,
      and_true]
    decide
  have slash : c ≠ '/' := by
    rintro rfl
    exact absurd digit (by decide)
  have solid : Text.isBlank c = false := by
    refine Bool.eq_false_iff.mpr fun blank => ?_
    rw [none c (Text.isBlank_iff.mp blank)] at digit
    cases digit
  simp [isPartChar, slash, solid]

/-- The characters of an identity's text are those of a part. -/
theorem isPartChar_toString {i : Int} {c : Char} (member : c ∈ (toString i).toList) :
    isPartChar c = true := by
  have digit {n : Nat} (among : c ∈ Nat.toDigits 10 n) : isPartChar c = true :=
    isPartChar_of_isDigit (isDigit_toDigits among)
  by_cases some : 0 ≤ i
  · rw [toString_of_nonneg some] at member
    exact digit member
  · rw [toString_of_neg (by omega)] at member
    rcases List.mem_cons.mp member with rfl | behind
    · decide
    · exact digit behind

/-! ## Identifiers -/

theorem parse_eq_ok_iff {text : String} {uri : ContentUri} :
    parse text = .ok uri ↔ ofText? text = some uri := by
  unfold parse
  cases ofText? text with
  | none => simp
  | some other => simp

theorem parse_eq_error_iff {text : String} {error : Error} :
    parse text = .error error ↔ error = .unknownUri text ∧ ofText? text = none := by
  unfold parse
  cases ofText? text with
  | none => simp [eq_comm]
  | some uri => simp

theorem dropPart?_append (part cs : List Char) : dropPart? part (part ++ cs) = some cs := by
  induction part with
  | nil => rfl
  | cons p part ih => rw [List.cons_append, dropPart?, if_pos rfl, ih]

/-- A part ends where its characters end. -/
theorem span_append {p : Char → Bool} {part rest : List Char} (all : ∀ c ∈ part, p c = true)
    (ends : ∀ c ∈ rest.head?, p c = false) :
    (part ++ rest).takeWhile p = part ∧ (part ++ rest).dropWhile p = rest := by
  have behind : rest.takeWhile p = [] ∧ rest.dropWhile p = rest := by
    cases rest with
    | nil => simp
    | cons c cs => simp [ends c (by simp)]
  rw [List.takeWhile_append_of_pos all, List.dropWhile_append_of_pos all, behind.1, behind.2]
  exact ⟨List.append_nil part, rfl⟩

theorem isTableChar_of_isTableName {cs : List Char} (named : isTableName cs = true) :
    ∀ c ∈ cs, isTableChar c = true := by
  cases cs with
  | nil => cases named
  | cons c rest =>
    simp only [isTableName, Bool.and_eq_true, List.all_eq_true] at named
    exact named.2

/-- The end of an identifier is read back if its identity is not negative. -/
theorem selector?_selectorText {selector : RowSelector}
    (some : ∀ identity, selector = .row identity → 0 ≤ identity) :
    selector? (selectorText selector).toList = .some selector := by
  cases selector with
  | all => rfl
  | row identity =>
    have read := identity?_toString (some identity rfl)
    have parts : ∀ c ∈ (toString identity.toInt).toList, isPartChar c = true :=
      fun c member => isPartChar_toString member
    have text : (selectorText (.row identity)).toList =
        '/' :: (toString identity.toInt).toList := by
      have slash : "/".toList = ['/'] := rfl
      rw [selectorText, String.toList_append, slash, List.singleton_append]
    rw [text]
    cases digits : (toString identity.toInt).toList with
    | nil =>
      rw [digits] at read
      cases read
    | cons c rest =>
      rw [digits] at read parts
      have taken : (c :: rest).takeWhile isPartChar = c :: rest :=
        List.takeWhile_eq_self_iff.mpr parts
      have left : (c :: rest).dropWhile isPartChar = [] := List.dropWhile_eq_nil_iff.mpr parts
      simp only [selector?, taken, left, read, true_or, if_true, Option.map_some]

theorem nonneg_of_selector? {cs : List Char} {identity : Int64}
    (read : selector? cs = some (.row identity)) : 0 ≤ identity := by
  unfold selector? at read
  split at read
  · cases read
  · cases read
  · simp only at read
    split at read
    · obtain ⟨found, known, same⟩ := Option.map_eq_some_iff.mp read
      cases same
      exact nonneg_of_identity? known
    · cases read
  · cases read

/-- An identifier is read back from its text if its authority is one, its table's name is one and
its identity is not negative. -/
theorem ofText?_text {uri : ContentUri} (authority : IsAuthority uri.authority)
    (table : isTableName uri.table.toList = true)
    (some : ∀ identity, uri.selector = .row identity → 0 ≤ identity) :
    ofText? uri.text = .some uri := by
  have slash : isPartChar '/' = false ∧ isTableChar '/' = false := by decide
  have names := isTableChar_of_isTableName table
  let ending := (selectorText uri.selector).toList
  have ended : ∀ c ∈ ending.head?, isTableChar c = false := by
    cases selected : uri.selector with
    | all => simp [ending, selected, selectorText]
    | row identity => simp [ending, selected, selectorText, slash.2]
  have whole : uri.text.toList =
      scheme ++ (uri.authority.toList ++ '/' :: (uri.table.toList ++ ending)) := by
    simp [text, ending]
  have authorityTaken := span_append authority.plain
    (show ∀ c ∈ ('/' :: (uri.table.toList ++ ending)).head?, isPartChar c = false by
      simp [slash.1])
  have tableTaken := span_append names ended
  have filled : uri.authority.toList.isEmpty = false := by
    simpa [List.isEmpty_eq_false_iff] using authority.some
  rw [ofText?, whole, ofChars?, dropPart?_append]
  simp only [Option.bind_eq_bind, Option.bind_some, authorityTaken, filled, Bool.false_eq_true,
    if_false, dropPart?, if_true, tableTaken, table]
  rw [selector?_selectorText some]
  simp

/-- An identifier that was read has an authority and a table's name, and no negative identity. -/
theorem ofText?_eq_some {text : String} {uri : ContentUri} (read : ofText? text = some uri) :
    isTableName uri.table.toList = true ∧
      ∀ identity, uri.selector = .row identity → 0 ≤ identity := by
  simp only [ofText?, ofChars?, Option.bind_eq_bind, Option.bind_eq_some_iff] at read
  obtain ⟨rest, -, read⟩ := read
  split at read
  · cases read
  · obtain ⟨behind, -, read⟩ := Option.bind_eq_some_iff.mp read
    split at read
    · next named =>
      obtain ⟨selector, ended, made⟩ := Option.bind_eq_some_iff.mp read
      cases made
      refine ⟨by simpa using named, fun identity same => ?_⟩
      obtain rfl : selector = .row identity := same
      exact nonneg_of_selector? ended
    · cases read

/-! ## Tables of types -/

/-- What an identifier of the language is as far as ASCII goes: it is not empty, it begins with no
digit, and its ASCII characters are letters, digits and underscores. -/
structure IsIdentifier (name : String) : Prop where
  some : name ≠ ""
  start : ∀ c ∈ name.toList.head?, c.isDigit = false
  plain : ∀ c ∈ name.toList, c.toNat < 128 → isTableChar c = true

instance (name : String) : Decidable (IsIdentifier name) :=
  decidable_of_iff (name ≠ "" ∧ name.toList.head?.any Char.isDigit = false ∧
      name.toList.all (fun c => !decide (c.toNat < 128) || isTableChar c) = true)
    ⟨fun all => ⟨all.1, (Option.any_eq_false _ _).mp all.2.1, fun c member ascii => by
        have either := List.all_eq_true.mp all.2.2 c member
        simpa [ascii] using either⟩,
      fun is => ⟨is.some, (Option.any_eq_false _ _).mpr is.start,
        List.all_eq_true.mpr fun c member => by
          by_cases ascii : c.toNat < 128
          · simp [is.plain c member ascii]
          · simp [ascii]⟩⟩

theorem toNat_lt_of_isTableChar {c : Char} (char : isTableChar c = true) : c.toNat < 128 := by
  have bound (high : UInt32) (ascii : high.toNat < 128) (within : c.val ≤ high) :
      c.toNat < 128 := Nat.lt_of_le_of_lt within ascii
  rcases Bool.or_eq_true_iff.mp char with alphanumeric | line
  · rcases Bool.or_eq_true_iff.mp alphanumeric with letter | digit
    · rcases Bool.or_eq_true_iff.mp letter with upper | lower
      · exact bound 'Z'.val (by decide) (of_decide_eq_true upper).2
      · exact bound 'z'.val (by decide) (of_decide_eq_true (Bool.and_eq_true_iff.mp lower).2)
    · exact bound '9'.val (by decide) (of_decide_eq_true (Bool.and_eq_true_iff.mp digit).2)
  · obtain rfl := beq_iff_eq.mp line
    decide

/-- Characters are among joined names exactly if they are among one of them or join them. -/
theorem mem_intercalate_iff {names : List (List Char)} {p : Char → Prop} (joint : p '_') :
    (∀ c ∈ ['_'].intercalate names, p c) ↔ ∀ name ∈ names, ∀ c ∈ name, p c := by
  induction names with
  | nil => simp
  | cons name rest ih =>
    cases rest with
    | nil => simp
    | cons next more =>
      rw [List.intercalate_cons_cons, List.forall_mem_append, List.forall_mem_append, ih,
        List.forall_mem_cons (a := name)]
      simp [joint]

/-- The table of a type has a name that is read exactly if the names of the type's path are ASCII. -/
theorem isTableName_tableName_iff {names : List String} {path : String} (is : IsPath names path)
    (identifiers : ∀ name ∈ names, IsIdentifier name) :
    isTableName (tableName path).toList = true ↔
      ∀ name ∈ names, ∀ c ∈ name.toList, c.toNat < 128 := by
  have table := toList_tableName is
  have start : ∃ c cs, (tableName path).toList = c :: cs ∧ c.isDigit = false := by
    obtain ⟨first, rest, rfl⟩ := List.exists_cons_of_ne_nil is.named
    have known := identifiers first List.mem_cons_self
    cases letters : first.toList with
    | nil => exact absurd (String.toList_eq_nil_iff.mp letters) known.some
    | cons c cs =>
      have begins := known.start c (by simp [letters])
      cases rest with
      | nil => exact ⟨c, cs, by simpa [letters] using table, begins⟩
      | cons next more =>
        rw [List.map_cons, List.map_cons, List.intercalate_cons_cons, letters] at table
        exact ⟨c, _, table, begins⟩
  have chars : (∀ c ∈ (tableName path).toList, isTableChar c = true) ↔
      ∀ name ∈ names, ∀ c ∈ name.toList, isTableChar c = true := by
    rw [table, mem_intercalate_iff (by decide), List.forall_mem_map]
  have whole : isTableName (tableName path).toList = true ↔
      ∀ c ∈ (tableName path).toList, isTableChar c = true := by
    obtain ⟨c, cs, text, begins⟩ := start
    rw [text]
    simp [isTableName, begins]
  rw [whole, chars]
  constructor
  · intro plain name member c among
    exact toNat_lt_of_isTableChar (plain name member c among)
  · intro ascii name member c among
    exact (identifiers name member).plain c among (ascii name member c among)

end ContentUri

end EntityTables
