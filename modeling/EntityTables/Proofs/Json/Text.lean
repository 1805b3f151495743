/-
# EntityTables.Proofs.Json.Text — what is written is what is read

A value is read from its text whatever follows, as long as that does not go on with a word. For
arrays and objects this is carried through the commas: behind every element stands a comma or a
bracket, and neither is part of a word. The reader's fuel is never short, since no value needs more
than twice the length of its text.

* `Reads` — a value is read from its text; `Reads.array`, `Reads.record` — from its parts.
* `IsPlain` — values put together from texts, integers, truth values and nulls.
* `IsPlain.ofScan?` — such a value is the value of its text.
-/
import EntityTables.Proofs.Json.Scalars

namespace EntityTables.Json

set_option autoImplicit false

/-- What follows a value does not go on with a word. -/
def Ends (rest : List (Option Char)) : Prop :=
  ∀ c more, rest = some c :: more → isWordChar c = false

theorem Ends.nil : Ends [] := nofun

theorem Ends.cons {c : Char} (apart : isWordChar c = false) (rest : List (Option Char)) :
    Ends (some c :: rest) := by
  intro other more same
  obtain ⟨found, -⟩ := List.cons.inj same
  rwa [← Option.some.inj found]

/-- A text begins with neither a blank nor the end of an array. -/
def Solid (cs : List Char) : Prop := ∃ c more, cs = c :: more ∧ isSpace c = false ∧ c ≠ ']'

theorem skipSpace_cons {c : Char} (solid : isSpace c = false) (rest : List (Option Char)) :
    skipSpace (some c :: rest) = some c :: rest :=
  List.dropWhile_cons_of_neg (by simp [solid])

/-- A value is read from its text, whatever follows that is not part of it. -/
def Reads (json : Json) : Prop :=
  Solid json.chars ∧ ∀ fuel rest, 2 * json.chars.length ≤ fuel → Ends rest →
    readValue fuel (json.chars.map some ++ rest) = some (json, rest)

theorem splitWord_append {word : List Char} (whole : ∀ c ∈ word, isWordChar c = true)
    {rest : List (Option Char)} (ends : Ends rest) :
    splitWord (word.map some ++ rest) = (word, rest) := by
  induction word with
  | nil =>
    cases rest with
    | nil => rfl
    | cons c? rest =>
      cases c? with
      | none => rfl
      | some c => simp [splitWord, ends c rest rfl]
  | cons c word ih =>
    have first := whole c List.mem_cons_self
    have behind := ih fun other member => whole other (.tail c member)
    simp [splitWord, first, behind]

/-- The characters of words stand for nothing else. -/
theorem solid_of_isWordChar {c : Char} (word : isWordChar c = true) :
    isSpace c = false ∧ c ≠ ']' ∧ c ≠ '"' ∧ c ≠ '[' ∧ c ≠ '\x7b' := by
  have apart {other : Char} (sign : isWordChar other = false) : c ≠ other := by
    rintro rfl
    rw [word] at sign
    cases sign
  have blank : isSpace c = false := by
    have space : c ≠ ' ' := apart (by decide)
    have line : c ≠ '\n' := apart (by decide)
    have tab : c ≠ '\t' := apart (by decide)
    have back : c ≠ '\r' := apart (by decide)
    simp [isSpace, space, line, tab, back]
  exact ⟨blank, apart (by decide), apart (by decide), apart (by decide), apart (by decide)⟩

/-- A value that is one word. -/
theorem Reads.word {json : Json} (filled : json.chars ≠ [])
    (whole : ∀ c ∈ json.chars, isWordChar c = true) (means : ofWord? json.chars = some json) :
    Reads json := by
  cases chars : json.chars with
  | nil => exact absurd chars filled
  | cons c word =>
    rw [chars] at whole means
    obtain ⟨solid, bracket, quote, opening, brace⟩ :=
      solid_of_isWordChar (whole c List.mem_cons_self)
    refine ⟨⟨c, word, chars, solid, bracket⟩, ?_⟩
    intro fuel rest enough ends
    rw [chars] at enough ⊢
    obtain ⟨fuel, rfl⟩ := Nat.exists_eq_succ_of_ne_zero (n := fuel) (by
      simp only [List.length_cons] at enough
      omega)
    have parts := splitWord_append whole ends
    rw [List.map_cons, List.cons_append] at parts ⊢
    rw [readValue, skipSpace_cons solid]
    split
    · next same => exact absurd (Option.some.inj (List.cons.inj same).1) quote
    · next same => exact absurd (Option.some.inj (List.cons.inj same).1) opening
    · next same => exact absurd (Option.some.inj (List.cons.inj same).1) brace
    · rw [parts]
      simp only
      rw [means]
      rfl

/-- The text of an integer is no word with another meaning. -/
theorem ofWord?_ofInt (i : Int) : ofWord? (Numeral.ofInt i).chars = some (.int i) := by
  have apart (word : List Char) {c : Char} (letter : c ∈ word)
      (others : ¬ (c = '-' ∨ c.isDigit = true)) : (Numeral.ofInt i).chars ≠ word :=
    fun same => others (mem_chars_ofInt (same ▸ letter))
  have null := apart ['n', 'u', 'l', 'l'] List.mem_cons_self (by decide)
  have yes := apart ['t', 'r', 'u', 'e'] List.mem_cons_self (by decide)
  have no := apart ['f', 'a', 'l', 's', 'e'] List.mem_cons_self (by decide)
  rw [ofWord?, if_neg null, if_neg yes, if_neg no, ofChars?_ofInt]
  rfl

/-- An integer. -/
theorem Reads.int (i : Int) : Reads (.int i) := by
  refine .word ?_ (fun c member => ?_) (ofWord?_ofInt i)
  · simp [Json.chars, Json.int, chars_ofInt, Nat.toDigits_ne_nil]
  · rcases mem_chars_ofInt member with rfl | digit
    · decide
    · simp [isWordChar, Char.isAlphanum, digit]

/-- A string that is a text. -/
theorem Reads.text (s : String) : Reads (.text s) := by
  have chars : (Json.text s).chars = '"' :: (s.toList.flatMap jsonEscape ++ ['"']) := by
    simp [Json.text, Json.chars, jsonString]
  refine ⟨⟨'"', _, chars, by decide, by decide⟩, ?_⟩
  intro fuel rest enough _
  rw [chars] at enough ⊢
  obtain ⟨fuel, rfl⟩ := Nat.exists_eq_succ_of_ne_zero (n := fuel) (by
    simp only [List.length_cons] at enough
    omega)
  obtain ⟨pieces, read, joined, -⟩ := readPieces_flatMap s.toList rest
  have parts : (('"' :: (s.toList.flatMap jsonEscape ++ ['"'])).map some ++ rest) =
      some '"' :: ((s.toList.flatMap jsonEscape).map some ++ some '"' :: rest) := by simp
  rw [parts, readValue, skipSpace_cons (by decide)]
  simp [readString, read, joined, Json.text]

/-- A key that is a text. -/
theorem readKey_text (s : String) (rest : List (Option Char)) :
    readKey ((s.toList.flatMap jsonEscape).map some ++ some '"' :: rest) =
      some (.ofText s, rest) := by
  obtain ⟨pieces, read, joined, escaped⟩ := readPieces_flatMap s.toList rest
  simp [readKey, read, joined, escaped, JsonKey.ofText]

theorem elementChars_eq (elements : List Json) : elementChars elements = elements.map chars := by
  induction elements with
  | nil => rfl
  | cons element rest ih => rw [elementChars, ih, List.map_cons]

theorem joinCommas_cons (part : List Char) {rest : List (List Char)} (filled : rest ≠ []) :
    joinCommas (part :: rest) = part ++ ',' :: joinCommas rest := by
  cases rest with
  | nil => exact absurd rfl filled
  | cons next rest => rfl

/-- The elements of an array, at least one, up to the bracket that closes it. -/
theorem readElements_chars {elements : List Json} (filled : elements ≠ [])
    (each : ∀ element ∈ elements, Reads element) (fuel : Nat)
    (enough : 2 * (joinCommas (elements.map chars)).length + 1 ≤ fuel)
    (rest : List (Option Char)) :
    readElements fuel ((joinCommas (elements.map chars)).map some ++ some ']' :: rest) =
      some (elements, rest) := by
  induction elements generalizing fuel with
  | nil => exact absurd rfl filled
  | cons element others ih =>
    obtain ⟨fuel, rfl⟩ := Nat.exists_eq_succ_of_ne_zero (n := fuel) (by omega)
    have first := (each element List.mem_cons_self).2 fuel
    by_cases last : others = []
    · subst last
      have found := first (some ']' :: rest) (by
        simp only [List.map_cons, List.map_nil, joinCommas] at enough
        omega) (.cons (by decide) rest)
      rw [List.map_cons, List.map_nil, joinCommas, readElements, found]
      rfl
    · have more : others.map chars ≠ [] := by simpa using last
      rw [List.map_cons, joinCommas_cons _ more] at enough ⊢
      rw [List.length_append, List.length_cons] at enough
      have found := first (some ',' :: ((joinCommas (others.map chars)).map some ++
        some ']' :: rest)) (by omega) (.cons (by decide) _)
      have behind := ih last (fun other member => each other (.tail element member)) fuel
        (by omega)
      simp only [List.map_append, List.map_cons, List.append_assoc, List.cons_append]
      rw [readElements, found]
      simp [skipSpace_cons, behind, isSpace]

/-- Parts with commas between them begin as the first of them. -/
theorem Solid.commas {part : List Char} (solid : Solid part) (rest : List (List Char)) :
    Solid (joinCommas (part :: rest)) := by
  obtain ⟨c, more, rfl, apart⟩ := solid
  cases rest with
  | nil => exact ⟨c, more, rfl, apart⟩
  | cons next rest => exact ⟨c, more ++ ',' :: joinCommas (next :: rest), rfl, apart⟩

/-- An array of values. -/
theorem Reads.array {elements : List Json} (each : ∀ element ∈ elements, Reads element) :
    Reads (.array elements) := by
  have chars : (Json.array elements).chars =
      '[' :: (joinCommas (elements.map Json.chars) ++ [']']) := by
    simp [Json.chars, elementChars_eq]
  refine ⟨⟨'[', _, chars, by decide, by decide⟩, ?_⟩
  intro fuel rest enough _
  rw [chars] at enough ⊢
  simp only [List.length_cons, List.length_append, List.length_nil] at enough
  obtain ⟨fuel, rfl⟩ := Nat.exists_eq_succ_of_ne_zero (n := fuel) (by omega)
  cases elements with
  | nil =>
    show readValue (fuel + 1) (some '[' :: some ']' :: rest) = _
    rw [readValue, skipSpace_cons (by decide)]
    simp [skipSpace_cons, isSpace]
  | cons element others =>
    have read := readElements_chars (List.cons_ne_nil element others) each fuel
      (by omega) rest
    -- the first element begins with no bracket, so the array is not empty
    obtain ⟨c, more, front, solid, bracket⟩ :=
      (each element List.mem_cons_self).1.commas (others.map Json.chars)
    have parts : (element :: others).map Json.chars = element.chars :: others.map Json.chars := rfl
    rw [parts, front] at read ⊢
    simp only [List.map_cons, List.map_append, List.cons_append, List.append_assoc, List.map_nil,
      List.nil_append] at read ⊢
    rw [readValue, skipSpace_cons (by decide)]
    simp only [skipSpace_cons solid]
    split
    · next same => exact absurd (Option.some.inj (List.cons.inj same).1) bracket
    · rw [read]
      rfl

/-- The text of an object's member whose key is a text. -/
def memberText (member : String × Json) : List Char :=
  jsonString member.1 ++ ':' :: member.2.chars

theorem memberChars_record (members : List (String × Json)) :
    memberChars (members.map fun member => (.ofText member.1, member.2)) =
      members.map memberText := by
  induction members with
  | nil => rfl
  | cons member rest ih =>
    rw [List.map_cons, memberChars, ih]
    rfl

/-- A member of an object, up to the sign behind it. -/
theorem readMembers_member {member : String × Json} (reads : Reads member.2) {fuel : Nat}
    (enough : 2 * (memberText member).length ≤ fuel) {behind : List (Option Char)}
    (ends : Ends behind) :
    readMembers (fuel + 1) ((memberText member).map some ++ behind) =
      match skipSpace behind with
      | some '\x7d' :: rest => some ([(.ofText member.1, member.2)], rest)
      | some ',' :: rest => (readMembers fuel rest).map fun (members, rest) =>
        ((.ofText member.1, member.2) :: members, rest)
      | _ => none := by
  have parts : (memberText member).map some ++ behind =
      some '"' :: ((member.1.toList.flatMap jsonEscape).map some ++ some '"' ::
        (some ':' :: (member.2.chars.map some ++ behind))) := by
    simp [memberText, jsonString]
  have short : member.2.chars.length ≤ (memberText member).length := by
    simp [memberText]
    omega
  have value := reads.2 fuel behind (by omega) ends
  rw [parts, readMembers, skipSpace_cons (by decide)]
  simp only [readKey_text, skipSpace_cons (show isSpace ':' = false by decide)]
  rewrite [value]
  rfl

/-- The members of an object, at least one, up to the brace that closes it. -/
theorem readMembers_chars {members : List (String × Json)} (filled : members ≠ [])
    (each : ∀ member ∈ members, Reads member.2) (fuel : Nat)
    (enough : 2 * (joinCommas (members.map memberText)).length + 1 ≤ fuel)
    (rest : List (Option Char)) :
    readMembers fuel ((joinCommas (members.map memberText)).map some ++ some '\x7d' :: rest) =
      some (members.map fun member => (.ofText member.1, member.2), rest) := by
  induction members generalizing fuel with
  | nil => exact absurd rfl filled
  | cons member others ih =>
    obtain ⟨fuel, rfl⟩ := Nat.exists_eq_succ_of_ne_zero (n := fuel) (by omega)
    have first := each member List.mem_cons_self
    by_cases last : others = []
    · subst last
      simp only [List.map_cons, List.map_nil, joinCommas] at enough ⊢
      rw [readMembers_member first (by omega) (.cons (by decide) rest),
        skipSpace_cons (by decide)]
      rfl
    · have more : others.map memberText ≠ [] := by simpa using last
      rw [List.map_cons, joinCommas_cons _ more] at enough ⊢
      rw [List.length_append, List.length_cons] at enough
      have behind := ih last (fun other among => each other (.tail member among)) fuel (by omega)
      rw [List.map_append, List.map_cons, List.append_assoc, List.cons_append,
        readMembers_member first (by omega) (.cons (by decide) _), skipSpace_cons (by decide)]
      simp only [behind, Option.map_some, List.map_cons]

/-- An object whose keys are texts. -/
theorem Reads.record {members : List (String × Json)}
    (each : ∀ member ∈ members, Reads member.2) : Reads (.record members) := by
  have chars : (Json.record members).chars =
      '\x7b' :: (joinCommas (members.map memberText) ++ ['\x7d']) := by
    simp [Json.record, Json.chars, memberChars_record]
  refine ⟨⟨'\x7b', _, chars, by decide, by decide⟩, ?_⟩
  intro fuel rest enough _
  rw [chars] at enough ⊢
  simp only [List.length_cons, List.length_append, List.length_nil] at enough
  obtain ⟨fuel, rfl⟩ := Nat.exists_eq_succ_of_ne_zero (n := fuel) (by omega)
  cases members with
  | nil =>
    show readValue (fuel + 1) (some '\x7b' :: some '\x7d' :: rest) = _
    rw [readValue, skipSpace_cons (by decide)]
    simp [skipSpace_cons, isSpace, Json.record]
  | cons member others =>
    have read := readMembers_chars (List.cons_ne_nil member others) each fuel (by omega) rest
    -- the first member begins with a quote, so the object is not empty
    obtain ⟨behind, front⟩ : ∃ behind,
        joinCommas ((member :: others).map memberText) = '"' :: behind := by
      cases others with
      | nil => exact ⟨_, rfl⟩
      | cons next others => exact ⟨_, rfl⟩
    rw [front] at read ⊢
    simp only [List.map_cons, List.map_append, List.cons_append, List.append_assoc, List.map_nil,
      List.nil_append] at read ⊢
    rw [readValue, skipSpace_cons (by decide)]
    simp only [skipSpace_cons (show isSpace '"' = false by decide)]
    split
    · next same => exact absurd (Option.some.inj (List.cons.inj same).1) (by decide)
    · rw [read]
      rfl

/-- Values that are put together from texts, integers, truth values and nulls, where every key is a
text. -/
inductive IsPlain : Json → Prop where
  | null : IsPlain .null
  | bool (b : Bool) : IsPlain (.bool b)
  | int (i : Int) : IsPlain (.int i)
  | text (s : String) : IsPlain (.text s)
  | array {elements : List Json} (each : ∀ element ∈ elements, IsPlain element) :
    IsPlain (.array elements)
  | record {members : List (String × Json)} (each : ∀ member ∈ members, IsPlain member.2) :
    IsPlain (.record members)

theorem IsPlain.reads {json : Json} (plain : json.IsPlain) : Reads json := by
  induction plain with
  | null => exact .word (by decide) (List.all_eq_true.mp (by decide)) (by rfl)
  | bool b => cases b <;> exact .word (by decide) (List.all_eq_true.mp (by decide)) (by rfl)
  | int i => exact .int i
  | text s => exact .text s
  | array each ih => exact .array ih
  | record each ih => exact .record ih

/-- The text of a plain value is that value. -/
theorem IsPlain.ofScan? {json : Json} (plain : json.IsPlain) :
    Json.ofScan? (json.chars.map some) = some json := by
  have read := plain.reads.2 (2 * (json.chars.map some).length + 2) [] (by simp) .nil
  rw [List.append_nil] at read
  rw [Json.ofScan?, read]
  rfl

end EntityTables.Json
