import Subshell.Command.Parser
import Mathlib.Tactic.Lemma
/-!
# The tokens of a text

What a text says is decided by its tokens, from left to right: an opening or a closing marker, an
escape, or a plain character.

* `Spelling` is what a literal is made of: one escape or one plain character at the front of a text,
  with what it stands for. The same text may be spelled in more than one way.
* `Begins` lists how a text can begin, so that a proof about a reader has one case for each.
* `tokens` is the text cut into its tokens; `flatMap_source_tokens` says that nothing is lost.
-/

namespace Subshell

/-! ## How a text begins -/

/-- The first text begins with a spelling of the second, and the third is what follows: a backslash
takes away the meaning of `$(` or of the one character after it, and a character without a meaning
of its own stands for itself. -/
inductive Spelling : Text → Text → Text → Prop
  | marker (rest : Text) : Spelling ('\\' :: '$' :: '(' :: rest) ['$', '('] rest
  | escaped (c : Char) (rest : Text) : Spelling ('\\' :: c :: rest) [c] rest
  | plain {c : Char} {rest : Text} :
    c ≠ '\\' → c ≠ ')' → opens (c :: rest) = false → Spelling (c :: rest) [c] rest

namespace Spelling

variable {s text rest : Text}

/-- Nothing is spelled by nothing. -/
lemma text_ne_nil (h : Spelling s text rest) : text ≠ [] := by
  cases h <;> exact List.cons_ne_nil _ _

/-- A text that begins with a spelling begins with no marker. -/
lemma exists_cons (h : Spelling s text rest) :
    ∃ c after, s = c :: after ∧ c ≠ ')' ∧ opens (c :: after) = false := by
  cases h with
  | marker => exact ⟨_, _, rfl, by decide, rfl⟩
  | escaped => exact ⟨_, _, rfl, by decide, by simp [opens]⟩
  | plain hb hc ho => exact ⟨_, _, rfl, hc, ho⟩

lemma length_lt (h : Spelling s text rest) : rest.length < s.length := by
  cases h <;> simp only [List.length_cons] <;> omega

lemma suffix (h : Spelling s text rest) : rest <:+ s := by
  cases h with
  | marker => exact ⟨['\\', '$', '('], rfl⟩
  | escaped c => exact ⟨['\\', c], rfl⟩
  | @plain c => exact ⟨[c], rfl⟩

/-- A spelling is one in front of more text as well, unless it is a lone `$` that the text makes a
marker of. -/
lemma append {more : Text} (h : Spelling s text rest)
    (hseam : s = ['$'] → more.head? ≠ some '(') : Spelling (s ++ more) text (rest ++ more) := by
  cases h with
  | marker => exact .marker _
  | escaped c => exact .escaped c _
  | @plain c _ hb hc ho =>
    refine .plain hb hc ?_
    rw [opens_cons_eq_false] at ho ⊢
    intro hmarker
    obtain ⟨rfl, hhead⟩ := hmarker
    cases rest with
    | nil => exact hseam rfl hhead
    | cons d rest => exact ho ⟨rfl, hhead⟩

end Spelling

/-- How a text can begin. -/
inductive Begins : Text → Prop
  | nil : Begins []
  | closing (rest : Text) : Begins (')' :: rest)
  | opening (rest : Text) : Begins ('$' :: '(' :: rest)
  | dangling : Begins ['\\']
  | spelled {s text rest : Text} : Spelling s text rest → Begins s

/-- There is no other way for a text to begin. -/
theorem begins (s : Text) : Begins s := by
  cases s with
  | nil => exact .nil
  | cons c rest =>
    by_cases hb : c = '\\'
    · subst hb
      cases rest with
      | nil => exact .dangling
      | cons d rest => exact .spelled (.escaped d rest)
    · by_cases hc : c = ')'
      · subst hc
        exact .closing rest
      · by_cases ho : opens (c :: rest) = true
        · obtain ⟨rfl, hrest⟩ := (opens_cons c rest).mp ho
          obtain ⟨after, rfl⟩ := List.head?_eq_some_iff.mp hrest
          exact .opening after
        · exact .spelled (.plain hb hc (Bool.eq_false_iff.mpr ho))

/-! ## Cutting a text into tokens -/

/-- A piece of a text that has a meaning of its own. -/
inductive Token
  /-- The marker `$(`. -/
  | opening
  /-- The marker `)`. -/
  | closing
  /-- A backslash and the marker `$(` that it takes the meaning of. -/
  | escapedOpening
  /-- A backslash and the character that it takes the meaning of. -/
  | escaped (c : Char)
  /-- A backslash at the end of the text. -/
  | dangling
  /-- Any other character. -/
  | plain (c : Char)
  deriving DecidableEq, Repr

/-- The characters of a token. -/
def Token.source : Token → Text
  | opening => ['$', '(']
  | closing => [')']
  | escapedOpening => ['\\', '$', '(']
  | escaped c => ['\\', c]
  | dangling => ['\\']
  | plain c => [c]

/-- The tokens of a text. -/
def tokens : Text → List Token
  | [] => []
  | '\\' :: '$' :: '(' :: rest => .escapedOpening :: tokens rest
  | '\\' :: c :: rest => .escaped c :: tokens rest
  | ['\\'] => [.dangling]
  | '$' :: '(' :: rest => .opening :: tokens rest
  | ')' :: rest => .closing :: tokens rest
  | c :: rest => .plain c :: tokens rest

/-- The tokens of a text, one after another, are the text. -/
theorem flatMap_source_tokens (text : Text) : (tokens text).flatMap Token.source = text := by
  fun_induction tokens text with
  | case1 => rfl
  | case2 rest ih => rw [List.flatMap_cons, ih]; rfl
  | case3 c rest _ ih => rw [List.flatMap_cons, ih]; rfl
  | case4 => rfl
  | case5 rest ih => rw [List.flatMap_cons, ih]; rfl
  | case6 rest ih => rw [List.flatMap_cons, ih]; rfl
  | case7 c rest _ _ _ _ _ ih => rw [List.flatMap_cons, ih]; rfl

lemma tokens_eq_nil_iff {text : Text} : tokens text = [] ↔ text = [] := by
  constructor
  · intro h
    rw [← flatMap_source_tokens text, h]
    rfl
  · rintro rfl
    rfl

lemma tokens_escaped {c : Char} {rest : Text} (ho : opens (c :: rest) = false) :
    tokens ('\\' :: c :: rest) = .escaped c :: tokens rest := by
  rw [tokens]
  intro after hc hrest
  apply (opens_cons_eq_false c rest).mp ho
  rw [hc, hrest]
  exact ⟨rfl, rfl⟩

lemma tokens_plain {c : Char} {rest : Text} (hb : c ≠ '\\') (hc : c ≠ ')')
    (ho : opens (c :: rest) = false) : tokens (c :: rest) = .plain c :: tokens rest := by
  rw [tokens]
  · exact fun _ h _ => hb h
  · exact fun _ _ h _ => hb h
  · exact fun h _ => hb h
  · intro after hd hrest
    apply (opens_cons_eq_false c rest).mp ho
    rw [hd, hrest]
    exact ⟨rfl, rfl⟩
  · exact hc

/-- Behind a spelling the tokens go on as they do by themselves, unless the spelling is an escaped
`$` in front of a parenthesis, which the token takes along. -/
lemma Spelling.tokens_cases {s text rest : Text} (h : Spelling s text rest) :
    (∃ first, tokens s = first :: tokens rest ∧ ∀ c, first = .plain c → s = c :: rest) ∨
      ∃ after, s = '\\' :: '$' :: '(' :: after ∧ rest = '(' :: after := by
  cases h with
  | marker => exact .inl ⟨.escapedOpening, tokens.eq_2 rest, fun _ hplain => by cases hplain⟩
  | plain hb hc ho =>
    exact .inl ⟨_, tokens_plain hb hc ho, fun _ hplain => by cases hplain; rfl⟩
  | escaped c =>
    by_cases ho : opens (c :: rest) = true
    · obtain ⟨rfl, hrest⟩ := (opens_cons c rest).mp ho
      obtain ⟨after, rfl⟩ := List.head?_eq_some_iff.mp hrest
      exact .inr ⟨after, rfl, rfl⟩
    · have hescaped := tokens_escaped (Bool.eq_false_iff.mpr ho)
      exact .inl ⟨.escaped c, hescaped, fun _ hplain => by cases hplain⟩

/-- A parenthesis by itself is a token of its own. -/
lemma tokens_parenthesis (rest : Text) : tokens ('(' :: rest) = .plain '(' :: tokens rest :=
  tokens_plain (by decide) (by decide) (by simp [opens])

end Subshell
