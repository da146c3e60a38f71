import Subshell.Command.Parser
import Mathlib.Data.List.Basic
import Mathlib.Tactic.Lemma
/-!
# Escaping in one pass

`escape` puts its backslashes in by three passes over the text. Here the three are one:

* `escapeOnce` goes through a text once and puts a backslash in front of each backslash, each `)`
  and each `$(`;
* `escape_eq_escapeOnce` is the proof that the later passes neither undo nor repeat the work of the
  earlier ones;
* `head?_escape_append` tells how an escaped text begins, which decides whether it forms a marker
  with what stands in front of it, and `getLast?_escape` how it ends;
* `escape_append` takes a text apart where no marker is cut in two, and `length_escape_append` says
  what is lost where one is;
* `escape_one_pass` puts both together.
-/

namespace Subshell

/-! ## Replacing one pattern -/

namespace Text

variable {first c : Char} {more new rest : Text}

/-- A character that does not begin the pattern stays. -/
lemma substitute_cons_of_ne (h : c ≠ first) :
    substitute first more new (c :: rest) = c :: substitute first more new rest := by
  have hfound : ¬(c = first ∧ more <+: rest) := by
    intro hc
    exact h hc.1
  rw [substitute, if_neg hfound]

/-- A pattern of one character is replaced wherever the character stands. -/
lemma substitute_single :
    substitute first [] new (first :: rest) = new ++ substitute first [] new rest := by
  rw [substitute, if_pos ⟨rfl, List.nil_prefix⟩]
  rfl

/-- A pattern of two characters is replaced where both stand. -/
lemma substitute_pair {second : Char} :
    substitute first [second] new (first :: second :: rest)
      = new ++ substitute first [second] new rest := by
  rw [substitute, if_pos ⟨rfl, by simp⟩]
  rfl

/-- The first character of a pattern of two stays where the second does not follow. -/
lemma substitute_pair_of_head? {second : Char} (h : rest.head? ≠ some second) :
    substitute first [second] new (first :: rest)
      = first :: substitute first [second] new rest := by
  have hfound : ¬(first = first ∧ [second] <+: rest) := by
    intro hc
    obtain ⟨-, after, hafter⟩ := hc
    apply h
    rw [← hafter]
    rfl
  rw [substitute, if_neg hfound]

/-- A pass that doubles a character leaves the first character of the text as it is. -/
lemma head?_substitute_double (c : Char) (text : Text) :
    (substitute c [] [c, c] text).head? = text.head? := by
  cases text with
  | nil => rw [substitute]
  | cons d rest =>
    by_cases h : d = c
    · rw [h, substitute_single]
      rfl
    · rw [substitute_cons_of_ne h]
      rfl

end Text

/-! ## The three passes as one -/

/-- The text with a backslash in front of each backslash, each `)` and each `$(`, put in by a
single pass. -/
def escapeOnce : Text → Text
  | [] => []
  | '$' :: '(' :: rest => '\\' :: '$' :: '(' :: escapeOnce rest
  | c :: rest =>
    if c = '\\' ∨ c = ')' then '\\' :: c :: escapeOnce rest else c :: escapeOnce rest

/-- The passes one after another. -/
lemma escape_eq_passes (text : Text) :
    escape text = Text.substitute ')' [] ['\\', ')'] (Text.substitute '$' ['('] ['\\', '$', '(']
      (Text.substitute '\\' [] ['\\', '\\'] text)) := rfl

lemma escape_nil : escape [] = [] := by
  simp [escape, Text.substitute]

lemma escape_opening (rest : Text) :
    escape ('$' :: '(' :: rest) = '\\' :: '$' :: '(' :: escape rest := by
  rw [escape_eq_passes, escape_eq_passes,
    Text.substitute_cons_of_ne (show '$' ≠ '\\' by decide),
    Text.substitute_cons_of_ne (show '(' ≠ '\\' by decide), Text.substitute_pair]
  simp only [List.cons_append, List.nil_append]
  rw [Text.substitute_cons_of_ne (by decide), Text.substitute_cons_of_ne (by decide),
    Text.substitute_cons_of_ne (by decide)]

lemma escape_backslash (rest : Text) : escape ('\\' :: rest) = '\\' :: '\\' :: escape rest := by
  rw [escape_eq_passes, escape_eq_passes, Text.substitute_single]
  simp only [List.cons_append, List.nil_append]
  rw [Text.substitute_cons_of_ne (by decide), Text.substitute_cons_of_ne (by decide),
    Text.substitute_cons_of_ne (by decide), Text.substitute_cons_of_ne (by decide)]

lemma escape_closing (rest : Text) : escape (')' :: rest) = '\\' :: ')' :: escape rest := by
  rw [escape_eq_passes, escape_eq_passes, Text.substitute_cons_of_ne (by decide),
    Text.substitute_cons_of_ne (by decide), Text.substitute_single]
  rfl

/-- A character that neither is a mark nor begins one stays. -/
lemma escape_plain {c : Char} {rest : Text} (hb : c ≠ '\\') (hc : c ≠ ')')
    (ho : opens (c :: rest) = false) : escape (c :: rest) = c :: escape rest := by
  rw [escape_eq_passes, escape_eq_passes, Text.substitute_cons_of_ne hb]
  by_cases hd : c = '$'
  · have hrest : rest.head? ≠ some '(' := by
      intro h
      exact (opens_cons_eq_false c rest).mp ho ⟨hd, h⟩
    -- the pass over backslashes must not have brought a parenthesis up to the dollar
    have hpass : (Text.substitute '\\' [] ['\\', '\\'] rest).head? ≠ some '(' := by
      rw [Text.head?_substitute_double]
      exact hrest
    rw [hd, Text.substitute_pair_of_head? hpass, Text.substitute_cons_of_ne (by decide)]
  · rw [Text.substitute_cons_of_ne hd, Text.substitute_cons_of_ne hc]

/-- The three passes do together what a single pass does. -/
theorem escape_eq_escapeOnce (text : Text) : escape text = escapeOnce text := by
  fun_induction escapeOnce text with
  | case1 => exact escape_nil
  | case2 rest ih => rw [escape_opening, ih]
  | case3 c rest _ h ih =>
    rcases h with rfl | rfl
    · rw [escape_backslash, ih]
    · rw [escape_closing, ih]
  | case4 c rest ho h ih =>
    rw [not_or] at h
    have hopens : opens (c :: rest) = false := by
      rw [opens_cons_eq_false, List.head?_eq_some_iff]
      intro hmarker
      obtain ⟨hc, after, hrest⟩ := hmarker
      exact ho after hc hrest
    rw [escape_plain h.1 h.2 hopens, ih]

/-- Escaping a text changes neither whether it begins with a parenthesis nor whether what follows it
does so, when it is empty. -/
theorem head?_escape_append (text rest : Text) :
    (escape text ++ rest).head? = some '(' ↔ (text ++ rest).head? = some '(' := by
  rw [escape_eq_escapeOnce]
  fun_cases escapeOnce text with
  | case1 => rfl
  | case2 more => simp
  | case3 c more _ h => rcases h with rfl | rfl <;> simp
  | case4 c more _ _ => rfl

/-- An escaped text ends with the character that the text ends with. -/
theorem getLast?_escape (text : Text) : (escape text).getLast? = text.getLast? := by
  rw [escape_eq_escapeOnce]
  fun_induction escapeOnce text with
  | case1 => rfl
  | case2 rest ih => simp [List.getLast?_cons, ih]
  | case3 c rest _ _ ih => simp [List.getLast?_cons, ih]
  | case4 c rest _ _ ih => simp [List.getLast?_cons, ih]

/-! ## Escaping piece by piece -/

/-- Two pieces of a text are escaped each on its own, unless a marker lies across the cut. -/
theorem escape_append {a b : Text} (h : ¬(a.getLast? = some '$' ∧ b.head? = some '(')) :
    escape (a ++ b) = escape a ++ escape b := by
  -- where the first piece goes on, its end is that of the shorter piece
  have hstep : ∀ first rest : Text,
      (¬(rest.getLast? = some '$' ∧ b.head? = some '(') →
        escapeOnce (rest ++ b) = escapeOnce rest ++ escapeOnce b) →
      ¬((first ++ rest).getLast? = some '$' ∧ b.head? = some '(') →
      escapeOnce (rest ++ b) = escapeOnce rest ++ escapeOnce b := by
    intro first rest ih hseam
    by_cases hrest : rest = []
    · rw [hrest]
      rfl
    · rw [List.getLast?_append_of_ne_nil first hrest] at hseam
      exact ih hseam
  rw [escape_eq_escapeOnce, escape_eq_escapeOnce a, escape_eq_escapeOnce b]
  fun_induction escapeOnce a with
  | case1 => rfl
  | case2 rest ih =>
    have hrest := hstep ['$', '('] rest ih h
    simp only [List.cons_append, escapeOnce, hrest]
  | case3 c rest hc hmark ih =>
    have hrest := hstep [c] rest ih h
    rw [List.cons_append, escapeOnce, if_pos hmark, hrest]
    · rfl
    · intro more hdollar _
      rcases hmark with rfl | rfl <;> cases hdollar
  | case4 c rest hc hmark ih =>
    have hrest := hstep [c] rest ih h
    rw [List.cons_append, escapeOnce, if_neg hmark, hrest]
    · rfl
    · intro more hdollar hopen
      cases rest with
      | nil =>
        apply h
        rw [hdollar, show b = '(' :: more from hopen]
        exact ⟨rfl, rfl⟩
      | cons d rest =>
        rw [List.cons_append, List.cons.injEq] at hopen
        exact hc rest hdollar (by rw [hopen.1])

/-- Where a marker lies across the cut, the text has a backslash in front of it and the pieces have
none. -/
theorem length_escape_append {a b : Text} (h : a.getLast? = some '$' ∧ b.head? = some '(') :
    (escape (a ++ b)).length = (escape a ++ escape b).length + 1 := by
  obtain ⟨ha, hb⟩ := h
  obtain ⟨before, rfl⟩ := List.getLast?_eq_some_iff.mp ha
  obtain ⟨after, rfl⟩ := List.head?_eq_some_iff.mp hb
  -- the dollar itself begins no marker, so the text may be cut in front of it
  have hwhole : escape (before ++ '$' :: '(' :: after) =
      escape before ++ '\\' :: '$' :: '(' :: escape after := by
    rw [escape_append (by simp), escape_opening]
  have hdollar : escape (before ++ ['$']) = escape before ++ ['$'] := by
    rw [escape_append (by simp), escape_plain (by decide) (by decide) rfl, escape_nil]
  have hparen : escape ('(' :: after) = '(' :: escape after :=
    escape_plain (by decide) (by decide) (by simp [opens])
  rw [List.append_assoc, List.singleton_append, hwhole, hdollar, hparen]
  simp only [List.length_append, List.length_cons, List.length_nil]
  omega

/-- The passes together put one backslash in front of each backslash, each `)` and each `$(` and
copy all else; and two pieces of a text are escaped each on its own exactly when no marker lies
across the cut. -/
theorem escape_one_pass :
    (∀ text : Text, escape text = escapeOnce text) ∧
    ∀ a b : Text, escape (a ++ b) = escape a ++ escape b ↔
      ¬(a.getLast? = some '$' ∧ b.head? = some '(') := by
  refine ⟨escape_eq_escapeOnce, fun a b => ⟨?_, escape_append⟩⟩
  intro happend hseam
  have hlength := length_escape_append hseam
  rw [happend] at hlength
  omega

/-- A marker is escaped as a whole, and its two characters by themselves are left as they are. -/
example : escape "a$(b\\)".toList = "a\\$(b\\\\\\)".toList ∧
    escape "a$".toList ++ escape "(b\\)".toList = "a$(b\\\\\\)".toList := by
  rw [escape_eq_escapeOnce, escape_eq_escapeOnce, escape_eq_escapeOnce]
  decide

end Subshell
