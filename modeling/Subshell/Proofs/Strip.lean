import Mathlib.Data.List.DropRight
import Subshell.Proofs.Escape
import Subshell.Text.Words
/-!
# Blanks around a text

What a dispatch does to a text before it looks at it: blanks at both ends are dropped, and the first
word is taken off.

* `strip_strip`: dropping blanks once is enough;
* `firstWord?_strip_append`: a word in front of a text is taken off, and what is left is the text
  without the blanks around it;
* `strip_escape`: it does not matter whether a text is stripped before it is escaped or afterwards,
  since no escaped character is blank and no blank is escaped.
-/

namespace Subshell

namespace Text

variable {text word rest : Text} {c : Char}

lemma stripLeft_cons_of_isBlank (h : isBlank c = true) : stripLeft (c :: rest) = stripLeft rest :=
  List.dropWhile_cons_of_pos h

lemma stripLeft_cons_of_not_isBlank (h : isBlank c = false) :
    stripLeft (c :: rest) = c :: rest :=
  List.dropWhile_cons_of_neg (by simp [h])

/-- The blanks at the end of two texts are those of the second, and if it holds nothing else, those
of the first. -/
lemma stripRight_append (text rest : Text) :
    stripRight (text ++ rest) =
      if stripRight rest = [] then stripRight text else text ++ stripRight rest := by
  unfold stripRight
  rw [List.reverse_append, List.dropWhile_append]
  by_cases h : rest.reverse.dropWhile isBlank = []
  · simp [h]
  · simp [h]

lemma stripRight_singleton (c : Char) : stripRight [c] = if isBlank c then [] else [c] := by
  by_cases h : isBlank c <;> simp [stripRight, h]

/-- A text that does not end with a blank stays. -/
lemma stripRight_of_getLast? (h : ∀ c ∈ text.getLast?, isBlank c = false) :
    stripRight text = text := by
  apply List.rdropWhile_eq_self_iff.mpr
  intro hne
  rw [h _ (List.getLast?_eq_getLast_of_ne_nil hne)]
  exact Bool.false_ne_true

/-- The blanks at both ends are dropped in either order. -/
lemma strip_eq_stripLeft_stripRight (text : Text) : strip text = stripLeft (stripRight text) := by
  unfold strip
  induction text with
  | nil => rfl
  | cons c rest ih =>
    have hcons : stripRight (c :: rest) =
        if stripRight rest = [] then stripRight [c] else c :: stripRight rest :=
      stripRight_append [c] rest
    by_cases hc : isBlank c = true
    · rw [stripLeft_cons_of_isBlank hc, ih, hcons, stripRight_singleton, if_pos hc]
      split
      · next hrest => rw [hrest]
      · rw [stripLeft_cons_of_isBlank hc]
    · rw [Bool.not_eq_true] at hc
      have hstays : stripRight [c] = [c] := by
        rw [stripRight_singleton, hc]
        rfl
      rw [stripLeft_cons_of_not_isBlank hc, hcons, hstays]
      split
      · rw [stripLeft_cons_of_not_isBlank hc]
      · rw [stripLeft_cons_of_not_isBlank hc]

/-- Once the blanks at both ends are dropped, there are none left at the front. -/
lemma stripLeft_strip (text : Text) : stripLeft (strip text) = strip text := by
  rw [strip_eq_stripLeft_stripRight]
  exact List.dropWhile_idempotent isBlank _

/-- Dropping blanks once is enough. -/
theorem strip_strip (text : Text) : strip (strip text) = strip text := by
  have hright : stripRight (strip text) = strip text :=
    List.rdropWhile_idempotent isBlank _
  calc strip (strip text) = stripRight (stripLeft (strip text)) := rfl
    _ = strip text := by rw [stripLeft_strip, hright]

/-- A blank in front of a text is dropped. -/
lemma strip_cons_of_isBlank (h : isBlank c = true) : strip (c :: rest) = strip rest := by
  unfold strip
  rw [stripLeft_cons_of_isBlank h]

/-- Blanks around a text are dropped. -/
lemma strip_append_append {front back : Text} (hfront : ∀ c ∈ front, isBlank c = true)
    (hback : ∀ c ∈ back, isBlank c = true) (text : Text) :
    strip (front ++ text ++ back) = strip text := by
  have hnil : stripRight back = [] := List.rdropWhile_eq_nil_iff.mpr hback
  calc strip (front ++ text ++ back) = stripLeft (stripRight (front ++ text ++ back)) :=
        strip_eq_stripLeft_stripRight _
    _ = strip (front ++ text) := by
        rw [stripRight_append, if_pos hnil, ← strip_eq_stripLeft_stripRight]
    _ = strip text := congrArg stripRight (List.dropWhile_append_of_pos hfront)

/-- A text without blanks at its ends stays. -/
lemma strip_of_ends (hhead : ∀ c ∈ text.head?, isBlank c = false)
    (hlast : ∀ c ∈ text.getLast?, isBlank c = false) : strip text = text := by
  have hleft : stripLeft text = text := by
    cases text with
    | nil => rfl
    | cons c rest => exact stripLeft_cons_of_not_isBlank (hhead c rfl)
  rw [strip, hleft, stripRight_of_getLast? hlast]

/-- So does a text without blanks. -/
lemma strip_of_not_blank (h : ∀ c ∈ text, isBlank c = false) : strip text = text :=
  strip_of_ends (fun c hc => h c (List.mem_of_head? hc)) fun c hc => h c (List.mem_of_getLast? hc)

lemma isBlank_head?_strip (text : Text) : ∀ c ∈ (strip text).head?, isBlank c = false := by
  rw [strip_eq_stripLeft_stripRight]
  intro c hc
  obtain ⟨rest, heq⟩ := List.head?_eq_some_iff.mp hc
  exact isBlank_of_stripLeft_eq_cons heq

lemma isBlank_getLast?_strip (text : Text) : ∀ c ∈ (strip text).getLast?, isBlank c = false := by
  intro c hc
  have hne : strip text ≠ [] := by
    rintro heq
    rw [heq] at hc
    cases hc
  have hlast : ¬isBlank ((strip text).getLast hne) = true := List.rdropWhile_last_not isBlank _ hne
  rw [List.getLast?_eq_getLast_of_ne_nil hne] at hc
  cases hc
  simpa using hlast

/-- A word is taken off a text that goes on with a blank or not at all. -/
lemma firstWord?_append (hword : word ≠ []) (hblank : ∀ c ∈ word, isBlank c = false)
    (hrest : ∀ c ∈ rest.head?, isBlank c = true) :
    firstWord? (word ++ rest) = some (word, stripLeft rest) := by
  obtain ⟨c, more, rfl⟩ := List.exists_cons_of_ne_nil hword
  have hc : isBlank c = false := hblank c List.mem_cons_self
  have hkept : ∀ d ∈ c :: more, (!isBlank d) = true := by
    intro d hd
    rw [hblank d hd]
    rfl
  have hstop : rest.takeWhile (!isBlank ·) = [] ∧ rest.dropWhile (!isBlank ·) = rest := by
    cases rest with
    | nil => exact ⟨rfl, rfl⟩
    | cons d rest =>
      have hd : isBlank d = true := hrest d rfl
      simp [hd]
  unfold firstWord?
  rw [List.cons_append, stripLeft_cons_of_not_isBlank hc]
  dsimp only
  rw [← List.cons_append, List.takeWhile_append_of_pos hkept, List.dropWhile_append_of_pos hkept,
    hstop.1, hstop.2, List.append_nil]

/-- A word in front of a text that goes on with a blank or not at all is taken off, and what is left
is the rest without the blanks around it. -/
theorem firstWord?_strip_append (hword : word ≠ []) (hblank : ∀ c ∈ word, isBlank c = false)
    (hrest : ∀ c ∈ rest.head?, isBlank c = true) :
    firstWord? (strip (word ++ rest)) = some (word, strip rest) := by
  have hleft : stripLeft (word ++ rest) = word ++ rest := by
    obtain ⟨c, more, rfl⟩ := List.exists_cons_of_ne_nil hword
    exact stripLeft_cons_of_not_isBlank (hblank c List.mem_cons_self)
  have hstays : stripRight word = word :=
    stripRight_of_getLast? fun c hc => hblank c (List.mem_of_getLast? hc)
  -- what is left of the rest begins as the rest does
  have hkept : ∀ c ∈ (stripRight rest).head?, isBlank c = true := by
    intro c hc
    obtain ⟨more, hmore⟩ : stripRight rest <+: rest := List.rdropWhile_prefix isBlank rest
    apply hrest c
    calc rest.head? = (stripRight rest ++ more).head? := by rw [hmore]
      _ = some c := by rw [List.head?_append, Option.mem_def.mp hc]; rfl
  rw [strip, hleft, stripRight_append, strip_eq_stripLeft_stripRight rest]
  by_cases hnothing : stripRight rest = []
  · rw [if_pos hnothing, hstays, hnothing]
    have hword? : firstWord? (word ++ []) = some (word, stripLeft []) :=
      firstWord?_append hword hblank fun c hc => by cases hc
    rwa [List.append_nil] at hword?
  · rw [if_neg hnothing, firstWord?_append hword hblank hkept]

/-- The first word of a text stands behind the blanks that the text begins with, and the text goes
on with a blank or not at all. -/
lemma exists_of_firstWord? (h : firstWord? text = some (word, rest)) :
    ∃ tail, stripLeft text = word ++ tail ∧ ∀ c ∈ tail.head?, isBlank c = true := by
  unfold firstWord? at h
  split at h
  · cases h
  · next c more hleft =>
    cases h
    refine ⟨(c :: more).dropWhile (!isBlank ·), ?_, ?_⟩
    · rw [hleft, List.takeWhile_append_dropWhile]
    · intro d hd
      have hstop := List.head?_dropWhile_not (!isBlank ·) (c :: more)
      rw [Option.mem_def.mp hd] at hstop
      simpa using hstop

/-- The blanks around a text do not matter for its first word. -/
theorem map_fst_firstWord?_strip (text : Text) :
    (firstWord? (strip text)).map Prod.fst = (firstWord? text).map Prod.fst := by
  rcases hfirst : firstWord? text with - | ⟨word, rest⟩
  · have hnil : stripLeft text = [] := stripLeft_eq_nil_iff.mpr (firstWord?_eq_none_iff.mp hfirst)
    rw [strip, hnil]
    rfl
  · obtain ⟨tail, hleft, htail⟩ := exists_of_firstWord? hfirst
    obtain ⟨hword, hblank⟩ := isWord_of_firstWord? hfirst
    have hstrip : strip text = strip (word ++ tail) := by
      rw [strip, strip, ← hleft]
      exact congrArg stripRight (List.dropWhile_idempotent isBlank text).symm
    rw [hstrip, firstWord?_strip_append hword hblank htail]
    rfl

/-- A text has no words exactly when it holds blanks only. -/
lemma words_eq_nil_iff : words text = [] ↔ ∀ c ∈ text, isBlank c = true := by
  rw [← stripLeft_eq_nil_iff]
  unfold words
  split <;> simp_all

lemma words_cons_of_not_isBlank (h : isBlank c = false) :
    words (c :: rest) =
      (c :: rest.takeWhile (!isBlank ·)) :: words (rest.dropWhile (!isBlank ·)) := by
  have hleft : stripLeft (c :: rest) = c :: rest := stripLeft_cons_of_not_isBlank h
  rw [words]
  split
  · next heq =>
    rw [hleft] at heq
    cases heq
  · next heq =>
    rw [hleft] at heq
    cases heq
    rfl

/-- Where a text without blanks at its ends goes on, it goes on with more than blanks. -/
lemma eq_nil_of_blank_suffix {tail : Text} (h : strip text = text) (htail : tail <:+ text)
    (hblank : ∀ c ∈ tail, isBlank c = true) : tail = [] := by
  obtain ⟨front, rfl⟩ := htail
  by_contra hne
  have hlast : tail.getLast hne ∈ (strip (front ++ tail)).getLast? := by
    rw [h, List.getLast?_append_of_ne_nil _ hne]
    exact List.getLast?_eq_getLast_of_ne_nil hne
  have hends : isBlank (tail.getLast hne) = false := isBlank_getLast?_strip _ _ hlast
  rw [hblank _ (List.getLast_mem hne)] at hends
  cases hends

/-- A text without blanks at its ends is a single word exactly when it has no blanks in between. -/
lemma length_words_eq_one_iff (h : strip text = text) :
    (words text).length = 1 ↔ text ≠ [] ∧ ∀ c ∈ text, isBlank c = false := by
  cases text with
  | nil => simp [words_eq_nil_iff.mpr]
  | cons c rest =>
    have hc : isBlank c = false := isBlank_head?_strip (c :: rest) c (by rw [h]; rfl)
    have htail : (∀ d ∈ rest.dropWhile (!isBlank ·), isBlank d = true) ↔
        rest.dropWhile (!isBlank ·) = [] := by
      have hsuffix : rest.dropWhile (!isBlank ·) <:+ c :: rest :=
        (List.dropWhile_suffix _).trans (List.suffix_cons c rest)
      refine ⟨eq_nil_of_blank_suffix h hsuffix, fun hnil d hd => ?_⟩
      rw [hnil] at hd
      cases hd
    calc (words (c :: rest)).length = 1
        ↔ words (rest.dropWhile (!isBlank ·)) = [] := by
          rw [words_cons_of_not_isBlank hc, List.length_cons, Nat.succ_inj, List.length_eq_zero_iff]
      _ ↔ rest.dropWhile (!isBlank ·) = [] := by rw [words_eq_nil_iff, htail]
      _ ↔ ∀ d ∈ rest, isBlank d = false := by simp [List.dropWhile_eq_nil_iff]
      _ ↔ c :: rest ≠ [] ∧ ∀ d ∈ c :: rest, isBlank d = false := by simp [hc]

end Text

/-! ## Escaping -/

/-- Escaping does nothing to a blank. -/
lemma escape_cons_of_isBlank {c : Char} (h : isBlank c = true) (rest : Text) :
    escape (c :: rest) = c :: escape rest := by
  have hne : ∀ d : Char, isBlank d = false → c ≠ d := by
    intro d hd heq
    rw [heq, hd] at h
    cases h
  apply escape_plain (hne _ (by decide)) (hne _ (by decide))
  rw [opens_cons_eq_false]
  intro hmarker
  exact hne '$' (by decide) hmarker.1

/-- An escaped text does not begin with a blank if the text does not. -/
lemma isBlank_head?_escape {c : Char} (h : isBlank c = false) (rest : Text) :
    ∀ d ∈ (escape (c :: rest)).head?, isBlank d = false := by
  rw [escape_eq_escapeOnce]
  intro d hd
  unfold escapeOnce at hd
  split at hd
  · cases hd
  · cases hd
    decide
  · next heq =>
    cases heq
    split at hd
    · cases hd
      decide
    · cases hd
      exact h

lemma stripLeft_escape (text : Text) :
    Text.stripLeft (escape text) = escape (Text.stripLeft text) := by
  induction text with
  | nil =>
    rw [escape_nil, show Text.stripLeft [] = [] from rfl, escape_nil]
  | cons c rest ih =>
    by_cases hc : isBlank c = true
    · rw [escape_cons_of_isBlank hc, Text.stripLeft_cons_of_isBlank hc,
        Text.stripLeft_cons_of_isBlank hc, ih]
    · rw [Bool.not_eq_true] at hc
      rw [Text.stripLeft_cons_of_not_isBlank hc]
      have hhead := isBlank_head?_escape hc rest
      rcases hescape : escape (c :: rest) with - | ⟨d, more⟩
      · rfl
      · rw [hescape] at hhead
        exact Text.stripLeft_cons_of_not_isBlank (hhead d rfl)

lemma stripRight_escape (text : Text) :
    Text.stripRight (escape text) = escape (Text.stripRight text) := by
  induction text using List.reverseRecOn with
  | nil =>
    rw [escape_nil, show Text.stripRight [] = [] from rfl, escape_nil]
  | append_singleton text c ih =>
    by_cases hc : isBlank c = true
    · have hseam : ¬(text.getLast? = some '$' ∧ [c].head? = some '(') := by
        rintro ⟨-, hopen⟩
        cases hopen
        exact absurd hc (by decide)
      have hblank : escape [c] = [c] := by
        rw [escape_cons_of_isBlank hc, escape_nil]
      have hgone : Text.stripRight [c] = [] := by
        rw [Text.stripRight_singleton, if_pos hc]
      rw [escape_append hseam, hblank, Text.stripRight_append, Text.stripRight_append,
        if_pos hgone, if_pos hgone, ih]
    · rw [Bool.not_eq_true] at hc
      have hlast : ∀ d ∈ (text ++ [c]).getLast?, isBlank d = false := by
        intro d hd
        rw [List.getLast?_concat] at hd
        cases hd
        exact hc
      rw [Text.stripRight_of_getLast? hlast]
      apply Text.stripRight_of_getLast?
      rw [getLast?_escape]
      exact hlast

/-- It does not matter whether a text is stripped before it is escaped or afterwards. -/
theorem strip_escape (text : Text) : Text.strip (escape text) = escape (Text.strip text) := by
  unfold Text.strip
  rw [stripLeft_escape, stripRight_escape]

end Subshell
