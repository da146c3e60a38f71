import Subshell.Text.Blank
/-!
Words of a text: maximal runs of characters that are not blank.

`strip` drops the blanks at both ends and `trim` the white space, `words` lists the words, and
`firstWord?` takes the first word apart from what follows it. Main statements: the text that
`firstWord?` names is a word, and a text has no first word exactly when it holds blanks only.
-/

namespace Subshell.Text

/-- The text without the blanks that it begins with. -/
def stripLeft (text : Text) : Text := text.dropWhile isBlank

/-- The text without the blanks that it ends with. -/
def stripRight (text : Text) : Text := (text.reverse.dropWhile isBlank).reverse

/-- The text without the blanks at both ends. -/
def strip (text : Text) : Text := stripRight (stripLeft text)

/-- The text without the white space at both ends. -/
def trim (text : Text) : Text :=
  ((text.dropWhile isSpace).reverse.dropWhile isSpace).reverse

/-- The first word and the text after it from its first nonblank character on, blanks at the end
included; `none` for a text without words. The second part is empty when only blanks follow. -/
def firstWord? (text : Text) : Option (Text × Text) :=
  match stripLeft text with
  | [] => none
  | c :: rest =>
    -- only the blanks in front of the second part are dropped
    let word := (c :: rest).takeWhile (!isBlank ·)
    some (word, stripLeft ((c :: rest).dropWhile (!isBlank ·)))

/-- The words of a text, in order. -/
def words (text : Text) : List Text :=
  match _h : stripLeft text with
  | [] => []
  | c :: rest => (c :: rest.takeWhile (!isBlank ·)) :: words (rest.dropWhile (!isBlank ·))
termination_by text.length
decreasing_by
  have h₁ : (rest.dropWhile (!isBlank ·)).length ≤ rest.length :=
    (List.dropWhile_suffix _).length_le
  have h₂ : (stripLeft text).length ≤ text.length := (List.dropWhile_suffix _).length_le
  rw [_h, List.length_cons] at h₂
  omega

/-- What is left after the blanks at the front does not begin with a blank. -/
theorem isBlank_of_stripLeft_eq_cons {text rest : Text} {c : Char}
    (h : stripLeft text = c :: rest) : isBlank c = false := by
  have hd := List.head?_dropWhile_not isBlank text
  rw [show text.dropWhile isBlank = c :: rest from h] at hd
  exact hd

/-- Only blanks are dropped altogether. -/
theorem stripLeft_eq_nil_iff {text : Text} :
    stripLeft text = [] ↔ ∀ c ∈ text, isBlank c = true := by
  unfold stripLeft
  induction text with
  | nil => simp
  | cons c rest ih => by_cases h : isBlank c <;> simp [h, ih]

/-- A text has no first word exactly when it holds blanks only. -/
theorem firstWord?_eq_none_iff {text : Text} :
    firstWord? text = none ↔ ∀ c ∈ text, isBlank c = true := by
  rw [← stripLeft_eq_nil_iff]
  unfold firstWord?
  split <;> simp_all

/-- A first word is not empty and holds no blank. -/
theorem isWord_of_firstWord? {text word rest : Text} (h : firstWord? text = some (word, rest)) :
    word ≠ [] ∧ ∀ c ∈ word, isBlank c = false := by
  unfold firstWord? at h
  split at h
  · simp at h
  · next c more hs =>
    have hc := isBlank_of_stripLeft_eq_cons hs
    simp only [Option.some.injEq, Prod.mk.injEq] at h
    rw [← h.1]
    refine ⟨by simp [hc], fun d hd => ?_⟩
    have hall := List.all_eq_true.1 (@List.all_takeWhile _ (!isBlank ·) (c :: more)) d hd
    simpa using hall

end Subshell.Text
