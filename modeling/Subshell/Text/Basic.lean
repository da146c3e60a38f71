/-!
Texts as lists of characters.

A text is the list of its characters, so that lengths, positions and reversal count characters,
and every function on texts is a function on lists. String literals are accepted wherever a text
is expected.
-/

namespace Subshell

/-- A text is the list of its characters. -/
abbrev Text := List Char

instance : Coe String Text := ⟨String.toList⟩

namespace Text

/-- Whether a text is among others is found out by comparing it with each. -/
instance decidableMem (text : Text) (texts : List Text) : Decidable (text ∈ texts) :=
  inferInstance

/-- The decimal digits of a natural number. -/
def ofNat (n : Nat) : Text := Nat.toDigits 10 n

/-- An integer in decimal, with a minus sign when it is negative. -/
def ofInt : Int → Text
  | .ofNat n => ofNat n
  | .negSucc n => '-' :: ofNat (n + 1)

/-- The number of bytes that a text takes up when it is written out. -/
def byteLength (text : Text) : Nat := text.foldl (fun bytes c => bytes + c.utf8Size) 0

/-- The texts one after another, with `separator` between any two neighbours. -/
def join (separator : Text) (texts : List Text) : Text := separator.intercalate texts

/-- Every occurrence of the pattern `first :: more`, found from left to right without overlap,
replaced by `new`. -/
def substitute (first : Char) (more new : Text) : Text → Text
  | [] => []
  | c :: rest =>
    if c = first ∧ more <+: rest then new ++ substitute first more new (rest.drop more.length)
    else c :: substitute first more new rest
termination_by text => text.length
decreasing_by
  all_goals simp only [List.length_cons, List.length_drop]
  all_goals omega

end Text

end Subshell
