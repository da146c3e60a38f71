import Subshell.Command.Basic
/-!
Reading a command.

`$(` opens an interpolation and `)` closes it. A backslash takes away the meaning of the character
after it, or of the two characters of a `$(` after it. The reader descends into an interpolation at
each opening marker; each of its steps hands on what it has not read, together with a proof that
this is no longer than what it was given.

A fault is known by its cause and by the text from the fault on; its position is the number of
characters before that text.
-/

namespace Subshell

/-- Why a text is no command. -/
inductive ParseCause
  /-- An interpolation lies inside too many others. -/
  | tooDeep
  /-- An interpolation is not closed. -/
  | unclosed
  /-- A closing marker closes nothing. -/
  | stray
  /-- The text ends with a backslash that escapes nothing. -/
  | dangling
  deriving DecidableEq, Repr

/-- The first thing that keeps a text from being a command. -/
structure ParseFault where
  cause : ParseCause
  /-- The text from the fault on. -/
  rest : Text
  deriving DecidableEq, Repr

/-- The number of characters of `text` before the fault. -/
def ParseFault.position (fault : ParseFault) (text : Text) : Nat := text.length - fault.rest.length

/-- Whether a text begins with the marker of an interpolation. -/
def opens : Text → Bool
  | '$' :: '(' :: _ => true
  | _ => false

/-- A text begins with the marker when it begins with `$` and goes on with `(`. -/
theorem opens_cons (c : Char) (rest : Text) :
    opens (c :: rest) = true ↔ c = '$' ∧ rest.head? = some '(' := by
  rw [opens.eq_def, List.head?_eq_some_iff]
  split
  · next after h =>
    rw [List.cons.injEq] at h
    exact iff_of_true rfl ⟨h.1, after, h.2⟩
  · next h =>
    refine iff_of_false Bool.false_ne_true ?_
    rintro ⟨hc, after, hrest⟩
    exact h after (by rw [hc, hrest])

/-- A text does not begin with the marker when it begins otherwise or goes on otherwise. -/
theorem opens_cons_eq_false (c : Char) (rest : Text) :
    opens (c :: rest) = false ↔ ¬(c = '$' ∧ rest.head? = some '(') := by
  rw [← opens_cons, Bool.not_eq_true]

namespace Command

/-- The literal at the front of a text, decoded, and the text after it, which is empty or begins
with a marker. -/
def readLiteral : Text → Except ParseFault (Text × Text)
  | [] => .ok ([], [])
  | c :: rest =>
    if c = '\\' then
      match rest with
      | [] => .error ⟨.dangling, [c]⟩
      | '$' :: '(' :: rest => (readLiteral rest).map fun read => ('$' :: '(' :: read.1, read.2)
      | d :: rest => (readLiteral rest).map fun read => (d :: read.1, read.2)
    else if c = ')' ∨ opens (c :: rest) then .ok ([], c :: rest)
    else (readLiteral rest).map fun read => (c :: read.1, read.2)

/-- What is left when characters are put in front of a literal that was read is what was left. -/
theorem eq_ok_of_map_eq_ok {read : Except ParseFault (Text × Text)} (put : Text → Text)
    {text left : Text} (h : (read.map fun read => (put read.1, read.2)) = .ok (text, left)) :
    ∃ decoded, read = .ok (decoded, left) := by
  match read, h with
  | .ok (decoded, _), h =>
    simp only [Except.map, Except.ok.injEq, Prod.mk.injEq] at h
    exact ⟨decoded, by rw [h.2]⟩

/-- What follows a literal is no longer than the text. -/
theorem length_of_readLiteral {s text left : Text} (h : readLiteral s = .ok (text, left)) :
    left.length ≤ s.length := by
  fun_induction readLiteral s generalizing text left with
  | case1 => simp_all
  | case2 => simp at h
  | case3 rest ih =>
    obtain ⟨_, hr⟩ := eq_ok_of_map_eq_ok ('$' :: '(' :: ·) h
    have := ih hr
    simp only [List.length_cons]
    omega
  | case4 d rest _ ih =>
    obtain ⟨_, hr⟩ := eq_ok_of_map_eq_ok (d :: ·) h
    have := ih hr
    simp only [List.length_cons]
    omega
  | case5 => simp_all
  | case6 c rest _ _ ih =>
    obtain ⟨_, hr⟩ := eq_ok_of_map_eq_ok (c :: ·) h
    have := ih hr
    simp only [List.length_cons]
    omega

/-- A literal takes at least one character of a text that does not begin with a marker. -/
theorem length_of_readLiteral_cons {c : Char} {rest text left : Text}
    (h : readLiteral (c :: rest) = .ok (text, left)) (hc : ¬(c = ')' ∨ opens (c :: rest) = true)) :
    left.length < (c :: rest).length := by
  rw [readLiteral.eq_def] at h
  simp only [if_neg hc] at h
  split at h
  · split at h
    · simp at h
    · obtain ⟨_, hr⟩ := eq_ok_of_map_eq_ok ('$' :: '(' :: ·) h
      have := length_of_readLiteral hr
      simp only [List.length_cons]
      omega
    · rename_i d rest' _
      obtain ⟨_, hr⟩ := eq_ok_of_map_eq_ok (d :: ·) h
      have := length_of_readLiteral hr
      simp only [List.length_cons]
      omega
  · obtain ⟨_, hr⟩ := eq_ok_of_map_eq_ok (c :: ·) h
    have := length_of_readLiteral hr
    simp only [List.length_cons]
    omega

/-- The command at the front of a text, with room for interpolations `room` deep, and the text
after it, which is empty or begins with a closing marker. -/
def readSequence (room : Option Nat) (s : Text) :
    Except ParseFault (Command × { left : Text // left.length ≤ s.length }) :=
  match s with
  | [] => .ok (.nil, ⟨[], Nat.le_refl _⟩)
  | c :: rest =>
    if hc : c = ')' then .ok (.nil, ⟨c :: rest, Nat.le_refl _⟩)
    else if ho : opens (c :: rest) then
      if room = some 0 then .error ⟨.tooDeep, c :: rest⟩
      else
        -- the tail is the text behind the parenthesis of the marker
        match readSequence (room.map (· - 1)) rest.tail with
        | .error fault => .error fault
        | .ok (_, ⟨[], _⟩) => .error ⟨.unclosed, c :: rest⟩
        -- what stops the inner command before the end of the text is its closing marker
        | .ok (inner, ⟨_ :: left, hleft⟩) =>
          have : left.length < rest.length + 1 := by
            simp only [List.length_cons, List.length_tail] at hleft; omega
          match readSequence room left with
          | .error fault => .error fault
          | .ok (after, ⟨left', hleft'⟩) =>
            .ok (.interpolation inner after, ⟨left', by simp only [List.length_cons]; omega⟩)
    else
      match hread : readLiteral (c :: rest) with
      | .error fault => .error fault
      | .ok (text, left) =>
        have : left.length < (c :: rest).length :=
          length_of_readLiteral_cons hread (by simp [hc, ho])
        match readSequence room left with
        | .error fault => .error fault
        | .ok (after, ⟨left', hleft'⟩) =>
          .ok (.literal text after, ⟨left', by omega⟩)
termination_by s.length
decreasing_by
  all_goals simp only [List.length_cons, List.length_tail] at *
  all_goals omega

/-- The command that a text writes, with interpolations at most `limit` deep if there is one. -/
def parse (limit : Option Nat) (text : Text) : Except ParseFault Command :=
  match readSequence limit text with
  | .error fault => .error fault
  | .ok (command, ⟨[], _⟩) => .ok command
  | .ok (_, ⟨left, _⟩) => .error ⟨.stray, left⟩

end Command

end Subshell
