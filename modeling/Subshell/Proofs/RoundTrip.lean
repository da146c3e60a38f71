import Subshell.Proofs.Escape
import Subshell.Proofs.Grammar
import Mathlib.Data.List.Basic
/-!
# Commands and their sources

`Command.source` writes a command and `Command.parse` reads a text. Reading what was written gives
the command back exactly when the command is `Normal`: no literal is empty and no two are
neighbours, at any level. Whatever is read is normal, so reading and writing settle after one
round.

The proof goes through the grammar: `writesLiteral_escape` says that an escaped text spells the
text, as long as it does not form a marker with what comes after it, and in a normal command the
next character is a marker's or none at all.
-/

namespace Subshell.Command

/-! ## Normal commands -/

/-- Whether the command begins with a literal. -/
def beginsWithLiteral : Command → Bool
  | literal _ _ => true
  | _ => false

/-- No literal is empty, and none comes directly after another, at any level. -/
def Normal : Command → Prop
  | nil => True
  | literal text rest => text ≠ [] ∧ rest.beginsWithLiteral = false ∧ rest.Normal
  | interpolation inner rest => inner.Normal ∧ rest.Normal

/-- Whether a command is normal is found out level by level. -/
instance decidableNormal : (c : Command) → Decidable c.Normal
  | nil => isTrue trivial
  | literal text rest =>
    have := decidableNormal rest
    inferInstanceAs (Decidable (text ≠ [] ∧ rest.beginsWithLiteral = false ∧ rest.Normal))
  | interpolation inner rest =>
    have := decidableNormal inner
    have := decidableNormal rest
    inferInstanceAs (Decidable (inner.Normal ∧ rest.Normal))

/-- A text in front of a normal command makes a normal command. -/
lemma Normal.prepend {text : Text} {c : Command} (h : c.Normal) (ht : text ≠ []) :
    (prepend text c).Normal := by
  cases c with
  | nil => exact ⟨ht, rfl, trivial⟩
  | literal first rest =>
    obtain ⟨-, hrest, hn⟩ := h
    exact ⟨fun hnil => ht (List.append_eq_nil_iff.mp hnil).1, hrest, hn⟩
  | interpolation inner rest => exact ⟨ht, rfl, h⟩

/-- A text stays a literal of its own in front of a command that begins otherwise. -/
lemma prepend_eq_literal {text : Text} {c : Command} (h : c.beginsWithLiteral = false) :
    prepend text c = literal text c := by
  cases c with
  | nil => rfl
  | literal first rest => cases h
  | interpolation inner rest => rfl

/-- A normal command has no neighbouring literals to put together. -/
lemma Normal.merged {c : Command} (h : c.Normal) : c.merged = c := by
  induction c with
  | nil => rfl
  | literal text rest ih => rw [Command.merged, ih h.2.2, prepend_eq_literal h.2.1]
  | interpolation inner rest ih₁ ih₂ => rw [Command.merged, ih₁ h.1, ih₂ h.2]

/-- What is read is normal. -/
theorem normal_of_front {room : Option Nat} {s left : Text} {c : Command}
    (h : front room s = .ok (c, left)) : c.Normal := by
  induction s using reading_induction generalizing room c left with
  | nil => rw [front_nil] at h; cases h; exact trivial
  | closing rest => rw [front_closing] at h; cases h; exact trivial
  | dangling => rw [front_dangling] at h; cases h
  | spelled s text rest hs ih =>
    obtain ⟨after, hafter, rfl⟩ := (front_spelled_eq_ok hs).mp h
    exact (ih hafter).prepend hs.text_ne_nil
  | opening rest ih =>
    obtain ⟨-, inner, mid, after, hinner, hafter, rfl⟩ := front_opening_eq_ok.mp h
    exact ⟨ih rest (Nat.le_refl _) hinner, ih mid (length_of_front_closing hinner) hafter⟩

/-- What is read has room for its interpolations. -/
theorem depth_of_front {room : Option Nat} {s left : Text} {c : Command}
    (h : front room s = .ok (c, left)) : ∀ n ∈ room, c.depth ≤ n := by
  induction s using reading_induction generalizing room c left with
  | nil => rw [front_nil] at h; cases h; exact fun n _ => Nat.zero_le n
  | closing rest => rw [front_closing] at h; cases h; exact fun n _ => Nat.zero_le n
  | dangling => rw [front_dangling] at h; cases h
  | spelled s text rest hs ih =>
    obtain ⟨after, hafter, rfl⟩ := (front_spelled_eq_ok hs).mp h
    rw [depth_prepend]
    exact ih hafter
  | opening rest ih =>
    obtain ⟨hroom, inner, mid, after, hinner, hafter, rfl⟩ := front_opening_eq_ok.mp h
    intro n hn
    have hpos : n ≠ 0 := by
      intro hzero
      apply hroom
      rw [← hzero]
      exact hn
    have hless : n - 1 ∈ room.map (· - 1) := Option.map_eq_some_iff.mpr ⟨n, hn, rfl⟩
    have hinside : inner.depth ≤ n - 1 := ih rest (Nat.le_refl _) hinner (n - 1) hless
    have hbehind : after.depth ≤ n := ih mid (length_of_front_closing hinner) hafter n hn
    unfold depth
    omega

/-! ## Sources -/

/-- A spelling and a literal behind it, which may be empty, are a literal. -/
lemma WritesLiteral.cons {s piece mid text rest : Text} (h : Spelling s piece mid)
    (hnil : text = [] → mid = rest) (hmore : text ≠ [] → WritesLiteral mid text rest) :
    WritesLiteral s (piece ++ text) rest := by
  by_cases ht : text = []
  · rw [ht, List.append_nil, ← hnil ht]
    exact .one h
  · exact .more h (hmore ht)

/-- An escaped text spells the text, unless it ends with a dollar that the next character makes a
marker of. -/
lemma writesLiteral_escape {text rest : Text} (ht : text ≠ [])
    (hseam : ¬(text.getLast? = some '$' ∧ rest.head? = some '(')) :
    WritesLiteral (escape text ++ rest) text rest := by
  -- the seam is that of the shorter text, as long as there is one
  have htail : ∀ piece more : Text, more ≠ [] →
      ¬((piece ++ more).getLast? = some '$' ∧ rest.head? = some '(') →
      ¬(more.getLast? = some '$' ∧ rest.head? = some '(') := by
    intro piece more hmore h
    rwa [List.getLast?_append_of_ne_nil piece hmore] at h
  rw [escape_eq_escapeOnce]
  fun_induction escapeOnce text with
  | case1 => exact absurd rfl ht
  | case2 more ih =>
    apply WritesLiteral.cons (.marker (escapeOnce more ++ rest))
    · intro hmore
      rw [hmore]
      rfl
    · intro hmore
      exact ih hmore (htail ['$', '('] more hmore hseam)
  | case3 c more _ _ ih =>
    apply WritesLiteral.cons (.escaped c (escapeOnce more ++ rest))
    · intro hmore
      rw [hmore]
      rfl
    · intro hmore
      exact ih hmore (htail [c] more hmore hseam)
  | case4 c more hc h ih =>
    rw [not_or] at h
    have ho : opens (c :: (escapeOnce more ++ rest)) = false := by
      rw [opens_cons_eq_false, ← escape_eq_escapeOnce, head?_escape_append]
      intro hmarker
      obtain ⟨hdollar, hhead⟩ := hmarker
      cases more with
      | nil =>
        apply hseam
        rw [hdollar]
        exact ⟨rfl, hhead⟩
      | cons d more =>
        rw [List.cons_append, List.head?_cons, Option.some.injEq] at hhead
        exact hc more hdollar (by rw [hhead])
    apply WritesLiteral.cons (.plain h.1 h.2 ho)
    · intro hmore
      rw [hmore]
      rfl
    · intro hmore
      exact ih hmore (htail [c] more hmore hseam)

/-- The source of a normal command is written by the grammar as that command. -/
theorem writes_source {c : Command} (h : c.Normal) {rest : Text} (hrest : rest.head? ≠ some '(') :
    Writes (c.source ++ rest) c rest := by
  induction c generalizing rest with
  | nil => exact .nil rest
  | literal text after ih =>
    obtain ⟨ht, hafter, hn⟩ := h
    -- behind a literal comes a marker or the end, since no two literals are neighbours
    have hseam : (after.source ++ rest).head? ≠ some '(' := by
      cases after with
      | nil => exact hrest
      | literal first last => cases hafter
      | interpolation inner last => simp [source]
    rw [source, List.append_assoc]
    exact .literal (writesLiteral_escape ht fun hs => hseam hs.2) (ih hn hrest)
  | interpolation inner after ih₁ ih₂ =>
    have hsource : (interpolation inner after).source ++ rest
        = '$' :: '(' :: (inner.source ++ ')' :: (after.source ++ rest)) := by
      simp only [source, List.cons_append, List.append_assoc]
    rw [hsource]
    exact .interpolation (ih₁ h.1 (by simp)) (ih₂ h.2 hrest)

/-! ## The round trip -/

/-- A normal command is read from its source when there is room for its interpolations. -/
theorem parse_source {limit : Option Nat} {c : Command} (h : c.Normal)
    (hdepth : ∀ n ∈ limit, c.depth ≤ n) : parse limit c.source = .ok c := by
  have hwrites : Writes (c.source ++ []) c [] := writes_source h (by simp)
  rw [List.append_nil] at hwrites
  have hfront : front limit c.source = .ok (c.merged, []) :=
    front_of_writes hwrites (.inl rfl) hdepth
  rw [h.merged] at hfront
  exact parse_eq_ok.mpr hfront

/-- With room for its interpolations, a command is read back from its source exactly when it is
normal; and whatever is read from any text is normal, so its source is read as the same command
again. -/
theorem parse_source_iff_normal :
    (∀ (c : Command) (limit : Option Nat), (∀ n ∈ limit, c.depth ≤ n) →
      (parse limit c.source = .ok c ↔ c.Normal)) ∧
    ∀ (limit : Option Nat) (s : Text) (c : Command), parse limit s = .ok c →
      c.Normal ∧ parse limit c.source = .ok c := by
  constructor
  · intro c limit hdepth
    constructor
    · intro h
      exact normal_of_front (parse_eq_ok.mp h)
    · intro h
      exact parse_source h hdepth
  · intro limit s c h
    have hfront : front limit s = .ok (c, []) := parse_eq_ok.mp h
    have hnormal : c.Normal := normal_of_front hfront
    exact ⟨hnormal, parse_source hnormal (depth_of_front hfront)⟩

/-- A `$` in front of an interpolation, one in front of its end, and a parenthesis behind it form no
markers. -/
theorem parse_source_seams :
    let c : Command := literal "a$" (interpolation (literal "\\$" nil) (literal "(" nil))
    (∀ n ∈ some 1, c.depth ≤ n) ∧ c.Normal ∧ parse (some 1) c.source = .ok c := by
  intro c
  have hdepth : ∀ n ∈ some 1, c.depth ≤ n := by
    intro n hn
    cases hn
    decide
  have hnormal : c.Normal := by decide
  exact ⟨hdepth, hnormal, (parse_source_iff_normal.1 c (some 1) hdepth).mpr hnormal⟩

end Subshell.Command
