import Mathlib.Order.Bounds.Basic
import Subshell.Proofs.RoundTrip
/-!
# The shortest source

A command can be written in many ways, since a backslash may stand in front of any character.
`Command.source` is the shortest of them (`source_isLeast`).

The proof reads a text and compares what it has read with the source of the command. Character by
character the source needs no more backslashes than the text has, with one exception: a `$` that is
plain in the text, in front of a parenthesis that is escaped there, is written with a backslash. It
is paid for by that of the parenthesis, which the source does without. `NoLonger` keeps account of
this: where the source begins with a parenthesis and the text does not, there is one character to
spare.
-/

namespace Subshell

/-- A character takes at most two to write. -/
lemma length_escape_cons_le (c : Char) (text : Text) :
    (escape (c :: text)).length ≤ (escape text).length + 2 := by
  by_cases hb : c = '\\'
  · rw [hb, escape_backslash]
    rfl
  by_cases hc : c = ')'
  · rw [hc, escape_closing]
    rfl
  by_cases ho : opens (c :: text) = true
  · obtain ⟨rfl, hhead⟩ := (opens_cons c text).mp ho
    obtain ⟨rest, rfl⟩ := List.head?_eq_some_iff.mp hhead
    have hparen : escape ('(' :: rest) = '(' :: escape rest :=
      escape_plain (by decide) (by decide) (by simp [opens])
    rw [escape_opening, hparen]
    rfl
  · rw [escape_plain hb hc (Bool.eq_false_iff.mpr ho)]
    exact Nat.le_succ _

namespace Command

/-- The source of a command begins with its first literal, and that is where a text in front of the
command goes. -/
lemma exists_source_prepend (c : Command) :
    ∃ text rest, c.source = escape text ++ rest ∧
      ∀ first, (prepend first c).source = escape (first ++ text) ++ rest := by
  cases c with
  | nil =>
    refine ⟨[], [], by rw [escape_nil]; rfl, fun first => ?_⟩
    simp only [prepend, source, List.append_nil]
  | literal text rest => exact ⟨text, rest.source, rfl, fun first => rfl⟩
  | interpolation inner rest =>
    exact ⟨[], (interpolation inner rest).source, by rw [escape_nil]; rfl,
      fun first => by rw [List.append_nil]; rfl⟩

/-- A command takes no more to write than what was read for it, which is the first text up to the
second. It takes less where it begins with a parenthesis that is escaped in the text. -/
structure NoLonger (s : Text) (c : Command) (left : Text) : Prop where
  le : c.source.length + left.length ≤ s.length
  lt : c.source.head? = some '(' → s.head? ≠ some '(' →
    c.source.length + left.length < s.length

variable {s left : Text} {c : Command}

/-- What a spelling says takes no more to write than the spelling. -/
lemma NoLonger.prepend {first rest : Text} (h : Spelling s first rest)
    (hc : NoLonger rest c left) : NoLonger s (prepend first c) left := by
  obtain ⟨text, more, hsource, hprepend⟩ := exists_source_prepend c
  obtain ⟨hle, hlt⟩ := hc
  rw [hsource, List.length_append] at hle hlt
  constructor
  · rw [hprepend, List.length_append]
    cases h with
    | marker =>
      show (escape ('$' :: '(' :: text)).length + _ + _ ≤ _
      rw [escape_opening]
      simp only [List.length_cons]
      omega
    | escaped d =>
      have htwo := length_escape_cons_le d text
      simp only [List.length_cons, List.cons_append, List.nil_append]
      omega
    | @plain d _ hb hd ho =>
      show (escape (d :: text)).length + _ + _ ≤ _
      rw [List.length_cons]
      by_cases hmarker : opens (d :: text) = true
      · -- a marker is written, so the parenthesis is escaped in the text
        obtain ⟨rfl, hhead⟩ := (opens_cons d text).mp hmarker
        have hparen : (escape text ++ more).head? = some '(' := by
          rw [head?_escape_append, List.head?_append, hhead]
          rfl
        have hrest : rest.head? ≠ some '(' :=
          fun hrest => (opens_cons_eq_false '$' rest).mp ho ⟨rfl, hrest⟩
        have hless := hlt hparen hrest
        have htwo := length_escape_cons_le '$' text
        omega
      · rw [escape_plain hb hd (Bool.eq_false_iff.mpr hmarker), List.length_cons]
        omega
  · intro hhead hs
    rw [hprepend, head?_escape_append] at hhead
    rw [hprepend, List.length_append]
    cases h with
    | marker => cases hhead
    | plain => exact absurd hhead hs
    | escaped d =>
      obtain rfl : d = '(' := Option.some.inj hhead
      show (escape ('(' :: text)).length + _ + _ < _
      rw [escape_plain (by decide) (by decide) (by simp [opens])]
      simp only [List.length_cons]
      omega

/-- Neither does what is read at the front of a text. -/
theorem noLonger_of_front {room : Option Nat} (h : front room s = .ok (c, left)) :
    NoLonger s c left := by
  induction s using reading_induction generalizing room c left with
  | nil =>
    rw [front_nil] at h
    cases h
    exact ⟨Nat.le_refl _, fun hhead => by cases hhead⟩
  | closing rest =>
    rw [front_closing] at h
    cases h
    exact ⟨Nat.le_of_eq (Nat.zero_add _), fun hhead => by cases hhead⟩
  | dangling => rw [front_dangling] at h; cases h
  | spelled s text rest hs ih =>
    obtain ⟨after, hafter, rfl⟩ := (front_spelled_eq_ok hs).mp h
    exact (ih hafter).prepend hs
  | opening rest ih =>
    obtain ⟨-, inner, mid, after, hinner, hafter, rfl⟩ := front_opening_eq_ok.mp h
    have hinside := (ih rest (Nat.le_refl _) hinner).le
    have hbehind := (ih mid (length_of_front_closing hinner) hafter).le
    refine ⟨?_, fun hhead => ?_⟩
    · simp only [source, List.length_append, List.length_cons] at hinside ⊢
      omega
    · cases hhead

/-- The source of a command is no longer than any text that is read as the command. -/
lemma length_source_le {limit : Option Nat} (h : parse limit s = .ok c) :
    c.source.length ≤ s.length :=
  (noLonger_of_front (parse_eq_ok.mp h)).le

/-- The source of a normal command is read as the command, and of all texts that are, none is
shorter. So whatever is read from any text, under any limit, takes no more to write than the
text. -/
theorem source_isLeast :
    (∀ c : Command, c.Normal →
      IsLeast {n | ∃ s, parse none s = .ok c ∧ s.length = n} c.source.length) ∧
    ∀ limit s c, parse limit s = .ok c → c.source.length ≤ s.length := by
  refine ⟨fun c hc => ⟨?_, ?_⟩, fun limit s c h => length_source_le h⟩
  · have hread : parse none c.source = .ok c := by
      apply parse_source hc
      intro n hn
      cases hn
    exact ⟨c.source, hread, rfl⟩
  · intro n hn
    obtain ⟨s, hs, rfl⟩ := hn
    exact length_source_le hs

/-- A marker that is text is written with a backslash in front of it. With the backslash in front of
the parenthesis it would be as long, and not shorter. -/
theorem source_isLeast_marker :
    let c := literal "$(" nil
    c.Normal ∧ IsLeast {n | ∃ s, parse none s = .ok c ∧ s.length = n} 3 ∧
      parse (some 1) "$\\(" = .ok c ∧ c.source.length ≤ "$\\(".toList.length := by
  intro c
  have hnormal : c.Normal := by decide
  have hparse : parse (some 1) "$\\(" = .ok c := by decide +kernel
  have hleast := source_isLeast.1 c hnormal
  have hlength : c.source.length = 3 := by decide +kernel
  rw [hlength] at hleast
  exact ⟨hnormal, hleast, hparse, source_isLeast.2 (some 1) _ c hparse⟩

end Command

end Subshell
