import Subshell.Proofs.Front
/-!
# The grammar of commands

A command is a sequence of literals and interpolations, a literal is one spelling or more, and an
interpolation is a command between `$(` and `)`. `Writes` says so as a relation, in which nothing is
tried before anything else: a text may be written by the grammar in many ways, since a run of
spellings may be cut into literals anywhere, and `\$(` may be read as one spelling or as two.

* `front_of_writes`: whatever the grammar writes, the reader reads, with literals merged;
* `writes_of_front`: whatever the reader reads, the grammar writes;
* `parse_none_iff_writes`: the reader accepts the grammar, and all ways to write a text come to the
  one command that is read.
-/

namespace Subshell

/-- The text without the backslashes that take away a meaning. What a backslash stands in front of
is kept, a backslash included. -/
def Text.unescaped : Text → Text
  | [] => []
  | '\\' :: c :: rest => c :: Text.unescaped rest
  | c :: rest => c :: Text.unescaped rest

/-- A character that is no backslash is kept. -/
lemma Text.unescaped_cons {c : Char} {rest : Text} (hb : c ≠ '\\') :
    Text.unescaped (c :: rest) = c :: Text.unescaped rest := by
  rw [Text.unescaped]
  exact fun _ _ h _ => hb h

/-- A spelling without its backslash is its text. -/
lemma Spelling.unescaped {s text rest : Text} (h : Spelling s text rest) :
    s.unescaped = text ++ rest.unescaped := by
  cases h with
  | marker => rw [Text.unescaped, Text.unescaped_cons (by decide)]; rfl
  | escaped c => rw [Text.unescaped]; rfl
  | plain hb => exact Text.unescaped_cons hb

namespace Command

/-! ## What the grammar writes -/

/-- The first text begins with a literal that says the second, and the third is what follows. -/
inductive WritesLiteral : Text → Text → Text → Prop
  | one {s text rest : Text} : Spelling s text rest → WritesLiteral s text rest
  | more {s text mid more rest : Text} :
    Spelling s text mid → WritesLiteral mid more rest → WritesLiteral s (text ++ more) rest

/-- The first text begins with a command, and the second text is what follows. -/
inductive Writes : Text → Command → Text → Prop
  | nil (rest : Text) : Writes rest nil rest
  | literal {s text mid rest : Text} {c : Command} :
    WritesLiteral s text mid → Writes mid c rest → Writes s (literal text c) rest
  | interpolation {s mid rest : Text} {inner c : Command} :
    Writes s inner (')' :: mid) → Writes mid c rest →
      Writes ('$' :: '(' :: s) (interpolation inner c) rest

/-- The command with neighbouring literals put together, at every level. -/
def merged : Command → Command
  | nil => nil
  | literal text rest => prepend text rest.merged
  | interpolation inner rest => interpolation inner.merged rest.merged

/-- The literals of a command as they are, with its interpolations between their markers. -/
def bare : Command → Text
  | nil => []
  | literal text rest => text ++ rest.bare
  | interpolation inner rest => '$' :: '(' :: inner.bare ++ ')' :: rest.bare

lemma bare_prepend (text : Text) (c : Command) : (prepend text c).bare = text ++ c.bare := by
  cases c with
  | nil => rfl
  | literal first rest => simp only [prepend, bare, List.append_assoc]
  | interpolation inner rest => rfl

/-- Merging literals does not change what a command says. -/
lemma bare_merged (c : Command) : c.merged.bare = c.bare := by
  induction c with
  | nil => rfl
  | literal text rest ih => rw [merged, bare_prepend, ih, bare]
  | interpolation inner rest ih₁ ih₂ => rw [merged, bare, ih₁, ih₂, bare]

lemma WritesLiteral.unescaped {s text rest : Text} (h : WritesLiteral s text rest) :
    s.unescaped = text ++ rest.unescaped := by
  induction h with
  | one h => exact h.unescaped
  | more h _ ih => rw [h.unescaped, ih, List.append_assoc]

/-- A command says what the text says that writes it, character by character, but for the
backslashes. -/
lemma Writes.unescaped {s rest : Text} {c : Command} (h : Writes s c rest) :
    s.unescaped = c.bare ++ rest.unescaped := by
  induction h with
  | nil => rfl
  | literal h _ ih => rw [h.unescaped, ih, bare, List.append_assoc]
  | interpolation _ _ ih₁ ih₂ =>
    rw [Text.unescaped_cons (by decide), Text.unescaped_cons (by decide), ih₁,
      Text.unescaped_cons (by decide), ih₂]
    simp only [bare, List.cons_append, List.append_assoc]

/-! ## What follows does not matter -/

/-- Where one text begins like another, it still does so behind a third. -/
lemma head?_append_eq {before rest other : Text} (h : other.head? = rest.head?) :
    (before ++ other).head? = (before ++ rest).head? := by
  rw [List.head?_append, List.head?_append, h]

/-- The characters of a spelling spell the same in front of any text that begins alike. -/
lemma exists_spelling {s text rest : Text} (h : Spelling s text rest) :
    ∃ before, s = before ++ rest ∧
      ∀ other : Text, other.head? = rest.head? → Spelling (before ++ other) text other := by
  cases h with
  | marker => exact ⟨['\\', '$', '('], rfl, fun other _ => .marker other⟩
  | escaped c => exact ⟨['\\', c], rfl, fun other _ => .escaped c other⟩
  | @plain c _ hb hc ho =>
    refine ⟨[c], rfl, fun other hother => ?_⟩
    have ho' : opens (c :: other) = false := by
      rw [opens_cons_eq_false] at ho ⊢
      rwa [hother]
    exact .plain hb hc ho'

/-- The characters of a literal say the same in front of any text that begins alike. -/
lemma exists_writesLiteral {s text rest : Text} (h : WritesLiteral s text rest) :
    ∃ before, s = before ++ rest ∧
      ∀ other : Text, other.head? = rest.head? → WritesLiteral (before ++ other) text other := by
  induction h with
  | one h =>
    obtain ⟨before, hs, hbefore⟩ := exists_spelling h
    exact ⟨before, hs, fun other hother => .one (hbefore other hother)⟩
  | more h _ ih =>
    obtain ⟨piece, rfl, hpiece⟩ := exists_spelling h
    obtain ⟨before, rfl, hbefore⟩ := ih
    refine ⟨piece ++ before, (List.append_assoc ..).symm, fun other hother => ?_⟩
    rw [List.append_assoc]
    exact .more (hpiece _ (head?_append_eq hother)) (hbefore other hother)

/-- The characters of a command write the same in front of any text that begins alike. -/
theorem exists_writes {s rest : Text} {c : Command} (h : Writes s c rest) :
    ∃ before, s = before ++ rest ∧
      ∀ other : Text, other.head? = rest.head? → Writes (before ++ other) c other := by
  induction h with
  | nil => exact ⟨[], rfl, fun other _ => .nil other⟩
  | literal h _ ih =>
    obtain ⟨first, rfl, hfirst⟩ := exists_writesLiteral h
    obtain ⟨before, rfl, hbefore⟩ := ih
    refine ⟨first ++ before, (List.append_assoc ..).symm, fun other hother => ?_⟩
    rw [List.append_assoc]
    exact .literal (hfirst _ (head?_append_eq hother)) (hbefore other hother)
  | interpolation _ _ ih₁ ih₂ =>
    obtain ⟨inside, rfl, hinside⟩ := ih₁
    obtain ⟨behind, rfl, hbehind⟩ := ih₂
    refine ⟨'$' :: '(' :: inside ++ ')' :: behind, by simp, fun other hother => ?_⟩
    -- inside the interpolation it is always the closing marker that follows
    have hinner := hinside (')' :: (behind ++ other)) rfl
    have hwhole := Writes.interpolation hinner (hbehind other hother)
    simpa using hwhole

/-! ## Whatever is written is read -/

/-- Nothing is read where a reading stops. -/
lemma front_of_stops {room : Option Nat} {s : Text} (h : s = [] ∨ ∃ rest, s = ')' :: rest) :
    front room s = .ok (nil, s) := by
  obtain rfl | ⟨rest, rfl⟩ := h
  · exact front_nil room
  · exact front_closing room rest

/-- A literal puts its text in front of the command that comes after it. -/
lemma front_of_writesLiteral {room : Option Nat} {s text rest : Text}
    (h : WritesLiteral s text rest) :
    front room s = (front room rest).map (Prod.map (prepend text) id) := by
  induction h with
  | one h => exact front_spelled room h
  | @more s text mid more rest h _ ih =>
    rw [front_spelled room h, ih]
    rcases front room rest with fault | read
    · rfl
    · simp only [Except.map, Prod.map, prepend_append, id_eq]

/-- What the grammar writes up to a place where a reading stops is read, with neighbouring literals
put together, when there is room for its interpolations. -/
theorem front_of_writes {room : Option Nat} {s rest : Text} {c : Command} (h : Writes s c rest)
    (hstops : rest = [] ∨ ∃ after, rest = ')' :: after) (hdepth : ∀ n ∈ room, c.depth ≤ n) :
    front room s = .ok (c.merged, rest) := by
  induction h generalizing room with
  | nil => exact front_of_stops hstops
  | literal h _ ih =>
    rw [front_of_writesLiteral h, ih hstops hdepth]
    rfl
  | @interpolation s mid rest inner c _ _ ih₁ ih₂ =>
    simp only [depth] at hdepth
    have hroom : room ≠ some 0 := by
      intro hzero
      have hle := hdepth 0 hzero
      omega
    have hinner : ∀ n ∈ room.map (· - 1), inner.depth ≤ n := by
      intro n hn
      -- inside the interpolation there is room for one fewer
      obtain ⟨m, hm, hmn⟩ := Option.map_eq_some_iff.mp hn
      have hle := hdepth m hm
      omega
    have hafter : ∀ n ∈ room, c.depth ≤ n := by
      intro n hn
      have hle := hdepth n hn
      omega
    exact front_opening_eq_ok.mpr
      ⟨hroom, _, mid, _, ih₁ (.inr ⟨mid, rfl⟩) hinner, ih₂ hstops hafter, rfl⟩

/-! ## Whatever is read is written -/

/-- A spelling in front of a command extends the literal that the command begins with, or is a
literal of its own. -/
lemma Writes.prepend {s text mid rest : Text} {c : Command} (h : Spelling s text mid)
    (hc : Writes mid c rest) : Writes s (prepend text c) rest := by
  cases c with
  | nil => exact .literal (.one h) hc
  | interpolation inner after => exact .literal (.one h) hc
  | literal first after =>
    cases hc with
    | literal hfirst hafter => exact .literal (.more h hfirst) hafter

/-- What is read at the front of a text, the grammar writes there. -/
theorem writes_of_front {room : Option Nat} {s left : Text} {c : Command}
    (h : front room s = .ok (c, left)) : Writes s c left := by
  induction s using reading_induction generalizing room c left with
  | nil => rw [front_nil] at h; cases h; exact .nil _
  | closing rest => rw [front_closing] at h; cases h; exact .nil _
  | dangling => rw [front_dangling] at h; cases h
  | spelled s text rest hs ih =>
    obtain ⟨after, hafter, rfl⟩ := (front_spelled_eq_ok hs).mp h
    exact .prepend hs (ih hafter)
  | opening rest ih =>
    obtain ⟨-, inner, mid, after, hinner, hafter, rfl⟩ := front_opening_eq_ok.mp h
    exact .interpolation (ih rest (Nat.le_refl _) hinner)
      (ih mid (length_of_front_closing hinner) hafter)

/-- A text is read as a command when all of it is the command at its front. -/
lemma parse_eq_ok {limit : Option Nat} {text : Text} {c : Command} :
    parse limit text = .ok c ↔ front limit text = .ok (c, []) := by
  rw [parse_eq_front]
  rcases front limit text with fault | ⟨d, _ | ⟨e, left⟩⟩ <;> simp

/-- Without a limit, the texts that are read are those that the grammar writes. However the grammar
writes a text, it writes the command that is read, cut into more literals perhaps; and that command
says what the text says, but for the backslashes that take away a meaning. -/
theorem parse_none_iff_writes (s : Text) :
    ((∃ c, parse none s = .ok c) ↔ ∃ d, Writes s d []) ∧
    ∀ c d, parse none s = .ok c → Writes s d [] → d.merged = c ∧ c.bare = s.unescaped := by
  have hread : ∀ d, Writes s d [] → parse none s = .ok d.merged := by
    intro d hd
    apply parse_eq_ok.mpr
    exact front_of_writes hd (.inl rfl) (by simp)
  constructor
  · constructor
    · intro h
      obtain ⟨c, hc⟩ := h
      exact ⟨c, writes_of_front (parse_eq_ok.mp hc)⟩
    · intro h
      obtain ⟨d, hd⟩ := h
      exact ⟨d.merged, hread d hd⟩
  · intro c d hc hd
    have hmerged : d.merged = c := by
      rw [hread d hd] at hc
      exact Except.ok.inj hc
    have hsays : c.bare = s.unescaped := by
      rw [← hmerged, bare_merged, hd.unescaped]
      exact (List.append_nil _).symm
    exact ⟨hmerged, hsays⟩

/-- The grammar can take the two characters of an escaped marker apart, and the reader does not. -/
theorem parse_escaped_marker_cut :
    Writes "\\$(x".toList (literal "$" (literal "(x" nil)) [] ∧
      parse none "\\$(x".toList = .ok (literal "$(x" nil) := by
  have hdollar : WritesLiteral "\\$(x".toList ['$'] ['(', 'x'] := .one (.escaped '$' _)
  have hparen : WritesLiteral ['(', 'x'] ['(', 'x'] [] :=
    .more (.plain (by decide) (by decide) rfl) (.one (.plain (by decide) (by decide) rfl))
  have hwrites : Writes "\\$(x".toList (literal "$" (literal "(x" nil)) [] :=
    .literal hdollar (.literal hparen (.nil []))
  obtain ⟨c, hc⟩ := (parse_none_iff_writes "\\$(x".toList).1.mpr ⟨_, hwrites⟩
  obtain ⟨hmerged, -⟩ := (parse_none_iff_writes "\\$(x".toList).2 c _ hc hwrites
  refine ⟨hwrites, ?_⟩
  rw [hc, ← hmerged]
  rfl

end Command

end Subshell
