import Subshell.Proofs.Balance
import Subshell.Proofs.Insertion
/-!
# One text after another

Two texts that are commands, one written after the other, are the command with the elements of both
(`read_append`): the literal that the first ends with and the literal that the second begins with
become one (`Command.Joins`), and nothing else happens at the seam. The exception is a `$` with its
meaning in front of a parenthesis. The two make a marker, and since whatever the second text opens
it also closes, this marker is the one that is not closed. Between markers, a text that is a command
is an interpolation of it.

Behind a command that ends with its text, more text is read as if it stood alone (`front_append`).
Inside an interpolation it is not reached (`front_append_closing`).
-/

namespace Subshell

/-- The first text ends with a `$` that has its meaning, and the second begins with the parenthesis
that makes it a marker. -/
def MakeMarker (a b : Text) : Prop :=
  (tokens a).getLast? = some (.plain '$') ∧ b.head? = some '('

instance (a b : Text) : Decidable (MakeMarker a b) := inferInstanceAs (Decidable (_ ∧ _))

namespace Command

/-! ## Elements in a row -/

/-- Whether the command ends with a literal. -/
def endsWithLiteral : Command → Bool
  | nil => false
  | literal _ nil => true
  | literal _ rest => rest.endsWithLiteral
  | interpolation _ rest => rest.endsWithLiteral

/-- The third command has the elements of the first and then those of the second, where the literal
that ends the first and the one that begins the second, if there are both, are put together. -/
inductive Joins : Command → Command → Command → Prop
  | merged (before : Command) (last first : Text) (after : Command) :
    Joins (before ++ literal last nil) (literal first after)
      (before ++ literal (last ++ first) after)
  | apart {c d : Command} :
    c.endsWithLiteral = false ∨ d.beginsWithLiteral = false → Joins c d (c ++ d)

/-- The elements of the first command and then those of the second, with literals put together at
the seam. -/
def attach : Command → Command → Command
  | nil, d => d
  | literal text nil, d => prepend text d
  | literal text rest, d => literal text (rest.attach d)
  | interpolation inner rest, d => interpolation inner (rest.attach d)

@[simp] lemma attach_nil (c : Command) : c.attach nil = c := by
  induction c with
  | nil => rfl
  | literal text rest ih =>
    cases rest with
    | nil => rfl
    | literal | interpolation => exact congrArg (literal text) ih
  | interpolation inner rest _ ih => exact congrArg (interpolation inner) ih

/-- A text in front of the first command is in front of both. -/
lemma prepend_attach (text : Text) (c d : Command) :
    (prepend text c).attach d = prepend text (c.attach d) := by
  cases c with
  | nil => rfl
  | literal first rest =>
    cases rest with
    | nil => exact prepend_append text first d
    | literal => rfl
    | interpolation => rfl
  | interpolation inner rest => rfl

/-- An element in front of the first command is in front of both, unless it is a literal that meets
the second. -/
lemma Joins.literal {c d whole : Command} (h : Joins c d whole) (hc : c ≠ nil) (text : Text) :
    Joins (literal text c) d (.literal text whole) := by
  cases h with
  | merged before last first after => exact .merged (.literal text before) last first after
  | apart hends =>
    have hsame : (Command.literal text c).endsWithLiteral = c.endsWithLiteral := by
      cases c with
      | nil => exact absurd rfl hc
      | literal => rfl
      | interpolation => rfl
    rw [← hsame] at hends
    exact .apart hends

lemma Joins.interpolation {c d whole : Command} (h : Joins c d whole) (inner : Command) :
    Joins (interpolation inner c) d (.interpolation inner whole) := by
  cases h with
  | merged before last first after => exact .merged (.interpolation inner before) last first after
  | apart hends => exact .apart hends

/-- Attaching a command joins it. -/
lemma joins_attach (c d : Command) : Joins c d (c.attach d) := by
  induction c with
  | nil => exact .apart (.inl rfl)
  | literal text rest ih =>
    cases rest with
    | nil =>
      cases d with
      | nil => exact .apart (.inr rfl)
      | literal first after => exact .merged nil text first after
      | interpolation inner after => exact .apart (.inr rfl)
    | literal | interpolation => exact ih.literal Command.noConfusion text
  | interpolation inner rest _ ih => exact ih.interpolation inner

/-! ## Reading on -/

variable {room : Option Nat} {a b mid : Text} {c d : Command}

/-- What is read up to a closing marker is read so whatever comes behind. -/
lemma front_append_closing (h : front room a = .ok (c, ')' :: mid)) (b : Text) :
    front room (a ++ b) = .ok (c, ')' :: (mid ++ b)) := by
  obtain ⟨before, rfl, hbefore⟩ := exists_writes (writes_of_front h)
  have hwrites : Writes (before ++ ')' :: (mid ++ b)) c (')' :: (mid ++ b)) := hbefore _ rfl
  have hread := front_of_writes hwrites (.inr ⟨_, rfl⟩) (depth_of_front h)
  rw [(normal_of_front h).merged] at hread
  rw [List.append_assoc, List.cons_append]
  exact hread

/-- What is left behind a closing marker ends as all of the text does. -/
lemma endsLike_of_front (h : front room a = .ok (c, ')' :: mid)) : EndsLike a mid := by
  induction a using reading_induction generalizing room c mid with
  | nil => rw [front_nil] at h; cases h
  | closing rest => rw [front_closing] at h; cases h; exact endsLike_of_tokens (tokens.eq_6 rest)
  | dangling => rw [front_dangling] at h; cases h
  | spelled s text rest hs ih =>
    obtain ⟨after, hafter, -⟩ := (front_spelled_eq_ok hs).mp h
    exact hs.endsLike.trans (ih hafter)
  | opening rest ih =>
    obtain ⟨-, inner, mid', after, hinner, hafter, -⟩ := front_opening_eq_ok.mp h
    have hopening : EndsLike ('$' :: '(' :: rest) rest := endsLike_of_tokens (tokens.eq_5 rest)
    have hmid : EndsLike rest mid' := ih rest (Nat.le_refl _) hinner
    exact (hopening.trans hmid).trans (ih mid' (length_of_front_closing hinner) hafter)

/-- Behind a command that ends with its text, more text is read as if it stood alone. -/
theorem front_append (h : front room a = .ok (c, [])) (hseam : ¬MakeMarker a b) :
    front room (a ++ b) = (front room b).map (Prod.map (attach c) id) := by
  induction a using reading_induction generalizing c with
  | nil =>
    rw [front_nil] at h
    cases h
    rw [List.nil_append]
    rcases front room b with fault | read <;> rfl
  | closing rest => rw [front_closing] at h; cases h
  | dangling => rw [front_dangling] at h; cases h
  | spelled s text rest hs ih =>
    obtain ⟨after, hafter, rfl⟩ := (front_spelled_eq_ok hs).mp h
    have hrest : ¬MakeMarker rest b :=
      fun hmarker => hseam ⟨hs.endsLike _ (.inr rfl) hmarker.1, hmarker.2⟩
    have hmore : Spelling (s ++ b) text (rest ++ b) := by
      apply hs.append
      intro hdollar hhead
      apply hseam
      rw [hdollar]
      exact ⟨by decide, hhead⟩
    rw [front_spelled room hmore, ih hafter hrest]
    rcases front room b with fault | ⟨d, left⟩
    · rfl
    · simp only [Except.map, Prod.map, id_eq, prepend_attach]
  | opening rest ih =>
    obtain ⟨hroom, inner, mid, after, hinner, hafter, rfl⟩ := front_opening_eq_ok.mp h
    have hends : EndsLike ('$' :: '(' :: rest) mid :=
      (endsLike_of_tokens (tokens.eq_5 rest)).trans (endsLike_of_front hinner)
    have hmid : ¬MakeMarker mid b :=
      fun hmarker => hseam ⟨hends _ (.inr rfl) hmarker.1, hmarker.2⟩
    rw [List.cons_append, List.cons_append, front_opening, if_neg hroom,
      front_append_closing hinner b]
    dsimp only
    rw [ih mid (length_of_front_closing hinner) hafter hmid]
    rcases front room b with fault | ⟨d, left⟩ <;> rfl

/-! ## A marker across the seam -/

/-- What comes last, if it is not what comes first, comes last of the others. -/
private lemma last_of_cons {first token : Token} {ts : List Token}
    (h : (first :: ts).getLast? = some token) (hne : first ≠ token) :
    ts.getLast? = some token := by
  rw [List.getLast?_cons] at h
  rcases hts : ts.getLast? with - | last
  · rw [hts] at h
    exact absurd (Option.some.inj h) hne
  · rw [hts] at h
    exact h

/-- A text that ends with a `$` that has its meaning does so behind its first spelling, unless that
is the `$` itself. -/
lemma last_dollar_of_spelling {s text rest : Text} (h : Spelling s text rest)
    (hlast : (tokens s).getLast? = some (.plain '$')) :
    s = ['$'] ∨ (tokens rest).getLast? = some (.plain '$') := by
  obtain ⟨first, hfirst, hplain⟩ | ⟨after, rfl, rfl⟩ := h.tokens_cases
  · rw [hfirst, List.getLast?_cons] at hlast
    rcases hrest : (tokens rest).getLast? with - | last
    · rw [hrest] at hlast
      have hnil : rest = [] := tokens_eq_nil_iff.mp (List.getLast?_eq_none_iff.mp hrest)
      rw [hplain '$' (Option.some.inj hlast), hnil]
      exact .inl rfl
    · rw [hrest] at hlast
      exact .inr hlast
  · rw [tokens] at hlast
    rw [tokens_parenthesis, List.getLast?_cons, last_of_cons hlast Token.noConfusion]
    exact .inr rfl

/-- So it does behind a closing marker that is in it. -/
lemma last_dollar_of_front (h : front room a = .ok (c, ')' :: mid))
    (hlast : (tokens a).getLast? = some (.plain '$')) :
    (tokens mid).getLast? = some (.plain '$') := by
  induction a using reading_induction generalizing room c mid with
  | nil => rw [front_nil] at h; cases h
  | dangling => rw [front_dangling] at h; cases h
  | closing rest =>
    rw [front_closing] at h
    cases h
    rw [tokens] at hlast
    exact last_of_cons hlast Token.noConfusion
  | spelled s text rest hs ih =>
    obtain ⟨after, hafter, -⟩ := (front_spelled_eq_ok hs).mp h
    obtain rfl | hrest := last_dollar_of_spelling hs hlast
    · -- behind the last character there is no marker
      have hnil : rest = [] := List.length_eq_zero_iff.mp (Nat.lt_one_iff.mp hs.length_lt)
      rw [hnil, front_nil] at hafter
      cases hafter
    · exact ih hafter hrest
  | opening rest ih =>
    obtain ⟨-, inner, mid', after, hinner, hafter, -⟩ := front_opening_eq_ok.mp h
    rw [tokens] at hlast
    have hrest : (tokens rest).getLast? = some (.plain '$') :=
      last_of_cons hlast Token.noConfusion
    exact ih mid' (length_of_front_closing hinner) hafter (ih rest (Nat.le_refl _) hinner hrest)

/-- Where a `$` and a parenthesis make a marker across the seam, nothing closes it. -/
theorem front_append_marker (ha : front none a = .ok (c, []))
    (hlast : (tokens a).getLast? = some (.plain '$')) (hb : front none b = .ok (d, [])) :
    front none (a ++ '(' :: b) = .error ⟨.unclosed, '$' :: '(' :: b⟩ := by
  induction a using reading_induction generalizing c with
  | nil => cases hlast
  | closing rest => rw [front_closing] at ha; cases ha
  | dangling => rw [front_dangling] at ha; cases ha
  | spelled s text rest hs ih =>
    obtain ⟨after, hafter, -⟩ := (front_spelled_eq_ok hs).mp ha
    obtain rfl | hrest := last_dollar_of_spelling hs hlast
    · show front none ('$' :: '(' :: b) = _
      rw [front_opening, if_neg (Option.some_ne_none 0).symm, Option.map_none, hb]
    · have hmore : Spelling (s ++ '(' :: b) text (rest ++ '(' :: b) := by
        apply hs.append
        intro hdollar
        have hless := hs.length_lt
        rw [hdollar] at hless
        rw [List.length_eq_zero_iff.mp (Nat.lt_one_iff.mp hless)] at hrest
        cases hrest
      exact (front_spelled_eq_error hmore).mpr (ih hafter hrest)
  | opening rest ih =>
    obtain ⟨-, inner, mid, after, hinner, hafter, -⟩ := front_opening_eq_ok.mp ha
    rw [tokens] at hlast
    have hrest : (tokens rest).getLast? = some (.plain '$') :=
      last_of_cons hlast Token.noConfusion
    rw [List.cons_append, List.cons_append, front_opening, if_neg (Option.some_ne_none 0).symm,
      front_append_closing hinner]
    dsimp only
    rw [ih mid (length_of_front_closing hinner) hafter (last_dollar_of_front hinner hrest)]
    rfl

/-! ## Whole texts -/

/-- Two texts that are commands, one after the other, are a command with the elements of both. -/
lemma parse_append (ha : parse none a = .ok c) (hb : parse none b = .ok d)
    (hseam : ¬MakeMarker a b) : parse none (a ++ b) = .ok (c.attach d) := by
  rw [parse_eq_ok] at ha hb ⊢
  rw [front_append ha hseam, hb]
  rfl

/-- If a marker lies across the seam, it is the one that is not closed. -/
lemma parse_append_marker (ha : parse none a = .ok c) (hb : parse none b = .ok d)
    (hseam : MakeMarker a b) : parse none (a ++ b) = .error ⟨.unclosed, '$' :: b⟩ := by
  obtain ⟨hlast, hhead⟩ := hseam
  obtain ⟨rest, rfl⟩ := List.head?_eq_some_iff.mp hhead
  have hparen : Spelling ('(' :: rest) ['('] rest :=
    .plain (by decide) (by decide) (by simp [opens])
  obtain ⟨after, hafter, -⟩ := (front_spelled_eq_ok hparen).mp (parse_eq_ok.mp hb)
  rw [parse_eq_front, front_append_marker (parse_eq_ok.mp ha) hlast hafter]

/-- Between markers, a text that is a command is an interpolation of the command. -/
lemma parse_between_markers (ha : parse none a = .ok c) :
    parse none ('$' :: '(' :: a ++ [')']) = .ok (interpolation c nil) := by
  have hseam : ¬MakeMarker a [')'] := by
    intro hmarker
    cases hmarker.2
  have hinner : front none (a ++ [')']) = .ok (c, [')']) := by
    rw [front_append (parse_eq_ok.mp ha) hseam, front_closing]
    simp only [Except.map, Prod.map, attach_nil, id_eq]
  rw [parse_eq_ok]
  exact front_opening_eq_ok.mpr
    ⟨(Option.some_ne_none 0).symm, c, [], nil, hinner, front_nil none, rfl⟩

end Command

/-- Of two texts that are read as commands without a limit, let the one be written after the other.
If a `$` and a parenthesis make a marker across the seam, that marker is reported as not closed.
Otherwise the two are read as a command with the elements of both, joined at the seam. And between
markers, a text that is read as a command is read as an interpolation of it. -/
theorem read_append {σ : Type} (a b : Text) (c d : Command) (r : Recorded σ) :
    let reading := fun text => (((⟨none, none⟩ : Nesting).read text).exec r).1
    reading a = .ok c →
      (reading b = .ok d →
        (MakeMarker a b →
          reading (a ++ b) = .error (finding none (a ++ b) (a.length - 1) .unclosed)) ∧
        (¬MakeMarker a b → ∃ whole, reading (a ++ b) = .ok whole ∧ c.Joins d whole)) ∧
      reading ('$' :: '(' :: a ++ [')']) = .ok (.interpolation c .nil) := by
  intro reading ha
  have hread : ∀ text command, reading text = .ok command ↔ Command.parse none text = .ok command :=
    fun text command => read_eq_ok_iff r
  rw [hread] at ha
  refine ⟨fun hb => ⟨fun hseam => ?_, fun hseam => ?_⟩, ?_⟩
  · rw [hread] at hb
    have hposition : (⟨.unclosed, '$' :: b⟩ : ParseFault).position (a ++ b) = a.length - 1 := by
      rw [ParseFault.position, List.length_append, List.length_cons]
      omega
    have hscan : scan none [] 0 (tokens (a ++ b)) = some (.unclosed, a.length - 1) :=
      scan_eq_some_iff.mpr ⟨_, Command.parse_append_marker ha hb hseam, rfl, hposition⟩
    exact read_of_scan r hscan
  · rw [hread] at hb
    refine ⟨c.attach d, ?_, Command.joins_attach c d⟩
    rw [hread]
    exact Command.parse_append ha hb hseam
  · rw [hread]
    exact Command.parse_between_markers ha

/-- A `$` and a parenthesis behind it make a marker, which is not closed. An escaped `$` does not,
and the two literals become one. -/
theorem read_append_dollar :
    let reading := fun text : Text =>
      (((⟨none, none⟩ : Nesting).read text).exec (⟨(), []⟩ : Recorded Unit)).1
    let dollar := Command.literal "x$" .nil
    let paren := Command.literal "(y" .nil
    (reading "x$" = .ok dollar ∧ reading "x\\$" = .ok dollar ∧ reading "(y" = .ok paren) ∧
      (MakeMarker "x$" "(y" ∧ reading ("x$" ++ "(y".toList) =
        .error (finding none ("x$" ++ "(y".toList) 1 .unclosed)) ∧
      ¬MakeMarker "x\\$" "(y" ∧
        ∃ whole, reading ("x\\$" ++ "(y".toList) = .ok whole ∧ dollar.Joins paren whole := by
  intro reading dollar paren
  have hread : ∀ (text : Text) (command : Command),
      Command.parse none text = .ok command → reading text = .ok command :=
    fun text command => (read_eq_ok_iff _).mpr
  have hplain : reading "x$" = .ok dollar := hread _ _ (by decide +kernel)
  have hescaped : reading "x\\$" = .ok dollar := hread _ _ (by decide +kernel)
  have hparen : reading "(y" = .ok paren := hread _ _ (by decide +kernel)
  have hmarker : MakeMarker "x$" "(y" := by decide
  have hnone : ¬MakeMarker "x\\$" "(y" := by decide
  exact ⟨⟨hplain, hescaped, hparen⟩,
    ⟨hmarker, ((read_append "x$" "(y" dollar paren _ hplain).1 hparen).1 hmarker⟩,
    hnone, ((read_append "x\\$" "(y" dollar paren _ hescaped).1 hparen).2 hnone⟩

end Subshell
