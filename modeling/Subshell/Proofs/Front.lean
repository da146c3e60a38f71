import Subshell.Proofs.Token
/-!
# The command at the front of a text

`front` is `Command.readSequence` without the proof that it carries along, and this file says what
it does in each of the ways in which a text can begin:

* at the end of the text and at a closing marker it stops (`front_nil`, `front_closing`);
* a spelling puts its text in front of what comes after it (`front_spelled`), whether or not a
  literal is being read already;
* an opening marker is read up to its closing marker, and the reading goes on behind it
  (`front_opening`, `front_opening_eq_ok`).

Facts about the reader are proved by `reading_induction` from these equations. One of them is that
more room changes nothing but what there was too little room for (`parse_of_looser`).
-/

namespace Subshell

/-- Induction on what remains to be read. The text of an interpolation and the text behind it are
both shorter than the text that begins with its marker. -/
theorem reading_induction {motive : Text → Prop} (nil : motive [])
    (closing : ∀ rest, motive (')' :: rest)) (dangling : motive ['\\'])
    (spelled : ∀ s text rest, Spelling s text rest → motive rest → motive s)
    (opening : ∀ rest, (∀ left : Text, left.length ≤ rest.length → motive left) →
      motive ('$' :: '(' :: rest)) (s : Text) : motive s := by
  induction hn : s.length using Nat.strongRecOn generalizing s with
  | ind n ih =>
    subst hn
    cases begins s with
    | nil => exact nil
    | closing rest => exact closing rest
    | dangling => exact dangling
    | spelled h => exact spelled s _ _ h (ih _ h.length_lt _ rfl)
    | opening rest =>
      refine opening rest fun left hleft => ih left.length ?_ left rfl
      simp only [List.length_cons]
      omega

namespace Command

/-! ## Texts in front of commands -/

/-- The command with a text in front of it, which becomes a part of the literal that the command
begins with, if it begins with one. -/
def prepend (text : Text) : Command → Command
  | nil => literal text nil
  | literal first rest => literal (text ++ first) rest
  | interpolation inner rest => literal text (interpolation inner rest)

/-- Putting two texts in front one after the other is putting both in front at once. -/
lemma prepend_append (text more : Text) (c : Command) :
    prepend (text ++ more) c = prepend text (prepend more c) := by
  cases c with
  | nil => rfl
  | literal first rest => simp only [prepend, List.append_assoc]
  | interpolation inner rest => rfl

/-- A text in front of a command has no interpolations of its own. -/
lemma depth_prepend (text : Text) (c : Command) : (prepend text c).depth = c.depth := by
  cases c <;> rfl

/-! ## Literals -/

/-- A literal ends where a marker begins. -/
lemma readLiteral_marker {c : Char} {rest : Text} (h : c = ')' ∨ opens (c :: rest) = true) :
    readLiteral (c :: rest) = .ok ([], c :: rest) := by
  have hb : c ≠ '\\' := by
    intro hb
    rw [opens_cons, hb] at h
    simp at h
  unfold readLiteral
  rw [if_neg hb, if_pos h]

/-- A character without a meaning of its own is read as it is. -/
lemma readLiteral_plain {c : Char} {rest : Text} (hb : c ≠ '\\') (hc : c ≠ ')')
    (ho : opens (c :: rest) = false) :
    readLiteral (c :: rest) = (readLiteral rest).map (Prod.map ([c] ++ ·) id) := by
  have hstays : ¬(c = ')' ∨ opens (c :: rest) = true) := by
    intro h
    rw [ho] at h
    simp [hc] at h
  rw [readLiteral.eq_def]
  show (if c = '\\' then _ else if c = ')' ∨ opens (c :: rest) = true then _ else _) = _
  rw [if_neg hb, if_neg hstays]
  rfl

/-- A spelling is read as its text. -/
lemma readLiteral_spelled {s text rest : Text} (h : Spelling s text rest) :
    readLiteral s = (readLiteral rest).map (Prod.map (text ++ ·) id) := by
  cases h with
  | marker => rw [readLiteral.eq_3, if_pos rfl]; rfl
  | plain hb hc ho => exact readLiteral_plain hb hc ho
  | escaped c =>
    by_cases ho : opens (c :: rest) = true
    · -- the backslash takes the whole marker here, whose parenthesis is plain by itself
      obtain ⟨rfl, hrest⟩ := (opens_cons c rest).mp ho
      obtain ⟨after, rfl⟩ := List.head?_eq_some_iff.mp hrest
      rw [readLiteral.eq_3, if_pos rfl, readLiteral_plain (by decide) (by decide) (by simp [opens])]
      rcases readLiteral after with fault | read <;> rfl
    · rw [opens_cons, List.head?_eq_some_iff] at ho
      rw [readLiteral.eq_4 _ _ _ fun after hc hrest => ho ⟨hc, after, hrest⟩, if_pos rfl]
      rfl

/-- What follows a literal is the end of the text. -/
lemma readLiteral_suffix {s text left : Text} (h : readLiteral s = .ok (text, left)) :
    left <:+ s := by
  induction s using reading_induction generalizing text left with
  | nil => cases h; exact List.suffix_refl _
  | closing rest => rw [readLiteral_marker (.inl rfl)] at h; cases h; exact List.suffix_refl _
  | dangling => cases h
  | spelled s first rest hs ih =>
    rw [readLiteral_spelled hs] at h
    obtain ⟨_, hrest⟩ := eq_ok_of_map_eq_ok (first ++ ·) h
    exact (ih hrest).trans hs.suffix
  | opening rest => rw [readLiteral_marker (.inr rfl)] at h; cases h; exact List.suffix_refl _

/-! ## The equations of the reader -/

/-- The command at the front of a text, with room for interpolations `room` deep, and the text
after it. -/
def front (room : Option Nat) (s : Text) : Except ParseFault (Command × Text) :=
  (readSequence room s).map fun read => (read.1, read.2.1)

/-- A text writes the command at its front if nothing comes after that. -/
lemma parse_eq_front (limit : Option Nat) (text : Text) :
    parse limit text =
      match front limit text with
      | .error fault => .error fault
      | .ok (command, []) => .ok command
      | .ok (_, left) => .error ⟨.stray, left⟩ := by
  unfold parse front
  rcases readSequence limit text with fault | ⟨command, _ | ⟨c, left⟩, hleft⟩ <;> rfl

variable (room : Option Nat)

lemma front_nil : front room [] = .ok (nil, []) := by
  unfold front
  rw [readSequence]
  rfl

lemma front_closing (rest : Text) : front room (')' :: rest) = .ok (nil, ')' :: rest) := by
  unfold front
  rw [readSequence, dif_pos rfl]
  rfl

lemma front_opening (rest : Text) :
    front room ('$' :: '(' :: rest) =
      if room = some 0 then .error ⟨.tooDeep, '$' :: '(' :: rest⟩
      else
        match front (room.map (· - 1)) rest with
        | .error fault => .error fault
        | .ok (_, []) => .error ⟨.unclosed, '$' :: '(' :: rest⟩
        | .ok (inner, _ :: left) => (front room left).map (Prod.map (interpolation inner) id) := by
  have hdollar : '$' ≠ ')' := by decide
  have ho : opens ('$' :: '(' :: rest) = true := rfl
  unfold front
  rw [readSequence, dif_neg hdollar, dif_pos ho]
  split
  · rfl
  · -- the reader hands on proofs about lengths, which do not matter for what is left
    simp only [List.tail_cons]
    rcases readSequence (room.map (· - 1)) rest with fault | ⟨inner, _ | ⟨d, left⟩, hleft⟩
    · rfl
    · rfl
    · dsimp only [Except.map]
      rcases readSequence room left with fault | ⟨after, left', hleft'⟩ <;> rfl

/-- Where a spelling stands, a literal is read. -/
lemma front_literal {s first rest : Text} (h : Spelling s first rest) :
    front room s =
      match readLiteral s with
      | .error fault => .error fault
      | .ok (text, left) => (front room left).map (Prod.map (literal text) id) := by
  obtain ⟨c, after, rfl, hc, ho⟩ := h.exists_cons
  have ho' : ¬opens (c :: after) = true := by
    rw [ho]
    exact Bool.false_ne_true
  unfold front
  rw [readSequence, dif_neg hc, dif_neg ho']
  split
  · next h => simp only [h]; rfl
  · next text left h =>
    simp only [h]
    rcases readSequence room left with fault | ⟨after, left', hleft'⟩ <;> rfl

lemma front_dangling : front room ['\\'] = .error ⟨.dangling, ['\\']⟩ := by
  unfold front
  rw [readSequence, dif_neg (by decide), dif_neg (by decide)]
  rfl

/-- A spelling puts its text in front of the command that comes after it. -/
theorem front_spelled {s text rest : Text} (h : Spelling s text rest) :
    front room s = (front room rest).map (Prod.map (prepend text) id) := by
  rw [front_literal room h, readLiteral_spelled h]
  cases begins rest with
  | nil => rw [readLiteral, Except.map, front_nil]; simp [Except.map, prepend, front_nil]
  | closing rest =>
    rw [readLiteral_marker (Or.inl rfl)]
    simp [Except.map, prepend, front_closing]
  | dangling => rw [front_dangling]; rfl
  | opening rest =>
    rw [readLiteral_marker (Or.inr rfl)]
    simp only [Except.map, Prod.map, List.append_nil, id_eq]
    -- what is read at an opening marker does not begin with a literal
    rw [front_opening]
    by_cases hroom : room = some 0
    · rw [if_pos hroom]
    · rw [if_neg hroom]
      rcases front (room.map (· - 1)) rest with fault | ⟨inner, _ | ⟨d, left⟩⟩
      · rfl
      · rfl
      · dsimp only
        rcases front room left with fault | read <;> rfl
  | spelled hrest =>
    rw [front_literal room hrest]
    rcases readLiteral rest with fault | ⟨more, left⟩
    · rfl
    · simp only [Except.map, Prod.map, id_eq]
      rcases front room left with fault | read <;> rfl

/-! ## What a reading consists of -/

variable {room : Option Nat} {s rest left : Text} {c : Command} {fault : ParseFault}

/-- A command is read at a spelling when one is read behind it. -/
lemma front_spelled_eq_ok {text : Text} (h : Spelling s text rest) :
    front room s = .ok (c, left) ↔
      ∃ after, front room rest = .ok (after, left) ∧ c = prepend text after := by
  rw [front_spelled room h]
  rcases front room rest with fault | ⟨after, left'⟩
  · simp [Except.map]
  · simp only [Except.map, Prod.map, id_eq, Except.ok.injEq, Prod.mk.injEq]
    constructor
    · intro hread
      exact ⟨after, ⟨rfl, hread.2⟩, hread.1.symm⟩
    · intro hread
      obtain ⟨_, ⟨rfl, hleft⟩, hc⟩ := hread
      exact ⟨hc.symm, hleft⟩

/-- What keeps a command from being read behind a spelling keeps it from being read at it. -/
lemma front_spelled_eq_error {text : Text} (h : Spelling s text rest) :
    front room s = .error fault ↔ front room rest = .error fault := by
  rw [front_spelled room h]
  rcases front room rest with fault' | read <;> simp [Except.map]

/-- An interpolation is read when there is room for it, a command is read inside it, and another
one behind the character that the inner one stops at. -/
private lemma exists_of_front_opening (h : front room ('$' :: '(' :: rest) = .ok (c, left)) :
    room ≠ some 0 ∧ ∃ inner d mid after, front (room.map (· - 1)) rest = .ok (inner, d :: mid) ∧
      front room mid = .ok (after, left) ∧ c = interpolation inner after := by
  rw [front_opening] at h
  by_cases hroom : room = some 0
  · rw [if_pos hroom] at h
    cases h
  · rw [if_neg hroom] at h
    refine ⟨hroom, ?_⟩
    split at h
    · cases h
    · cases h
    · next inner d mid hinner =>
      rcases hmid : front room mid with fault | ⟨after, left'⟩
      · rw [hmid] at h
        cases h
      · rw [hmid] at h
        cases h
        exact ⟨inner, d, mid, after, hinner, hmid, rfl⟩

/-- What follows the command at the front of a text is the end of the text. -/
theorem front_suffix (h : front room s = .ok (c, left)) : left <:+ s := by
  induction s using reading_induction generalizing room c left with
  | nil => rw [front_nil] at h; cases h; exact List.suffix_refl _
  | closing rest => rw [front_closing] at h; cases h; exact List.suffix_refl _
  | dangling => rw [front_dangling] at h; cases h
  | spelled s text rest hs ih =>
    obtain ⟨after, h, -⟩ := (front_spelled_eq_ok hs).mp h
    exact (ih h).trans hs.suffix
  | opening rest ih =>
    obtain ⟨-, inner, d, mid, after, hinner, hafter, -⟩ := exists_of_front_opening h
    -- the induction is on length, since the text behind the interpolation is known by suffix only
    have hmid : mid <:+ rest := (List.suffix_cons d mid).trans (ih rest (Nat.le_refl _) hinner)
    have hopening : rest <:+ '$' :: '(' :: rest := ⟨['$', '('], rfl⟩
    exact ((ih mid hmid.length_le hafter).trans hmid).trans hopening

/-- A reading stops at the end of the text or at a closing marker. -/
theorem front_stops (h : front room s = .ok (c, left)) :
    left = [] ∨ ∃ after, left = ')' :: after := by
  induction s using reading_induction generalizing room c left with
  | nil => rw [front_nil] at h; cases h; exact .inl rfl
  | closing rest => rw [front_closing] at h; cases h; exact .inr ⟨rest, rfl⟩
  | dangling => rw [front_dangling] at h; cases h
  | spelled s text rest hs ih =>
    obtain ⟨after, h, -⟩ := (front_spelled_eq_ok hs).mp h
    exact ih h
  | opening rest ih =>
    obtain ⟨-, inner, d, mid, after, hinner, hafter, -⟩ := exists_of_front_opening h
    have hmid : mid <:+ rest := (List.suffix_cons d mid).trans (front_suffix hinner)
    exact ih mid hmid.length_le hafter

/-- An interpolation is read when there is room for it, a command is read inside it up to a closing
marker, and another one behind that marker. -/
theorem front_opening_eq_ok :
    front room ('$' :: '(' :: rest) = .ok (c, left) ↔
      room ≠ some 0 ∧ ∃ inner mid after, front (room.map (· - 1)) rest = .ok (inner, ')' :: mid) ∧
        front room mid = .ok (after, left) ∧ c = interpolation inner after := by
  constructor
  · intro h
    obtain ⟨hroom, inner, d, mid, after, hinner, hafter, hc⟩ := exists_of_front_opening h
    obtain hnil | ⟨mid', hcons⟩ := front_stops hinner
    · cases hnil
    · cases hcons
      exact ⟨hroom, inner, mid, after, hinner, hafter, hc⟩
  · intro h
    obtain ⟨hroom, inner, mid, after, hinner, hafter, hc⟩ := h
    rw [front_opening, if_neg hroom, hinner]
    dsimp only
    rw [hafter, hc]
    rfl

/-- The text behind an interpolation is shorter than the text that begins inside it. -/
lemma length_of_front_closing {mid : Text} (h : front room rest = .ok (c, ')' :: mid)) :
    mid.length ≤ rest.length := by
  have hle : (')' :: mid).length ≤ rest.length := (front_suffix h).length_le
  rw [List.length_cons] at hle
  omega

/-- When an interpolation is not read, there is no room for it, or something is wrong inside it, or
the text ends inside it, or something is wrong behind it. -/
theorem cases_of_front_opening (h : front room ('$' :: '(' :: rest) = .error fault) :
    (room = some 0 ∧ fault = ⟨.tooDeep, '$' :: '(' :: rest⟩) ∨
    (room ≠ some 0 ∧ (front (room.map (· - 1)) rest = .error fault ∨
      (∃ inner, front (room.map (· - 1)) rest = .ok (inner, []) ∧
        fault = ⟨.unclosed, '$' :: '(' :: rest⟩) ∨
      ∃ inner mid, front (room.map (· - 1)) rest = .ok (inner, ')' :: mid) ∧
        front room mid = .error fault)) := by
  rw [front_opening] at h
  by_cases hroom : room = some 0
  · rw [if_pos hroom] at h
    cases h
    exact .inl ⟨hroom, rfl⟩
  · rw [if_neg hroom] at h
    refine .inr ⟨hroom, ?_⟩
    split at h
    · next hinner => cases h; exact .inl hinner
    · next inner hinner => cases h; exact .inr (.inl ⟨inner, hinner, rfl⟩)
    · next inner d mid hinner =>
      obtain hnil | ⟨mid', hcons⟩ := front_stops hinner
      · cases hnil
      · cases hcons
        rcases hafter : front room mid with fault' | read
        · rw [hafter] at h
          cases h
          exact .inr (.inr ⟨inner, mid, hinner, hafter⟩)
        · rw [hafter] at h
          cases h

end Command

/-! ## More room -/

/-- The second limit is none at all, or it is no smaller than the first. -/
def Looser (limit loose : Option Nat) : Prop := ∀ n ∈ loose, ∃ m ∈ limit, m ≤ n

lemma Looser.refl (limit : Option Nat) : Looser limit limit := fun n hn => ⟨n, hn, Nat.le_refl n⟩

/-- What is left of a looser limit inside an interpolation is looser still. -/
lemma Looser.pred {limit loose : Option Nat} (h : Looser limit loose) :
    Looser (limit.map (· - 1)) (loose.map (· - 1)) := by
  intro n hn
  obtain ⟨n', hn', rfl⟩ := Option.map_eq_some_iff.mp hn
  obtain ⟨m, hm, hle⟩ := h n' hn'
  exact ⟨m - 1, Option.map_eq_some_iff.mpr ⟨m, hm, rfl⟩, Nat.sub_le_sub_right hle 1⟩

namespace Command

/-- A command that is not too deep is read in more room as in less, and so is what is wrong with a
text otherwise. -/
theorem front_of_looser {room loose : Option Nat} (h : Looser room loose) (s : Text) :
    (∃ rest, front room s = .error ⟨.tooDeep, rest⟩) ∨ front loose s = front room s := by
  induction s using reading_induction generalizing room loose with
  | nil => rw [front_nil, front_nil]; exact .inr rfl
  | closing rest => rw [front_closing, front_closing]; exact .inr rfl
  | dangling => rw [front_dangling, front_dangling]; exact .inr rfl
  | spelled s text rest hs ih =>
    rw [front_spelled room hs, front_spelled loose hs]
    obtain ⟨left, hdeep⟩ | hsame := ih h
    · rw [hdeep]
      exact .inl ⟨left, rfl⟩
    · rw [hsame]
      exact .inr rfl
  | opening rest ih =>
    rw [front_opening, front_opening]
    by_cases hroom : room = some 0
    · rw [if_pos hroom]
      exact .inl ⟨_, rfl⟩
    · have hloose : loose ≠ some 0 := by
        intro hzero
        obtain ⟨m, hm, hle⟩ := h 0 hzero
        rw [Nat.le_zero.mp hle] at hm
        exact hroom hm
      rw [if_neg hroom, if_neg hloose]
      obtain ⟨left, hdeep⟩ | hsame := ih rest (Nat.le_refl _) h.pred
      · rw [hdeep]
        exact .inl ⟨left, rfl⟩
      · rw [hsame]
        rcases hinner : front (room.map (· - 1)) rest with fault | ⟨inner, _ | ⟨d, left⟩⟩
        · exact .inr rfl
        · exact .inr rfl
        · -- what stopped the inner command is its closing marker
          have hd : front (room.map (· - 1)) rest = .ok (inner, ')' :: left) := by
            obtain hnil | ⟨after, hcons⟩ := front_stops hinner
            · cases hnil
            · cases hcons
              exact hinner
          dsimp only
          obtain ⟨left', hdeep⟩ | hsame' := ih left (length_of_front_closing hd) h
          · rw [hdeep]
            exact .inl ⟨left', rfl⟩
          · rw [hsame']
            exact .inr rfl

/-- The same for whole texts. -/
theorem parse_of_looser {limit loose : Option Nat} (h : Looser limit loose) (text : Text) :
    (∃ rest, parse limit text = .error ⟨.tooDeep, rest⟩) ∨ parse loose text = parse limit text := by
  rw [parse_eq_front, parse_eq_front]
  obtain ⟨rest, hdeep⟩ | hsame := front_of_looser h text
  · rw [hdeep]
    exact .inl ⟨rest, rfl⟩
  · rw [hsame]
    exact .inr rfl

end Command

end Subshell
