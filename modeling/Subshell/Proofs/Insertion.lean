import Subshell.Proofs.RoundTrip
/-!
# Escaped text inside another text

A text that is escaped can be put anywhere into the text of a command: it is read as a part of one
literal, and everything around it is read as if the text were another. `parse_insert` says so of
any two texts that it is put between, whatever markers they leave open or close, as long as no
backslash in front takes the text for what it escapes, and no `$` at a seam meets a parenthesis.

What is read is a `Frame`: a command with a hole in one of its literals. The proof reads the text in
front with `reading_induction` (`readsAround`). Until the hole is reached, what is read does not
depend on the text in it, and what comes behind it only sees that a literal is being read.
-/

namespace Subshell

open Command

/-! ## Frames -/

/-- A command with a hole in the text of one of its literals. -/
inductive Frame
  /-- The hole is in the literal that the command begins with, between two texts. -/
  | here (before after : Text) (rest : Command)
  /-- The hole is behind a literal. -/
  | literal (text : Text) (frame : Frame)
  /-- The hole is inside an interpolation. -/
  | inside (frame : Frame) (rest : Command)
  /-- The hole is behind an interpolation. -/
  | behind (inner : Command) (frame : Frame)

namespace Frame

/-- The command with a text in the hole. -/
def fill (text : Text) : Frame → Command
  | here before after rest => .literal (before ++ text ++ after) rest
  | literal first frame => .literal first (frame.fill text)
  | inside frame rest => .interpolation (frame.fill text) rest
  | behind inner frame => .interpolation inner (frame.fill text)

/-- The frame whose hole is in front of a command. -/
def inFrontOf : Command → Frame
  | .nil => here [] [] .nil
  | .literal first rest => here [] first rest
  | .interpolation inner rest => here [] [] (.interpolation inner rest)

/-- The frame with a text in front of it. -/
def prepend (text : Text) : Frame → Frame
  | here before after rest => here (text ++ before) after rest
  | literal first frame => literal (text ++ first) frame
  | inside frame rest => literal text (inside frame rest)
  | behind inner frame => literal text (behind inner frame)

lemma fill_inFrontOf (text : Text) (c : Command) :
    (inFrontOf c).fill text = Command.prepend text c := by
  cases c <;> simp [inFrontOf, fill, Command.prepend]

lemma fill_prepend (text first : Text) (frame : Frame) :
    (frame.prepend first).fill text = Command.prepend first (frame.fill text) := by
  cases frame <;> simp [Frame.prepend, fill, Command.prepend]

end Frame

/-! ## What can be inserted -/

/-- A text can be put between two others. It is not empty; and it does not complete a marker,
neither with a `$` in front of it that has its meaning, nor with a parenthesis behind it. -/
structure Insertable (a b text : Text) : Prop where
  ne_nil : text ≠ []
  front : (tokens a).getLast? = some (.plain '$') → text.head? ≠ some '('
  back : b.head? = some '(' → text.getLast? ≠ some '$'

/-- A text ends with a lone backslash or with a `$` that has its meaning where another one does. -/
def EndsLike (a rest : Text) : Prop :=
  ∀ token, token = .dangling ∨ token = .plain '$' →
    (tokens rest).getLast? = some token → (tokens a).getLast? = some token

lemma EndsLike.trans {a mid rest : Text} (h : EndsLike a mid) (h' : EndsLike mid rest) :
    EndsLike a rest :=
  fun token htoken hrest => h token htoken (h' token htoken hrest)

/-- The last token stays the last when another one comes first. -/
lemma endsLike_of_tokens {a rest : Text} {first : Token} (h : tokens a = first :: tokens rest) :
    EndsLike a rest := by
  intro token _ hlast
  rw [h, List.getLast?_cons, hlast]
  rfl

lemma Spelling.endsLike {a text rest : Text} (h : Spelling a text rest) : EndsLike a rest := by
  obtain ⟨first, hfirst, -⟩ | ⟨after, rfl, rfl⟩ := h.tokens_cases
  · exact endsLike_of_tokens hfirst
  · -- the parenthesis belongs to the first token, and is one of its own behind it
    intro token htoken hlast
    rw [tokens_parenthesis, List.getLast?_cons] at hlast
    rw [tokens, List.getLast?_cons]
    rcases hafter : (tokens after).getLast? with - | last
    · rw [hafter] at hlast
      cases hlast
      simp at htoken
    · rw [hafter] at hlast
      exact hlast

lemma EndsLike.insertable {a b rest text : Text} (h : EndsLike a rest)
    (ht : Insertable a b text) : Insertable rest b text :=
  ⟨ht.ne_nil, fun hrest => ht.front (h _ (.inr rfl) hrest), ht.back⟩

lemma EndsLike.not_dangling {a rest : Text} (h : EndsLike a rest)
    (ha : (tokens a).getLast? ≠ some .dangling) : (tokens rest).getLast? ≠ some .dangling :=
  fun hrest => ha (h _ (.inl rfl) hrest)

/-- A spelling is one in front of an escaped text as well. -/
lemma Spelling.insert {a b first rest text : Text} (h : Spelling a first rest)
    (ht : Insertable a b text) :
    Spelling (a ++ (escape text ++ b)) first (rest ++ (escape text ++ b)) := by
  apply h.append
  intro hdollar hhead
  have hlast : (tokens a).getLast? = some (.plain '$') := by
    rw [hdollar]
    decide
  have hopen : (text ++ b).head? = some '(' := (head?_escape_append text b).mp hhead
  rw [List.head?_append_of_ne_nil _ ht.ne_nil] at hopen
  exact ht.front hlast hopen

/-! ## Reading around the hole -/

namespace Command

/-- Whatever is read at the front of a text, an escaped text in front of it is put in front. -/
lemma front_escape_append {a b text : Text} (ht : Insertable a b text) (room : Option Nat) :
    front room (escape text ++ b) = (front room b).map (Prod.map (prepend text) id) :=
  front_of_writesLiteral
    (writesLiteral_escape ht.ne_nil fun hseam => ht.back hseam.2 hseam.1)

/-- Whatever is inserted between two texts, they are read in the same one of three ways: not at all,
or up to a closing marker in front of the hole, or as a frame with the inserted text in its hole.
Where the hole is not reached, what is left in front of it ends as all of it does. -/
def ReadsAround (room : Option Nat) (a b : Text) : Prop :=
  (∀ t, Insertable a b t → ∃ fault, front room (a ++ (escape t ++ b)) = .error fault) ∨
  (∃ c mid, mid.length ≤ a.length ∧ EndsLike a mid ∧ ∀ t, Insertable a b t →
    front room (a ++ (escape t ++ b)) = .ok (c, ')' :: (mid ++ (escape t ++ b)))) ∨
  ∃ (frame : Frame) (left : Text), ∀ t, Insertable a b t →
    front room (a ++ (escape t ++ b)) = .ok (frame.fill t, left)

/-- What is read in front of a text as a part of the same command does not change how it is read. -/
lemma ReadsAround.map {room : Option Nat} {a b rest : Text} (h : ReadsAround room rest b)
    (hlength : rest.length ≤ a.length) (hends : EndsLike a rest) (put : Command → Command)
    (frameOf : Frame → Frame) (hfill : ∀ frame t, (frameOf frame).fill t = put (frame.fill t))
    (hread : ∀ t, Insertable a b t → front room (a ++ (escape t ++ b)) =
      (front room (rest ++ (escape t ++ b))).map (Prod.map put id)) :
    ReadsAround room a b := by
  obtain hfails | ⟨c, mid, hmid, hends', hstops⟩ | ⟨frame, left, hpasses⟩ := h
  · refine .inl fun t ht => ?_
    obtain ⟨fault, hfault⟩ := hfails t (hends.insertable ht)
    exact ⟨fault, by rw [hread t ht, hfault]; rfl⟩
  · refine .inr (.inl ⟨put c, mid, Nat.le_trans hmid hlength, hends.trans hends', fun t ht => ?_⟩)
    rw [hread t ht, hstops t (hends.insertable ht)]
    rfl
  · refine .inr (.inr ⟨frameOf frame, left, fun t ht => ?_⟩)
    rw [hread t ht, hpasses t (hends.insertable ht), hfill]
    rfl

/-- Whatever is inserted between two texts of which the first does not end with a lone backslash,
they are read in the same way. -/
theorem readsAround {a : Text} (ha : (tokens a).getLast? ≠ some .dangling) (room : Option Nat)
    (b : Text) : ReadsAround room a b := by
  induction a using reading_induction generalizing room with
  | nil =>
    rcases hb : front room b with fault | ⟨c, left⟩
    · refine .inl fun t ht => ⟨fault, ?_⟩
      rw [List.nil_append, front_escape_append ht, hb]
      rfl
    · refine .inr (.inr ⟨.inFrontOf c, left, fun t ht => ?_⟩)
      rw [List.nil_append, front_escape_append ht, hb, Frame.fill_inFrontOf]
      rfl
  | closing rest =>
    have hends : EndsLike (')' :: rest) rest := endsLike_of_tokens (tokens.eq_6 rest)
    exact .inr (.inl ⟨nil, rest, Nat.le_succ _, hends, fun t _ => front_closing room _⟩)
  | dangling => exact absurd rfl ha
  | spelled s first rest hs ih =>
    have hends : EndsLike s rest := hs.endsLike
    exact (ih (hends.not_dangling ha) room).map (Nat.le_of_lt hs.length_lt) hends (prepend first)
      (Frame.prepend first) (fun frame t => Frame.fill_prepend t first frame)
      fun t ht => front_spelled room (hs.insert ht)
  | opening rest ih =>
    have hends : EndsLike ('$' :: '(' :: rest) rest := endsLike_of_tokens (tokens.eq_5 rest)
    have hread : ∀ t, front room ('$' :: '(' :: rest ++ (escape t ++ b)) = _ :=
      fun t => front_opening room (rest ++ (escape t ++ b))
    by_cases hroom : room = some 0
    · exact .inl fun t _ => ⟨_, (hread t).trans (if_pos hroom)⟩
    · simp only [if_neg hroom] at hread
      obtain hfails | ⟨inner, mid, hlength, hmid, hstops⟩ | ⟨frame, left, hpasses⟩ :=
        ih rest (Nat.le_refl _) (hends.not_dangling ha) (room.map (· - 1))
      · refine .inl fun t ht => ?_
        obtain ⟨fault, hfault⟩ := hfails t (hends.insertable ht)
        exact ⟨fault, by rw [hread, hfault]⟩
      · -- the interpolation is closed in front of the hole, and the rest is read as the whole was
        have hends' : EndsLike ('$' :: '(' :: rest) mid := hends.trans hmid
        refine (ih mid hlength (hends'.not_dangling ha) room).map ?_ hends' (interpolation inner)
          (Frame.behind inner) (fun _ _ => rfl) fun t ht => ?_
        · simp only [List.length_cons]
          omega
        · rw [hread, hstops t (hends.insertable ht)]
      · -- the hole is inside the interpolation, and what comes behind that is fixed
        rcases left with - | ⟨d, left⟩
        · exact .inl fun t ht => ⟨_, by rw [hread, hpasses t (hends.insertable ht)]⟩
        · rcases hleft : front room left with fault | ⟨after, left'⟩
          · refine .inl fun t ht => ⟨fault, ?_⟩
            rw [hread, hpasses t (hends.insertable ht)]
            dsimp only
            rw [hleft]
            rfl
          · refine .inr (.inr ⟨.inside frame after, left', fun t ht => ?_⟩)
            rw [hread, hpasses t (hends.insertable ht)]
            dsimp only
            rw [hleft]
            rfl

/-- The same for whole texts under one limit. -/
lemma parse_insert_within {a b : Text} (ha : (tokens a).getLast? ≠ some .dangling)
    (limit : Option Nat) :
    (∀ t, Insertable a b t → ∃ fault, parse limit (a ++ escape t ++ b) = .error fault) ∨
    ∃ frame : Frame, ∀ t, Insertable a b t →
      parse limit (a ++ escape t ++ b) = .ok (frame.fill t) := by
  have hparse : ∀ t, parse limit (a ++ escape t ++ b) = parse limit (a ++ (escape t ++ b)) := by
    intro t
    rw [List.append_assoc]
  obtain hfails | ⟨c, mid, -, -, hstops⟩ | ⟨frame, left, hpasses⟩ := readsAround ha limit b
  · refine .inl fun t ht => ?_
    obtain ⟨fault, hfault⟩ := hfails t ht
    exact ⟨fault, by rw [hparse, parse_eq_front, hfault]⟩
  · exact .inl fun t ht => ⟨_, by rw [hparse, parse_eq_front, hstops t ht]⟩
  · rcases left with - | ⟨d, left⟩
    · exact .inr ⟨frame, fun t ht => by rw [hparse, parse_eq_front, hpasses t ht]⟩
    · exact .inl fun t ht => ⟨_, by rw [hparse, parse_eq_front, hpasses t ht]⟩

/-- Two texts, the first of which does not end with a lone backslash, are a frame for whatever is
escaped and put between them. Under each limit, either no such text is read, or every one is read as
the frame with the inserted text in its hole. The frame depends on the two texts only, not on the
limit and not on what is inserted. -/
theorem parse_insert (a b : Text) (ha : (tokens a).getLast? ≠ some .dangling) :
    ∃ frame : Frame, ∀ limit,
      (∀ t, Insertable a b t → ∃ fault, parse limit (a ++ escape t ++ b) = .error fault) ∨
      ∀ t, Insertable a b t → parse limit (a ++ escape t ++ b) = .ok (frame.fill t) := by
  -- what is read under a limit is also read without one
  have hloose : ∀ limit t c, parse limit (a ++ escape t ++ b) = .ok c →
      parse none (a ++ escape t ++ b) = .ok c := by
    intro limit t c hc
    have hlooser : Looser limit none := fun _ h => nomatch h
    obtain ⟨rest, hdeep⟩ | hsame := parse_of_looser hlooser (a ++ escape t ++ b)
    · rw [hdeep] at hc
      cases hc
    · rw [hsame, hc]
  obtain hfails | ⟨frame, hframe⟩ := parse_insert_within (b := b) ha none
  · refine ⟨.inFrontOf nil, fun limit => .inl fun t ht => ?_⟩
    rcases hparse : parse limit (a ++ escape t ++ b) with fault | c
    · exact ⟨fault, rfl⟩
    · obtain ⟨fault, hfault⟩ := hfails t ht
      rw [hloose limit t c hparse] at hfault
      cases hfault
  · refine ⟨frame, fun limit => ?_⟩
    obtain hfails | ⟨frame', hframe'⟩ := parse_insert_within (b := b) ha limit
    · exact .inl hfails
    · refine .inr fun t ht => ?_
      have hfill : frame'.fill t = frame.fill t := by
        have hnone := hloose limit t _ (hframe' t ht)
        rw [hframe t ht] at hnone
        exact (Except.ok.inj hnone).symm
      rw [hframe' t ht, hfill]

/-- A parenthesis behind an escaped `$`, and markers and a backslash in front of a parenthesis: what
is inserted stays inside the interpolation, in the same place of it. -/
theorem parse_insert_markers :
    let a : Text := "$(say \\$"
    let b : Text := "(y)"
    (tokens a).getLast? ≠ some .dangling ∧ Insertable a b "(" ∧ Insertable a b ")$(\\" ∧
      ∃ frame : Frame, parse (some 1) (a ++ escape "(" ++ b) = .ok (frame.fill "(") ∧
        parse (some 1) (a ++ escape ")$(\\" ++ b) = .ok (frame.fill ")$(\\") := by
  intro a b
  have ha : (tokens a).getLast? ≠ some .dangling := by decide
  have hopen : Insertable a b "(" := ⟨by decide, by decide, by decide⟩
  have hmarkers : Insertable a b ")$(\\" := ⟨by decide, by decide, by decide⟩
  refine ⟨ha, hopen, hmarkers, ?_⟩
  obtain ⟨frame, hframe⟩ := parse_insert a b ha
  obtain hfails | hreads := hframe (some 1)
  · have hread : (parse (some 1) (a ++ escape "(" ++ b)).toOption =
        some (interpolation (literal "say $((y" nil) nil) := by decide +kernel
    obtain ⟨fault, hfault⟩ := hfails _ hopen
    rw [hfault] at hread
    cases hread
  · exact ⟨frame, hreads _ hopen, hreads _ hmarkers⟩

end Command

end Subshell
