import Subshell.Proofs.Cursor
/-!
# Progress of a reading

What `Cursor.commandAt` does as a whole, from any position of a text, at any depth and under any
limit:

* `commandAt_ne_outside`: it asks for no character outside the text;
* `commandAt_congr`: inside interpolations it reads further on only;
* `laidOut_of_commandAt` tells how the parts that it comes to lie in the text;
* `map_commandAt` is the comparison with `Command.front`. As that always comes to a result, so does
  the reading by positions, as soon as more rounds are allowed than there are characters left;
* `commandAt_advances` puts these together.
-/

namespace Subshell.Cursor

variable {limit : Option Int} {text s rest : Text} {position stop rounds : Nat} {depth : Int}
  {inside : Nat → Int → Except Halt (List Placed × Nat)} {parts : List Placed}

/-! ## From round to round -/

/-- A command ends no earlier than it begins, and within the text. -/
lemma stop_of_commandAt (h : commandAt limit text rounds position depth = .ok (parts, stop))
    (hposition : position ≤ text.length) : position ≤ stop ∧ stop ≤ text.length := by
  induction rounds generalizing position depth parts stop with
  | zero => cases h
  | succ rounds ih =>
    have hbody : Advances (partAt limit text (rounds + 1) (commandAt limit text rounds) depth)
        text.length := advances_partAt fun _ _ _ _ hread hstart => (ih hread hstart).1
    exact (rounds_of_loop h).bounds hbody hposition

/-- A command ends at the end of the text or at a closing marker. -/
lemma ends_of_commandAt (h : commandAt limit text rounds position depth = .ok (parts, stop))
    (hposition : position ≤ text.length) : stop = text.length ∨ text[stop]? = some ')' := by
  have hstop := (stop_of_commandAt h hposition).2
  cases rounds with
  | zero => cases h
  | succ rounds =>
    obtain hend | hclosing := partAt_eq_none (rounds_of_loop h).left
    · exact .inl (by omega)
    · exact .inr hclosing

/-- Each round through a command leads on within the text. -/
lemma advances_commandAt (limit : Option Int) (text : Text) (rounds calls : Nat) (depth : Int) :
    Advances (partAt limit text rounds (commandAt limit text calls) depth) text.length :=
  advances_partAt fun _ _ _ _ hread hstart => (stop_of_commandAt hread hstart).1

/-- What a command comes to depends on what is read inside interpolations further on only. -/
lemma commandAt_congr (hinside : ∀ start depth, position < start → start ≤ text.length →
      inside start depth = commandAt limit text rounds start depth) :
    commandAt limit text (rounds + 1) position depth =
      loop (partAt limit text (rounds + 1) inside depth) (rounds + 1) position := by
  apply loop_congr (advances_commandAt limit text (rounds + 1) rounds depth)
  intro start hstart
  apply partAt_congr
  intro hopens
  have hparen := lt_of_getElem? (getElem?_of_opensAt hopens).2
  exact (hinside _ _ (by omega) hparen).symm

/-- No index lies outside the text, whatever the rounds that are allowed. -/
theorem commandAt_ne_outside (limit : Option Int) (text : Text) (rounds position : Nat)
    (depth : Int) : commandAt limit text rounds position depth ≠ .error .outside := by
  induction rounds generalizing position depth with
  | zero => exact fun h => by cases h
  | succ rounds ih => exact loop_ne_outside (partAt_ne_outside ih) (rounds + 1)

/-! ## How parts lie in the text -/

/-- How the parts of a command that was read from one position to another lie in the text. -/
structure LaidOut (limit : Option Int) (text : Text) (depth : Int) (position : Nat)
    (parts : List Placed) (stop : Nat) : Prop where
  /-- The command ends no earlier than it begins, and within the text. -/
  bounds : position ≤ stop ∧ stop ≤ text.length
  /-- It ends at the end of the text or at a closing marker. -/
  ends : stop = text.length ∨ text[stop]? = some ')'
  /-- Each part takes up some characters of the command. -/
  within : ∀ placed ∈ parts,
    position ≤ placed.start ∧ placed.start < placed.stop ∧ placed.stop ≤ stop
  /-- The parts do not overlap and lie in the order in which they were read. -/
  ordered : parts.Pairwise fun a b => a.stop ≤ b.start
  /-- No literal is empty, and none comes directly after another, at any level. -/
  normal : (command parts).Normal
  /-- An interpolation takes up its two markers and what is between them, which is the command that
  is read from behind the first up to the second. -/
  marked : ∀ placed ∈ parts, ∀ inner, placed.part = .interpolation inner →
    text[placed.start]? = some '$' ∧ text[placed.start + 1]? = some '(' ∧
      ∃ last, placed.stop = last + 1 ∧ placed.start + 2 ≤ last ∧ text[last]? = some ')' ∧
        ∃ rounds parts, commandAt limit text rounds (placed.start + 2) (depth + 1) =
          .ok (parts, last) ∧ command parts = inner

lemma command_cons (placed : Placed) (parts : List Placed) :
    command (placed :: parts) = placed.part.before (command parts) := rfl

/-- The parts from a position on make a normal command when what is read inside interpolations does,
and where there is no unit it does not begin with a literal. -/
lemma normal_of_rounds (hinside : ∀ start depth parts stop, inside start depth = .ok (parts, stop) →
      (command parts).Normal)
    (h : Rounds (partAt limit text rounds inside depth) position parts stop) :
    (command parts).Normal ∧
      (unitAt text position = .ok none → (command parts).beginsWithLiteral = false) := by
  induction h with
  | leave => exact ⟨trivial, fun _ => rfl⟩
  | @round position next stop placed parts hround _ ih =>
    rw [command_cons]
    obtain ⟨-, -, ⟨-, hread⟩ | ⟨hunit, decoded, hpart, hread⟩⟩ := partAt_eq_some hround
    · obtain ⟨inner, last, hinner, -, hpart, -⟩ := interpolationAt_eq_ok hread
      rw [hpart]
      exact ⟨⟨hinside _ _ _ _ hinner, ih.1⟩, fun _ => rfl⟩
    · -- a literal goes on as long as there are units, so what follows it is no literal
      obtain ⟨hne, -, -, hnone⟩ := literalAt_eq_ok hread hunit
      rw [hpart]
      exact ⟨⟨hne, ih.2 hnone, ih.1⟩, fun h => absurd h hunit⟩

lemma normal_of_commandAt (h : commandAt limit text rounds position depth = .ok (parts, stop)) :
    (command parts).Normal := by
  induction rounds generalizing position depth parts stop with
  | zero => cases h
  | succ rounds ih =>
    exact (normal_of_rounds (fun _ _ _ _ hread => ih hread) (rounds_of_loop h)).1

/-- Parts lie in the order in which they are read and do not overlap. -/
lemma ordered_of_rounds (hbody : Advances (partAt limit text rounds inside depth) text.length)
    (h : Rounds (partAt limit text rounds inside depth) position parts stop)
    (hposition : position ≤ text.length) : parts.Pairwise fun a b => a.stop ≤ b.start := by
  induction h with
  | leave => exact .nil
  | @round position next stop placed parts hround hrest ih =>
    obtain ⟨hlt, hle⟩ := hbody _ _ _ hround
    refine .cons ?_ (ih hle)
    intro later hlater
    obtain ⟨start, after, hstart, hfrom, -⟩ := hrest.exists_round hbody hle hlater
    obtain ⟨-, hstop, -⟩ := partAt_eq_some hround
    obtain ⟨hbegin, -, -⟩ := partAt_eq_some hstart
    omega

/-- What was read by positions lies in the text as it should. -/
theorem laidOut_of_commandAt (h : commandAt limit text rounds position depth = .ok (parts, stop))
    (hposition : position ≤ text.length) : LaidOut limit text depth position parts stop := by
  have hbounds := stop_of_commandAt h hposition
  have hends := ends_of_commandAt h hposition
  have hnormal := normal_of_commandAt h
  cases rounds with
  | zero => cases h
  | succ rounds =>
    have hrounds := rounds_of_loop h
    have hbody := advances_commandAt limit text (rounds + 1) rounds depth
    refine ⟨hbounds, hends, ?_, ordered_of_rounds hbody hrounds hposition, hnormal, ?_⟩
    · intro placed hplaced
      obtain ⟨start, next, hround, hfrom, hto⟩ := hrounds.exists_round hbody hposition hplaced
      obtain ⟨hlt, -⟩ := hbody _ _ _ hround
      obtain ⟨rfl, rfl, -⟩ := partAt_eq_some hround
      exact ⟨hfrom, hlt, hto⟩
    · intro placed hplaced inner hinner
      obtain ⟨start, next, hround, -, -⟩ := hrounds.exists_round hbody hposition hplaced
      obtain ⟨rfl, rfl, ⟨hopens, hread⟩ | ⟨-, decoded, hpart, -⟩⟩ := partAt_eq_some hround
      · obtain ⟨hdollar, hparen⟩ := getElem?_of_opensAt hopens
        obtain ⟨inside, last, hinside, hlast, hpart, hstop⟩ := interpolationAt_eq_ok hread
        rw [hinner, Part.interpolation.injEq] at hpart
        have hbehind : placed.start + 2 ≤ text.length := lt_of_getElem? hparen
        have hle := (stop_of_commandAt hinside hbehind).1
        -- what is inside ends before the text does, and so at a closing marker
        obtain hend | hclosing := ends_of_commandAt hinside hbehind
        · omega
        · exact ⟨hdollar, hparen, last, hstop, hle, hclosing, rounds, inside, hinside, hpart.symm⟩
      · rw [hinner] at hpart
        cases hpart

/-! ## The same reading -/

/-- What a reading of the text that is left comes to, with positions in the whole text. -/
def inText {α : Type} (text : Text) : Except ParseFault (α × Text) → Except Halt (α × Nat)
  | .error fault => .error (.fault fault.cause (fault.position text))
  | .ok (a, left) => .ok (a, text.length - left.length)

/-- The room that a limit leaves at a depth. -/
def room (limit : Option Int) (depth : Int) : Option Nat := limit.map fun n => (n - depth).toNat

lemma inText_map {α β : Type} (f : α → β) (read : Except ParseFault (α × Text)) :
    inText text (read.map (Prod.map f id)) = (inText text read).map (Prod.map f id) := by
  rcases read with fault | ⟨a, left⟩ <;> rfl

lemma inText_ne_unfinished {α : Type} (read : Except ParseFault (α × Text)) :
    inText text read ≠ .error .unfinished := by
  rcases read with fault | ⟨a, left⟩ <;> exact fun h => by cases h

/-- The limit is exceeded inside an interpolation exactly when there is no room for one. -/
lemma any_lt_iff : limit.any (· < depth + 1) = true ↔ room limit depth = some 0 := by
  cases limit with
  | none => simp [room]
  | some n =>
    simp only [Option.any_some, decide_eq_true_eq, room, Option.map_some, Option.some.injEq]
    omega

lemma map_room_pred (limit : Option Int) (depth : Int) :
    (room limit depth).map (· - 1) = room limit (depth + 1) := by
  cases limit with
  | none => rfl
  | some n =>
    simp only [room, Option.map_some, Option.some.injEq]
    omega

/-- A reading that takes nothing ends where it begins. -/
lemma inText_ok_of_drop {α : Type} (hposition : position ≤ text.length)
    (h : text.drop position = s) (a : α) : inText text (.ok (a, s)) = .ok (a, position) := by
  have hlength := length_of_drop h
  have hstop : text.length - s.length = position := by omega
  rw [inText, hstop]

/-- A fault in what is left is one at the position. -/
lemma inText_error_of_drop {α : Type} (hposition : position ≤ text.length)
    (h : text.drop position = s) (cause : ParseCause) :
    inText (α := α) text (.error ⟨cause, s⟩) = .error (.fault cause position) := by
  have hlength := length_of_drop h
  have hstop : text.length - s.length = position := by omega
  rw [inText, ParseFault.position, hstop]

lemma suffix_of_drop (h : text.drop position = s) : s <:+ text := by
  rw [← h]
  exact List.drop_suffix position text

/-- A literal is read unit by unit. -/
lemma readLiteral_eq (s : Text) :
    Command.readLiteral s =
      match nextUnit s with
      | .error cause => .error ⟨cause, s⟩
      | .ok none => .ok ([], s)
      | .ok (some (unit, size)) =>
        (Command.readLiteral (s.drop size)).map (Prod.map (unit ++ ·) id) := by
  fun_cases Command.readLiteral s with
  | case1 => rfl
  | case2 => rfl
  | case3 => rfl
  | case4 d rest hd =>
    have ho : ¬opens (d :: rest) = true := by
      rw [opens_cons, List.head?_eq_some_iff]
      intro hmarker
      obtain ⟨hdollar, after, hrest⟩ := hmarker
      exact hd after hdollar hrest
    rw [nextUnit, if_pos rfl, if_neg ho]
    rfl
  | case5 c rest hb hm => rw [nextUnit_cons hb, if_pos hm.symm]
  | case6 c rest hb hm =>
    rw [nextUnit_cons hb, if_neg fun h => hm h.symm]
    rfl

/-- With more rounds than there are characters left, a literal is read as `Command.readLiteral`
reads it. -/
lemma literalAt_eq (hposition : position ≤ text.length)
    (hrounds : text.length - position < rounds) :
    literalAt text rounds position = inText text (Command.readLiteral (text.drop position)) := by
  induction rounds generalizing position with
  | zero => omega
  | succ rounds ih =>
    rw [literalAt, loop, unitAt_eq, readLiteral_eq]
    rcases hunit : nextUnit (text.drop position) with cause | _ | ⟨unit, size⟩
    · exact (inText_error_of_drop hposition rfl cause).symm
    · exact (inText_ok_of_drop hposition rfl []).symm
    · obtain ⟨-, hpos, hsize⟩ := nextUnit_eq_some hunit
      rw [List.length_drop] at hsize
      have hrest := @ih (position + size) (by omega) (by omega)
      rw [drop_of_drop rfl] at hrest
      dsimp only
      rw [inText_map, ← hrest, literalAt]
      rcases loop (unitAt text) rounds (position + size) with halt | ⟨units, stop⟩ <;> rfl

/-- A part in front of what was read is a part in front of the command. -/
lemma map_command_cons (placed : Placed) (read : Except Halt (List Placed × Nat)) :
    (read.map (Prod.map (placed :: ·) id)).map (Prod.map command id) =
      (read.map (Prod.map command id)).map (Prod.map placed.part.before id) := by
  rcases read with halt | read <;> rfl

/-- An interpolation is read when its command is, inside it and up to a closing marker. -/
lemma interpolationAt_eq (hs : text.drop position = '$' :: '(' :: rest)
    (hinside : (inside (position + 2) (depth + 1)).map (Prod.map command id) =
      inText text (Command.front (room limit (depth + 1)) rest)) :
    interpolationAt limit text inside position (depth + 1) =
      if room limit depth = some 0 then .error (.fault .tooDeep position)
      else
        match Command.front ((room limit depth).map (· - 1)) rest with
        | .error fault => .error (.fault fault.cause (fault.position text))
        | .ok (_, []) => .error (.fault .unclosed position)
        | .ok (inner, _ :: left) => .ok (.interpolation inner, text.length - left.length) := by
  rw [interpolationAt, map_room_pred]
  by_cases hlimit : limit.any (· < depth + 1) = true
  · rw [if_pos hlimit, if_pos (any_lt_iff.mp hlimit)]
  · rw [if_neg hlimit, if_neg fun hroom => hlimit (any_lt_iff.mpr hroom)]
    rcases hfront : Command.front (room limit (depth + 1)) rest with fault | ⟨inner, left⟩
    · rw [hfront] at hinside
      rw [map_eq_error_iff.mp hinside]
    · rw [hfront] at hinside
      obtain ⟨⟨parts, last⟩, hread, hparts⟩ := map_eq_ok_iff.mp hinside
      rw [Prod.map_apply, id_eq, Prod.mk.injEq] at hparts
      obtain ⟨rfl, rfl⟩ := hparts
      have hrest : rest <:+ text := (List.suffix_append ['$', '('] rest).trans (suffix_of_drop hs)
      have hleft := ((Command.front_suffix hfront).trans hrest).length_le
      rw [hread]
      rcases left with _ | ⟨d, left⟩
      · exact if_pos (Nat.le_refl _)
      · rw [List.length_cons] at hleft
        dsimp only [List.length_cons]
        rw [if_neg (by omega)]
        congr 2
        omega

/-- With more rounds than there are characters left, and as many calls inside interpolations, the
loop over a command reads what `Command.front` reads. -/
lemma map_loop_partAt {calls units : Nat}
    (hinside : ∀ start depth, start ≤ text.length → text.length - start < calls →
      (inside start depth).map (Prod.map command id) =
        inText text (Command.front (room limit depth) (text.drop start)))
    (hposition : position ≤ text.length) (hcalls : text.length - position ≤ calls)
    (hunits : text.length - position < units) (hrounds : text.length - position < rounds) :
    (loop (partAt limit text units inside depth) rounds position).map (Prod.map command id) =
      inText text (Command.front (room limit depth) (text.drop position)) := by
  induction rounds generalizing position with
  | zero => omega
  | succ rounds ih =>
    have hliteral := literalAt_eq hposition hunits
    generalize hs : text.drop position = s at hliteral ⊢
    have hlength := length_of_drop hs
    -- where a part was read, the loop goes on behind it with what is left there
    have hnext : ∀ (placed : Placed) (left : Text), left <:+ s → left.length < s.length →
        ((loop (partAt limit text units inside depth) rounds (text.length - left.length)).map
          (Prod.map (placed :: ·) id)).map (Prod.map command id) =
        inText text ((Command.front (room limit depth) left).map
          (Prod.map placed.part.before id)) := by
      intro placed left hleft hshort
      have hsuffix : left <:+ text := hleft.trans (suffix_of_drop hs)
      have hle := hsuffix.length_le
      have hrest := @ih (text.length - left.length) (by omega) (by omega) (by omega) (by omega)
      rw [← List.suffix_iff_eq_drop.mp hsuffix] at hrest
      rw [map_command_cons, inText_map, hrest]
    rw [loop, partAt_eq, hs]
    cases begins s with
    | nil =>
      rw [Command.front_nil, inText_ok_of_drop hposition hs]
      rfl
    | closing rest =>
      rw [Command.front_closing, inText_ok_of_drop hposition hs]
      rfl
    | dangling =>
      rw [hliteral, Command.front_dangling]
      rfl
    | spelled h =>
      rw [Command.front_literal _ h]
      obtain ⟨c, after, rfl, hc, ho⟩ := h.exists_cons
      dsimp only
      rw [ho, if_neg Bool.false_ne_true, if_neg hc, hliteral]
      rcases hread : Command.readLiteral (c :: after) with fault | ⟨decoded, left⟩
      · rfl
      · have hshort := Command.length_of_readLiteral_cons hread (by simp [hc, ho])
        exact hnext ⟨.literal decoded, position, _⟩ left (Command.readLiteral_suffix hread) hshort
    | opening rest =>
      have hrest : text.drop (position + 2) = rest := drop_of_drop hs 2
      rw [List.length_cons, List.length_cons] at hlength
      have hread := hinside (position + 2) (depth + 1) (by omega) (by omega)
      rw [hrest] at hread
      have ho : opens ('$' :: '(' :: rest) = true := rfl
      dsimp only
      rw [if_pos ho, interpolationAt_eq hs hread, Command.front_opening]
      by_cases hroom : room limit depth = some 0
      · rw [if_pos hroom, if_pos hroom, inText_error_of_drop hposition hs]
        rfl
      · rw [if_neg hroom, if_neg hroom]
        rcases hfront : Command.front ((room limit depth).map (· - 1)) rest with
          fault | ⟨inner, _ | ⟨d, left⟩⟩
        · rfl
        · exact (inText_error_of_drop hposition hs .unclosed).symm
        · have hsuffix := Command.front_suffix hfront
          have hleft : left <:+ '$' :: '(' :: rest :=
            ((List.suffix_cons d left).trans hsuffix).trans (List.suffix_append ['$', '('] rest)
          have hle := hsuffix.length_le
          rw [List.length_cons] at hle
          exact hnext ⟨.interpolation inner, position, _⟩ left hleft
            (by simp only [List.length_cons]; omega)

/-- As soon as more rounds are allowed than there are characters left, a command is read as
`Command.front` reads it. -/
theorem map_commandAt (limit : Option Int) (depth : Int) (hposition : position ≤ text.length)
    (hrounds : text.length - position < rounds) :
    (commandAt limit text rounds position depth).map (Prod.map command id) =
      inText text (Command.front (room limit depth) (text.drop position)) := by
  induction rounds generalizing position depth with
  | zero => omega
  | succ rounds ih =>
    exact map_loop_partAt (fun _ depth hstart hless => ih depth hstart hless) hposition
      (by omega) hrounds hrounds

/-! ## Progress -/

/-- From any position of the text, at any depth and under any limit, a reading comes to an end in
one more round than there are characters left, with what `Command.front` reads there. It never asks
for a character outside the text, every round of its loops leads on within the text, inside
interpolations it reads further on only, and the parts that it comes to lie in the text one behind
the other. -/
theorem commandAt_advances (limit : Option Int) (text : Text) (position : Nat) (depth : Int)
    (h : position ≤ text.length) :
    (∀ rounds, text.length - position < rounds →
      commandAt limit text rounds position depth ≠ .error .unfinished ∧
        (commandAt limit text rounds position depth).map (Prod.map command id) =
          inText text (Command.front (room limit depth) (text.drop position))) ∧
    ∀ rounds,
      commandAt limit text rounds position depth ≠ .error .outside ∧
      (∀ parts stop, commandAt limit text rounds position depth = .ok (parts, stop) →
        LaidOut limit text depth position parts stop) ∧
      Advances (partAt limit text (rounds + 1) (commandAt limit text rounds) depth) text.length ∧
      Advances (unitAt text) text.length ∧
      ∀ inside, (∀ start depth, position < start → start ≤ text.length →
          inside start depth = commandAt limit text rounds start depth) →
        commandAt limit text (rounds + 1) position depth =
          loop (partAt limit text (rounds + 1) inside depth) (rounds + 1) position := by
  constructor
  · intro rounds hrounds
    have hread := map_commandAt limit depth h hrounds
    refine ⟨?_, hread⟩
    intro hunfinished
    rw [hunfinished] at hread
    exact inText_ne_unfinished _ hread.symm
  · intro rounds
    exact ⟨commandAt_ne_outside limit text rounds position depth,
      fun parts stop hread => laidOut_of_commandAt hread h,
      advances_commandAt limit text (rounds + 1) rounds depth, advances_unitAt,
      fun _ hinside => commandAt_congr hinside⟩

/-- At depth three under a limit of five, a command with an interpolation in an interpolation is
read from the second character on, up to the closing marker that closes neither of them. -/
theorem commandAt_advances_nested :
    let text : Text := "x$(a$(\\))b)y)$("
    let inner : Command := .literal "a" (.interpolation (.literal ")" .nil) (.literal "b" .nil))
    let parts : List Placed := [⟨.interpolation inner, 1, 11⟩, ⟨.literal "y", 11, 12⟩]
    1 ≤ text.length ∧ text.length - 1 < 15 ∧
      commandAt (some 5) text 15 1 3 = .ok (parts, 12) ∧ LaidOut (some 5) text 3 1 parts 12 ∧
      inText text (Command.front (some 2) (text.drop 1)) = .ok (command parts, 12) := by
  intro text inner parts
  have hposition : 1 ≤ text.length := by decide
  have hrounds : text.length - 1 < 15 := by decide
  have hread : commandAt (some 5) text 15 1 3 = .ok (parts, 12) := rfl
  obtain ⟨hends, hall⟩ := commandAt_advances (some 5) text 1 3 hposition
  have hfront := (hends 15 hrounds).2
  rw [hread] at hfront
  exact ⟨hposition, hrounds, hread, (hall 15).2.1 parts 12 hread, hfront.symm⟩

end Subshell.Cursor
