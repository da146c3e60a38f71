import Subshell.Proofs.RoundTrip
/-!
# Reading by positions

`Command.readSequence` hands on the text that it has not read yet. Here the same is read by
positions: a loop goes round from one part of a command to the next, another one from one character
of a literal to the next, and an interpolation is read by going on inside it. Nothing in these
definitions keeps an index inside the text, a loop from going round for ever, or the calls from
going on inside one another without end. This file is about a single round:

* `Advances` says that every round of a loop leads on, and `Rounds` are the rounds of a loop that
  came to an end; what follows from the two is proved for any loop.
* `unitAt_eq` and `partAt_eq` say what a round does by what is left of the text at its position.
* `advances_unitAt` and `advances_partAt`: a round of either loop moves the position on and keeps it
  within the text.
* `partAt_ne_outside`: it asks for no index outside the text.
* `partAt_eq_some` and `partAt_eq_none` tell what was read from how a round ended.
-/

namespace Subshell.Cursor

/-! ## The reading -/

/-- What keeps a reading from coming to a result. -/
inductive Halt
  /-- The text is at fault at a position. -/
  | fault (cause : ParseCause) (position : Nat)
  /-- A character is asked for at an index that the text does not have. -/
  | outside
  /-- The rounds that are allowed are used up. -/
  | unfinished
  deriving DecidableEq, Repr

/-- The character at an index. -/
def charAt (text : Text) (index : Nat) : Except Halt Char :=
  match text[index]? with
  | some c => .ok c
  | none => .error .outside

/-- Whether the marker of an interpolation stands at a position. It stands nowhere behind the end. -/
def opensAt (text : Text) (position : Nat) : Bool := opens (text.drop position)

/-- A loop that goes from a position to the next as long as there is one, in at most `rounds` rounds
with the last, which leaves it: what the rounds give, and the position where the loop is left. -/
def loop {α : Type} (body : Nat → Except Halt (Option (α × Nat))) :
    (rounds position : Nat) → Except Halt (List α × Nat)
  | 0, _ => .error .unfinished
  | rounds + 1, position =>
    match body position with
    | .error halt => .error halt
    | .ok none => .ok ([], position)
    | .ok (some (a, next)) => (loop body rounds next).map (Prod.map (a :: ·) id)

/-- One round through a literal: what an escape or a plain character stands for and the position
behind it, or nothing at the end of the text and at a marker. -/
def unitAt (text : Text) (position : Nat) : Except Halt (Option (Text × Nat)) :=
  if position < text.length then
    match charAt text position with
    | .error halt => .error halt
    | .ok c =>
      if c = '\\' then
        if text.length ≤ position + 1 then .error (.fault .dangling position)
        else if opensAt text (position + 1) then .ok (some (['$', '('], position + 3))
        else (charAt text (position + 1)).map fun d => some ([d], position + 2)
      else if opensAt text position ∨ c = ')' then .ok none
      else .ok (some ([c], position + 1))
  else .ok none

/-- The literal from a position on and the position behind it. -/
def literalAt (text : Text) (rounds position : Nat) : Except Halt (Text × Nat) :=
  (loop (unitAt text) rounds position).map (Prod.map List.flatten id)

/-- A part of a command. -/
inductive Part
  | literal (text : Text)
  | interpolation (inner : Command)
  deriving DecidableEq, Repr

/-- A part that was read, with the position where it begins and the one behind it. -/
structure Placed where
  part : Part
  start : Nat
  stop : Nat
  deriving DecidableEq, Repr

/-- A command with a part in front. -/
def Part.before : Part → Command → Command
  | literal text, rest => .literal text rest
  | interpolation inner, rest => .interpolation inner rest

/-- The command that parts make up. -/
def command (parts : List Placed) : Command :=
  parts.foldr (fun placed rest => placed.part.before rest) .nil

/-- The interpolation whose marker stands at a position, and the position behind it. The depth is
that of what is inside, which `inside` reads. -/
def interpolationAt (limit : Option Int) (text : Text)
    (inside : Nat → Int → Except Halt (List Placed × Nat)) (position : Nat) (depth : Int) :
    Except Halt (Part × Nat) :=
  if limit.any (· < depth) then .error (.fault .tooDeep position)
  else
    match inside (position + 2) depth with
    | .error halt => .error halt
    | .ok (parts, stop) =>
      if text.length ≤ stop then .error (.fault .unclosed position)
      else .ok (.interpolation (command parts), stop + 1)

/-- A part that begins at a position, placed there. -/
def placedAt (position : Nat) (read : Part × Nat) : Option (Placed × Nat) :=
  some (⟨read.1, position, read.2⟩, read.2)

/-- One round through a command: the part at a position and the position behind it, or nothing at
the end of the text and at a closing marker. -/
def partAt (limit : Option Int) (text : Text) (rounds : Nat)
    (inside : Nat → Int → Except Halt (List Placed × Nat)) (depth : Int) (position : Nat) :
    Except Halt (Option (Placed × Nat)) :=
  if position < text.length then
    if opensAt text position then
      (interpolationAt limit text inside position (depth + 1)).map (placedAt position)
    else
      match charAt text position with
      | .error halt => .error halt
      | .ok c =>
        if c = ')' then .ok none
        else ((literalAt text rounds position).map (Prod.map .literal id)).map (placedAt position)
  else .ok none

/-- The parts of the command from a position on, inside as many interpolations as `depth` says, and
the position where it ends. No loop makes more than `rounds` rounds, and no more than `rounds` calls
are under way at a time. -/
def commandAt (limit : Option Int) (text : Text) :
    (rounds position : Nat) → (depth : Int) → Except Halt (List Placed × Nat)
  | 0, _, _ => .error .unfinished
  | rounds + 1, position, depth =>
    loop (partAt limit text (rounds + 1) (commandAt limit text rounds) depth) (rounds + 1) position

/-! ## Loops -/

section Loop

variable {α β : Type}

/-- What was read is made of something that was read. -/
lemma map_eq_ok_iff {f : α → β} {read : Except Halt α} {b : β} :
    read.map f = .ok b ↔ ∃ a, read = .ok a ∧ f a = b := by
  rcases read with halt | a <;> simp [Except.map]

/-- What keeps something made of a reading from being read keeps the reading from a result. -/
lemma map_eq_error_iff {f : α → β} {read : Except Halt α} {halt : Halt} :
    read.map f = .error halt ↔ read = .error halt := by
  rcases read with halt | a <;> simp [Except.map]

variable {body : Nat → Except Halt (Option (α × Nat))} {as : List α} {position stop bound : Nat}

/-- The rounds of a loop from a position to the one where it is left. -/
inductive Rounds (body : Nat → Except Halt (Option (α × Nat))) : Nat → List α → Nat → Prop
  | leave {position : Nat} : body position = .ok none → Rounds body position [] position
  | round {position next stop : Nat} {a : α} {as : List α} :
    body position = .ok (some (a, next)) → Rounds body next as stop →
      Rounds body position (a :: as) stop

/-- Every round of a loop leads on, and not beyond a bound. -/
def Advances (body : Nat → Except Halt (Option (α × Nat))) (bound : Nat) : Prop :=
  ∀ position a next, body position = .ok (some (a, next)) → position < next ∧ next ≤ bound

/-- A loop that comes to a result has gone through its rounds. -/
lemma rounds_of_loop {rounds : Nat} (h : loop body rounds position = .ok (as, stop)) :
    Rounds body position as stop := by
  induction rounds generalizing position as with
  | zero => cases h
  | succ rounds ih =>
    rw [loop] at h
    split at h
    · cases h
    · next hleave =>
      cases h
      exact .leave hleave
    · next a next hround =>
      obtain ⟨⟨rest, last⟩, hrest, hread⟩ := map_eq_ok_iff.mp h
      cases hread
      exact .round hround (ih hrest)

/-- A loop asks for no index outside the text when no round does. -/
lemma loop_ne_outside (hbody : ∀ position, body position ≠ .error .outside) (rounds : Nat) :
    loop body rounds position ≠ .error .outside := by
  induction rounds generalizing position with
  | zero => exact fun h => by cases h
  | succ rounds ih =>
    intro h
    rw [loop] at h
    split at h
    · next halt hround =>
      cases h
      exact hbody position hround
    · cases h
    · exact ih (map_eq_error_iff.mp h)

/-- A loop goes on from a position as its rounds from there on do. -/
lemma loop_congr {body' : Nat → Except Halt (Option (α × Nat))} (hbody : Advances body bound)
    (h : ∀ start, position ≤ start → body start = body' start) (rounds : Nat) :
    loop body rounds position = loop body' rounds position := by
  induction rounds generalizing position with
  | zero => rfl
  | succ rounds ih =>
    rw [loop, loop, ← h position (Nat.le_refl _)]
    split
    · rfl
    · rfl
    · next a next hround =>
      obtain ⟨hlt, -⟩ := hbody _ _ _ hround
      rw [ih fun start hstart => h start (by omega)]

namespace Rounds

/-- Where a loop is left there is no further round. -/
lemma left (h : Rounds body position as stop) : body stop = .ok none := by
  induction h with
  | leave hleave => exact hleave
  | round _ _ ih => exact ih

/-- A loop whose rounds lead on is left no earlier than it began, and within the bound. -/
lemma bounds (hbody : Advances body bound) (h : Rounds body position as stop)
    (hposition : position ≤ bound) : position ≤ stop ∧ stop ≤ bound := by
  induction h with
  | leave => exact ⟨Nat.le_refl _, hposition⟩
  | round hround _ ih =>
    obtain ⟨hlt, hle⟩ := hbody _ _ _ hround
    obtain ⟨hnext, hstop⟩ := ih hle
    exact ⟨by omega, hstop⟩

/-- What a loop gives comes from one of its rounds. -/
lemma exists_round (hbody : Advances body bound) (h : Rounds body position as stop)
    (hposition : position ≤ bound) {a : α} (ha : a ∈ as) :
    ∃ start next, body start = .ok (some (a, next)) ∧ position ≤ start ∧ next ≤ stop := by
  induction h with
  | leave => cases ha
  | @round position next stop b rest hround hrest ih =>
    obtain ⟨hlt, hle⟩ := hbody _ _ _ hround
    obtain rfl | ha := List.mem_cons.mp ha
    · exact ⟨position, next, hround, Nat.le_refl _, (hrest.bounds hbody hle).1⟩
    · obtain ⟨start, after, hstart, hfrom, hto⟩ := ih hle ha
      exact ⟨start, after, hstart, by omega, hto⟩

end Rounds

end Loop

/-! ## What is left of the text at a position -/

variable {limit : Option Int} {text s rest : Text} {c : Char} {position stop rounds : Nat}
  {depth : Int}

lemma length_of_drop (h : text.drop position = s) : text.length - position = s.length := by
  rw [← h, List.length_drop]

lemma getElem?_of_drop (h : text.drop position = s) (i : Nat) : text[position + i]? = s[i]? := by
  rw [← h, List.getElem?_drop]

lemma drop_of_drop (h : text.drop position = s) (size : Nat) :
    text.drop (position + size) = s.drop size := by
  rw [← h, List.drop_drop]

lemma charAt_of_drop (h : text.drop position = c :: rest) : charAt text position = .ok c := by
  have hc : text[position]? = some c := getElem?_of_drop h 0
  rw [charAt, hc]

lemma opensAt_of_drop (h : text.drop position = s) : opensAt text position = opens s := by
  rw [opensAt, h]

/-- The two characters of a marker stand in the text. -/
lemma getElem?_of_opensAt (h : opensAt text position = true) :
    text[position]? = some '$' ∧ text[position + 1]? = some '(' := by
  rcases hs : text.drop position with _ | ⟨c, rest⟩
  · rw [opensAt_of_drop hs] at h
    cases h
  · rw [opensAt_of_drop hs] at h
    obtain ⟨rfl, hhead⟩ := (opens_cons c rest).mp h
    obtain ⟨after, rfl⟩ := List.head?_eq_some_iff.mp hhead
    exact ⟨getElem?_of_drop hs 0, getElem?_of_drop hs 1⟩

lemma lt_of_getElem? (h : text[position]? = some c) : position < text.length := by
  obtain ⟨hlt, -⟩ := List.getElem?_eq_some_iff.mp h
  exact hlt

/-! ## A round through a literal -/

/-- What the escape or the plain character at the front of a text stands for, and the number of its
characters; nothing at the end and at a marker. -/
def nextUnit : Text → Except ParseCause (Option (Text × Nat))
  | [] => .ok none
  | c :: rest =>
    if c = '\\' then
      match rest with
      | [] => .error .dangling
      | d :: rest => if opens (d :: rest) then .ok (some (['$', '('], 3)) else .ok (some ([d], 2))
    else if opens (c :: rest) ∨ c = ')' then .ok none
    else .ok (some ([c], 1))

lemma nextUnit_cons (hb : c ≠ '\\') :
    nextUnit (c :: rest) =
      if opens (c :: rest) = true ∨ c = ')' then .ok none else .ok (some ([c], 1)) := by
  unfold nextUnit
  exact if_neg hb

/-- A unit has characters, all of them in the text, and stands for some text. -/
lemma nextUnit_eq_some {unit : Text} {size : Nat} (h : nextUnit s = .ok (some (unit, size))) :
    unit ≠ [] ∧ 0 < size ∧ size ≤ s.length := by
  revert h
  fun_cases nextUnit s with
  | case1 => exact fun h => by cases h
  | case2 => exact fun h => by cases h
  | case3 d rest ho =>
    obtain ⟨-, hhead⟩ := (opens_cons d rest).mp ho
    obtain ⟨after, rfl⟩ := List.head?_eq_some_iff.mp hhead
    intro h
    cases h
    simp
  | case4 =>
    intro h
    cases h
    simp
  | case5 => exact fun h => by cases h
  | case6 =>
    intro h
    cases h
    simp

/-- No unit is found at the end of the text and at a marker only. -/
lemma nextUnit_eq_none (h : nextUnit s = .ok none) :
    s = [] ∨ opens s = true ∨ s.head? = some ')' := by
  revert h
  fun_cases nextUnit s with
  | case1 => exact fun _ => .inl rfl
  | case2 => exact fun h => by cases h
  | case3 => exact fun h => by cases h
  | case4 => exact fun h => by cases h
  | case5 c rest _ hmarker =>
    obtain ho | rfl := hmarker
    · exact fun _ => .inr (.inl ho)
    · exact fun _ => .inr (.inr rfl)
  | case6 => exact fun h => by cases h

/-- A round through a literal looks at what is left of the text. -/
lemma unitAt_eq (text : Text) (position : Nat) :
    unitAt text position =
      match nextUnit (text.drop position) with
      | .error cause => .error (.fault cause position)
      | .ok none => .ok none
      | .ok (some (unit, size)) => .ok (some (unit, position + size)) := by
  rcases hs : text.drop position with _ | ⟨c, rest⟩
  · have hend := List.drop_eq_nil_iff.mp hs
    rw [unitAt, if_neg (by omega)]
    rfl
  · have hlength := length_of_drop hs
    rw [List.length_cons] at hlength
    rw [unitAt, if_pos (by omega), charAt_of_drop hs, opensAt_of_drop hs]
    unfold nextUnit
    dsimp only
    split
    · -- behind a backslash, what is left at the next position decides
      have hrest : text.drop (position + 1) = rest := drop_of_drop hs 1
      rcases rest with _ | ⟨d, rest⟩
      · have hend := List.drop_eq_nil_iff.mp hrest
        rw [if_pos hend]
      · rw [List.length_cons] at hlength
        rw [if_neg (by omega), opensAt_of_drop hrest, charAt_of_drop hrest]
        dsimp only
        split <;> rfl
    · split <;> rfl

/-- A round through a literal leads on within the text, and gives some text. -/
lemma unitAt_eq_some {unit : Text} {next : Nat}
    (h : unitAt text position = .ok (some (unit, next))) :
    unit ≠ [] ∧ position < next ∧ next ≤ text.length := by
  rw [unitAt_eq] at h
  split at h
  · cases h
  · cases h
  · next unit size hunit =>
    cases h
    obtain ⟨hne, hpos, hsize⟩ := nextUnit_eq_some hunit
    rw [List.length_drop] at hsize
    exact ⟨hne, by omega, by omega⟩

lemma advances_unitAt : Advances (unitAt text) text.length := by
  intro position unit next h
  exact (unitAt_eq_some h).2

/-- A literal ends at the end of the text and at a marker only. -/
lemma unitAt_eq_none (h : unitAt text position = .ok none) :
    text.length ≤ position ∨ opensAt text position = true ∨ text[position]? = some ')' := by
  rw [unitAt_eq] at h
  split at h
  · cases h
  · next hnone =>
    obtain hnil | ho | hclosing := nextUnit_eq_none hnone
    · exact .inl (List.drop_eq_nil_iff.mp hnil)
    · exact .inr (.inl ho)
    · rw [List.head?_drop] at hclosing
      exact .inr (.inr hclosing)
  · cases h

lemma unitAt_ne_outside (text : Text) (position : Nat) :
    unitAt text position ≠ .error .outside := by
  rw [unitAt_eq]
  split <;> exact fun h => by cases h

/-! ## Literals -/

/-- A literal with a unit at its front takes some characters, gives some text and ends where there
is no further unit. -/
lemma literalAt_eq_ok {decoded : Text} (h : literalAt text rounds position = .ok (decoded, stop))
    (hunit : unitAt text position ≠ .ok none) :
    decoded ≠ [] ∧ position < stop ∧ stop ≤ text.length ∧ unitAt text stop = .ok none := by
  obtain ⟨⟨units, last⟩, hloop, hread⟩ := map_eq_ok_iff.mp h
  rw [Prod.map_apply, id_eq, Prod.mk.injEq] at hread
  obtain ⟨rfl, rfl⟩ := hread
  have hrounds := rounds_of_loop hloop
  have hleft := hrounds.left
  cases hrounds with
  | leave hleave => exact absurd hleave hunit
  | @round _ next _ unit rest hround hrest =>
    obtain ⟨hne, hlt, hle⟩ := unitAt_eq_some hround
    obtain ⟨hnext, hstop⟩ := hrest.bounds advances_unitAt hle
    refine ⟨?_, by omega, hstop, hleft⟩
    rw [List.flatten_cons]
    exact fun hnil => hne (List.append_eq_nil_iff.mp hnil).1

lemma literalAt_ne_outside (text : Text) (rounds position : Nat) :
    literalAt text rounds position ≠ .error .outside := by
  intro h
  exact loop_ne_outside (unitAt_ne_outside text) rounds (map_eq_error_iff.mp h)

/-! ## A round through a command -/

variable {inside : Nat → Int → Except Halt (List Placed × Nat)}

/-- A round through a command looks at what is left of the text. -/
lemma partAt_eq (limit : Option Int) (text : Text) (rounds : Nat)
    (inside : Nat → Int → Except Halt (List Placed × Nat)) (depth : Int) (position : Nat) :
    partAt limit text rounds inside depth position =
      match text.drop position with
      | [] => .ok none
      | c :: rest =>
        if opens (c :: rest) then
          (interpolationAt limit text inside position (depth + 1)).map (placedAt position)
        else if c = ')' then .ok none
        else ((literalAt text rounds position).map (Prod.map .literal id)).map
          (placedAt position) := by
  rcases hs : text.drop position with _ | ⟨c, rest⟩
  · have hend := List.drop_eq_nil_iff.mp hs
    rw [partAt, if_neg (by omega)]
  · have hlength := length_of_drop hs
    rw [List.length_cons] at hlength
    rw [partAt, if_pos (by omega), opensAt_of_drop hs, charAt_of_drop hs]

/-- An interpolation that was read holds what was read inside it, up to the character that it ends
with. -/
lemma interpolationAt_eq_ok {part : Part}
    (h : interpolationAt limit text inside position depth = .ok (part, stop)) :
    ∃ parts last, inside (position + 2) depth = .ok (parts, last) ∧ last < text.length ∧
      part = .interpolation (command parts) ∧ stop = last + 1 := by
  unfold interpolationAt at h
  split at h
  · cases h
  · split at h
    · cases h
    · next parts last hinside =>
      split at h
      · cases h
      · cases h
        exact ⟨parts, last, hinside, by omega, rfl, rfl⟩

/-- A part is an interpolation where a marker opens one, and a literal where there is a unit. -/
lemma partAt_eq_some {placed : Placed} {next : Nat}
    (h : partAt limit text rounds inside depth position = .ok (some (placed, next))) :
    placed.start = position ∧ placed.stop = next ∧
      ((opensAt text position = true ∧
          interpolationAt limit text inside position (depth + 1) = .ok (placed.part, next)) ∨
        (unitAt text position ≠ .ok none ∧ ∃ decoded, placed.part = .literal decoded ∧
          literalAt text rounds position = .ok (decoded, next))) := by
  rw [partAt_eq] at h
  split at h
  · cases h
  · next c rest hs =>
    split at h
    · next ho =>
      obtain ⟨read, hread, hplaced⟩ := map_eq_ok_iff.mp h
      cases hplaced
      exact ⟨rfl, rfl, .inl ⟨by rw [opensAt_of_drop hs, ho], hread⟩⟩
    · next ho =>
      split at h
      · cases h
      · next hc =>
        obtain ⟨read, hpart, hplaced⟩ := map_eq_ok_iff.mp h
        obtain ⟨⟨decoded, last⟩, hread, rfl⟩ := map_eq_ok_iff.mp hpart
        cases hplaced
        refine ⟨rfl, rfl, .inr ⟨?_, decoded, rfl, hread⟩⟩
        -- the position is in the text and at neither marker, so there is a unit
        intro hnone
        have hposition : text[position]? = some c := getElem?_of_drop hs 0
        obtain hend | hmarker | hclosing := unitAt_eq_none hnone
        · have hlt := lt_of_getElem? hposition
          omega
        · rw [opensAt_of_drop hs] at hmarker
          exact ho hmarker
        · rw [hposition] at hclosing
          exact hc (Option.some.inj hclosing)

/-- A command ends at the end of the text and at a closing marker only. -/
lemma partAt_eq_none (h : partAt limit text rounds inside depth position = .ok none) :
    text.length ≤ position ∨ text[position]? = some ')' := by
  rw [partAt_eq] at h
  split at h
  · next hs => exact .inl (List.drop_eq_nil_iff.mp hs)
  · next c rest hs =>
    split at h
    · obtain ⟨read, -, hplaced⟩ := map_eq_ok_iff.mp h
      cases hplaced
    · split at h
      · next hc =>
        rw [hc] at hs
        exact .inr (getElem?_of_drop hs 0)
      · obtain ⟨read, -, hplaced⟩ := map_eq_ok_iff.mp h
        cases hplaced

lemma interpolationAt_ne_outside
    (hinside : ∀ position depth, inside position depth ≠ .error .outside) :
    interpolationAt limit text inside position depth ≠ .error .outside := by
  intro h
  unfold interpolationAt at h
  split at h
  · cases h
  · split at h
    · next halt hread =>
      cases h
      exact hinside _ _ hread
    · split at h <;> cases h

lemma partAt_ne_outside (hinside : ∀ position depth, inside position depth ≠ .error .outside)
    (position : Nat) : partAt limit text rounds inside depth position ≠ .error .outside := by
  intro h
  rw [partAt_eq] at h
  split at h
  · cases h
  · split at h
    · exact interpolationAt_ne_outside hinside (map_eq_error_iff.mp h)
    · split at h
      · cases h
      · exact literalAt_ne_outside text rounds position
          (map_eq_error_iff.mp (map_eq_error_iff.mp h))

/-- A round through a command reads inside an interpolation behind the marker only. -/
lemma partAt_congr {inside' : Nat → Int → Except Halt (List Placed × Nat)}
    (h : opensAt text position = true →
      inside (position + 2) (depth + 1) = inside' (position + 2) (depth + 1)) :
    partAt limit text rounds inside depth position =
      partAt limit text rounds inside' depth position := by
  unfold partAt
  split
  · split
    · next hopens =>
      unfold interpolationAt
      rw [h hopens]
    · rfl
  · rfl

/-- A round through a command leads on within the text, as long as what is read inside an
interpolation does not lead back. -/
lemma advances_partAt (hinside : ∀ start depth parts stop, inside start depth = .ok (parts, stop) →
      start ≤ text.length → start ≤ stop) :
    Advances (partAt limit text rounds inside depth) text.length := by
  intro position placed next h
  obtain ⟨-, -, ⟨hopens, hread⟩ | ⟨hunit, decoded, -, hread⟩⟩ := partAt_eq_some h
  · obtain ⟨parts, last, hlast, hlt, -, rfl⟩ := interpolationAt_eq_ok hread
    have hparen := lt_of_getElem? (getElem?_of_opensAt hopens).2
    have hle := hinside _ _ _ _ hlast (by omega)
    omega
  · obtain ⟨-, hlt, hle, -⟩ := literalAt_eq_ok hread hunit
    exact ⟨hlt, hle⟩

end Subshell.Cursor
