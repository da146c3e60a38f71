import Subshell.Proofs.Comparison
import Subshell.Proofs.RoundTrip
import Subshell.Proofs.Strip
import Subshell.Proofs.Wrapping
/-!
# Nested interpolations as composition

An interpolation inside another is one command applied to the result of another. `nestText` writes
words so that each stands in front of an interpolation of the next, and the last in front of a text,
escaped; `composed` runs the last word in front of the text, the word before it in front of the
result, and so on. Where no command fails, the shell makes the same of the former as the latter
comes to, with the same commands invoked on the way (`handle_nest`).

The two runs are compared side by side (`Engine.Likeness`) from records that are the same but for
the log and for what lies further back, where only one of them is inside an invocation of the shell
(`Recorded.SameSince`).
-/

namespace Subshell

variable {ι σ : Type}

/-! ## Nests -/

/-- A word that means the same wherever it stands in a command. -/
structure IsPlainWord (word : Text) : Prop where
  ne_nil : word ≠ []
  not_blank : ∀ c ∈ word, isBlank c = false
  not_mark : ∀ c ∈ word, c ≠ '\\' ∧ c ≠ '$' ∧ c ≠ '(' ∧ c ≠ ')'

/-- The text in which each word stands in front of an interpolation of the next, and the last in
front of an escaped text. -/
def nestText (word : Text) : List Text → Text → Text
  | [], text => word ++ ' ' :: escape text
  | next :: words, text => word ++ ' ' :: '$' :: '(' :: nestText next words text ++ [')']

/-- The command that is written so. -/
def Command.nest (word : Text) : List Text → Text → Command
  | [], text => literal (word ++ ' ' :: text) nil
  | next :: words, text => literal (word ++ [' ']) (interpolation (nest next words text) nil)

/-- What comes of a text when the last word is run in front of it, the word before that in front of
the result, and so on to the first. -/
def composed {m : Type → Type} [Monad m] (run : Text → m Text) : List Text → Text → m Text
  | [], text => return text
  | word :: words, text => do
    let inner ← composed run words text
    run (word ++ ' ' :: inner)

/-- A word is not changed by escaping. -/
lemma IsPlainWord.escape_append {word : Text} (h : IsPlainWord word) (text : Text) :
    escape (word ++ ' ' :: text) = word ++ ' ' :: escape text := by
  have hmarks := h.not_mark
  clear h
  induction word with
  | nil => exact escape_cons_of_isBlank isBlank_space text
  | cons c word ih =>
    obtain ⟨hb, hdollar, -, hc⟩ := hmarks c List.mem_cons_self
    have ho : opens (c :: (word ++ ' ' :: text)) = false := by
      rw [opens_cons_eq_false]
      exact fun hmarker => hdollar hmarker.1
    rw [List.cons_append, escape_plain hb hc ho,
      ih fun d hd => hmarks d (List.mem_cons_of_mem c hd), List.cons_append]

namespace Command

variable {word text : Text} {words : List Text}

/-- A nest is written as it is defined to be. -/
lemma source_nest (h : ∀ w ∈ word :: words, IsPlainWord w) (text : Text) :
    (nest word words text).source = nestText word words text := by
  induction words generalizing word with
  | nil =>
    rw [nest, source, source, nestText, List.append_nil]
    exact (h word List.mem_cons_self).escape_append text
  | cons next words ih =>
    have hspace : escape (word ++ [' ']) = word ++ ' ' :: escape [] :=
      (h word List.mem_cons_self).escape_append []
    rw [nest, source, source, source, ih fun w hw => h w (List.mem_cons_of_mem word hw), hspace,
      escape_nil, nestText]
    simp only [List.append_assoc, List.cons_append, List.nil_append]

lemma normal_nest (word : Text) (words : List Text) (text : Text) :
    (nest word words text).Normal := by
  induction words generalizing word with
  | nil => exact ⟨by simp, rfl, trivial⟩
  | cons next words ih => exact ⟨by simp, rfl, ih next, trivial⟩

lemma depth_nest (word : Text) (words : List Text) (text : Text) :
    (nest word words text).depth = words.length := by
  induction words generalizing word with
  | nil => rfl
  | cons next words ih =>
    rw [nest, depth, depth, ih, depth, List.length_cons, Nat.max_zero]

/-- A nest is evaluated by composing its words but the first, which is put in front. -/
lemma resolve_nest {m : Type → Type} [Monad m] [LawfulMonad m] (run : Text → m Text) (word : Text)
    (words : List Text) (text : Text) :
    (nest word words text).resolve run = do
      let inner ← composed run words text
      return word ++ ' ' :: inner := by
  induction words generalizing word with
  | nil => simp [nest, resolve, composed]
  | cons next words ih => simp [nest, resolve, composed, ih]

/-- The arguments of a shell that are a nest but for blanks are read as a command that composes its
words but the first, and puts the first in front, but for blanks. -/
lemma parse_nest {limit : Option Nat} (h : ∀ w ∈ word :: words, IsPlainWord w)
    (hlimit : ∀ n ∈ limit, words.length ≤ n) (text : Text) :
    ∃ (command : Command) (put : Text → Text),
      parse limit (Text.strip (nestText word words text)) = .ok command ∧
      (∀ inner, Text.strip (put inner) = Text.strip (word ++ ' ' :: inner)) ∧
      ∀ {σ : Type} (run : Text → Run σ Text), command.resolve run = do
        let inner ← composed run words text
        return put inner := by
  have hword : IsPlainWord word := h word List.mem_cons_self
  cases words with
  | nil =>
    obtain ⟨command, hparse, hnext, hliterals⟩ :=
      parse_escape limit (Text.strip (word ++ ' ' :: text))
    refine ⟨command, fun inner => Text.strip (word ++ ' ' :: inner), ?_, ?_, fun run => ?_⟩
    · rw [nestText, ← hword.escape_append, strip_escape]
      exact hparse
    · exact fun inner => Text.strip_strip _
    · rw [resolve_of_next_none run hnext, hliterals]
      rfl
  | cons next words =>
    refine ⟨nest word (next :: words) text, (word ++ ' ' :: ·), ?_, fun _ => rfl,
      fun run => resolve_nest run word _ text⟩
    -- a nest begins with a word and ends with a marker
    have hstrip : Text.strip (nestText word (next :: words) text) =
        nestText word (next :: words) text := by
      obtain ⟨c, more, rfl⟩ := List.exists_cons_of_ne_nil hword.ne_nil
      apply Text.strip_of_ends
      · intro d hd
        cases hd
        exact hword.not_blank c List.mem_cons_self
      · intro d hd
        rw [nestText, List.getLast?_concat] at hd
        cases hd
        decide
    rw [hstrip, ← source_nest h]
    apply parse_source (normal_nest word _ text)
    rw [depth_nest]
    exact hlimit

end Command

/-! ## What is recorded since -/

/-- Whether an event is more than a notice to the log. -/
def Event.isDeed : Event → Bool
  | .notice _ => false
  | .output _ _ | .invoked _ | .finished _ => true

/-- What is recorded apart from the log: what was put out, and the invocations. -/
def Recorded.deeds (r : Recorded σ) : List Event := r.journal.filter Event.isDeed

@[simp] lemma Recorded.deeds_add_notice (r : Recorded σ) (notice : Notice) :
    (r.add (.notice notice)).deeds = r.deeds := rfl

lemma Recorded.deeds_add (r : Recorded σ) {event : Event} (h : event.isDeed = true) :
    (r.add event).deeds = event :: r.deeds :=
  List.filter_cons_of_pos h

/-- Two records are the same but for the log and for the beginnings of what is recorded
otherwise. -/
def Recorded.SameSince (base base' : List Event) (r s : Recorded σ) : Prop :=
  r.state = s.state ∧ ∃ deeds, r.deeds = deeds ++ base ∧ s.deeds = deeds ++ base'

lemma Recorded.sameSince_of_deeds_eq {r s : Recorded σ} (h : r.state = s.state) :
    r.SameSince r.deeds s.deeds s :=
  ⟨h, [], rfl, rfl⟩

lemma keepsEvents_sameSince (base base' : List Event) :
    KeepsEvents (σ := σ) (Recorded.SameSince base base') := by
  intro event r s h
  obtain ⟨hstate, deeds, hr, hs⟩ := h
  by_cases hevent : event.isDeed = true
  · refine ⟨hstate, event :: deeds, ?_, ?_⟩
    · rw [Recorded.deeds_add r hevent, hr, List.cons_append]
    · rw [Recorded.deeds_add s hevent, hs, List.cons_append]
  · refine ⟨hstate, deeds, ?_, ?_⟩
    · rw [← hr]
      exact List.filter_cons_of_neg hevent
    · rw [← hs]
      exact List.filter_cons_of_neg hevent

lemma keepsEvents_eq : KeepsEvents (Eq : Recorded σ → Recorded σ → Prop) := by
  rintro event r _ rfl
  rfl

/-- What a run does more than another may be told to the log. -/
lemma Run.Matches.note_right {α β : Type} {base base' : List Event} {parting : Fault → Prop}
    {same : α → β → Prop} {a : Run σ α} {b : Run σ β}
    (h : Run.Matches (Recorded.SameSince base base') parting same a b) (notice : Notice) :
    Run.Matches (Recorded.SameSince base base') parting same a (do Run.note notice; b) := by
  intro r s hrs
  rw [Run.exec_note_bind]
  exact h r (s.add (.notice notice)) hrs

/-- Where the first run does not fail, neither does the second. -/
lemma Run.Matches.of_ok {α β : Type} {alike : Recorded σ → Recorded σ → Prop}
    {same : α → β → Prop} {a : Run σ α} {b : Run σ β}
    (h : Run.Matches alike (fun _ => True) same a b) {r s r' : Recorded σ} {x : α}
    (hrs : alike r s) (ha : a.exec r = (.ok x, r')) :
    ∃ y s', b.exec s = (.ok y, s') ∧ same x y ∧ alike r' s' := by
  obtain ⟨fault, hfault, -⟩ | ⟨hresult, halike⟩ := h r s hrs
  · rw [ha] at hfault
    cases hfault
  · rcases hb : b.exec s with ⟨result, s'⟩
    rw [ha, hb] at hresult halike
    cases hresult with
    | ok hsame => exact ⟨_, s', rfl, hsame, halike⟩

/-- What is made of the second result does not show in the records. -/
lemma Run.Matches.map_right {α β γ : Type} {alike : Recorded σ → Recorded σ → Prop}
    {parting : Fault → Prop} {same : α → β → Prop} {same' : α → γ → Prop} {a : Run σ α}
    {b : Run σ β} {f : β → γ} (h : Run.Matches alike parting same a b)
    (hf : ∀ x y, same x y → same' x (f y)) :
    Run.Matches alike parting same' a (do return f (← b)) := by
  rw [← bind_pure a]
  refine h.bind ?_
  intro x y hxy
  exact .pure (hf x y hxy)

namespace Engine

variable {engine : Engine ι σ} {settings : Settings}

variable (engine) in
/-- What the handlers of the host do is decided by the context and the state. They do not use the
way back into the engine, and they add to the journal without looking at it. -/
def HandlersStandAlone : Prop :=
  ∀ h call call' context (r s : Recorded (Workspace ι σ)), r.state = s.state →
    ∃ result state events,
      (engine.act h call context).exec r = (result, ⟨state, events ++ r.journal⟩) ∧
      (engine.act h call' context).exec s = (result, ⟨state, events ++ s.journal⟩)

/-- Handlers that stand alone take no notice of what lies further back. -/
lemma HandlersStandAlone.sameSince (hact : engine.HandlersStandAlone) (base base' : List Event) :
    engine.HandlersRespect (Recorded.SameSince base base') := by
  intro h call call' context r s hrs
  obtain ⟨hstate, deeds, hr, hs⟩ := hrs
  obtain ⟨result, state, events, ha, hb⟩ := hact h call call' context r s hstate
  rw [ha, hb]
  refine .inr ⟨corresponds_eq_iff.mpr rfl, rfl, events.filter Event.isDeed ++ deeds, ?_, ?_⟩
  · show (events ++ r.journal).filter Event.isDeed = _
    rw [List.filter_append, List.append_assoc, ← hr]
    rfl
  · show (events ++ s.journal).filter Event.isDeed = _
    rw [List.filter_append, List.append_assoc, ← hs]
    rfl

/-- Nor do they do anything else the second time. -/
lemma HandlersStandAlone.same (hact : engine.HandlersStandAlone) : engine.HandlersRespect Eq := by
  rintro h call call' context r _ rfl
  obtain ⟨result, state, events, ha, hb⟩ := hact h call call' context r r rfl
  rw [ha, hb]
  exact .inr ⟨corresponds_eq_iff.mpr rfl, rfl⟩

/-- There is room for what neither the limit nor the engine cuts off. -/
lemma room_of_le {n : Nat} (hlimit : ∀ limit ∈ settings.limit, n ≤ limit)
    (hcapacity : ∀ capacity ∈ engine.capacity, n ≤ capacity) :
    ∀ room ∈ (engine.nesting settings).room, n ≤ room := by
  intro room hroom
  unfold nesting Nesting.room at hroom
  rcases hl : settings.limit with - | limit
  · rw [hl] at hroom
    exact hcapacity room hroom
  · rw [hl] at hroom
    rcases hc : engine.capacity with - | capacity
    · rw [hc] at hroom
      cases hroom
      exact hlimit _ hl
    · rw [hc] at hroom
      cases hroom
      exact Nat.le_min.mpr ⟨hlimit limit hl, hcapacity capacity hc⟩

/-- What two runs under the same settings come to is compared only where the first does not fail. -/
def whileFine {alike : Recorded (Workspace ι σ) → Recorded (Workspace ι σ) → Prop}
    (hact : engine.HandlersRespect alike) (hevents : KeepsEvents alike)
    (hstate : ∀ {r s}, alike r s → r.state = s.state) : engine.Likeness engine :=
  .sameSettings alike (fun _ => True) hevents (fun h => congrArg Workspace.registry (hstate h))
    (fun _ => trivial) (.refl engine) hact

/-! ## Side by side -/

/-- Compositions match if the single runs do. -/
lemma matches_composed {alike : Recorded σ → Recorded σ → Prop} {parting : Fault → Prop}
    {run run' : Text → Run σ Text} (h : ∀ text, Run.Matches alike parting Eq (run text) (run' text))
    (words : List Text) (text : Text) :
    Run.Matches alike parting Eq (composed run words text) (composed run' words text) := by
  induction words with
  | nil => exact .pure rfl
  | cons word words ih =>
    refine ih.bind ?_
    rintro inner _ rfl
    exact h _

/-- An interpolation does what its callback does, where that does not fail. -/
lemma matches_splice {base base' : List Event} {a : Run σ Text} {run : Text → Run σ Text}
    {inner : Text}
    (h : Run.Matches (Recorded.SameSince base base') (fun _ => True) Eq a (run inner)) :
    Run.Matches (Recorded.SameSince base base') (fun _ => True) Eq a
      (splice (fun inner => return .text (← run inner)) inner) := by
  intro r s hrs
  rw [exec_splice_text]
  obtain ⟨fault, r', ha, -⟩ | ⟨fault, r', s', ha, -, -⟩ |
    ⟨x, y, r', s', ha, hb, rfl, halike⟩ := h.cases_on hrs
  · exact .inl ⟨fault, by rw [ha], trivial⟩
  · exact .inl ⟨fault, by rw [ha], trivial⟩
  · rw [ha, hb]
    exact .inr ⟨.ok rfl, halike⟩

section Nests

variable {base base' : List Event} {rounds more : Nat} {depth : Int}

/-- Texts that are the same but for blanks at their ends are run alike. -/
lemma matches_runWithin (hact : engine.HandlersStandAlone) (hle : rounds ≤ more)
    (hdepth : ∀ limit ∈ settings.limit, depth ≤ (limit : Int)) {text text' : Text}
    (htext : Text.strip text' = Text.strip text) :
    Run.Matches (Recorded.SameSince base base') (fun _ => True) Eq
      (engine.runWithin rounds settings text depth)
      (engine.runWithin more settings text' depth) := by
  have hdispatch := (whileFine (hact.sameSince base base') (keepsEvents_sameSince base base')
    And.left).dispatchWithin_of_le trivial hle (rfl : settings = settings) text depth
  unfold runWithin joined
  rw [← dispatchWithin_strip hdepth more text', htext, dispatchWithin_strip hdepth]
  refine hdispatch.bind ?_
  rintro replies _ rfl r s hrs
  exact .inr ⟨.ok rfl, hrs⟩

/-- The shell replies to a nest with what its composition comes to. -/
lemma matches_carryOut (hact : engine.HandlersStandAlone) (hle : rounds ≤ more)
    {context : Context}
    (hdepth : ∀ limit ∈ settings.limit, context.depth + 1 ≤ (limit : Int)) {word text : Text}
    {words : List Text} {command : Command} {put : Text → Text}
    (hput : ∀ inner, Text.strip (put inner) = Text.strip (word ++ ' ' :: inner))
    (hresolve : ∀ run : Text → Task ι σ Text, command.resolve run = do
      let inner ← composed run words text
      return put inner) :
    Run.Matches (Recorded.SameSince base base') (fun _ => True)
      (fun result replies => Text.join settings.separator replies = result)
      (composed (engine.runWithin rounds settings · (context.depth + 1)) (word :: words) text)
      (carryOut (engine.runWithin more) settings context command) := by
  -- the interpolations are run one after the other, as the composition runs its words
  have hinner : Run.Matches (Recorded.SameSince base base') (fun _ => True) Eq
      (composed (engine.runWithin rounds settings · (context.depth + 1)) words text)
      (composed (splice fun inner =>
        return .text (← engine.runWithin more settings inner (context.depth + 1))) words text) :=
    matches_composed (fun inner => matches_splice (matches_runWithin hact hle hdepth rfl)) words
      text
  unfold carryOut Command.execute
  dsimp only
  rw [hresolve]
  simp only [composed, bind_assoc, pure_bind]
  refine .note_right (hinner.bind ?_) _
  rintro inner _ rfl
  refine .note_right (.map_right (matches_runWithin hact hle hdepth (hput inner)) ?_) _
  rintro result _ rfl
  exact join_suppressed _ _ _

/-- So it does wherever it reads the arguments as a nest. -/
lemma matches_shell (hact : engine.HandlersStandAlone) (hle : rounds ≤ more)
    {context : Context}
    (hdepth : ∀ limit ∈ settings.limit, context.depth + 1 ≤ (limit : Int)) {word text : Text}
    {words : List Text} (hwords : ∀ w ∈ word :: words, IsPlainWord w)
    (hroom : ∀ room ∈ (engine.nesting settings).room, words.length ≤ room)
    (hargs : context.args = Text.strip (nestText word words text)) :
    Run.Matches (Recorded.SameSince base base') (fun _ => True)
      (fun result replies => Text.join settings.separator replies = result)
      (composed (engine.runWithin rounds settings · (context.depth + 1)) (word :: words) text)
      (engine.shell (engine.runWithin more) settings context) := by
  obtain ⟨command, put, hparse, hput, hresolve⟩ := Command.parse_nest hwords hroom text
  rw [shell_eq, hargs, hparse]
  dsimp only
  exact .note_right (.note_right (matches_carryOut hact hle hdepth hput hresolve) _) _

end Nests

/-! ## A whole line -/

/-- A line that has the shell run a nest comes to what the composition of its words comes to, where
that does not fail: the line completes, its content is the result, and apart from the log and the
one invocation of the shell the same is recorded and the same becomes of the state. The composition
may have any number of dispatches inside one another, as long as the engine has the patience for one
more. -/
theorem handle_nest (hact : engine.HandlersStandAlone) {word : Text} {words : List Text}
    (hwords : ∀ w ∈ word :: words, IsPlainWord w) (text : Text) {rounds : Nat}
    (hpatience : rounds < engine.patience)
    (hlimit : ∀ limit ∈ settings.limit, max 1 words.length ≤ limit)
    (hcapacity : ∀ capacity ∈ engine.capacity, words.length ≤ capacity)
    {r after : Recorded (Workspace ι σ)} {result : Text}
    (hshell : (r.state.registry.lookup shellName).map (·.handler) = some (.shell settings))
    (hfine : (composed (engine.runWithin rounds settings · 1) (word :: words) text).exec r =
      (.ok result, after)) :
    (composed (engine.run settings · 1) (word :: words) text).exec r = (.ok result, after) ∧
    ∃ outcome final deeds,
      (engine.handle settings (shellName ++ ' ' :: nestText word words text)).exec r =
        (.ok outcome, final) ∧
      outcome.status = .complete ∧ outcome.content = result ∧ final.state = after.state ∧
      after.deeds = deeds ++ r.deeds ∧
      final.deeds = .finished ⟨shellName, Text.strip (nestText word words text), 0⟩ ::
        (deeds ++ .invoked ⟨shellName, Text.strip (nestText word words text), 0⟩ :: r.deeds) := by
  constructor
  · -- more patience changes nothing
    obtain ⟨same, s, hrun, rfl, rfl⟩ := (matches_composed (fun text =>
      (whileFine hact.same keepsEvents_eq (congrArg Recorded.state)).runWithin_of_le trivial
        hpatience.le rfl text 1) (word :: words) text).of_ok rfl hfine
    exact hrun
  obtain ⟨more, hmore⟩ : ∃ n, engine.patience = n + 1 :=
    Nat.exists_eq_add_one.mpr (Nat.zero_lt_of_lt hpatience)
  have hle : rounds ≤ more := by omega
  have hzero : ∀ limit ∈ settings.limit, (0 : Int) ≤ (limit : Int) :=
    fun limit _ => Int.natCast_nonneg limit
  have hone : ∀ limit ∈ settings.limit, (0 : Int) + 1 ≤ (limit : Int) := by
    intro limit h
    have := hlimit limit h
    omega
  -- the composition goes on from the beginning, the shell from its own invocation
  let context : Context := ⟨shellName, Text.strip (nestText word words text), 0⟩
  let line := shellName ++ ' ' :: nestText word words text
  let s : Recorded (Workspace ι σ) := ((r.add (.notice (.received line))).add
    (.notice (.dispatching shellName context.args 0))).add (.invoked context)
  have hroom : ∀ room ∈ (engine.nesting settings).room, words.length ≤ room :=
    room_of_le (fun limit h => (Nat.le_max_right 1 words.length).trans (hlimit limit h)) hcapacity
  obtain ⟨replies, s', hreplies, hjoin, hstate, deeds, hafter, hdeeds⟩ :=
    (matches_shell hact hle (show ∀ limit ∈ settings.limit, context.depth + 1 ≤ (limit : Int) from
      hone) hwords hroom rfl).of_ok
        (show r.SameSince r.deeds s.deeds s from Recorded.sameSince_of_deeds_eq rfl) hfine
  have hdispatch : (engine.dispatch settings line 0).exec (r.add (.notice (.received line))) =
      (.ok replies, s'.add (.finished context)) := by
    have hinvoked := engine.exec_dispatchWithin_shell hzero
      (r := r.add (.notice (.received line))) hshell more (nestText word words text)
    unfold dispatch
    rw [hmore, hinvoked, Run.exec_within]
    let run := engine.shell (engine.runWithin more) settings context
    show ((run.exec s).1, (run.exec s).2.add (.finished context)) = _
    rw [hreplies]
  have hhandle := engine.exec_handle settings line r
  rw [hdispatch] at hhandle
  refine ⟨_, s'.add (.finished context), deeds, hhandle, rfl, hjoin, hstate.symm, hafter, ?_⟩
  rw [Recorded.deeds_add s' rfl, hdeeds]
  rfl

/-- Two echos of a text that looks like an interpolation, with a backslash at its end, under the
lowest limit: the text comes out as it was put in, and the command that it names is not invoked. -/
theorem handle_nest_echo :
    let settings : Settings := { limit := some 1 }
    let w : Workspace Unit Nat :=
      { ticking settings with
        registry := ⟨⟨"echo", .builtin .echo, []⟩ :: (ticking settings).registry.entries⟩ }
    let line : Text := shellName ++ ' ' :: nestText "echo" ["echo"] "$(tick)\\"
    line = "shell echo $(echo \\$(tick\\)\\\\)" ∧
      ∃ outcome final, (counter.handle settings line).exec ⟨w, []⟩ = (.ok outcome, final) ∧
        outcome.status = .complete ∧ outcome.content = "$(tick)\\" ∧ final.state.host = 0 := by
  intro settings w line
  have hact : counter.HandlersStandAlone := by
    intro h call call' context r s hstate
    refine ⟨_, _, [], exec_counter h call context r, ?_⟩
    rw [exec_counter, hstate]
    rfl
  have hwords : ∀ word ∈ ["echo".toList, "echo"], IsPlainWord word := by
    intro word hword
    have hecho : word = "echo" := by simpa using hword
    rw [hecho]
    exact ⟨by decide, by simp [isBlank], by simp⟩
  have hlimit : ∀ limit ∈ settings.limit, max 1 ["echo".toList].length ≤ limit := by
    intro limit h
    cases h
    decide
  let run := composed (counter.runWithin 1 settings · 1) ["echo", "echo"] "$(tick)\\"
  have hresult : (run.exec ⟨w, []⟩).1.toOption = some "$(tick)\\".toList := by decide +kernel
  have hhost : (run.exec ⟨w, []⟩).2.state.host = 0 := by decide +kernel
  rcases hfine : run.exec ⟨w, []⟩ with ⟨fault | result, after⟩
  · rw [hfine] at hresult
    cases hresult
  · rw [hfine] at hresult hhost
    obtain ⟨-, outcome, final, -, hhandle, hstatus, hcontent, hstate, -, -⟩ :=
      handle_nest hact hwords "$(tick)\\" (by decide) hlimit (fun _ h => nomatch h) rfl hfine
    refine ⟨by decide +kernel, outcome, final, hhandle, hstatus, ?_, ?_⟩
    · rw [hcontent]
      exact Option.some.inj hresult
    · rw [hstate]
      exact hhost

end Engine

end Subshell
