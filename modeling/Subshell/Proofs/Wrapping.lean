import Mathlib.Logic.Function.Iterate
import Subshell.Proofs.Comparison
import Subshell.Proofs.Rewriting
import Subshell.Proofs.RoundTrip
import Subshell.Proofs.Strip
/-!
# Wrapping a text for the shell

`shellWrap` makes of a text one that has the shell run it: the shell's name and the text, escaped.
The shell undoes this: run at some depth, a text that is wrapped `n` times comes to what the text
itself comes to `n` deeper, or is cut off by the limit before anything else happens
(`runWithin_iterate_shellWrap`).

Compared are results, states, and what is recorded apart from the log and the invocations of the
shell (`Run.effect`). One level is taken off by `effect_runWithin_shellWrap`: the dispatch strips
the text, the shell reads it as a single literal, and what it dispatches is the text that was
wrapped, without the blanks around it. These make no difference, since dispatching strips them
anyway (`effect_runWithin_strip`).
-/

namespace Subshell

variable {ι σ α : Type}

/-- The text that has the shell run another one. -/
def shellWrap (text : Text) : Text := shellName ++ ' ' :: escape text

/-! ## What is compared -/

/-- Whether an event is more than a notice to the log or an invocation of the shell. -/
def Event.isEffect : Event → Bool
  | .notice _ => false
  | .output _ _ => true
  | .invoked context => context.command ≠ shellName
  | .finished context => context.command ≠ shellName

/-- The state, and what is recorded apart from the log and the invocations of the shell. -/
def Recorded.essence (r : Recorded σ) : σ × List Event := (r.state, r.journal.filter (·.isEffect))

/-- What a run comes to apart from the log and the invocations of the shell. -/
def Run.effect (run : Run σ α) (r : Recorded σ) : Except Fault α × σ × List Event :=
  ((run.exec r).1, (run.exec r).2.essence)

lemma Recorded.essence_add (r : Recorded σ) (event : Event) :
    (r.add event).essence =
      (r.state, if event.isEffect then event :: r.essence.2 else r.essence.2) := by
  unfold Recorded.essence Recorded.add
  rw [List.filter_cons]

/-- What is no effect leaves the essence as it is. -/
lemma Recorded.essence_add_of_not_isEffect {event : Event} (h : event.isEffect = false)
    (r : Recorded σ) : (r.add event).essence = r.essence := by
  rw [essence_add, h]
  rfl

@[simp] lemma Recorded.essence_add_notice (r : Recorded σ) (notice : Notice) :
    (r.add (.notice notice)).essence = r.essence :=
  essence_add_of_not_isEffect rfl r

/-- Runs that come to the same have the same effect. -/
lemma Run.effect_congr {a b : Run σ α} {r s : Recorded σ} (h : a.exec r = b.exec s) :
    a.effect r = b.effect s := by
  unfold Run.effect
  rw [h]

/-- What is done to the result does not change the rest of an effect. -/
lemma Run.effect_map {β : Type} (f : α → β) (run : Run σ α) (r : Recorded σ) :
    (do let a ← run; return f a : Run σ β).effect r = (run.effect r).map (Except.map f) id := by
  unfold Run.effect
  rw [Run.exec_bind]
  rcases run.exec r with ⟨fault | a, after⟩ <;> rfl

/-- An event at the end that is no effect does not show. -/
lemma Run.effect_within {last : Event} (h : last.isEffect = false) (first : Event) (run : Run σ α)
    (r : Recorded σ) : (Run.within first last run).effect r = run.effect (r.add first) :=
  Prod.ext rfl (Recorded.essence_add_of_not_isEffect h _)

/-- Two records are the same apart from the log and the invocations of the shell. -/
def Recorded.SameEssence (r s : Recorded σ) : Prop := r.essence = s.essence

lemma Recorded.SameEssence.state {r s : Recorded σ} (h : r.SameEssence s) : r.state = s.state :=
  congrArg Prod.fst h

lemma keepsEvents_sameEssence : KeepsEvents (σ := σ) Recorded.SameEssence := by
  intro event r s h
  unfold Recorded.SameEssence at h ⊢
  have hstate : r.state = s.state := congrArg Prod.fst h
  rw [Recorded.essence_add, Recorded.essence_add, h, hstate]

/-- Runs that match have the same effect. -/
lemma Run.Matches.effect_eq {a b : Run σ α}
    (h : Run.Matches Recorded.SameEssence (fun _ => False) Eq a b) {r s : Recorded σ}
    (hrs : r.essence = s.essence) : a.effect r = b.effect s := by
  obtain ⟨hresult, halike⟩ := h.of_no_parting hrs
  exact Prod.ext (corresponds_eq_iff.mp hresult) halike

namespace Engine

variable {engine : Engine ι σ}

/-- The same run from records of the same essence. -/
def repetition (hact : engine.HandlersRespect Recorded.SameEssence) : engine.Likeness engine :=
  .exact Recorded.SameEssence keepsEvents_sameEssence
    (fun h => congrArg Workspace.registry h.state) (.refl engine) hact

/-! ## Blanks around a text -/

/-- A dispatch that is not too deep strips its text. -/
lemma dispatchWithin_strip {settings : Settings} {depth : Int}
    (hdepth : ∀ limit ∈ settings.limit, depth ≤ (limit : Int)) (rounds : Nat) (text : Text) :
    engine.dispatchWithin rounds settings (Text.strip text) depth =
      engine.dispatchWithin rounds settings text depth := by
  cases rounds with
  | zero => rfl
  | succ rounds =>
    unfold dispatchWithin dispatchOnce
    rw [checkDepth_eq_pure hdepth, checkDepth_eq_pure hdepth, Text.strip_strip]

/-- Blanks around a text that is not too deep only show in the log. -/
lemma effect_runWithin_strip (hact : engine.HandlersRespect Recorded.SameEssence)
    {settings : Settings} {depth : Int}
    (hdepth : ∀ limit ∈ settings.limit, depth ≤ (limit : Int)) (rounds : Nat) (text : Text)
    {r s : Recorded (Workspace ι σ)} (hrs : r.essence = s.essence) :
    (engine.runWithin rounds settings (Text.strip text) depth).effect r =
      (engine.runWithin rounds settings text depth).effect s := by
  refine Run.Matches.effect_eq ?_ hrs
  unfold runWithin joined
  rw [dispatchWithin_strip hdepth]
  refine ((repetition hact).dispatchWithin rounds rfl text depth).bind ?_
  rintro replies _ rfl r s hrs
  refine .inr ⟨.ok rfl, ?_⟩
  show Recorded.essence (r.add (.notice _)) = Recorded.essence (s.add (.notice _))
  rw [Recorded.essence_add_notice, Recorded.essence_add_notice]
  exact hrs

end Engine

/-! ## One level -/

/-- An escaped text is read as a command without interpolations, whose literals are the text. -/
lemma Command.parse_escape (limit : Option Nat) (text : Text) :
    ∃ command, Command.parse limit (escape text) = .ok command ∧ command.next = none ∧
      command.literals = text := by
  by_cases htext : text = []
  · refine ⟨.nil, ?_, rfl, htext.symm⟩
    rw [htext, escape_nil, Command.parse_eq_front, Command.front_nil]
  · refine ⟨.literal text .nil, ?_, rfl, List.append_nil text⟩
    have hnormal : (Command.literal text .nil).Normal := ⟨htext, rfl, trivial⟩
    have hsource : (Command.literal text .nil).source = escape text := List.append_nil _
    rw [← hsource]
    exact Command.parse_source hnormal fun n _ => Nat.zero_le n

/-- Without interpolations a command is executed without a call. -/
lemma Command.exec_execute_of_next_none {command : Command} (h : command.next = none)
    (run : Text → Run σ Value) (r : Recorded σ) :
    (command.execute run).exec r =
      (.ok command.literals, r.add (.notice (.executing command.interpolationCount))) := by
  unfold Command.execute
  rw [Command.resolve_of_next_none _ h]
  rfl

namespace Engine

variable {engine : Engine ι σ} {settings : Settings}

/-- Joining replies shows in the result only. -/
lemma effect_joined (text : Text) (replies : Task ι σ (List Text)) (r : Recorded (Workspace ι σ)) :
    (joined settings text replies).effect r =
      (replies.effect r).map (Except.map (Text.join settings.separator)) id := by
  unfold Run.effect joined
  rw [Run.exec_bind]
  rcases replies.exec r with ⟨fault | l, after⟩
  · rfl
  · exact Prod.ext rfl (Recorded.essence_add_notice after _)

variable (engine settings) in
/-- The shell calls the text that its arguments escape, one deeper than its own invocation, and
replies with the result. -/
lemma effect_shell_escape (call : Caller ι σ) {context : Context} {text : Text}
    (hargs : context.args = escape text) (r : Recorded (Workspace ι σ)) :
    ∃ before, before.essence = r.essence ∧
      (engine.shell call settings context).effect r =
        ((call settings text (context.depth + 1)).effect before).map
          (Except.map fun result =>
            if result.isEmpty && settings.suppressEmpty then [] else [result]) id := by
  obtain ⟨command, hparse, hnext, hliterals⟩ :=
    Command.parse_escape (engine.nesting settings).room text
  unfold Run.effect
  rw [shell_eq, hargs, hparse, Run.exec_note_bind]
  dsimp only
  unfold carryOut
  rw [Run.exec_note_bind, Run.exec_bind_of_ok (Command.exec_execute_of_next_none hnext _ _),
    Run.exec_note_bind, hliterals]
  exact ⟨_, by simp only [Recorded.essence_add_notice], Run.effect_map _ _ _⟩

/-- A single reply is joined to itself, and so is one that is left out because it is empty. -/
lemma join_suppressed (separator result : Text) (suppress : Bool) :
    Text.join separator (if result.isEmpty && suppress then [] else [result]) = result := by
  split
  · next h =>
    have hempty : result = [] := List.isEmpty_iff.mp (Bool.and_eq_true_iff.mp h).1
    rw [hempty]
    rfl
  · exact Text.join_singleton separator result

/-- The shell is invoked with what stands behind its name, stripped. -/
lemma firstWord?_shellName (args : Text) :
    Text.firstWord? (Text.strip (shellName ++ ' ' :: args)) =
      some (shellName, Text.strip args) := by
  have hblank : ∀ c ∈ shellName, isBlank c = false := by
    have hall : shellName.all (!isBlank ·) = true := by decide
    intro c hc
    simpa using List.all_eq_true.mp hall c hc
  have hargs : ∀ c ∈ (' ' :: args).head?, isBlank c = true := by
    intro c hc
    cases hc
    exact isBlank_space
  rw [Text.firstWord?_strip_append (by decide) hblank hargs,
    Text.strip_cons_of_isBlank isBlank_space]

variable (engine) in
/-- Dispatching a text that begins with the shell's name is an invocation of the shell. -/
lemma exec_dispatchWithin_shell {t : Settings} {depth : Int}
    (hdepth : ∀ limit ∈ settings.limit, depth ≤ (limit : Int)) {r : Recorded (Workspace ι σ)}
    (hshell : (r.state.registry.lookup shellName).map (·.handler) = some (.shell t))
    (rounds : Nat) (args : Text) :
    (engine.dispatchWithin (rounds + 1) settings (shellName ++ ' ' :: args) depth).exec r =
      (Run.within (.invoked ⟨shellName, Text.strip args, depth⟩)
          (.finished ⟨shellName, Text.strip args, depth⟩)
          (engine.shell (engine.runWithin rounds) t ⟨shellName, Text.strip args, depth⟩)).exec
        (r.add (.notice (.dispatching shellName (Text.strip args) depth))) := by
  obtain ⟨entry, hentry, hhandler⟩ := Option.map_eq_some_iff.mp hshell
  have hname : entry.name = shellName := Registry.name_of_lookup hentry
  rw [engine.exec_dispatchWithin_of_lookup hdepth (firstWord?_shellName args) hentry, hname,
    hhandler]
  rfl

variable (engine) in
/-- A text that is wrapped once has the effect that the text without the blanks around it has one
deeper. -/
theorem effect_runWithin_shellWrap {r : Recorded (Workspace ι σ)} {depth : Int}
    (hshell : (r.state.registry.lookup shellName).map (·.handler) = some (.shell settings))
    (hdepth : ∀ limit ∈ settings.limit, depth ≤ (limit : Int)) (rounds : Nat) (text : Text) :
    ∃ before, before.essence = r.essence ∧
      (engine.runWithin (rounds + 1) settings (shellWrap text) depth).effect r =
        (engine.runWithin rounds settings (Text.strip text) (depth + 1)).effect before := by
  let context : Context := ⟨shellName, Text.strip (escape text), depth⟩
  have hinvoked : Event.isEffect (.invoked context) = false := by
    simp [Event.isEffect, context]
  have hfinished : Event.isEffect (.finished context) = false := by
    simp [Event.isEffect, context]
  let r' := (r.add (.notice (.dispatching context.command context.args depth))).add
    (.invoked context)
  obtain ⟨before, hbefore, hinner⟩ := effect_shell_escape engine settings (engine.runWithin rounds)
    (show context.args = escape (Text.strip text) from strip_escape text) r'
  refine ⟨before, ?_, ?_⟩
  · rw [hbefore, Recorded.essence_add_of_not_isEffect hinvoked, Recorded.essence_add_notice]
  have hdispatch : (engine.dispatchWithin (rounds + 1) settings (shellWrap text) depth).effect r =
      (engine.shell (engine.runWithin rounds) settings context).effect r' := by
    have hinvoked := engine.exec_dispatchWithin_shell hdepth hshell rounds (escape text)
    rw [shellWrap, Run.effect_congr hinvoked, Run.effect_within hfinished]
  rw [runWithin, effect_joined, hdispatch, hinner]
  rcases (engine.runWithin rounds settings (Text.strip text) (depth + 1)).effect before with
    ⟨fault | result, after⟩
  · rfl
  · simp only [Prod.map, Except.map, join_suppressed, id]

/-! ## Any number of levels -/

/-- A dispatch that is too deep is cut off before anything else happens. -/
lemma effect_runWithin_of_lt {limit : Nat} {depth : Int} (hlimit : settings.limit = some limit)
    (h : (limit : Int) < depth) (rounds : Nat) (text : Text) (r : Recorded (Workspace ι σ)) :
    ∃ fault, (engine.runWithin (rounds + 1) settings text depth).effect r =
        (.error (.tooDeep fault), r.essence) ∧ fault.limit = some (limit : Int) := by
  unfold Run.effect
  rw [engine.exec_runWithin_of_lt hlimit h rounds text r]
  exact ⟨_, Prod.ext rfl (Recorded.essence_add_notice r _), rfl⟩

/-- Run at some depth, a text that is wrapped `n` times for the shell has the effect that the text
itself has `n` deeper, as long as that is within the limit. Where the limit lies between the two,
the run is cut off by it, and nothing has been put out, changed or invoked but the shell. -/
theorem runWithin_iterate_shellWrap (hact : engine.HandlersRespect Recorded.SameEssence)
    (settings : Settings) (text : Text) (n rounds : Nat) (depth : Int)
    (r : Recorded (Workspace ι σ))
    (hshell : (r.state.registry.lookup shellName).map (·.handler) = some (.shell settings)) :
    ((∀ limit ∈ settings.limit, depth + n ≤ (limit : Int)) →
      (engine.runWithin (rounds + n) settings (shellWrap^[n] text) depth).effect r =
        (engine.runWithin rounds settings text (depth + n)).effect r) ∧
    ∀ limit ∈ settings.limit, depth ≤ (limit : Int) → (limit : Int) < depth + n → ∃ fault,
      (engine.runWithin (rounds + 1 + n) settings (shellWrap^[n] text) depth).effect r =
        (.error (.tooDeep fault), r.essence) ∧ fault.limit = some (limit : Int) := by
  induction n generalizing depth with
  | zero =>
    constructor
    · intro _
      rw [Int.natCast_zero, Int.add_zero]
      rfl
    · intro limit _ hle hlt
      omega
  | succ n ih =>
    obtain ⟨hwithin, hbeyond⟩ := ih (depth + 1)
    have hdeeper : depth + 1 + (n : Int) = depth + ((n + 1 : Nat) : Int) := by omega
    rw [hdeeper] at hwithin hbeyond
    rw [Function.iterate_succ_apply']
    constructor
    · intro hfits
      have hfits₀ : ∀ limit ∈ settings.limit, depth ≤ (limit : Int) := by
        intro limit hlimit
        have := hfits limit hlimit
        omega
      have hfits₁ : ∀ limit ∈ settings.limit, depth + 1 ≤ (limit : Int) := by
        intro limit hlimit
        have := hfits limit hlimit
        omega
      obtain ⟨before, hbefore, heffect⟩ := effect_runWithin_shellWrap engine hshell
        hfits₀ (rounds + n) (shellWrap^[n] text)
      calc (engine.runWithin (rounds + (n + 1)) settings _ depth).effect r
          = (engine.runWithin (rounds + n) settings (Text.strip (shellWrap^[n] text))
              (depth + 1)).effect before := heffect
        _ = (engine.runWithin (rounds + n) settings (shellWrap^[n] text) (depth + 1)).effect r :=
            effect_runWithin_strip hact hfits₁ _ _ hbefore
        _ = (engine.runWithin rounds settings text (depth + ((n + 1 : Nat) : Int))).effect r :=
            hwithin hfits
    · intro limit hlimit hle hlt
      have hfits₀ : ∀ limit ∈ settings.limit, depth ≤ (limit : Int) := by
        intro limit' hlimit'
        rw [Option.mem_unique hlimit' hlimit]
        exact hle
      obtain ⟨before, hbefore, heffect⟩ := effect_runWithin_shellWrap engine hshell
        hfits₀ (rounds + 1 + n) (shellWrap^[n] text)
      rw [← Nat.add_assoc, heffect]
      by_cases hnext : depth + 1 ≤ (limit : Int)
      · have hfits₁ : ∀ limit ∈ settings.limit, depth + 1 ≤ (limit : Int) := by
          intro limit' hlimit'
          rw [Option.mem_unique hlimit' hlimit]
          exact hnext
        rw [effect_runWithin_strip hact hfits₁ _ _ hbefore]
        exact hbeyond limit hlimit hnext hlt
      · -- the text one level down is too deep already
        rw [← hbefore, Nat.add_right_comm]
        exact effect_runWithin_of_lt hlimit (Int.not_le.mp hnext) _ _ _

/-- A text with blanks around it, an unclosed marker and a lone backslash at its end, wrapped twice:
within the limit it is run as it is, and under a lower limit it is cut off. -/
theorem runWithin_shellWrap_twice :
    ((counter.runWithin 5 { limit := some 2 } (shellWrap^[2] " tick $(\\ ") 0).effect
        ⟨ticking { limit := some 2 }, []⟩ =
      (counter.runWithin 3 { limit := some 2 } " tick $(\\ " 2).effect
        ⟨ticking { limit := some 2 }, []⟩) ∧
    ((counter.runWithin 3 { limit := some 2 } " tick $(\\ " 2).effect
        ⟨ticking { limit := some 2 }, []⟩).1 = .ok "1" ∧
    ∃ fault, (counter.runWithin 6 { limit := some 1 } (shellWrap^[2] " tick $(\\ ") 0).effect
        ⟨ticking { limit := some 1 }, []⟩ =
      (.error (.tooDeep fault), ticking { limit := some 1 }, []) ∧ fault.limit = some 1 := by
  have hact : counter.HandlersRespect Recorded.SameEssence := by
    refine counter_handlersRespect (fun r s h => congrArg Workspace.host h.state) ?_
    intro r s n h
    have hevents : r.essence.2 = s.essence.2 := congrArg Prod.snd h
    exact Prod.ext (congrArg (fun w : Workspace Unit Nat => { w with host := n }) h.state) hevents
  have hshell : ∀ settings, ((ticking settings).registry.lookup shellName).map (·.handler) =
      some (.shell settings) := fun settings => rfl
  refine ⟨?_, rfl, ?_⟩
  · refine (runWithin_iterate_shellWrap hact { limit := some 2 } " tick $(\\ " 2 3 0 _
      (hshell _)).1 ?_
    intro limit hlimit
    cases hlimit
    decide
  · exact (runWithin_iterate_shellWrap hact { limit := some 1 } " tick $(\\ " 2 3 0 _
      (hshell _)).2 1 rfl (by decide) (by decide)

end Engine

end Subshell
