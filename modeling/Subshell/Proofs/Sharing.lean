import Subshell.Proofs.Dispatches
import Subshell.Proofs.Standard
/-!
# Shells that share a registry

Any number of shells can be set up with one registry, each under settings of its own. The first one
registers the command, and the others find it there, so that it stays bound to the settings of the
first (`Setup.exec_takeAll`). Lines may be handled under the settings of any of them. Of these a
line asks for two things, whether it lies too deep and what joins the replies of its command. At
depth zero no line lies too deep, and the shell replies at most once
(`length_le_one_of_exec_shell`); so a line whose command is the shell comes to the same under all
settings (`handle_shared`).
-/

namespace Subshell

variable {ι σ : Type}

/-! ## Setting up -/

/-- A step in setting up a registry: another shell, or a call that registers or unregisters a
command. -/
inductive Setup (ι : Type)
  | shell (settings : Settings)
  | call (call : Call ι)

namespace Setup

/-- Takes a step. A call that is refused does not stop what follows. -/
def take : Setup ι → Task ι σ Unit
  | .shell settings => Workspace.registerShell settings
  | .call made => do let _ ← Run.attempt made.make

/-- Takes steps in order. -/
def takeAll (steps : List (Setup ι)) : Task ι σ Unit := steps.forM take

/-- A step does not unregister the shell, in whatever spelling of its name. -/
def KeepsShell : Setup ι → Prop
  | .call (.unregister name) => commandKey name ≠ shellName
  | .shell _ | .call (.register _ _ _) => True

end Setup

/-- A shell that is registered where there is none is found. -/
lemma Registry.lookup_concat_shellEntry {registry : Registry ι}
    (h : registry.contains shellName = false) (settings : Settings) :
    lookup ⟨registry.entries ++ [shellEntry settings]⟩ shellName = some (shellEntry settings) := by
  have hnone : registry.entries.find? (·.name = commandKey shellName) = none :=
    Option.not_isSome_iff_eq_none.mp (ne_true_of_eq_false h)
  rw [lookup, List.find?_append, hnone, isName_shellName.commandKey]
  rfl

/-- Where there is a shell, no other one is registered. -/
lemma exec_registerShell_of_contains {r : Recorded (Workspace ι σ)}
    (h : r.state.registry.contains shellName = true) (settings : Settings) :
    (Workspace.registerShell settings).exec r = (.ok (), r) := by
  unfold Workspace.registerShell
  rw [Run.exec_state_bind, h]
  rfl

/-- A call leaves the shell as it is, if it does not unregister it. -/
lemma Registry.lookup_answer_of_keepsShell {registry : Registry ι} {call : Call ι}
    (h : (Setup.call call).KeepsShell) (hknown : registry.contains shellName = true) :
    (registry.answer call).lookup shellName = registry.lookup shellName := by
  apply lookup_answer_of_not_changes
  rw [isName_shellName.commandKey]
  cases call with
  | unregister name => exact h
  | register name handler help =>
    intro hchanges
    obtain ⟨hkey, hfree⟩ := changes_register_iff.mp hchanges
    -- the name is taken, since it is a spelling of the shell's
    rw [contains_eq_any, isName_shellName.commandKey, ← hkey, ← contains_eq_any] at hknown
    exact hfree (.inr (.inr hknown))

namespace Setup

/-- A step leaves the shell as it is. -/
lemma exec_take {step : Setup ι} (hkeeps : step.KeepsShell) {r : Recorded (Workspace ι σ)}
    {entry : Entry ι} (h : r.state.registry.lookup shellName = some entry) :
    ∃ after, step.take.exec r = (.ok (), after) ∧
      after.state.registry.lookup shellName = some entry := by
  have hknown : r.state.registry.contains shellName = true := Option.isSome_of_eq_some h
  cases step with
  | shell settings => exact ⟨r, exec_registerShell_of_contains hknown settings, h⟩
  | call made =>
    obtain ⟨result, journal, hexec⟩ := made.exec_make r
    refine ⟨⟨⟨r.state.registry.answer made, r.state.host⟩, journal⟩, ?_, ?_⟩
    · unfold take
      rw [Run.exec_bind, Run.exec_attempt, hexec]
      rfl
    · rw [← h]
      exact Registry.lookup_answer_of_keepsShell hkeeps hknown

/-- So do any number of steps. -/
lemma exec_takeAll {steps : List (Setup ι)} (hkeeps : ∀ step ∈ steps, step.KeepsShell)
    {r : Recorded (Workspace ι σ)} {entry : Entry ι}
    (h : r.state.registry.lookup shellName = some entry) :
    ∃ after, (takeAll steps).exec r = (.ok (), after) ∧
      after.state.registry.lookup shellName = some entry := by
  induction steps generalizing r with
  | nil => exact ⟨r, rfl, h⟩
  | cons step steps ih =>
    obtain ⟨hstep, hsteps⟩ := List.forall_mem_cons.mp hkeeps
    obtain ⟨next, hfirst, hnext⟩ := exec_take hstep h
    obtain ⟨after, hrest, hafter⟩ := ih hsteps hnext
    refine ⟨after, ?_, hafter⟩
    unfold takeAll
    rw [List.forM, Run.exec_bind_of_ok hfirst]
    exact hrest

end Setup

/-! ## Lines -/

/-- What joins the replies only shows where there is more than one. -/
lemma Text.join_of_length_le_one {replies : List Text} (h : replies.length ≤ 1)
    (separator separator' : Text) : Text.join separator replies = Text.join separator' replies := by
  rcases replies with - | ⟨reply, - | ⟨next, more⟩⟩
  · rfl
  · rw [Text.join_singleton, Text.join_singleton]
  · exact absurd h (by simp)

namespace Engine

variable (engine : Engine ι σ)

/-- The shell replies at most once. -/
lemma length_le_one_of_exec_shell {call : Caller ι σ} {settings : Settings} {context : Context}
    {r after : Recorded (Workspace ι σ)} {replies : List Text}
    (h : (engine.shell call settings context).exec r = (.ok replies, after)) :
    replies.length ≤ 1 := by
  rcases hparse : Command.parse (engine.nesting settings).room context.args with fault | command
  · have hreplies := (exec_shell_of_error engine call hparse r).1
    rw [h] at hreplies
    split at hreplies
    · cases hreplies
    · cases hreplies
      exact Nat.le_refl 1
  · rw [exec_shell_of_ok engine call hparse, carryOut, Run.exec_bind] at h
    split at h
    · next text _ _ =>
      rw [Run.exec_note_bind, Run.exec_bind] at h
      split at h
      · next result _ _ =>
        cases h
        split
        · exact Nat.zero_le 1
        · exact Nat.le_refl 1
      · cases h
    · cases h

/-- A line whose command is the shell is dispatched alike under all settings, and has at most one
reply. -/
lemma exec_dispatch_of_shell {line : Text} (hline : Text.lower (commandOf line) = shellName)
    {r : Recorded (Workspace ι σ)} {own : Settings}
    (hshell : r.state.registry.lookup shellName = some (shellEntry own)) :
    ∃ dispatched, (∀ settings, (engine.dispatch settings line 0).exec r = dispatched) ∧
      ∀ replies, dispatched.1 = .ok replies → replies.length ≤ 1 := by
  unfold dispatch
  rcases engine.patience with - | rounds
  · refine ⟨(.error .exhausted, r), fun settings => rfl, fun replies h => ?_⟩
    cases h
  rcases hfirst : Text.firstWord? (Text.strip line) with - | ⟨word, args⟩
  · rw [commandOf_eq_nil hfirst] at hline
    exact absurd hline (by decide)
  · have hkey : commandKey word = commandKey shellName := by
      rw [← commandOf_eq hfirst, commandKey_commandOf, hline, isName_shellName.commandKey]
    have hentry : r.state.registry.lookup word = some (shellEntry own) := by
      rw [← hshell, Registry.lookup, Registry.lookup, hkey]
    refine ⟨_, fun settings => engine.exec_dispatchWithin_of_lookup (zero_within settings) hfirst
      hentry rounds, fun replies h => ?_⟩
    rw [Run.exec_within] at h
    exact engine.length_le_one_of_exec_shell (Prod.ext h rfl)

/-- Of all the shells that are set up with a registry, the first one decides what becomes of the
lines whose command is the shell. Setting up goes well: the shell is bound to the settings of the
first, whatever other shells follow, and whatever commands come and go except for the shell. From
then on such a line comes to the same under any settings as under those of the first: the outcome is
the same, and so is all that is recorded and changed. -/
theorem handle_shared (own : Settings) {steps : List (Setup ι)}
    (hkeeps : ∀ step ∈ steps, step.KeepsShell) {start : Recorded (Workspace ι σ)}
    (hfree : start.state.registry.contains shellName = false) :
    ∃ built, (do Workspace.registerShell own; Setup.takeAll steps : Task ι σ Unit).exec start =
        (.ok (), built) ∧
      built.state.registry.lookup shellName = some (shellEntry own) ∧
      ∀ later line (r : Recorded (Workspace ι σ)),
        r.state.registry.lookup shellName = built.state.registry.lookup shellName →
        Text.lower (commandOf line) = shellName →
        (engine.handle later line).exec r = (engine.handle own line).exec r := by
  let registered : Recorded (Workspace ι σ) :=
    ⟨⟨⟨start.state.registry.entries ++ [shellEntry own]⟩, start.state.host⟩,
      .notice (.registered shellName) :: start.journal⟩
  have hregistered : registered.state.registry.lookup shellName = some (shellEntry own) :=
    Registry.lookup_concat_shellEntry hfree own
  obtain ⟨built, hsteps, hbuilt⟩ := Setup.exec_takeAll hkeeps hregistered
  have hregister : (Workspace.registerShell own).exec start = (.ok (), registered) :=
    Workspace.exec_registerShell_of_free hfree own
  refine ⟨built, (Run.exec_bind_of_ok hregister _).trans hsteps, hbuilt, ?_⟩
  intro later line r hsame hline
  have hshell : (r.add (.notice (.received line))).state.registry.lookup shellName =
      some (shellEntry own) := hsame.trans hbuilt
  obtain ⟨dispatched, hdispatch, hlength⟩ := engine.exec_dispatch_of_shell hline hshell
  rw [exec_handle, exec_handle, hdispatch later, hdispatch own]
  rcases dispatched with ⟨fault | replies, after⟩
  · rfl
  · have hjoin : Text.join later.separator replies = Text.join own.separator replies :=
      Text.join_of_length_le_one (hlength replies rfl) _ _
    dsimp only
    rw [hjoin]

/-- A shell without a limit shares a registry with one that was there first. Its lines stop at the
limit of the first. -/
theorem handle_shared_limit :
    let own : Settings := { limit := some 1 }
    let later : Settings := { limit := none, separator := "+", suppressEmpty := false }
    let steps : List (Setup Unit) := [.shell later, .call (.register " SHELL" (.custom ()) []),
      .call (.unregister "tock"), .shell {}]
    let start : Recorded (Workspace Unit Nat) := ⟨⟨⟨[⟨"tick", .custom (), []⟩]⟩, 0⟩, []⟩
    let built := ((do Workspace.registerShell own; Setup.takeAll steps : Task Unit Nat Unit).exec
      start).2
    let line : Text := " Shell shell tick"
    (((counter.handle later line).exec built).1.map fun outcome =>
        outcome.failure.map (·.reason)).toOption = some (some .depthExceeded) ∧
      built.state.registry.lookup shellName = some (shellEntry own) ∧
      (counter.handle later line).exec built = (counter.handle own line).exec built := by
  intro own later steps start built line
  have hkeeps : ∀ step ∈ steps, step.KeepsShell := by
    have htock : commandKey "tock" ≠ shellName := by decide +kernel
    simpa [steps, Setup.KeepsShell] using htock
  obtain ⟨final, hexec, hshell, hsame⟩ :=
    counter.handle_shared own hkeeps (show start.state.registry.contains shellName = false by
      decide +kernel)
  have hbuilt : built = final := congrArg Prod.snd hexec
  have hline : Text.lower (commandOf line) = shellName := by decide +kernel
  rw [← hbuilt] at hshell hsame
  exact ⟨by decide +kernel, hshell, hsame later line built rfl hline⟩

end Engine

end Subshell
