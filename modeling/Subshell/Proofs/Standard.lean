import Subshell.Program
import Subshell.Proofs.Contract
import Subshell.Proofs.Front
import Subshell.Proofs.Registering
/-!
# The standard registry

With the built-in commands and the shell registered, and nothing else, a line can only fail because
commands are nested too deep (`handle_standard`). A built-in command stops at no fault, and the
shell answers what it cannot read; so every fault is a cut-off (`Fault.IsCutOff`). That is the
contract `unmoved`, which one induction over dispatches inside one another carries through the
engine.

The engine has to have the patience for as many dispatches as the limit allows, and one more that is
cut off.
-/

namespace Subshell

variable {ι σ : Type}

/-! ## Registering the commands -/

/-- A built-in command as it is registered. -/
def Builtin.entry (b : Builtin) : Entry ι := ⟨b.name, .builtin b, b.helpText⟩

lemma Builtin.isName_name (b : Builtin) : IsName b.name := by
  cases b <;> decide +kernel

lemma Builtin.name_ne_shellName (b : Builtin) : b.name ≠ shellName := by
  cases b <;> decide

lemma isName_shellName : IsName shellName := by decide +kernel

/-- The shell as it is registered. -/
def shellEntry (settings : Settings) : Entry ι := ⟨shellName, .shell settings, shellHelp⟩

/-- The built-in commands and the shell. -/
def Registry.standard (settings : Settings) : Registry ι :=
  ⟨Builtin.all.map Builtin.entry ++ [shellEntry settings]⟩

namespace Workspace

/-- A name that no command has is registered as it is. -/
lemma exec_register_of_free {name : Text} (hname : IsName name) {r : Recorded (Workspace ι σ)}
    (hfree : ∀ entry ∈ r.state.registry.entries, entry.name ≠ name) (handler : Handler ι)
    (help : Text) :
    (register name handler help).exec r =
      (.ok (), ⟨⟨⟨r.state.registry.entries ++ [⟨name, handler, help⟩]⟩, r.state.host⟩,
        .notice (.registered name) :: r.journal⟩) := by
  have hexec := exec_register_of_not_refuses (Registry.not_refuses_of_free hname hfree) handler help
  rwa [hname.commandKey] at hexec

/-- Built-in commands with free names are registered one after the other. -/
lemma exec_register_builtins (builtins : List Builtin) (hnodup : (builtins.map Builtin.name).Nodup)
    (r : Recorded (Workspace ι σ))
    (hfree : ∀ b ∈ builtins, ∀ entry ∈ r.state.registry.entries, entry.name ≠ b.name) :
    ∃ journal, (builtins.forM fun b => register b.name (.builtin b) b.helpText).exec r =
      (.ok (), ⟨⟨⟨r.state.registry.entries ++ builtins.map Builtin.entry⟩, r.state.host⟩,
        journal⟩) := by
  induction builtins generalizing r with
  | nil =>
    rw [List.map_nil, List.append_nil]
    exact ⟨r.journal, rfl⟩
  | cons b builtins ih =>
    obtain ⟨hnew, hnodup⟩ := List.nodup_cons.mp hnodup
    let next : Recorded (Workspace ι σ) :=
      ⟨⟨⟨r.state.registry.entries ++ [b.entry]⟩, r.state.host⟩,
        .notice (.registered b.name) :: r.journal⟩
    have hfirst : (register b.name (.builtin b) b.helpText).exec r = (.ok (), next) :=
      exec_register_of_free b.isName_name (hfree b List.mem_cons_self) (.builtin b) b.helpText
    -- the names are different, so what is to come is still free
    have hfree' : ∀ b' ∈ builtins, ∀ entry ∈ next.state.registry.entries,
        entry.name ≠ b'.name := by
      intro b' hb' entry hentry
      rcases List.mem_append.mp hentry with hold | hlast
      · exact hfree b' (List.mem_cons_of_mem b hb') entry hold
      · rw [List.mem_singleton.mp hlast]
        intro (heq : b.name = b'.name)
        rw [heq] at hnew
        exact hnew (List.mem_map_of_mem hb')
    obtain ⟨journal, hrest⟩ := ih hnodup next hfree'
    rw [List.forM, Run.exec_bind_of_ok hfirst]
    refine ⟨journal, hrest.trans ?_⟩
    rw [List.append_assoc, List.singleton_append, List.map_cons]

/-- Where there is no shell, one is registered behind the other commands. -/
lemma exec_registerShell_of_free {r : Recorded (Workspace ι σ)}
    (h : r.state.registry.contains shellName = false) (settings : Settings) :
    (registerShell settings).exec r =
      (.ok (), ⟨⟨⟨r.state.registry.entries ++ [shellEntry settings]⟩, r.state.host⟩,
        .notice (.registered shellName) :: r.journal⟩) := by
  have hfree : ∀ entry ∈ r.state.registry.entries, entry.name ≠ shellName := by
    rw [Registry.contains_eq_any, isName_shellName.commandKey] at h
    intro entry hentry hname
    exact List.any_eq_false.mp h entry hentry (decide_eq_true hname)
  unfold registerShell
  rw [Run.exec_state_bind, h]
  exact exec_register_of_free isName_shellName hfree _ _

/-- From an empty registry, setting up leads to the standard one. -/
lemma exec_register_standard (settings : Settings) (host : σ) :
    ∃ journal, (do registerBuiltins; registerShell settings : Task ι σ Unit).exec ⟨⟨{}, host⟩, []⟩ =
      (.ok (), ⟨⟨.standard settings, host⟩, journal⟩) := by
  obtain ⟨journal, hbuiltins⟩ := exec_register_builtins Builtin.all (by decide +kernel)
    (⟨⟨{}, host⟩, []⟩ : Recorded (Workspace ι σ)) (fun _ _ _ hentry => nomatch hentry)
  have hnone : Registry.contains (ι := ι) ⟨Builtin.all.map Builtin.entry⟩ shellName = false := rfl
  have hshell : (registerShell settings : Task ι σ Unit).exec
      ⟨⟨⟨Builtin.all.map Builtin.entry⟩, host⟩, journal⟩ =
        (.ok (), ⟨⟨.standard settings, host⟩, .notice (.registered shellName) :: journal⟩) :=
    exec_registerShell_of_free hnone settings
  exact ⟨_, (Run.exec_bind_of_ok hbuiltins _).trans hshell⟩

end Workspace

/-- The commands are those of the standard registry, in any order. -/
def Registry.IsStandard (settings : Settings) (registry : Registry ι) : Prop :=
  registry.entries.Perm (standard settings).entries

namespace Registry.IsStandard

variable {settings : Settings} {registry : Registry ι}

/-- A command is a built-in one or the shell. -/
lemma cases_of_mem (h : registry.IsStandard settings) {entry : Entry ι}
    (hentry : entry ∈ registry.entries) :
    (∃ b : Builtin, entry = b.entry) ∨ entry = shellEntry settings := by
  rcases List.mem_append.mp (h.mem_iff.mp hentry) with hbuiltin | hshell
  · obtain ⟨b, -, rfl⟩ := List.mem_map.mp hbuiltin
    exact .inl ⟨b, rfl⟩
  · exact .inr (List.mem_singleton.mp hshell)

/-- The shell is found by any spelling of its name. -/
lemma lookup_of_shellName (h : registry.IsStandard settings) {word : Text}
    (hword : commandKey word = shellName) : registry.lookup word = some (shellEntry settings) := by
  have hshell : shellEntry settings ∈ registry.entries :=
    h.mem_iff.mpr (List.mem_append_right _ List.mem_cons_self)
  rcases hfound : registry.lookup word with - | entry
  · have hother := List.find?_eq_none.mp hfound _ hshell
    rw [decide_eq_true_eq, hword] at hother
    exact absurd rfl hother
  · have hname : entry.name = shellName := (Registry.name_of_lookup hfound).trans hword
    rcases h.cases_of_mem (List.mem_of_find?_eq_some hfound) with ⟨b, rfl⟩ | rfl
    · exact absurd hname b.name_ne_shellName
    · rfl

end Registry.IsStandard

/-! ## Lines -/

/-- Nothing is noted as an error of a line that completed. -/
lemma Outcome.error_not_noted {outcome : Outcome} (h : outcome.failure = none) :
    ("error" : Text) ∉ outcome.notes.map Prod.fst := by
  have hnames : outcome.notes.map Prod.fst =
      (["command", "known_command", "reply_count"] : List Text) := by
    unfold Outcome.notes
    rw [h]
    rfl
  rw [hnames]
  decide

/-- A run that leaves the workspace as it is and stops at cut-offs only. -/
def unmoved (w : Workspace ι σ) : Contract (Workspace ι σ) where
  inv w' := w' = w
  records _ := True
  faults := Fault.IsCutOff
  nothing := trivial
  append := fun _ _ => trivial
  notice := fun _ => trivial

namespace Engine

variable {engine : Engine ι σ} {settings : Settings} {limit : Nat} {w : Workspace ι σ}

/-- A dispatch with the patience for what the limit leaves leads to no other fault. -/
lemma keeps_dispatchWithin_standard (hlimit : settings.limit = some limit)
    (hstandard : w.registry.IsStandard settings) {rounds : Nat} {depth : Int}
    (hpositive : 0 < rounds) (hpatience : (limit : Int) + 2 ≤ rounds + depth) (text : Text) :
    Run.Keeps (unmoved w) (engine.dispatchWithin rounds settings text depth) := by
  -- the patience left and the depth add up to at least what is needed, and a dispatch within the
  -- limit leaves patience for another
  induction rounds generalizing depth text with
  | zero => exact absurd hpositive (Nat.lt_irrefl 0)
  | succ rounds ih =>
    refine keeps_dispatchOnce (fun _ => id) text ?_
    intro hdepth w' hw entry hentry args
    have hwithin : depth ≤ (limit : Int) := hdepth limit hlimit
    refine Run.Keeps.within (D := unmoved w) ?_ (fun _ => Iff.rfl) (fun _ _ => trivial) fun _ => id
    rw [show w' = w from hw] at hentry
    rcases hstandard.cases_of_mem hentry with ⟨b, rfl⟩ | rfl
    · exact keeps_builtin (fun _ => trivial) b args
    · refine keeps_shell (fun _ => id) (fun _ => Fault.IsCutOff.leaving) fun text =>
        keeps_joined text ?_
      refine ih ?_ ?_ text
      · omega
      · show (limit : Int) + 2 ≤ rounds + (depth + 1)
        omega

/-- A shell invoked with what is not a command replies so. -/
lemma exec_dispatchWithin_of_malformed {depth : Int}
    (hdepth : ∀ limit ∈ settings.limit, depth ≤ (limit : Int)) {text word args : Text}
    (hword : Text.firstWord? (Text.strip text) = some (word, args)) {fault : ParseFault}
    (hparse : Command.parse (engine.nesting settings).room args = .error fault)
    (hcause : fault.cause ≠ .tooDeep) (rounds : Nat) {r : Recorded (Workspace ι σ)}
    (hshell : (r.state.registry.lookup word).map (·.handler) = some (.shell settings)) :
    ∃ final, (engine.dispatchWithin (rounds + 1) settings text depth).exec r =
      (.ok ["Malformed command " ++ args], final) ∧ final.state = r.state := by
  obtain ⟨entry, hentry, hhandler⟩ := Option.map_eq_some_iff.mp hshell
  rw [engine.exec_dispatchWithin_of_lookup hdepth hword hentry rounds, Run.exec_within]
  unfold perform
  rw [hhandler]
  dsimp only
  rw [shell_eq, hparse, Run.exec_note_bind]
  dsimp only
  rw [Run.exec_note_bind, if_neg hcause, Run.exec_note_bind]
  exact ⟨_, rfl, rfl⟩

/-- A line handled with the standard registry completes, and nothing is noted as an error, or fails
because commands are nested too deep. -/
lemma exec_handle_standard (hlimit : settings.limit = some limit)
    (hpatience : limit + 2 ≤ engine.patience) (line : Text) {r : Recorded (Workspace ι σ)}
    (hstandard : r.state.registry.IsStandard settings) :
    ∃ outcome final, (engine.handle settings line).exec r = (.ok outcome, final) ∧
      final.state = r.state ∧
      (outcome.failure = none ∨
        ∃ failure, outcome.failure = some failure ∧ failure.reason = .depthExceeded) := by
  have hkeeps : Run.Keeps (unmoved r.state) (engine.dispatch settings line 0) :=
    keeps_dispatchWithin_standard hlimit hstandard (by omega) (by omega) line
  obtain ⟨-, -, -, hstate, hfaults⟩ := hkeeps (r.add (.notice (.received line))) rfl
  rw [exec_handle]
  rcases hrun : (engine.dispatch settings line 0).exec (r.add (.notice (.received line))) with
    ⟨fault | replies, after⟩
  · rw [hrun] at hstate hfaults
    obtain ⟨failure, final, hreport, hreason, hfinal⟩ :=
      exec_reportFault_of_isCutOff (hfaults fault rfl) line (commandOf line)
        (r.state.registry.contains (commandOf line)) after
    exact ⟨_, final, hreport, hfinal.trans hstate, .inr ⟨failure, rfl, hreason⟩⟩
  · rw [hrun] at hstate
    exact ⟨_, after, rfl, hstate, .inl rfl⟩

/-- Setting up leads to the standard registry. With its commands, every line comes to an outcome:
it completes, and nothing is noted as an error, or it fails because commands are nested too deep. At
any depth within the limit, a shell that is given no command replies so, and in an interpolation
that reply is spliced in. -/
theorem handle_standard (hlimit : settings.limit = some limit)
    (hpatience : limit + 2 ≤ engine.patience) :
    (∀ host : σ, ∃ journal,
      (do Workspace.registerBuiltins; Workspace.registerShell settings : Task ι σ Unit).exec
          ⟨⟨{}, host⟩, []⟩ = (.ok (), ⟨⟨.standard settings, host⟩, journal⟩)) ∧
    ∀ r : Recorded (Workspace ι σ), r.state.registry.IsStandard settings →
      (∀ line, ∃ outcome final, (engine.handle settings line).exec r = (.ok outcome, final) ∧
        final.state = r.state ∧
        (outcome.report.status = .complete ∧
            ("error" : Text) ∉ outcome.report.notes.map Prod.fst ∨
          outcome.report.status = .failed ∧ ∃ failure, outcome.failure = some failure ∧
            (("error" : Text), failure.value true) ∈ outcome.report.notes ∧
            failure.reason = .depthExceeded)) ∧
      ∀ rounds (depth : Int) text word args fault, depth ≤ (limit : Int) →
        Text.firstWord? (Text.strip text) = some (word, args) → commandKey word = shellName →
        Command.parse (engine.nesting settings).room args = .error fault →
        fault.cause ≠ .tooDeep →
        (∃ final, (engine.dispatchWithin (rounds + 1) settings text depth).exec r =
          (.ok ["Malformed command " ++ args], final) ∧ final.state = r.state) ∧
        ∃ final,
          (splice (fun inner => return .text (← engine.runWithin (rounds + 1) settings inner depth))
            text).exec r = (.ok ("Malformed command " ++ args), final) ∧ final.state = r.state := by
  refine ⟨Workspace.exec_register_standard settings, fun r hstandard => ⟨fun line => ?_, ?_⟩⟩
  · obtain ⟨outcome, final, hhandle, hstate, hcomplete | ⟨failure, hfailure, hreason⟩⟩ :=
      exec_handle_standard hlimit hpatience line hstandard
    · refine ⟨outcome, final, hhandle, hstate, .inl ⟨?_, outcome.error_not_noted hcomplete⟩⟩
      show outcome.status = .complete
      rw [Outcome.status, hcomplete]
      rfl
    · refine ⟨outcome, final, hhandle, hstate, .inr ⟨?_, failure, hfailure, ?_, hreason⟩⟩
      · show outcome.status = .failed
        rw [Outcome.status, hfailure]
        rfl
      · show _ ∈ outcome.notes
        unfold Outcome.notes
        rw [hfailure]
        exact List.mem_cons_self
  · intro rounds depth text word args fault hdepth hword hname hparse hcause
    have hfits : ∀ bound ∈ settings.limit, depth ≤ (bound : Int) := by
      intro bound hbound
      rw [Option.mem_unique hbound hlimit]
      exact hdepth
    have hshell : (r.state.registry.lookup word).map (·.handler) = some (.shell settings) := by
      rw [hstandard.lookup_of_shellName hname]
      rfl
    obtain ⟨final, hdispatch, hstate⟩ :=
      exec_dispatchWithin_of_malformed hfits hword hparse hcause rounds hshell
    refine ⟨⟨final, hdispatch, hstate⟩, ?_⟩
    rw [exec_splice_text]
    unfold runWithin joined
    rw [Run.exec_bind_of_ok hdispatch, Run.exec_note_bind, Text.join_singleton]
    exact ⟨_, rfl, hstate⟩

/-- Under a limit of one, a shell in an interpolation is given a stray marker that another command
spells out, and its reply is spliced in; and two shells inside one another fail. -/
theorem handle_standard_stray :
    let settings : Settings := { limit := some 1 }
    let start : Recorded (Workspace Empty Unit) := ⟨⟨.standard settings, ()⟩, []⟩
    let engine := Program.engine none
    (((engine.handle settings "shell echo $(shell echo \\))").exec start).1.map fun outcome =>
      (outcome.content, outcome.status)).toOption =
        some (("Malformed command echo )" : Text), Status.complete) ∧
    (((engine.handle settings "shell shell ping").exec start).1.map fun outcome =>
      outcome.failure.map (·.reason)).toOption = some (some .depthExceeded) ∧
    (∃ outcome final,
      (engine.handle settings "shell echo $(shell echo \\))").exec start = (.ok outcome, final) ∧
      final.state = start.state ∧
      (outcome.report.status = .complete ∧
          ("error" : Text) ∉ outcome.report.notes.map Prod.fst ∨
        outcome.report.status = .failed ∧ ∃ failure, outcome.failure = some failure ∧
          (("error" : Text), failure.value true) ∈ outcome.report.notes ∧
          failure.reason = .depthExceeded)) ∧
    ∃ final, (engine.dispatchWithin 1 settings "SHELL ) ping" 1).exec start =
      (.ok ["Malformed command ) ping"], final) ∧ final.state = start.state := by
  intro settings start engine
  have hlimit : settings.limit = some 1 := rfl
  have hpatience : 1 + 2 ≤ engine.patience := by decide
  obtain ⟨-, hstandard⟩ := handle_standard hlimit hpatience
  obtain ⟨hline, hmalformed⟩ := hstandard start (.refl _)
  refine ⟨by decide +kernel, by decide +kernel, hline _, ?_⟩
  have hparse : Command.parse (engine.nesting settings).room (')' :: " ping".toList) =
      .error ⟨.stray, ") ping"⟩ := by
    rw [Command.parse_eq_front, Command.front_closing]
    rfl
  obtain ⟨hreply, -⟩ := hmalformed 0 1 "SHELL ) ping" "SHELL" ") ping" ⟨.stray, ") ping"⟩
    (by decide) (by decide +kernel) (by decide +kernel) hparse (by decide)
  exact hreply

end Engine

end Subshell
