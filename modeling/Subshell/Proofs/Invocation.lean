import Mathlib.Tactic.Lemma
import Subshell.Handling
import Subshell.Proofs.Strip
/-!
# What one invocation does

The equations of the engine from which its runs are taken apart:

* `Run.ext` compares runs by what they come to, and `Recorded.add` is what a single event adds;
* `exec_splice_text` is an interpolation whose callback returns texts only;
* `shell_eq` is the shell by cases of what its arguments are: a command, which is carried out,
  something nested too deep, which is a fault, or anything else, which is answered;
* `checkDepth_eq_pure` and `exec_checkDepth_of_lt` are the two sides of the depth limit;
* `exec_dispatchWithin_of_lookup` is a dispatch within the limit, to a command that there is, and
  `exec_dispatchWithin_of_lt` one beyond it;
* `commandOf_eq` and `commandKey_commandOf` relate the command of a line to the word that a dispatch
  takes off it and to the name that it is looked up under;
* `exec_handle` is a line, which completes or has its fault reported.

A fault is a cut-off (`Fault.IsCutOff`) when it says that something is nested too deep, at a
position that there can be. Such faults are reported as what they are
(`exec_reportFault_of_isCutOff`), and so is any other failure (`exec_reportFault_of_isFailure`).

`counter` is a small host at which the theorems about engines are tried out.
-/

namespace Subshell

variable {σ α : Type}

/-- What is recorded once an event is. -/
def Recorded.add (r : Recorded σ) (event : Event) : Recorded σ :=
  { r with journal := event :: r.journal }

@[simp] lemma Recorded.state_add (r : Recorded σ) (event : Event) :
    (r.add event).state = r.state := rfl

@[simp] lemma Recorded.journal_add (r : Recorded σ) (event : Event) :
    (r.add event).journal = event :: r.journal := rfl

/-- Runs that come to the same from every record are the same. -/
lemma Run.ext {a b : Run σ α} (h : ∀ r, a.exec r = b.exec r) : a = b := funext h

lemma Run.exec_bind_of_ok {β : Type} {run : Run σ α} {r after : Recorded σ} {a : α}
    (h : run.exec r = (.ok a, after)) (next : α → Run σ β) :
    (run >>= next).exec r = (next a).exec after := by
  rw [Run.exec_bind, h]

lemma Run.exec_bind_of_error {β : Type} {run : Run σ α} {r after : Recorded σ} {fault : Fault}
    (h : run.exec r = (.error fault, after)) (next : α → Run σ β) :
    (run >>= next).exec r = (.error fault, after) := by
  rw [Run.exec_bind, h]

/-- Goes on with a run after it has recorded a notice. -/
lemma Run.exec_note_bind (notice : Notice) (next : Unit → Run σ α) (r : Recorded σ) :
    (Run.note notice >>= next).exec r = (next ()).exec (r.add (.notice notice)) := rfl

/-- A run that goes on with the state goes on with what is recorded. -/
lemma Run.exec_state_bind (next : σ → Run σ α) (r : Recorded σ) :
    (Run.state >>= next).exec r = (next r.state).exec r := rfl

/-- A single reply is joined to itself. -/
lemma Text.join_singleton (separator text : Text) : Text.join separator [text] = text :=
  List.intercalate_singleton

/-- A command that is found has the name that was looked for. -/
lemma Registry.name_of_lookup {ι : Type} {registry : Registry ι} {name : Text} {entry : Entry ι}
    (h : registry.lookup name = some entry) : entry.name = commandKey name := by
  have hfound := List.find?_some h
  exact of_decide_eq_true hfound

/-! ## Faults of nesting -/

/-- A fault that says that something is nested too deep, and if it says where, then not before the
text begins. -/
def Fault.IsCutOff : Fault → Prop
  | .tooDeep fault => ∀ position ∈ fault.position, 0 ≤ position
  | _ => False

lemma Fault.IsCutOff.eq_tooDeep {fault : Fault} (h : fault.IsCutOff) :
    ∃ deep, fault = .tooDeep deep := by
  cases fault with
  | tooDeep deep => exact ⟨deep, rfl⟩
  | _ => cases h

/-- Of a fault that does not say where, nothing is asked. -/
lemma Fault.isCutOff_of_nowhere (source details : Text) (limit : Option Int) :
    (Fault.tooDeep ⟨source, limit, details, none⟩).IsCutOff := by
  intro position hposition
  cases hposition

/-- A cut-off leaves an interpolation as it is. -/
lemma Fault.IsCutOff.leaving {fault : Fault} (h : fault.IsCutOff) : fault.leaving.IsCutOff := by
  obtain ⟨deep, rfl⟩ := h.eq_tooDeep
  exact h

/-- The reason that a failure is reported for. -/
def Fault.reason : Fault → Reason
  | .tooDeep _ => .depthExceeded
  | .evaluation _ => .unexpectedError
  | _ => .commandFailure

namespace Nesting

variable {nesting : Nesting} {text : Text} {fault : ParseFault}

/-- What is nested too deep for the reader is cut off. -/
lemma isCutOff_fault (h : fault.cause = .tooDeep) : (nesting.fault text fault).IsCutOff := by
  unfold Nesting.fault
  split
  · exact Fault.isCutOff_of_nowhere _ _ _
  · unfold ParseFault.toFault
    rw [h]
    intro position hposition
    cases hposition
    exact Int.natCast_nonneg _

/-- Anything else that is wrong with a text does not hang on how deep it may nest. -/
lemma fault_of_cause_ne (h : fault.cause ≠ .tooDeep) :
    nesting.fault text fault =
      .malformed ⟨fault.cause.summary, text, fault.details text, some (fault.position text)⟩ := by
  have hexhausts : nesting.exhausts fault = false := by
    simp [Nesting.exhausts, h]
  unfold Nesting.fault ParseFault.toFault
  rw [hexhausts]
  split
  · next hcontra => cases hcontra
  · split
    · next hcause => exact absurd hcause h
    · rfl

/-- The same holds of what the log is told. -/
lemma notice_of_cause_ne (other : Nesting) (h : fault.cause ≠ .tooDeep) :
    nesting.notice text fault = other.notice text fault := by
  unfold Nesting.notice
  rcases hcause : fault.cause
  · exact absurd hcause h
  · rfl
  · rfl
  · rfl

end Nesting

/-! ## Interpolations -/

/-- A callback that returns texts only: the text takes the place of the interpolation, and a fault
leaves it. -/
lemma exec_splice_text (call : Text → Run σ Text) (inner : Text) (r : Recorded σ) :
    (splice (fun inner => return .text (← call inner)) inner).exec r =
      match (call inner).exec r with
      | (.ok result, after) => (.ok result, after.add (.notice (.interpolated inner result)))
      | (.error fault, after) => (.error fault.leaving, after) := by
  unfold splice
  rw [Run.exec_bind, Run.exec_attempt, Run.exec_bind]
  rcases (call inner).exec r with ⟨fault | result, after⟩ <;> rfl

namespace Engine

variable {ι : Type} (engine : Engine ι σ)

/-! ## The shell -/

/-- The shell by cases of what its arguments are. -/
theorem shell_eq (call : Caller ι σ) (settings : Settings) (context : Context) :
    engine.shell call settings context = (do
      Run.note (.parsing context.args)
      match Command.parse (engine.nesting settings).room context.args with
      | .ok command =>
        Run.note (.parsed command.length)
        carryOut call settings context command
      | .error fault =>
        Run.note ((engine.nesting settings).notice context.args fault)
        if fault.cause = .tooDeep then throw ((engine.nesting settings).fault context.args fault)
        else
          Run.note (.malformedShell context.args fault.cause.summary)
          return ["Malformed command " ++ context.args]) := by
  apply Run.ext
  intro r
  unfold shell
  rw [Run.exec_bind, Run.exec_attempt, Nesting.read, Run.exec_note_bind, Run.exec_note_bind]
  rcases Command.parse (engine.nesting settings).room context.args with fault | command
  · dsimp only
    rw [Run.exec_note_bind, Run.exec_note_bind, Run.exec_throw]
    by_cases hcause : fault.cause = .tooDeep
    · rw [if_pos hcause]
      obtain ⟨deep, hdeep⟩ : ∃ deep,
          (engine.nesting settings).fault context.args fault = .tooDeep deep :=
        (Nesting.isCutOff_fault hcause).eq_tooDeep
      rw [hdeep]
    · rw [if_neg hcause, Nesting.fault_of_cause_ne hcause]
  · rfl

/-! ## The depth limit -/

/-- A depth is within the limit or beyond it. -/
lemma within_or_beyond (settings : Settings) (depth : Int) :
    (∀ limit ∈ settings.limit, depth ≤ (limit : Int)) ∨
      ∃ limit : Nat, settings.limit = some limit ∧ (limit : Int) < depth := by
  rcases settings.limit with - | limit
  · exact .inl fun _ h => nomatch h
  · by_cases h : depth ≤ (limit : Int)
    · refine .inl fun bound hbound => ?_
      cases hbound
      exact h
    · exact .inr ⟨limit, rfl, Int.not_le.mp h⟩

/-- No limit is below depth zero. -/
lemma zero_within (settings : Settings) : ∀ limit ∈ settings.limit, (0 : Int) ≤ (limit : Int) :=
  fun limit _ => Int.natCast_nonneg limit

/-- A dispatch that is not too deep goes on. -/
lemma checkDepth_eq_pure {settings : Settings} {depth : Int}
    (h : ∀ limit ∈ settings.limit, depth ≤ (limit : Int)) (text : Text) :
    (checkDepth settings text depth : Task ι σ Unit) = pure () := by
  unfold checkDepth
  rcases hlimit : settings.limit with - | limit
  · rfl
  · have hle : ¬(limit : Int) < depth := Int.not_lt.mpr (h limit hlimit)
    dsimp only
    rw [if_neg hle]

/-- A dispatch that is too deep is stopped before anything else. -/
lemma exec_checkDepth_of_lt {settings : Settings} {limit : Nat} {depth : Int}
    (hlimit : settings.limit = some limit) (h : (limit : Int) < depth) (text : Text)
    (r : Recorded (Workspace ι σ)) :
    (checkDepth settings text depth).exec r =
      (.error (.tooDeep ⟨text, some limit,
          "Nested command invocation at depth " ++ Text.ofInt depth, none⟩),
        r.add (.notice (.invocationTooDeep depth limit text))) := by
  unfold checkDepth
  rw [hlimit]
  dsimp only
  rw [if_pos h]
  rfl

/-- A dispatch that is too deep has no other effect, whatever is registered. -/
lemma exec_dispatchWithin_of_lt {settings : Settings} {limit : Nat} {depth : Int}
    (hlimit : settings.limit = some limit) (h : (limit : Int) < depth) (rounds : Nat) (text : Text)
    (r : Recorded (Workspace ι σ)) :
    (engine.dispatchWithin (rounds + 1) settings text depth).exec r =
      (.error (.tooDeep ⟨text, some limit,
          "Nested command invocation at depth " ++ Text.ofInt depth, none⟩),
        r.add (.notice (.invocationTooDeep depth limit text))) := by
  unfold dispatchWithin dispatchOnce
  exact Run.exec_bind_of_error (exec_checkDepth_of_lt hlimit h text r) _

/-- Nor has its result. -/
lemma exec_runWithin_of_lt {settings : Settings} {limit : Nat} {depth : Int}
    (hlimit : settings.limit = some limit) (h : (limit : Int) < depth) (rounds : Nat) (text : Text)
    (r : Recorded (Workspace ι σ)) :
    (engine.runWithin (rounds + 1) settings text depth).exec r =
      (.error (.tooDeep ⟨text, some limit,
          "Nested command invocation at depth " ++ Text.ofInt depth, none⟩),
        r.add (.notice (.invocationTooDeep depth limit text))) := by
  unfold runWithin joined
  exact Run.exec_bind_of_error (engine.exec_dispatchWithin_of_lt hlimit h rounds text r) _

/-- A dispatch of a text whose first word names a command is an invocation of the command with the
rest of the text. -/
lemma exec_dispatchWithin_of_lookup {settings : Settings} {depth : Int}
    (h : ∀ limit ∈ settings.limit, depth ≤ (limit : Int)) {text word args : Text}
    (hword : Text.firstWord? (Text.strip text) = some (word, args))
    {r : Recorded (Workspace ι σ)} {entry : Entry ι}
    (hentry : r.state.registry.lookup word = some entry) (rounds : Nat) :
    (engine.dispatchWithin (rounds + 1) settings text depth).exec r =
      (Run.within (.invoked ⟨entry.name, args, depth⟩) (.finished ⟨entry.name, args, depth⟩)
          (engine.perform (engine.runWithin rounds) entry.handler
            ⟨entry.name, args, depth⟩)).exec
        (r.add (.notice (.dispatching entry.name args depth))) := by
  unfold dispatchWithin dispatchOnce
  rw [checkDepth_eq_pure h, pure_bind, hword]
  dsimp only
  rw [Run.exec_state_bind, hentry]
  rfl

/-! ## Handling a line -/

/-- Blanks around a line do not matter for its command. -/
lemma commandOf_strip (line : Text) : commandOf (Text.strip line) = commandOf line := by
  unfold commandOf
  rw [Text.map_fst_firstWord?_strip]

/-- The first word that a dispatch takes off a line names the command of the line. -/
lemma commandOf_eq {line word args : Text}
    (h : Text.firstWord? (Text.strip line) = some (word, args)) : commandOf line = word := by
  rw [← commandOf_strip, commandOf, h]
  rfl

/-- A line without words has the empty command. -/
lemma commandOf_eq_nil {line : Text} (h : Text.firstWord? (Text.strip line) = none) :
    commandOf line = [] := by
  rw [← commandOf_strip, commandOf, h]
  rfl

/-- The command of a line begins where the line does, blanks not counted. -/
lemma head?_commandOf (line : Text) : (commandOf line).head? = (Text.strip line).head? := by
  rcases hfirst : Text.firstWord? (Text.strip line) with - | ⟨word, args⟩
  · have hleft : Text.stripLeft (Text.strip line) = [] :=
      Text.stripLeft_eq_nil_iff.mpr (Text.firstWord?_eq_none_iff.mp hfirst)
    rw [Text.stripLeft_strip] at hleft
    rw [commandOf_eq_nil hfirst, hleft]
  · obtain ⟨tail, hleft, -⟩ := Text.exists_of_firstWord? hfirst
    have hne : word ≠ [] := (Text.isWord_of_firstWord? hfirst).1
    rw [Text.stripLeft_strip] at hleft
    rw [commandOf_eq hfirst, hleft, List.head?_append_of_ne_nil word hne]

/-- The command of a line has no blanks around it, so that only its letter case differs from the
name that it is looked up under. -/
lemma commandKey_commandOf (line : Text) :
    commandKey (commandOf line) = Text.lower (commandOf line) := by
  have hblank : ∀ c ∈ commandOf line, isBlank c = false := by
    unfold commandOf
    rcases hfirst : Text.firstWord? line with - | ⟨word, rest⟩
    · intro c hc
      cases hc
    · exact (Text.isWord_of_firstWord? hfirst).2
  rw [commandKey, Text.strip_of_not_blank hblank]

/-- A line completes with its replies, or its fault is reported. -/
lemma exec_handle (settings : Settings) (line : Text) (r : Recorded (Workspace ι σ)) :
    (engine.handle settings line).exec r =
      let known := r.state.registry.contains (commandOf line)
      match (engine.dispatch settings line 0).exec (r.add (.notice (.received line))) with
      | (.ok replies, after) =>
        (.ok { content := Text.join settings.separator replies, replies,
               command := commandOf line, known }, after)
      | (.error fault, after) => (reportFault line (commandOf line) known fault).exec after := by
  unfold handle
  rw [Run.exec_note_bind, Run.exec_state_bind, Run.exec_bind, Run.exec_attempt]
  rcases (engine.dispatch settings line 0).exec (r.add (.notice (.received line))) with
    ⟨fault | replies, after⟩ <;> rfl

/-- A failure is reported for its reason, after the log is told, unless its position lies before the
text. -/
lemma exec_reportFault_of_isFailure {fault : Fault} (hfailure : fault.isFailure = true)
    (hposition : ∀ deep, fault = .tooDeep deep → ∀ position ∈ deep.position, 0 ≤ position)
    (line command : Text) (known : Bool) (r : Recorded (Workspace ι σ)) :
    ∃ failure notice, (reportFault line command known fault).exec r =
        (.ok (failed command known failure), r.add (.notice notice)) ∧
      failure.reason = fault.reason := by
  unfold reportFault
  cases fault with
  | tooDeep deep =>
    have hany : deep.position.any (· < 0) = false := by
      rcases hp : deep.position with - | position
      · rfl
      · have hnonneg : 0 ≤ position := hposition deep rfl position hp
        simpa using hnonneg
    dsimp only
    rw [Run.exec_note_bind, hany]
    exact ⟨_, _, rfl, rfl⟩
  | exit code => cases hfailure
  | other kind message =>
    dsimp only
    rw [hfailure]
    exact ⟨_, _, rfl, rfl⟩
  | _ => exact ⟨_, _, rfl, rfl⟩

/-- A cut-off is reported as a depth that was exceeded. -/
lemma exec_reportFault_of_isCutOff {fault : Fault} (h : fault.IsCutOff) (line command : Text)
    (known : Bool) (r : Recorded (Workspace ι σ)) :
    ∃ failure final, (reportFault line command known fault).exec r =
        (.ok (failed command known failure), final) ∧ failure.reason = .depthExceeded ∧
      final.state = r.state := by
  obtain ⟨deep, rfl⟩ := h.eq_tooDeep
  have hfailure : (Fault.tooDeep deep).isFailure = true := rfl
  have hposition : ∀ other, Fault.tooDeep deep = .tooDeep other →
      ∀ position ∈ other.position, 0 ≤ position := by
    intro other heq
    cases heq
    exact h
  obtain ⟨failure, notice, hexec, hreason⟩ :=
    exec_reportFault_of_isFailure hfailure hposition line command known r
  exact ⟨failure, _, hexec, hreason, rfl⟩

/-! ## A host that counts -/

/-- An engine with a single handler, which replies with how often it has been invoked. -/
def counter : Engine Unit Nat where
  act _ _ _ := do
    Run.change fun w => { w with host := w.host + 1 }
    return [Text.ofNat (← Run.state).host]

/-- The counter registered as `tick`, next to the shell. -/
def ticking (settings : Settings) : Workspace Unit Nat where
  registry := ⟨[⟨"tick", .custom (), []⟩, ⟨shellName, .shell settings, shellHelp⟩]⟩
  host := 0

lemma exec_counter (h : Unit) (call : Caller Unit Nat) (context : Context)
    (r : Recorded (Workspace Unit Nat)) :
    (counter.act h call context).exec r =
      (.ok [Text.ofNat (r.state.host + 1)],
        { r with state := { r.state with host := r.state.host + 1 } }) := rfl

end Engine

end Subshell
