import Subshell.Proofs.Rewriting
import Subshell.Proofs.Surfacing
/-!
# What a shell dispatches

The dispatches that a shell makes are kept in a list, each with what came of it (`Caller.kept`).
What may stand in that list is said without running anything:

* `Command.Asks` goes over a command with the answers to its interpolations, and says what each of
  them asks for and which text comes out;
* `Command.AsksNext` is what comes next after some of the answers, whatever it will be answered;
* `Command.Resolved` and `Command.CarriedOut` put them together: all the dispatches are made, or all
  up to one that stops at a fault.

`shell_kept` is the comparison with the shell.
-/

namespace Subshell

variable {ι σ : Type}

/-! ## What a command asks for -/

namespace Command

/-- What the interpolations of a command ask for, in post-order, each with the answer to it, and the
text that the answers make of the command. -/
inductive Asks : Command → List (Text × Text) → Text → Prop
  | nil : Asks nil [] []
  | literal {rest : Command} {asked : List (Text × Text)} {after : Text} (text : Text) :
    Asks rest asked after → Asks (literal text rest) asked (text ++ after)
  | interpolation {inner rest : Command} {within behind : List (Text × Text)}
    {content after : Text} (answer : Text) :
    Asks inner within content → Asks rest behind after →
      Asks (interpolation inner rest) (within ++ (content, answer) :: behind) (answer ++ after)

/-- After some answers, a command asks for a text, whatever the answer to it will be. -/
def AsksNext (command : Command) (asked : List (Text × Text)) (text : Text) : Prop :=
  ∀ answer, ∃ later whole, command.Asks (asked ++ (text, answer) :: later) whole

variable {command inner rest : Command} {asked within : List (Text × Text)} {content whole : Text}

/-- A command can be gone over to its end. -/
lemma exists_asks (command : Command) : ∃ asked whole, command.Asks asked whole := by
  induction command with
  | nil => exact ⟨_, _, .nil⟩
  | literal text rest ih =>
    obtain ⟨asked, after, hrest⟩ := ih
    exact ⟨_, _, .literal text hrest⟩
  | interpolation inner rest ihinner ihrest =>
    obtain ⟨within, content, hinner⟩ := ihinner
    obtain ⟨behind, after, hrest⟩ := ihrest
    exact ⟨_, _, .interpolation [] hinner hrest⟩

/-- Each interpolation asks for the text that the answers just before it make of its inner
command. -/
theorem Asks.forall₂_postorder (h : command.Asks asked whole) :
    List.Forall₂ (fun inner ask => ∃ within, within ++ [ask] <:+: asked ∧ inner.Asks within ask.1)
      command.postorder asked := by
  induction h with
  | nil => exact .nil
  | literal text _ ih => exact ih
  | @interpolation inner rest within behind content after answer hinner _ ihinner ihrest =>
    have hfront : within ++ [(content, answer)] <+: within ++ (content, answer) :: behind :=
      ⟨behind, List.append_assoc _ _ _⟩
    have hwithin : within <:+: within ++ (content, answer) :: behind :=
      (List.prefix_append _ _).isInfix
    have hbehind : behind <:+: within ++ (content, answer) :: behind :=
      ((List.suffix_cons _ _).trans (List.suffix_append _ _)).isInfix
    refine List.rel_append ?_ (.cons ⟨within, hfront.isInfix, hinner⟩ ?_)
    · exact ihinner.imp fun _ _ ⟨part, hpart, h⟩ => ⟨part, hpart.trans hwithin, h⟩
    · exact ihrest.imp fun _ _ ⟨part, hpart, h⟩ => ⟨part, hpart.trans hbehind, h⟩

/-- There is one text asked for to each interpolation. -/
lemma Asks.length_eq (h : command.Asks asked whole) :
    asked.length = command.interpolationCount := by
  rw [← length_postorder]
  exact h.forall₂_postorder.length_eq.symm

namespace AsksNext

variable {text : Text}

lemma literal (h : rest.AsksNext asked text) (first : Text) :
    (literal first rest).AsksNext asked text := by
  intro answer
  obtain ⟨later, after, hrest⟩ := h answer
  exact ⟨later, _, .literal first hrest⟩

/-- An inner command is gone over first. -/
lemma inside (h : inner.AsksNext asked text) (rest : Command) :
    (interpolation inner rest).AsksNext asked text := by
  intro answer
  obtain ⟨later, content, hinner⟩ := h answer
  obtain ⟨behind, after, hrest⟩ := rest.exists_asks
  refine ⟨later ++ (content, []) :: behind, [] ++ after, ?_⟩
  rw [← List.cons_append, ← List.append_assoc]
  exact .interpolation [] hinner hrest

/-- Then the text that comes out of it is asked for. -/
lemma front (h : inner.Asks within content) (rest : Command) :
    (interpolation inner rest).AsksNext within content := by
  intro answer
  obtain ⟨behind, after, hrest⟩ := rest.exists_asks
  exact ⟨behind, _, .interpolation answer h hrest⟩

/-- What lies behind an interpolation is gone over last. -/
lemma behind (hinner : inner.Asks within content) (answer : Text) (h : rest.AsksNext asked text) :
    (interpolation inner rest).AsksNext (within ++ (content, answer) :: asked) text := by
  intro next
  obtain ⟨later, after, hrest⟩ := h next
  refine ⟨later, answer ++ after, ?_⟩
  rw [List.append_assoc, List.cons_append]
  exact .interpolation answer hinner hrest

/-- There is an interpolation that still asks. -/
lemma length_lt (h : command.AsksNext asked text) :
    asked.length < command.interpolationCount := by
  obtain ⟨later, whole, hasks⟩ := h []
  rw [← hasks.length_eq, List.length_append, List.length_cons]
  omega

end AsksNext

end Command

/-! ## Keeping dispatches -/

/-- A dispatch, with what came of it. -/
structure Dispatched where
  settings : Settings
  text : Text
  depth : Int
  result : Except Fault Text

/-- A text that was dispatched, with the result. -/
def Dispatched.answered (settings : Settings) (depth : Int) (ask : Text × Text) : Dispatched :=
  ⟨settings, ask.1, depth, .ok ask.2⟩

/-- What is recorded, with dispatches as a part of the state of the host. -/
def Recorded.keeping (r : Recorded (Workspace ι σ)) (dispatches : List Dispatched) :
    Recorded (Workspace ι (σ × List Dispatched)) :=
  ⟨⟨r.state.registry, r.state.host, dispatches⟩, r.journal⟩

/-- What is recorded, without the dispatches that are kept. -/
def Recorded.released (r : Recorded (Workspace ι (σ × List Dispatched))) :
    Recorded (Workspace ι σ) :=
  ⟨⟨r.state.registry, r.state.host.1⟩, r.journal⟩

/-- The dispatches that are kept, in the order in which they were made. -/
def Recorded.dispatches (r : Recorded (Workspace ι (σ × List Dispatched))) : List Dispatched :=
  r.state.host.2

@[simp] lemma Recorded.released_keeping (r : Recorded (Workspace ι σ))
    (dispatches : List Dispatched) : (r.keeping dispatches).released = r := rfl

@[simp] lemma Recorded.dispatches_keeping (r : Recorded (Workspace ι σ))
    (dispatches : List Dispatched) : (r.keeping dispatches).dispatches = dispatches := rfl

/-- A way to dispatch that keeps what is dispatched. -/
def Caller.kept (call : Caller ι σ) : Caller ι (σ × List Dispatched) :=
  fun settings text depth => ExceptT.mk fun r =>
    let (result, after) := (call settings text depth).exec r.released
    (result, after.keeping (r.dispatches ++ [⟨settings, text, depth, result⟩]))

lemma Caller.exec_kept (call : Caller ι σ) (settings : Settings) (text : Text) (depth : Int)
    (r : Recorded (Workspace ι σ)) (dispatches : List Dispatched) :
    (call.kept settings text depth).exec (r.keeping dispatches) =
      let (result, after) := (call settings text depth).exec r
      (result, after.keeping (dispatches ++ [⟨settings, text, depth, result⟩])) := rfl

/-- Reading a text comes to the command that it writes or to the fault of the text. -/
lemma Nesting.exec_read (nesting : Nesting) (text : Text) (r : Recorded σ) :
    ((nesting.read text).exec r).1 = nesting.parse text := by
  unfold Nesting.read Nesting.parse
  rw [Run.exec_note_bind]
  rcases Command.parse nesting.room text with fault | command
  · rfl
  · rfl

namespace Engine

/-- The engine without its handlers. A shell needs nothing of an engine but how deep it can follow
interpolations. -/
def muted {τ : Type} (engine : Engine ι σ) : Engine ι τ where
  act _ _ _ := return []
  capacity := engine.capacity
  patience := engine.patience

/-- Keeping the dispatches makes no difference. -/
def keeping (engine : Engine ι σ) :
    (engine.muted : Engine ι σ).Likeness (engine.muted : Engine ι (σ × List Dispatched)) :=
  .exact (fun r s => s.released = r) (fun event _ _ h => congrArg (Recorded.add · event) h)
    (fun h => congrArg (fun r => r.state.registry) h.symm) rfl fun _ _ _ _ => .pure rfl

lemma matches_kept (call : Caller ι σ) (settings : Settings) (text : Text) (depth : Int) :
    Run.Matches (fun r s => s.released = r) (fun _ => False) Eq (call settings text depth)
      (call.kept settings text depth) := by
  rintro _ s rfl
  exact .inr ⟨corresponds_eq_iff.mpr rfl, rfl⟩

end Engine

/-! ## Carrying out a command -/

namespace Command

/-- What is dispatched at a depth for the interpolations of a command, and what comes of it. -/
inductive Resolved (settings : Settings) (depth : Int) (command : Command) :
    List Dispatched → Except Fault Text → Prop
  /-- All are answered. -/
  | answered {asked : List (Text × Text)} {whole : Text} : command.Asks asked whole →
    Resolved settings depth command (asked.map (.answered settings depth)) (.ok whole)
  /-- One stops at a fault, which leaves the interpolation. -/
  | interrupted {asked : List (Text × Text)} {text : Text} (fault : Fault) :
    command.AsksNext asked text →
    Resolved settings depth command
      (asked.map (.answered settings depth) ++ [⟨settings, text, depth, .error fault⟩])
      (.error fault.leaving)

/-- What a shell dispatches at a depth to carry out a command, and what comes of the shell. -/
inductive CarriedOut (settings : Settings) (depth : Int) (command : Command) :
    List Dispatched → Except Fault (List Text) → Prop
  /-- The text that comes out has a result, and the shell replies with it. -/
  | replied {made : List Dispatched} {whole : Text} (result : Text) :
    command.Resolved settings depth made (.ok whole) →
    CarriedOut settings depth command (made ++ [⟨settings, whole, depth, .ok result⟩])
      (.ok (if result.isEmpty && settings.suppressEmpty then [] else [result]))
  /-- The text that comes out stops at a fault. -/
  | stopped {made : List Dispatched} {whole : Text} (fault : Fault) :
    command.Resolved settings depth made (.ok whole) →
    CarriedOut settings depth command (made ++ [⟨settings, whole, depth, .error fault⟩])
      (.error fault)
  /-- No text comes out. -/
  | interrupted {made : List Dispatched} {fault : Fault} :
    command.Resolved settings depth made (.error fault) →
    CarriedOut settings depth command made (.error fault)

section Shell

variable (call : Caller ι σ) (settings : Settings)

/-- The interpolations are dispatched as the command asks for them, up to the first that stops at a
fault. -/
theorem exec_resolve_kept (depth : Int) (command : Command) (r : Recorded (Workspace ι σ))
    (before : List Dispatched) :
    ∃ made result after, command.Resolved settings depth made result ∧
      (command.resolve (splice fun inner => return .text (← call.kept settings inner depth))).exec
          (r.keeping before) =
        (result, Recorded.keeping after (before ++ made)) := by
  induction command generalizing r before with
  | nil =>
    refine ⟨[], .ok [], r, .answered .nil, ?_⟩
    rw [List.append_nil]
    rfl
  | literal text rest ih =>
    obtain ⟨made, _, after, hrest, hexec⟩ := ih r before
    cases hrest with
    | answered hasks =>
      exact ⟨_, _, after, .answered (.literal text hasks), Run.exec_bind_of_ok hexec _⟩
    | interrupted fault hasks =>
      exact ⟨_, _, after, .interrupted fault (hasks.literal text), Run.exec_bind_of_error hexec _⟩
  | interpolation inner rest ihinner ihrest =>
    obtain ⟨made, _, r₁, hinner, hexec⟩ := ihinner r before
    cases hinner with
    | interrupted fault hasks =>
      exact ⟨_, _, r₁, .interrupted fault (hasks.inside rest), Run.exec_bind_of_error hexec _⟩
    | @answered within content hasks =>
    rw [resolve, Run.exec_bind_of_ok hexec, Run.exec_bind, exec_splice_text, Caller.exec_kept]
    rcases (call settings content depth).exec r₁ with ⟨fault | answer, r₂⟩
    · refine ⟨_, _, r₂, .interrupted fault (.front hasks rest), ?_⟩
      rw [← List.append_assoc]
    -- what lies behind goes on from all that is dispatched so far
    obtain ⟨made, _, after, hrest, hexec⟩ :=
      ihrest (r₂.add (.notice (.interpolated content answer)))
        (before ++ within.map (.answered settings depth) ++
          [.answered settings depth (content, answer)])
    have hsofar : before ++ within.map (.answered settings depth) ++
        [.answered settings depth (content, answer)] ++ made =
          before ++ (within.map (.answered settings depth) ++
            .answered settings depth (content, answer) :: made) := by
      simp only [List.append_assoc, List.cons_append, List.nil_append]
    rw [hsofar] at hexec
    cases hrest with
    | answered hrest =>
      refine ⟨_, _, after, .answered (.interpolation answer hasks hrest), ?_⟩
      rw [List.map_append]
      exact Run.exec_bind_of_ok hexec _
    | interrupted fault hrest =>
      refine ⟨_, _, after, .interrupted fault (hrest.behind hasks answer), ?_⟩
      rw [List.map_append, List.append_assoc]
      exact Run.exec_bind_of_error hexec _

/-- A shell that has dispatched nothing yet carries out a command. -/
theorem carriedOut_of_kept (context : Context) (command : Command) (r : Recorded (Workspace ι σ)) :
    let kept := (Engine.carryOut call.kept settings context command).exec (r.keeping [])
    command.CarriedOut settings (context.depth + 1) kept.2.dispatches kept.1 := by
  intro kept
  obtain ⟨made, result, after, hresolved, hexec⟩ :=
    exec_resolve_kept call settings (context.depth + 1) command
      (r.add (.notice (.executing command.interpolationCount))) []
  have hexecute : (command.execute fun inner =>
      return .text (← call.kept settings inner (context.depth + 1))).exec (r.keeping []) =
        (result, after.keeping made) := hexec
  rcases result with fault | whole
  · have hkept : kept = (.error fault, after.keeping made) :=
      Run.exec_bind_of_error hexecute _
    rw [hkept]
    exact .interrupted hresolved
  · have hcall := call.exec_kept settings whole (context.depth + 1)
      (after.add (.notice (.resolved context.args whole))) made
    rcases hresult : (call settings whole (context.depth + 1)).exec
      (after.add (.notice (.resolved context.args whole))) with ⟨fault | result, final⟩
    · rw [hresult] at hcall
      have hkept : kept = (.error fault, final.keeping _) :=
        (Run.exec_bind_of_ok hexecute _).trans (Run.exec_bind_of_error hcall _)
      rw [hkept]
      exact .stopped fault hresolved
    · rw [hresult] at hcall
      have hkept : kept = (.ok _, final.keeping _) :=
        (Run.exec_bind_of_ok hexecute _).trans (Run.exec_bind_of_ok hcall _)
      rw [hkept]
      exact .replied result hresolved

end Shell

/-! ## The fault of a dispatch -/

variable {settings : Settings} {depth : Int} {command : Command} {made : List Dispatched}

/-- Of dispatches that are answered but for the last one, none but the last stops at a fault. -/
lemma last_of_error {asked : List (Text × Text)} {last dispatched : Dispatched}
    {before after : List Dispatched} {raised : Fault}
    (h : asked.map (.answered settings depth) ++ [last] = before ++ dispatched :: after)
    (hraised : dispatched.result = .error raised) :
    after = [] ∧ before.length = asked.length ∧ dispatched = last := by
  obtain rfl | ⟨init, final, rfl⟩ := after.eq_nil_or_concat
  · obtain ⟨hbefore, hlast⟩ := List.append_inj' h rfl
    refine ⟨rfl, ?_, (List.singleton_inj.mp hlast).symm⟩
    rw [← hbefore, List.length_map]
  · have hinit : asked.map (.answered settings depth) = before ++ dispatched :: init := by
      rw [List.concat_eq_append, ← List.cons_append, ← List.append_assoc] at h
      exact (List.append_inj' h rfl).1
    obtain ⟨ask, -, hask⟩ : ∃ ask ∈ asked, Dispatched.answered settings depth ask = dispatched := by
      rw [← List.mem_map, hinit]
      exact List.mem_append_right _ List.mem_cons_self
    rw [← hask] at hraised
    cases hraised

namespace CarriedOut

variable {result : Except Fault (List Text)}

/-- Where no dispatch stops at a fault, there is one to each interpolation and one more, and there
is at most one reply. -/
theorem length_eq (h : command.CarriedOut settings depth made result)
    (hfine : ∀ d ∈ made, ∃ text, d.result = .ok text) :
    made.length = command.interpolationCount + 1 ∧
      ∃ replies, result = .ok replies ∧ replies.length ≤ 1 := by
  cases h with
  | replied text hresolved =>
    cases hresolved with
    | answered hasks =>
      refine ⟨?_, _, rfl, ?_⟩
      · rw [List.length_append, List.length_map, hasks.length_eq, List.length_singleton]
      · split
        · exact Nat.zero_le 1
        · exact Nat.le_refl 1
  | stopped fault _ =>
    obtain ⟨text, htext⟩ := hfine _ (List.mem_append_right _ (List.mem_singleton_self _))
    cases htext
  | interrupted hresolved =>
    cases hresolved with
    | interrupted fault _ =>
      obtain ⟨text, htext⟩ := hfine _ (List.mem_append_right _ (List.mem_singleton_self _))
      cases htext

/-- A dispatch that stops at a fault is the last one, and the shell stops at the same fault, unless
it is a `StopIteration` and the dispatch that of an interpolation. -/
theorem of_error (h : command.CarriedOut settings depth made result) {dispatched : Dispatched}
    {before after : List Dispatched} {raised : Fault} (hmade : made = before ++ dispatched :: after)
    (hraised : dispatched.result = .error raised) :
    after = [] ∧ (result = .error raised ∨
      before.length < command.interpolationCount ∧
        (∃ message, raised = .other "StopIteration" message) ∧
        result = .error (.other "RuntimeError" "generator raised StopIteration")) := by
  cases h with
  | replied text hresolved =>
    cases hresolved with
    | answered _ =>
      obtain ⟨-, -, rfl⟩ := last_of_error hmade hraised
      cases hraised
  | stopped fault hresolved =>
    cases hresolved with
    | answered _ =>
      obtain ⟨hafter, -, rfl⟩ := last_of_error hmade hraised
      cases hraised
      exact ⟨hafter, .inl rfl⟩
  | interrupted hresolved =>
    cases hresolved with
    | interrupted fault hasks =>
      obtain ⟨hafter, hlength, rfl⟩ := last_of_error hmade hraised
      cases hraised
      refine ⟨hafter, ?_⟩
      by_cases hstop : ∃ message, raised = .other "StopIteration" message
      · obtain ⟨message, rfl⟩ := hstop
        refine .inr ⟨?_, ⟨message, rfl⟩, rfl⟩
        rw [hlength]
        exact hasks.length_lt
      · have hleaving : raised.leaving = raised :=
          (leaving_eq_iff raised).mpr fun message hfault => hstop ⟨message, hfault⟩
        rw [hleaving]
        exact .inl rfl

end CarriedOut

end Command

/-! ## The shell -/

namespace Engine

section Shell

variable (engine : Engine ι σ) (call : Caller ι σ) {settings : Settings} {context : Context}

/-- A shell whose arguments are a command carries it out. -/
lemma exec_shell_of_ok {command : Command}
    (h : Command.parse (engine.nesting settings).room context.args = .ok command)
    (r : Recorded (Workspace ι σ)) :
    (engine.shell call settings context).exec r =
      (carryOut call settings context command).exec
        ((r.add (.notice (.parsing context.args))).add (.notice (.parsed command.length))) := by
  rw [shell_eq, Run.exec_note_bind, h]
  dsimp only
  rw [Run.exec_note_bind]

/-- A shell whose arguments are no command stops or replies at once. -/
lemma exec_shell_of_error {fault : ParseFault}
    (h : Command.parse (engine.nesting settings).room context.args = .error fault)
    (r : Recorded (Workspace ι σ)) :
    ((engine.shell call settings context).exec r).1 =
        (if fault.cause = .tooDeep then .error ((engine.nesting settings).fault context.args fault)
          else .ok ["Malformed command " ++ context.args]) ∧
      ((engine.shell call settings context).exec r).2.state = r.state := by
  rw [shell_eq, Run.exec_note_bind, h]
  dsimp only
  rw [Run.exec_note_bind]
  split
  · exact ⟨rfl, rfl⟩
  · exact ⟨rfl, rfl⟩

/-- What comes of a shell whose dispatches are kept, none of which has been made before. -/
def keptShell (settings : Settings) (context : Context) (r : Recorded (Workspace ι σ)) :
    Except Fault (List Text) × Recorded (Workspace ι (σ × List Dispatched)) :=
  (engine.muted.shell call.kept settings context).exec (r.keeping [])

/-- Keeping the dispatches makes no difference to the shell. -/
lemma exec_shell_eq_keptShell (settings : Settings) (context : Context)
    (r : Recorded (Workspace ι σ)) :
    (engine.shell call settings context).exec r =
      ((engine.keptShell call settings context r).1,
        (engine.keptShell call settings context r).2.released) := by
  have hshell : Run.Matches (fun r s => s.released = r) (fun _ => False) Eq
      (engine.shell call settings context) (engine.muted.shell call.kept settings context) :=
    engine.keeping.shell rfl fun text => matches_kept call settings text (context.depth + 1)
  obtain ⟨hresult, halike⟩ := hshell.of_no_parting (s := r.keeping []) rfl
  exact Prod.ext (corresponds_eq_iff.mp hresult) halike.symm

/-- What is kept of a shell whose arguments are a command. -/
lemma carriedOut_keptShell {command : Command}
    (h : Command.parse (engine.nesting settings).room context.args = .ok command)
    (r : Recorded (Workspace ι σ)) :
    command.CarriedOut settings (context.depth + 1)
      (engine.keptShell call settings context r).2.dispatches
      (engine.keptShell call settings context r).1 := by
  have hkept : engine.keptShell call settings context r = _ :=
    exec_shell_of_ok engine.muted call.kept h (r.keeping [])
  rw [hkept]
  exact Command.carriedOut_of_kept call settings context command
    ((r.add (.notice (.parsing context.args))).add (.notice (.parsed command.length)))

/-- A shell whose arguments are no command dispatches nothing: it stops at what is nested too deep,
and replies to anything else. -/
lemma keptShell_of_error {found : ParseFault}
    (h : Command.parse (engine.nesting settings).room context.args = .error found)
    (r : Recorded (Workspace ι σ)) :
    let fault := (engine.nesting settings).fault context.args found
    let kept := engine.keptShell call settings context r
    kept.2.dispatches = [] ∧
      ((∃ deep, fault = .tooDeep deep) ∧ kept.1 = .error fault ∨
        (∃ malformed, fault = .malformed malformed) ∧
          kept.1 = .ok ["Malformed command " ++ context.args]) := by
  intro fault kept
  obtain ⟨hresult, hstate⟩ := exec_shell_of_error engine.muted call.kept h (r.keeping [])
  refine ⟨congrArg (fun state => state.host.2) hstate, ?_⟩
  by_cases hcause : found.cause = .tooDeep
  · rw [if_pos hcause] at hresult
    exact .inl ⟨(Nesting.isCutOff_fault hcause).eq_tooDeep, hresult⟩
  · rw [if_neg hcause] at hresult
    exact .inr ⟨⟨_, Nesting.fault_of_cause_ne hcause⟩, hresult⟩

end Shell

/-- A shell whose arguments are a command dispatches what the interpolations ask for, in post-order
and with the answers put in, and then the text that comes out, all one deeper than itself. The first
dispatch that stops at a fault is the last one and stops the shell, with the same fault unless it is
a `StopIteration` inside an interpolation. A shell whose arguments are no command dispatches
nothing. -/
theorem shell_kept (engine : Engine ι σ) (call : Caller ι σ) (settings : Settings)
    (context : Context) (r : Recorded (Workspace ι σ)) :
    let kept := engine.keptShell call settings context r
    let made := kept.2.dispatches
    let read := (((engine.nesting settings).read context.args).exec r).1
    (engine.shell call settings context).exec r = (kept.1, kept.2.released) ∧
    (∀ command, read = .ok command →
      command.CarriedOut settings (context.depth + 1) made kept.1 ∧
      ((∀ d ∈ made, ∃ text, d.result = .ok text) →
        made.length = command.interpolationCount + 1 ∧
          ∃ replies, kept.1 = .ok replies ∧ replies.length ≤ 1) ∧
      ∀ before dispatched after raised, made = before ++ dispatched :: after →
        dispatched.result = .error raised →
          after = [] ∧ (kept.1 = .error raised ∨
            before.length < command.interpolationCount ∧
              (∃ message, raised = .other "StopIteration" message) ∧
              kept.1 = .error (.other "RuntimeError" "generator raised StopIteration"))) ∧
    ∀ fault, read = .error fault →
      made = [] ∧
        ((∃ deep, fault = .tooDeep deep) ∧ kept.1 = .error fault ∨
          (∃ malformed, fault = .malformed malformed) ∧
            kept.1 = .ok ["Malformed command " ++ context.args]) := by
  intro kept made read
  have hread : read = (Command.parse (engine.nesting settings).room context.args).mapError
      ((engine.nesting settings).fault context.args) := Nesting.exec_read _ _ _
  refine ⟨engine.exec_shell_eq_keptShell call settings context r, ?_⟩
  rcases hparse : Command.parse (engine.nesting settings).room context.args with found | command
  · rw [hread, hparse]
    refine ⟨fun _ h => ?_, fun fault h => ?_⟩
    · cases h
    · cases h
      exact engine.keptShell_of_error call hparse r
  · have hcarried : command.CarriedOut settings (context.depth + 1) made kept.1 :=
      engine.carriedOut_keptShell call hparse r
    rw [hread, hparse]
    refine ⟨fun _ h => ?_, fun fault h => ?_⟩
    · cases h
      exact ⟨hcarried, hcarried.length_eq, fun _ _ _ _ => hcarried.of_error⟩
    · cases h

/-- The counter inside the counter inside the counter: the innermost is dispatched first, and each
of the others with what came of the one before. -/
theorem shell_kept_nested :
    let context : Context := ⟨shellName, "tick $(tick $(tick))", 0⟩
    let start : Recorded (Workspace Unit Nat) := ⟨ticking {}, []⟩
    let kept := counter.keptShell (counter.runWithin 2) {} context start
    kept.2.dispatches.map (fun d => (d.text, d.depth)) =
        [("tick".toList, 1), ("tick 1".toList, 1), ("tick 2".toList, 1)] ∧
      (∀ d ∈ kept.2.dispatches, ∃ text, d.result = .ok text) ∧
      ∃ replies, ((counter.shell (counter.runWithin 2) {} context).exec start).1 = .ok replies ∧
        replies.length ≤ 1 := by
  intro context start kept
  obtain ⟨hsame, hcommand, -⟩ := shell_kept counter (counter.runWithin 2) {} context start
  obtain ⟨-, hfine, -⟩ := hcommand (.literal "tick " (.interpolation (.literal "tick "
    (.interpolation (.literal "tick" .nil) .nil)) .nil)) (by decide +kernel)
  have hresults : ∀ d ∈ kept.2.dispatches, ∃ text, d.result = .ok text := by
    have hok : (kept.2.dispatches.all fun d => d.result.isOk) = true := by decide +kernel
    intro d hd
    have hresult := List.all_eq_true.mp hok d hd
    rcases d with ⟨settings, text, depth, fault | result⟩
    · cases hresult
    · exact ⟨result, rfl⟩
  refine ⟨by decide +kernel, hresults, ?_⟩
  rw [hsame]
  exact (hfine hresults).2

/-- A `StopIteration` that a command inside an interpolation stops at does not come to the shell. -/
theorem shell_kept_stopIteration :
    let fault : Fault := .other "StopIteration" "m"
    let context : Context := ⟨shellName, "echo $(boom)", 0⟩
    let start : Recorded (Workspace Unit Unit) := ⟨booming, []⟩
    let call := (stopping fault).runWithin 2
    let kept := (stopping fault).keptShell call {} context start
    kept.2.dispatches.map (fun d => (d.text, d.depth, d.result)) =
        [("boom".toList, 1, .error fault)] ∧
      (((stopping fault).shell call {} context).exec start).1 ≠ .error fault := by
  decide +kernel

end Engine

end Subshell
