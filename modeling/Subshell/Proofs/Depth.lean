import Subshell.Proofs.Contract
/-!
# How deep an invocation lies

The invocations under way at a moment of a run can be read off the events so far, since the events
around an invocation nest like brackets: `underWay`. The depth that a command is invoked with is the
number of shells among them, and never more than the limit (`depth_eq_shells_of_handle`).
Interpolations inside one another do not add to it.

The contract `depths` is for runs that start below any invocations, since a shell goes on below
itself. The rest is one induction over dispatches inside one another.

Handlers of the host are held to `hostDuty`: they invoke nothing and leave the shell alone, and may
otherwise do as they like.
-/

namespace Subshell

variable {ι σ : Type}

/-! ## Invocations under way -/

/-- The invocations under way after an event, the latest first. -/
def Event.after (above : List Context) : Event → List Context
  | .invoked context => context :: above
  | .finished _ => above.tail
  | .notice _ | .output _ _ => above

/-- The invocations under way after some events. -/
def underWay (above : List Context) (events : List Event) : List Context :=
  events.foldl Event.after above

@[simp] lemma underWay_nil (above : List Context) : underWay above [] = above := rfl

@[simp] lemma underWay_cons (above : List Context) (event : Event) (events : List Event) :
    underWay above (event :: events) = underWay (event.after above) events := rfl

@[simp] lemma underWay_append (above : List Context) (a b : List Event) :
    underWay above (a ++ b) = underWay (underWay above a) b := List.foldl_append

/-- The number of shells among some invocations. -/
def shells (above : List Context) : Nat := above.countP (·.command = shellName)

/-- An event has its place below the invocations under way: a command is invoked as deep as there
are shells, within the limit, and what is over is the latest invocation. -/
def Event.Fits (limit : Option Nat) (above : List Context) : Event → Prop
  | .invoked context =>
    context.depth = shells above ∧ ∀ bound ∈ limit, context.depth ≤ (bound : Int)
  | .finished context => above.head? = some context
  | .notice _ | .output _ _ => True

/-- Every event has its place. -/
def AllFit (limit : Option Nat) : List Context → List Event → Prop
  | _, [] => True
  | above, event :: events => event.Fits limit above ∧ AllFit limit (event.after above) events

lemma allFit_append {limit : Option Nat} {above : List Context} {a b : List Event} :
    AllFit limit above (a ++ b) ↔ AllFit limit above a ∧ AllFit limit (underWay above a) b := by
  induction a generalizing above with
  | nil => simp [AllFit]
  | cons event events ih => simp [AllFit, ih, and_assoc]

/-- An event has its place below what is under way just before it. -/
lemma AllFit.fits {limit : Option Nat} {above : List Context} {before later : List Event}
    {event : Event} (h : AllFit limit above (before ++ event :: later)) :
    event.Fits limit (underWay above before) :=
  (allFit_append.mp h).2.1

/-! ## What the handlers keep -/

/-- The command with the shell's name is the shell under the settings, and no other command is a
shell. -/
def Registry.OwnShell (settings : Settings) (registry : Registry ι) : Prop :=
  ∀ entry ∈ registry.entries,
    (entry.name = shellName → entry.handler = .shell settings) ∧
      ∀ other, entry.handler = .shell other → entry.name = shellName

/-- A handler of the host next to the shell leaves the shell what it is. -/
lemma ownShell_pair {name : Text} (hname : name ≠ shellName) (h : ι) (settings : Settings)
    (help : Text) :
    Registry.OwnShell settings ⟨[⟨name, .custom h, []⟩, ⟨shellName, .shell settings, help⟩]⟩ := by
  intro entry hentry
  rcases List.mem_cons.mp hentry with rfl | htail
  · exact ⟨fun heq => absurd heq hname, fun _ hhandler => nomatch hhandler⟩
  · rw [List.mem_singleton.mp htail]
    exact ⟨fun _ => rfl, fun _ _ => rfl⟩

/-- An event that is neither the beginning nor the end of an invocation. -/
def Event.IsPlain : Event → Prop
  | .invoked _ | .finished _ => False
  | .notice _ | .output _ _ => True

lemma Event.IsPlain.fits {event : Event} (h : event.IsPlain) (limit : Option Nat)
    (above : List Context) : event.Fits limit above ∧ event.after above = above := by
  cases event with
  | notice | output => exact ⟨trivial, rfl⟩
  | invoked | finished => exact h.elim

lemma allFit_of_isPlain {events : List Event} (h : ∀ event ∈ events, event.IsPlain)
    (limit : Option Nat) (above : List Context) :
    AllFit limit above events ∧ underWay above events = above := by
  induction events with
  | nil => exact ⟨trivial, rfl⟩
  | cons event events ih =>
    obtain ⟨hfits, hafter⟩ := (h event List.mem_cons_self).fits limit above
    obtain ⟨hall, hunder⟩ := ih fun e he => h e (List.mem_cons_of_mem _ he)
    rw [AllFit, underWay_cons, hafter]
    exact ⟨⟨hfits, hall⟩, hunder⟩

/-- A handler of the host invokes no command and does not bind the shell anew. -/
def hostDuty (settings : Settings) : Contract (Workspace ι σ) where
  inv w := w.registry.OwnShell settings
  records events := ∀ event ∈ events, event.IsPlain
  faults _ := True
  nothing := fun _ h => by cases h
  append := fun ha hb event h => (List.mem_append.mp h).elim (ha event) (hb event)
  notice := fun _ event h => by cases List.mem_singleton.mp h; trivial

/-- Below some invocations, every event has its place, and in the end the same are under way. -/
def depths (settings : Settings) (above : List Context) : Contract (Workspace ι σ) where
  inv w := w.registry.OwnShell settings
  records events := AllFit settings.limit above events ∧ underWay above events = above
  faults _ := True
  nothing := ⟨trivial, rfl⟩
  append := fun ⟨hfit, hunder⟩ ⟨hfit', hunder'⟩ => by
    rw [allFit_append, underWay_append, hunder]
    exact ⟨⟨hfit, hfit'⟩, hunder'⟩
  notice := fun _ => ⟨⟨trivial, trivial⟩, rfl⟩

/-- What does its duty has its place anywhere. -/
lemma Run.Keeps.depths_of_hostDuty {α : Type} {settings : Settings} {run : Task ι σ α}
    (h : Run.Keeps (hostDuty settings) run) (above : List Context) :
    Run.Keeps (depths settings above) run :=
  h.mono (fun _ => Iff.rfl) (fun _ hplain => allFit_of_isPlain hplain _ above) fun _ => id

/-! ## The engine -/

namespace Engine

variable {engine : Engine ι σ} {settings : Settings}

/-- An invocation whose depth is right has its place, whatever it leads to, if what lies below it
has its place there. -/
lemma keeps_within_depths {α : Type} {above : List Context} {context : Context}
    (hdepth : context.depth = shells above)
    (hlimit : ∀ limit ∈ settings.limit, context.depth ≤ (limit : Int)) {run : Task ι σ α}
    (h : Run.Keeps (depths settings (context :: above)) run) :
    Run.Keeps (depths settings above) (Run.within (.invoked context) (.finished context) run) := by
  refine h.within (fun _ => Iff.rfl) (fun events ⟨hfit, hunder⟩ => ?_) fun _ => id
  constructor
  · refine ⟨⟨hdepth, hlimit⟩, allFit_append.mpr ⟨hfit, ?_⟩⟩
    show AllFit settings.limit (underWay (context :: above) events) [.finished context]
    rw [hunder]
    exact ⟨rfl, trivial⟩
  · show underWay (context :: above) (events ++ [.finished context]) = above
    rw [underWay_append, hunder]
    rfl

/-- A dispatch below some invocations keeps depths right when its own is. -/
lemma keeps_dispatchWithin_depths
    (hact : ∀ h call context, Run.Keeps (hostDuty settings) (engine.act h call context))
    (rounds : Nat) (text : Text) {above : List Context} {depth : Int}
    (hdepth : depth = shells above) :
    Run.Keeps (depths settings above) (engine.dispatchWithin rounds settings text depth) := by
  -- the induction is on the dispatches that may lie inside one another; each shell adds one to both
  -- the depth and the shells above
  induction rounds generalizing text above depth with
  | zero => exact .throw trivial
  | succ rounds ih =>
    refine keeps_dispatchOnce (fun _ _ => trivial) text ?_
    intro hlimit w hown entry hentry args
    refine keeps_within_depths hdepth hlimit ?_
    obtain ⟨hshell, hnone⟩ := hown entry hentry
    unfold perform
    split
    · next other hhandler =>
      have hname : entry.name = shellName := hnone other hhandler
      have hother : other = settings := Handler.shell.inj (hhandler.symm.trans (hshell hname))
      rw [hother]
      refine keeps_shell (fun _ _ => trivial) (fun _ => id) fun text => keeps_joined text ?_
      apply ih
      rw [hdepth, shells, shells, List.countP_cons_of_pos (by simpa using hname)]
      push_cast
      rfl
    · refine keeps_builtin (fun _ => ?_) _ _
      exact ⟨⟨trivial, trivial⟩, rfl⟩
    · exact (hact _ _ _).depths_of_hostDuty _

/-- Whenever a command is invoked in the course of a line, its depth is the number of shells under
way, which is within the limit. Invocations end in the reverse order of their beginnings, and none
is left in the end. A dispatch one deeper than the limit is a fault, the same one whatever is
registered, and does nothing but tell the log. -/
theorem depth_eq_shells_of_handle
    (hact : ∀ h call context, Run.Keeps (hostDuty settings) (engine.act h call context))
    (line : Text) {r : Recorded (Workspace ι σ)} (hown : r.state.registry.OwnShell settings) :
    (∃ events,
      ((engine.handle settings line).exec r).2.journal = events.reverse ++ r.journal ∧
      (∀ before (context : Context) later, events = before ++ .invoked context :: later →
        context.depth = shells (underWay [] before) ∧
          ∀ limit ∈ settings.limit, context.depth ≤ (limit : Int)) ∧
      (∀ before (context : Context) later, events = before ++ .finished context :: later →
        (underWay [] before).head? = some context) ∧
      underWay [] events = []) ∧
    ∀ limit ∈ settings.limit, ∀ rounds text, ∃ fault : DepthFault,
      fault.limit = some (limit : Int) ∧ ∀ s : Recorded (Workspace ι σ),
        let told := s.add (.notice (.invocationTooDeep (limit + 1) limit text))
        (engine.dispatchWithin (rounds + 1) settings text (limit + 1)).exec s =
            (.error (.tooDeep fault), told) ∧
          (engine.runWithin (rounds + 1) settings text (limit + 1)).exec s =
            (.error (.tooDeep fault), told) := by
  constructor
  · have hkeeps : Run.Keeps (depths settings []) (engine.handle settings line) :=
      keeps_handle (fun _ => trivial) (keeps_dispatchWithin_depths hact engine.patience line rfl)
    obtain ⟨events, hjournal, ⟨hfit, hunder⟩, -, -⟩ := hkeeps r hown
    refine ⟨events, hjournal, ?_, ?_, hunder⟩
    · rintro before context later rfl
      exact hfit.fits
    · rintro before context later rfl
      exact hfit.fits
  · intro limit hlimit rounds text
    have hlt : (limit : Int) < limit + 1 := Int.lt_succ _
    -- the same fault for both, which does not depend on what is recorded
    refine ⟨_, ?_, fun s => ⟨engine.exec_dispatchWithin_of_lt hlimit hlt rounds text s,
      engine.exec_runWithin_of_lt hlimit hlt rounds text s⟩⟩
    rfl

/-- Under a limit of two, the first interpolation is carried out and the second is cut off: of the
counter, which it would come to at depth three, it only gets to the shells around it. -/
theorem depth_eq_shells_of_two_interpolations :
    let run := (counter.handle { limit := some 2 } "shell $(shell tick) $(shell shell tick)").exec
      ⟨ticking { limit := some 2 }, []⟩
    (run.2.journal.reverse.filterMap fun
      | .invoked context => some (context.command, context.depth)
      | _ => none) =
        [(shellName, 0), (shellName, 1), ("tick", 2), (shellName, 1), (shellName, 2)] ∧
    (∃ events, run.2.journal = events.reverse ++ [] ∧
      (∀ before (context : Context) later, events = before ++ .invoked context :: later →
        context.depth = shells (underWay [] before) ∧
          ∀ limit ∈ some 2, context.depth ≤ ((limit : Nat) : Int)) ∧
      (∀ before (context : Context) later, events = before ++ .finished context :: later →
        (underWay [] before).head? = some context) ∧
      underWay [] events = []) ∧
    ∃ fault : DepthFault, fault.limit = some 2 ∧ ∀ s : Recorded (Workspace Unit Nat),
      (counter.dispatchWithin 1 { limit := some 2 } "tick" 3).exec s =
        (.error (.tooDeep fault), s.add (.notice (.invocationTooDeep 3 2 "tick"))) := by
  have hact : ∀ h call context,
      Run.Keeps (hostDuty { limit := some 2 }) (counter.act h call context) := by
    intro h call context r hr
    rw [exec_counter]
    exact ⟨[], rfl, (hostDuty _).nothing, hr, fun _ _ => trivial⟩
  have hown : (ticking { limit := some 2 }).registry.OwnShell { limit := some 2 } := by
    intro entry hentry
    rcases List.mem_cons.mp hentry with rfl | htail
    · exact ⟨fun hname => absurd hname (by decide), fun _ hhandler => nomatch hhandler⟩
    · rw [List.mem_singleton.mp htail]
      exact ⟨fun _ => rfl, fun _ _ => rfl⟩
  obtain ⟨hevents, hdeeper⟩ := depth_eq_shells_of_handle hact
    "shell $(shell tick) $(shell shell tick)" (r := ⟨ticking { limit := some 2 }, []⟩) hown
  obtain ⟨fault, hlimit, hstop⟩ := hdeeper 2 rfl 0 "tick"
  exact ⟨by decide +kernel, hevents, fault, hlimit, fun s => (hstop s).1⟩

end Engine

end Subshell
