import Subshell.Proofs.Registering
import Subshell.Proofs.Surfacing
import Subshell.Proofs.Wrapping
/-!
# How a line is framed

A line is taken apart twice: its notes name its first word, and the dispatch strips it before it
takes off a word and the arguments behind. Both find the same (`handle_framed`):

* the command that a line invokes is the one that its notes name, and a line invokes a command just
  when its notes say that there is one;
* what is left of the line without the blanks at its ends is the command, a gap of blanks and the
  arguments (`Text.Framed`);
* blanks around a line do not matter, but that the line is quoted as it was given: to the log
  (`Recorded.SameButQuotes`), and as the command that failed (`Outcome.echoing`).

The handlers of the host may use the way back into the engine. They are only held not to look up
what lines are quoted in the log (`Engine.HandlersIgnoreQuotes`).
-/

namespace Subshell

variable {ι σ α : Type}

/-! ## Command and arguments -/

namespace Text

variable {line word args : Text}

/-- Without the blanks at its ends, a line is a command, a gap of blanks and the arguments. The gap
is there just when there are arguments, and they have no blanks at their ends. -/
structure Framed (line command gap args : Text) : Prop where
  strip_eq : strip line = command ++ gap ++ args
  gap_blank : ∀ c ∈ gap, isBlank c = true
  gap_ne_nil_iff : gap ≠ [] ↔ args ≠ []
  head_not_blank : ∀ c ∈ args.head?, isBlank c = false
  last_not_blank : ∀ c ∈ args.getLast?, isBlank c = false

/-- The word that is taken off a stripped line and what is left frame the line. -/
lemma exists_framed (h : firstWord? (strip line) = some (word, args)) :
    ∃ gap, Framed line word gap args := by
  obtain ⟨tail, hleft, htail⟩ := exists_of_firstWord? h
  obtain ⟨hword, hblank⟩ := isWord_of_firstWord? h
  rw [stripLeft_strip] at hleft
  obtain rfl : stripLeft tail = args := by
    rw [hleft, firstWord?_append hword hblank htail] at h
    exact congrArg Prod.snd (Option.some.inj h)
  have hsplit : tail.takeWhile isBlank ++ stripLeft tail = tail := List.takeWhile_append_dropWhile
  have hgap : ∀ c ∈ tail.takeWhile isBlank, isBlank c = true :=
    fun _ hc => List.mem_takeWhile_imp hc
  refine ⟨tail.takeWhile isBlank, ?_, hgap, ⟨fun hne hnone => ?_, fun hne hnone => ?_⟩, ?_, ?_⟩
  · rw [List.append_assoc, hsplit]
    exact hleft
  · -- a line does not end with a gap
    rw [hnone, List.append_nil] at hsplit
    have hsuffix : tail <:+ strip line := hleft ▸ List.suffix_append word tail
    have hnil : tail = [] := by
      refine eq_nil_of_blank_suffix (strip_strip line) hsuffix ?_
      rwa [hsplit] at hgap
    exact hne (hsplit.trans hnil)
  · -- and what follows the word begins with one
    rw [hnone, List.nil_append] at hsplit
    obtain ⟨c, rest, hcons⟩ := List.exists_cons_of_ne_nil hne
    have hc : isBlank c = true := htail c (by rw [← hsplit, hcons]; rfl)
    rw [isBlank_of_stripLeft_eq_cons hcons] at hc
    cases hc
  · intro c hc
    obtain ⟨rest, hcons⟩ := List.head?_eq_some_iff.mp hc
    exact isBlank_of_stripLeft_eq_cons hcons
  · intro c hc
    apply isBlank_getLast?_strip line c
    rw [hleft, ← hsplit, List.getLast?_append, List.getLast?_append, Option.mem_def.mp hc]
    rfl

end Text

/-- The notes of an outcome name the command of the line and say whether there is one. -/
lemma Outcome.lookup_notes (outcome : Outcome) :
    outcome.notes.lookup "command".toList = some (.text outcome.command) ∧
      outcome.notes.lookup "known_command".toList = some (.bool outcome.known) := by
  unfold notes
  cases outcome.failure <;> exact ⟨rfl, rfl⟩

/-! ## Lines as they are quoted -/

/-- A notice without the line that it quotes. -/
def Notice.unquoted : Notice → Notice
  | received _ => received []
  | depthLimitHit _ summary => depthLimitHit [] summary
  | evaluationFailed _ message => evaluationFailed [] message
  | commandFailed _ message => commandFailed [] message
  | notice => notice

/-- An event without the line that it quotes. -/
def Event.unquoted : Event → Event
  | .notice told => .notice told.unquoted
  | event => event

/-- Two records are the same but for the lines that are quoted to the log. -/
structure Recorded.SameButQuotes (r s : Recorded σ) : Prop where
  state : r.state = s.state
  journal : r.journal.map Event.unquoted = s.journal.map Event.unquoted

lemma Recorded.SameButQuotes.refl (r : Recorded σ) : r.SameButQuotes r := ⟨rfl, rfl⟩

lemma Recorded.SameButQuotes.add {r s : Recorded σ} (h : r.SameButQuotes s) {event event' : Event}
    (hevent : event.unquoted = event'.unquoted) : (r.add event).SameButQuotes (s.add event') := by
  refine ⟨h.state, ?_⟩
  rw [journal_add, journal_add, List.map_cons, List.map_cons, hevent, h.journal]

lemma keepsEvents_sameButQuotes : KeepsEvents (σ := σ) Recorded.SameButQuotes :=
  fun _ _ _ h => h.add rfl

/-- A run comes to the same, and to records that still are, whatever lines are quoted in the log. -/
def Run.IgnoresQuotes (run : Run σ α) : Prop :=
  Run.Matches Recorded.SameButQuotes (fun _ => False) Eq run run

/-- A failure with another line quoted as the command that failed. -/
def Failure.echoing (line : Text) (failure : Failure) : Failure :=
  if failure.reason = .commandFailure then
    { failure with details := failure.details.map ({ · with failingCommand := some line }) }
  else failure

/-- An outcome with another line quoted as the command that failed. -/
def Outcome.echoing (line : Text) (outcome : Outcome) : Outcome :=
  { outcome with failure := outcome.failure.map (Failure.echoing line) }

/-- Where the second of two results is made of the first, it is made of it by a function. -/
lemma Corresponds.eq_map {β : Type} {f : α → β} {a : Except Fault α} {b : Except Fault β}
    (h : Corresponds (fun x y => y = f x) a b) : b = a.map f := by
  cases h with
  | ok heq => exact congrArg Except.ok heq
  | error fault => rfl

namespace Engine

variable {engine : Engine ι σ}

variable (engine) in
/-- The handlers of the host take no notice of the lines that are quoted in the log, as long as the
way back into the engine does not. -/
def HandlersIgnoreQuotes : Prop :=
  ∀ h (call : Caller ι σ) context,
    (∀ settings text depth, (call settings text depth).IgnoresQuotes) →
      (engine.act h call context).IgnoresQuotes

/-- The engine with a way back that its handlers use in the place of any other. -/
def withWayBack (engine : Engine ι σ) (call : Caller ι σ) : Engine ι σ :=
  { engine with act := fun h _ context => engine.act h call context }

lemma dispatchOnce_withWayBack (call : Caller ι σ) (settings : Settings) (text : Text)
    (depth : Int) :
    (engine.withWayBack call).dispatchOnce call settings text depth =
      engine.dispatchOnce call settings text depth := by
  have hperform : (engine.withWayBack call).perform call = engine.perform call := by
    funext handler context
    cases handler <;> rfl
  unfold dispatchOnce
  rw [hperform]

/-- A dispatch takes no notice of the lines that are quoted in the log. -/
theorem ignoresQuotes_dispatchWithin (hact : engine.HandlersIgnoreQuotes) (rounds : Nat)
    (settings : Settings) (text : Text) (depth : Int) :
    (engine.dispatchWithin rounds settings text depth).IgnoresQuotes := by
  induction rounds generalizing settings text depth with
  | zero => exact .throw _
  | succ rounds ih =>
    have hcall : ∀ settings text depth,
        (engine.runWithin rounds settings text depth).IgnoresQuotes := by
      intro settings text depth
      refine (ih settings text depth).bind ?_
      rintro replies _ rfl
      exact keepsEvents_sameButQuotes.note_bind _ (.pure rfl)
    -- the handlers are compared with the one way back that they are given
    let looking := engine.withWayBack (engine.runWithin rounds)
    let L : looking.Likeness looking :=
      .exact Recorded.SameButQuotes keepsEvents_sameButQuotes
        (fun h => congrArg Workspace.registry h.state) (.refl looking)
        fun h _ _ context => hact h _ context hcall
    have honce :
        (looking.dispatchOnce (engine.runWithin rounds) settings text depth).IgnoresQuotes :=
      L.dispatchOnce rfl (fun t t' ht text => (show t = t' from ht) ▸ hcall t text _) text
    rwa [dispatchOnce_withWayBack] at honce

/-- The fault of a line is reported alike however the line is quoted. -/
lemma matches_reportFault (line given command : Text) (known : Bool) (fault : Fault) :
    Run.Matches (Recorded.SameButQuotes (σ := Workspace ι σ)) (fun _ => False)
      (fun outcome outcome' => outcome' = outcome.echoing given)
      (reportFault line command known fault) (reportFault given command known fault) := by
  intro r s hrs
  unfold reportFault
  split
  · next deep =>
    rw [Run.exec_note_bind, Run.exec_note_bind]
    split
    · exact .inr ⟨.error _, hrs.add rfl⟩
    · exact .inr ⟨.ok rfl, hrs.add rfl⟩
  · exact .inr ⟨.ok rfl, hrs.add rfl⟩
  · split
    · exact .inr ⟨.error _, hrs⟩
    · exact .inr ⟨.ok rfl, hrs.add rfl⟩

/-! ## A line as it is given -/

/-- Blanks at its ends do not matter to a line, except where it is quoted. -/
lemma matches_handle (hact : engine.HandlersIgnoreQuotes) (settings : Settings) {line given : Text}
    (h : Text.strip given = Text.strip line) :
    Run.Matches Recorded.SameButQuotes (fun _ => False)
      (fun outcome outcome' => outcome' = outcome.echoing given)
      (engine.handle settings line) (engine.handle settings given) := by
  have hcommand : commandOf given = commandOf line := by
    rw [← commandOf_strip, h, commandOf_strip]
  have hdispatch : engine.dispatch settings given 0 = engine.dispatch settings line 0 := by
    unfold dispatch
    rw [← dispatchWithin_strip (zero_within settings), h,
      dispatchWithin_strip (zero_within settings)]
  intro r s hrs
  have hstart : (r.add (.notice (.received line))).SameButQuotes
      (s.add (.notice (.received given))) := hrs.add rfl
  rw [exec_handle, exec_handle, hcommand, hdispatch, ← hrs.state]
  obtain ⟨-, -, -, hfalse⟩ | ⟨fault, r', s', hr, hs, halike⟩ |
    ⟨replies, _, r', s', hr, hs, rfl, halike⟩ :=
    (ignoresQuotes_dispatchWithin hact engine.patience settings line 0).cases_on hstart
  · exact hfalse.elim
  · unfold dispatch
    rw [hr, hs]
    exact matches_reportFault line given _ _ fault r' s' halike
  · unfold dispatch
    rw [hr, hs]
    exact .inr ⟨.ok rfl, halike⟩

/-- What a line comes to after its dispatch: the replies are joined, or the fault is reported. -/
def conclude (settings : Settings) (line : Text) (known : Bool) :
    Except Fault (List Text) × Recorded (Workspace ι σ) →
      Except Fault Outcome × Recorded (Workspace ι σ)
  | (.ok replies, after) =>
    (.ok { content := Text.join settings.separator replies, replies,
           command := commandOf line, known }, after)
  | (.error fault, after) => (reportFault line (commandOf line) known fault).exec after

lemma exec_handle_eq_conclude (settings : Settings) (line : Text)
    (r : Recorded (Workspace ι σ)) :
    (engine.handle settings line).exec r =
      conclude settings line (r.state.registry.contains (commandOf line))
        ((engine.dispatch settings line 0).exec (r.add (.notice (.received line)))) := by
  rw [exec_handle]
  rcases (engine.dispatch settings line 0).exec (r.add (.notice (.received line))) with
    ⟨fault | replies, after⟩ <;> rfl

/-- What is reported of a fault names the command of the line. -/
lemma command_of_reportFault {line command : Text} {known : Bool} {fault : Fault}
    {r : Recorded (Workspace ι σ)} {outcome : Outcome}
    (h : ((reportFault line command known fault).exec r).1 = .ok outcome) :
    outcome.command = command ∧ outcome.known = known := by
  unfold reportFault at h
  split at h
  · rw [Run.exec_note_bind] at h
    split at h
    · cases h
    · cases h
      exact ⟨rfl, rfl⟩
  · cases h
    exact ⟨rfl, rfl⟩
  · split at h
    · cases h
    · cases h
      exact ⟨rfl, rfl⟩

/-- So does what comes of a line that completes. -/
lemma command_of_conclude {settings : Settings} {line : Text} {known : Bool}
    {dispatched : Except Fault (List Text) × Recorded (Workspace ι σ)} {outcome : Outcome}
    (h : (conclude settings line known dispatched).1 = .ok outcome) :
    outcome.command = commandOf line ∧ outcome.known = known := by
  obtain ⟨fault | replies, after⟩ := dispatched
  · exact command_of_reportFault h
  · cases h
    exact ⟨rfl, rfl⟩

/-! ## The command of a line -/

section Command

variable {settings : Settings} {line : Text} {r : Recorded (Workspace ι σ)}

/-- A command that is found for a line stands in front of it, and the dispatch takes off the same
word. -/
lemma exists_framed_of_lookup (hnamed : r.state.registry.WellNamed) {entry : Entry ι}
    (h : r.state.registry.lookup (commandOf line) = some entry) :
    ∃ gap args, Text.Framed line (commandOf line) gap args ∧
      Text.firstWord? (Text.strip line) = some (commandOf line, args) := by
  rcases hfirst : Text.firstWord? (Text.strip line) with - | ⟨word, args⟩
  · -- without a word, the command would have the empty name
    have hname : entry.name = [] := by
      rw [Registry.name_of_lookup h, commandOf_eq_nil hfirst]
      rfl
    exact absurd hname (hnamed.isName entry (List.mem_of_find?_eq_some h)).ne_nil
  · obtain ⟨gap, hframed⟩ := Text.exists_framed hfirst
    rw [commandOf_eq hfirst]
    exact ⟨gap, args, hframed, rfl⟩

/-- A dispatch of a line without a command only tells the log. -/
lemma exec_dispatchWithin_of_unknown (h : r.state.registry.lookup (commandOf line) = none)
    (rounds : Nat) :
    ∃ notices : List Notice, (engine.dispatchWithin (rounds + 1) settings line 0).exec r =
      (.ok [], ⟨r.state, notices.map .notice ++ r.journal⟩) := by
  unfold dispatchWithin dispatchOnce
  rw [checkDepth_eq_pure (zero_within settings), pure_bind]
  rcases hfirst : Text.firstWord? (Text.strip line) with - | ⟨word, args⟩
  · exact ⟨[], rfl⟩
  · dsimp only
    rw [Run.exec_state_bind, ← commandOf_eq hfirst, h]
    exact ⟨[.unknownCommand (commandOf line) 0], rfl⟩

/-- How a line is framed. Its notes name the first word and say whether there is a command to it. If
there is, the line is that word, a gap and arguments, and what comes of it is what comes of invoking
the command with these, under the word in lower case; if there is none, the line has no replies, and
only the log is told. Blanks around the line do not change what comes of it, but that it is quoted
as it was given. -/
theorem handle_framed {rounds : Nat} (hpatience : engine.patience = rounds + 1)
    (settings : Settings) (line : Text) {r : Recorded (Workspace ι σ)}
    (hnamed : r.state.registry.WellNamed) :
    let name := commandOf line
    let known := r.state.registry.contains name
    let handled := (engine.handle settings line).exec r
    (∀ outcome, handled.1 = .ok outcome →
      outcome.notes.lookup "command".toList = some (.text name) ∧
        outcome.notes.lookup "known_command".toList = some (.bool known)) ∧
    (known = true → ∃ entry gap args, r.state.registry.lookup name = some entry ∧
      Text.Framed line name gap args ∧
      let context : Context := ⟨Text.lower name, args, 0⟩
      handled = conclude settings line known
        ((Run.within (.invoked context) (.finished context)
          (engine.perform (engine.runWithin rounds) entry.handler context)).exec
            ((r.add (.notice (.received line))).add
              (.notice (.dispatching context.command args 0))))) ∧
    (known = false → ∃ notices : List Notice,
      handled = (.ok { content := [], command := name, known },
        ⟨r.state, notices.map .notice ++ r.journal⟩)) ∧
    (engine.HandlersIgnoreQuotes → ∀ given,
      (∃ front back : Text, (∀ c ∈ front, isBlank c = true) ∧ (∀ c ∈ back, isBlank c = true) ∧
          given = front ++ line ++ back) ∨ given = Text.strip line →
      ((engine.handle settings given).exec r).1 = handled.1.map (Outcome.echoing given) ∧
        handled.2.SameButQuotes ((engine.handle settings given).exec r).2) := by
  intro name known handled
  let told := r.add (.notice (.received line))
  have hhandled : handled = conclude settings line known
      ((engine.dispatchWithin (rounds + 1) settings line 0).exec told) := by
    rw [← hpatience]
    exact engine.exec_handle_eq_conclude settings line r
  refine ⟨fun outcome houtcome => ?_, fun hknown => ?_, fun hunknown => ?_, ?_⟩
  · rw [hhandled] at houtcome
    obtain ⟨hname, hknown⟩ := command_of_conclude houtcome
    have hnotes := outcome.lookup_notes
    rw [hname, hknown] at hnotes
    exact hnotes
  · obtain ⟨entry, hentry⟩ := Option.isSome_iff_exists.mp hknown
    obtain ⟨gap, args, hframed, hfirst⟩ := exists_framed_of_lookup hnamed hentry
    have hname : entry.name = Text.lower name :=
      (Registry.name_of_lookup hentry).trans (commandKey_commandOf line)
    have hdispatch := engine.exec_dispatchWithin_of_lookup (zero_within settings) hfirst
      (show told.state.registry.lookup name = some entry from hentry) rounds
    rw [hname] at hdispatch
    refine ⟨entry, gap, args, hentry, hframed, ?_⟩
    rw [hhandled, hdispatch]
  · have hnone : told.state.registry.lookup name = none :=
      Option.not_isSome_iff_eq_none.mp (ne_true_of_eq_false hunknown)
    obtain ⟨notices, hexec⟩ : ∃ notices : List Notice,
        (engine.dispatchWithin (rounds + 1) settings line 0).exec told =
          (.ok [], ⟨told.state, notices.map .notice ++ told.journal⟩) :=
      exec_dispatchWithin_of_unknown hnone rounds
    refine ⟨notices ++ [.received line], ?_⟩
    rw [hhandled, hexec, List.map_append, List.append_assoc]
    rfl
  · intro hact given hgiven
    have hstrip : Text.strip given = Text.strip line := by
      obtain ⟨front, back, hfront, hback, rfl⟩ | rfl := hgiven
      · exact Text.strip_append_append hfront hback line
      · exact Text.strip_strip line
    obtain ⟨hresult, halike⟩ := (matches_handle hact settings hstrip).of_no_parting (.refl r)
    exact ⟨hresult.eq_map, halike⟩

/-- A command that stops at a fault is invoked under its name in lower case, with what stands
between the blanks, and the line is quoted as it was given. -/
theorem handle_framed_boom :
    let start : Recorded (Workspace Unit Unit) := ⟨booming, []⟩
    let handled := fun line => ((stopping (.other "ValueError" "m")).handle {} line).exec start
    let quoted := fun line => (handled line).1.toOption.bind fun outcome =>
      (outcome.failure.bind (·.details)).bind (·.failingCommand)
    let line : Text := "BOOM \t a b"
    let given : Text := ['\n'] ++ line ++ [' ']
    quoted line = some line ∧ quoted given = some given ∧
      (handled given).1 = (handled line).1.map (Outcome.echoing given) ∧
      (handled line).2.SameButQuotes (handled given).2 ∧
      ∃ entry gap args, booming.registry.lookup "BOOM" = some entry ∧
        Text.Framed line "BOOM" gap args ∧
        let context : Context := ⟨"boom", args, 0⟩
        handled line = conclude {} line true
          ((Run.within (.invoked context) (.finished context)
            ((stopping (.other "ValueError" "m")).perform
              ((stopping (.other "ValueError" "m")).runWithin 999) entry.handler context)).exec
            ((start.add (.notice (.received line))).add
              (.notice (.dispatching "boom" args 0)))) := by
  intro start handled quoted line given
  have hnamed : start.state.registry.WellNamed := by
    have hnames : ∀ name ∈ start.state.registry.entries.map (·.name), IsName name := by
      decide +kernel
    exact ⟨List.forall_mem_map.mp hnames, by decide +kernel⟩
  have hcommand : commandOf line = "BOOM" := by decide +kernel
  have hlower : Text.lower "BOOM" = "boom" := by decide +kernel
  have hcontains : start.state.registry.contains "BOOM" = true := by decide +kernel
  obtain ⟨-, hknown, -, hgiven⟩ := handle_framed
    (rfl : (stopping (.other "ValueError" "m")).patience = 999 + 1) {} line hnamed
  rw [hcommand, hcontains, hlower] at hknown
  have hact : (stopping (.other "ValueError" "m")).HandlersIgnoreQuotes := fun _ _ _ _ => .throw _
  have hfront : ∀ c ∈ ['\n'], isBlank c = true := List.forall_mem_singleton.mpr (by decide)
  have hback : ∀ c ∈ [' '], isBlank c = true := List.forall_mem_singleton.mpr isBlank_space
  obtain ⟨hresult, halike⟩ := hgiven hact given (.inl ⟨['\n'], [' '], hfront, hback, rfl⟩)
  exact ⟨by decide +kernel, by decide +kernel, hresult, halike, hknown rfl⟩

end Command

end Engine

end Subshell
