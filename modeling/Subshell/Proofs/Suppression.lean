import Subshell.Proofs.Comparison
import Subshell.Proofs.Depth
/-!
# Empty results

The shell can be told to leave an empty result unanswered. Nobody notices: no reply and an empty one
are joined to the same text, and it is the joined text that takes the place of an interpolation and
that a line is told of. What differs is the list of the replies, and only where they are those of a
shell that the line itself invokes (`handle_of_answering`).
-/

namespace Subshell

variable {ι σ : Type}

/-- The second settings are the first but that empty results are answered. -/
def Settings.Answering (t t' : Settings) : Prop := t' = { t with suppressEmpty := false }

/-- The records are the same but that the shells in the second answer empty results. -/
structure Recorded.Answering (r s : Recorded (Workspace ι σ)) : Prop where
  registry : r.state.registry.Alike Settings.Answering s.state.registry
  host : r.state.host = s.state.host
  journal : r.journal = s.journal

/-- The replies are the same, or the second are a single empty one in the place of none. -/
def SameButEmpty (l l' : List Text) : Prop := l = l' ∨ l = [] ∧ l' = [[]]

/-- No reply and an empty one are joined to the same. -/
lemma SameButEmpty.join_eq {l l' : List Text} (h : SameButEmpty l l') (separator : Text) :
    Text.join separator l = Text.join separator l' := by
  obtain rfl | ⟨rfl, rfl⟩ := h
  · rfl
  · rfl

/-- Where one shell leaves a result unanswered, the other may reply with it. -/
lemma Settings.Answering.sameButEmpty {t t' : Settings} (h : t.Answering t') (result : Text) :
    SameButEmpty (if result.isEmpty && t.suppressEmpty then [] else [result])
      (if result.isEmpty && t'.suppressEmpty then [] else [result]) := by
  rw [h, Bool.and_false, if_neg Bool.false_ne_true]
  split
  · next hboth =>
    have hempty : result = [] := List.isEmpty_iff.mp (Bool.and_eq_true_iff.mp hboth).1
    exact .inr ⟨rfl, by rw [hempty]⟩
  · exact .inl rfl

namespace Engine

variable {engine : Engine ι σ} {settings : Settings}

/-- Runs under settings that may leave empty results unanswered, and under ones that do not. -/
def answering (hact : engine.HandlersRespect Recorded.Answering) : engine.Likeness engine where
  settings := Settings.Answering
  alike := Recorded.Answering
  parting _ := False
  replies := SameButEmpty
  events event _ _ h := ⟨h.registry, h.host, congrArg (event :: ·) h.journal⟩
  registry := Recorded.Answering.registry
  leaving := False.elim
  same _ := .inl rfl
  join := SameButEmpty.join_eq
  separator h := by rw [h]
  limit h := .inl (by rw [h])
  suppressed := Settings.Answering.sameButEmpty
  capacity := .refl engine
  act h call call' context := (hact h call call' context).mono (fun _ => id) fun _ _ => .inl

/-- A command that is no shell has the same replies. -/
lemma matches_perform_of_ne_shell (hact : engine.HandlersRespect Recorded.Answering)
    {handler handler' : Handler ι} (h : handler.Alike Settings.Answering handler')
    (hforeign : ∀ t, handler ≠ .shell t) (call call' : Caller ι σ) (context : Context) :
    Run.Matches Recorded.Answering (fun _ => False) Eq (engine.perform call handler context)
      (engine.perform call' handler' context) := by
  cases h with
  | @shell t _ _ => exact absurd rfl (hforeign t)
  | builtin b => exact (answering hact).builtin b context.args
  | custom c => exact hact c call call' context

/-- A line whose command is no shell has the same replies. -/
lemma corresponds_dispatch_of_ne_shell (hact : engine.HandlersRespect Recorded.Answering)
    (settings settings' : Settings) (line : Text) {r s : Recorded (Workspace ι σ)}
    (hrs : r.Answering s)
    (hforeign : ∀ entry, r.state.registry.lookup (commandOf line) = some entry →
      ∀ t, entry.handler ≠ .shell t) :
    Corresponds Eq ((engine.dispatch settings line 0).exec r).1
      ((engine.dispatch settings' line 0).exec s).1 := by
  unfold dispatch
  rcases engine.patience with - | rounds
  · exact .error _
  unfold dispatchWithin dispatchOnce
  rw [checkDepth_eq_pure (zero_within settings), checkDepth_eq_pure (zero_within settings'),
    pure_bind]
  rcases hfirst : Text.firstWord? (Text.strip line) with - | ⟨word, args⟩
  · exact .ok rfl
  · dsimp only
    rw [commandOf_eq hfirst] at hforeign
    rw [Run.exec_state_bind, Run.exec_state_bind]
    have hlookup := hrs.registry.lookup word
    generalize r.state.registry.lookup word = found, s.state.registry.lookup word = found'
      at hlookup hforeign ⊢
    cases hlookup with
    | none => exact .ok rfl
    | @some entry entry' hentry =>
      have hperform := matches_perform_of_ne_shell hact hentry.handler (hforeign entry rfl)
      have hmatch := (answering hact).events.note_bind (.dispatching entry'.name args 0)
        ((answering hact).events.within (.invoked ⟨entry'.name, args, 0⟩)
          (.finished ⟨entry'.name, args, 0⟩)
          (hperform (engine.runWithin rounds) (engine.runWithin rounds) ⟨entry'.name, args, 0⟩))
      dsimp only
      rw [hentry.name]
      exact (hmatch.of_no_parting hrs).1

/-- The command of a line is the shell with the settings. -/
def NamesShell (registry : Registry ι) (settings : Settings) (line : Text) : Prop :=
  ∃ entry, registry.lookup (commandOf line) = some entry ∧ entry.name = shellName ∧
    entry.handler = .shell settings

/-- The replies to a line are the same, or they are those of the shell and there is a single empty
one in the place of none. -/
lemma corresponds_dispatch (hact : engine.HandlersRespect Recorded.Answering)
    (settings : Settings) (line : Text) {r s : Recorded (Workspace ι σ)} (hrs : r.Answering s)
    (hown : r.state.registry.OwnShell settings) :
    Corresponds
        (fun l l' => l' = l ∨ l = [] ∧ l' = [[]] ∧ NamesShell r.state.registry settings line)
        ((engine.dispatch settings line 0).exec r).1
        ((engine.dispatch { settings with suppressEmpty := false } line 0).exec s).1 ∧
      ((engine.dispatch settings line 0).exec r).2.Answering
        ((engine.dispatch { settings with suppressEmpty := false } line 0).exec s).2 := by
  have hdispatch : Run.Matches Recorded.Answering (fun _ => False) SameButEmpty
      (engine.dispatch settings line 0)
      (engine.dispatch { settings with suppressEmpty := false } line 0) :=
    (answering hact).dispatchWithin engine.patience rfl line 0
  obtain ⟨hresult, halike⟩ := hdispatch.of_no_parting hrs
  refine ⟨?_, halike⟩
  by_cases hshell : ∃ entry, r.state.registry.lookup (commandOf line) = some entry ∧
      ∃ t, entry.handler = .shell t
  · obtain ⟨entry, hfound, t, hhandler⟩ := hshell
    obtain ⟨hsettings, hname⟩ := hown entry (List.mem_of_find?_eq_some hfound)
    have hentry : entry.name = shellName := hname t hhandler
    refine hresult.imp fun l l' hreplies => ?_
    obtain hsame | ⟨hnone, hempty⟩ := hreplies
    · exact .inl hsame.symm
    · exact .inr ⟨hnone, hempty, entry, hfound, hentry, hsettings hentry⟩
  · refine (corresponds_dispatch_of_ne_shell hact settings _ line hrs ?_).imp fun _ _ h =>
      .inl h.symm
    exact fun entry hfound t hhandler => hshell ⟨entry, hfound, t, hhandler⟩

/-- Whether the shell answers empty results does not show in what is invoked and put out, in the
state of the host, or in what comes of a line, but for its replies: there may be a single empty one
in the place of none, where the command of the line is the shell itself. -/
theorem handle_of_answering (hact : engine.HandlersRespect Recorded.Answering)
    (settings : Settings) (line : Text) {r s : Recorded (Workspace ι σ)} (hrs : r.Answering s)
    (hown : r.state.registry.OwnShell settings) :
    ((engine.handle settings line).exec r).2.Answering
        ((engine.handle { settings with suppressEmpty := false } line).exec s).2 ∧
      ((∃ fault, ((engine.handle settings line).exec r).1 = .error fault ∧
          ((engine.handle { settings with suppressEmpty := false } line).exec s).1 =
            .error fault) ∨
        ∃ outcome replies, ((engine.handle settings line).exec r).1 = .ok outcome ∧
          ((engine.handle { settings with suppressEmpty := false } line).exec s).1 =
            .ok { outcome with replies } ∧
          (replies = outcome.replies ∨
            outcome.replies = [] ∧ replies = [[]] ∧
              NamesShell r.state.registry settings line)) := by
  have hstart := (answering hact).events (.notice (.received line)) _ _ hrs
  obtain ⟨hresult, halike⟩ := corresponds_dispatch hact settings line hstart hown
  rw [exec_handle, exec_handle, ← hrs.registry.contains]
  generalize (engine.dispatch settings line 0).exec (r.add (.notice (.received line))) = a,
    (engine.dispatch { settings with suppressEmpty := false } line 0).exec
      (s.add (.notice (.received line))) = b at hresult halike ⊢
  obtain ⟨resulta, r'⟩ := a
  obtain ⟨resultb, s'⟩ := b
  cases hresult with
  | error fault =>
    -- the same fault is reported alike
    have hreport : Run.Matches _ (fun _ => False) Eq _ _ := (answering hact).events.reportFault line
      (commandOf line) (r.state.registry.contains (commandOf line)) fault
    obtain ⟨-, -, -, hfalse⟩ | ⟨fault, r'', s'', hr, hs, hfinal⟩ |
      ⟨outcome, _, r'', s'', hr, hs, rfl, hfinal⟩ := hreport.cases_on halike
    · exact hfalse.elim
    · dsimp only
      rw [hr, hs]
      exact ⟨hfinal, .inl ⟨fault, rfl, rfl⟩⟩
    · dsimp only
      rw [hr, hs]
      exact ⟨hfinal, .inr ⟨outcome, outcome.replies, rfl, rfl, .inl rfl⟩⟩
  | @ok replies replies' hreplies =>
    have hjoin : Text.join settings.separator replies' = Text.join settings.separator replies := by
      obtain rfl | ⟨rfl, rfl, -⟩ := hreplies
      · rfl
      · rfl
    refine ⟨halike, .inr ⟨_, replies', rfl, ?_, hreplies⟩⟩
    dsimp only
    rw [hjoin]

/-- The shell is asked for a command that there is not: it has nothing to reply or replies with an
empty text. Inside an interpolation it does not matter which. -/
theorem handle_of_answering_unknown :
    let quiet : Recorded (Workspace Unit Nat) := ⟨ticking {}, []⟩
    let loud : Recorded (Workspace Unit Nat) := ⟨ticking { suppressEmpty := false }, []⟩
    let replies := fun (settings : Settings) (line : Text) r =>
      ((counter.handle settings line).exec r).1.toOption.map Outcome.replies
    replies {} "shell tock" quiet = some [] ∧
      replies { suppressEmpty := false } "shell tock" loud = some [[]] ∧
      ∀ line, ((counter.handle {} line).exec quiet).2.Answering
        ((counter.handle { suppressEmpty := false } line).exec loud).2 := by
  intro quiet loud replies
  have hact : counter.HandlersRespect Recorded.Answering := by
    refine counter_handlersRespect (fun _ _ h => h.host) ?_
    intro r s n h
    exact ⟨h.registry, rfl, h.journal⟩
  have hstart : quiet.Answering loud :=
    ⟨.cons ⟨rfl, .custom (), rfl⟩ (.cons ⟨rfl, .shell rfl, rfl⟩ .nil), rfl, rfl⟩
  have hown : quiet.state.registry.OwnShell {} := ownShell_pair (by decide) () {} shellHelp
  exact ⟨by decide +kernel, by decide +kernel, fun line =>
    (handle_of_answering hact {} line hstart hown).1⟩

end Engine

end Subshell
