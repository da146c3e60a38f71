import Subshell.Proofs.Comparison
import Subshell.Proofs.Rewriting
/-!
# How the fault of a handler surfaces

A handler that stops at a fault stops everything that it was invoked for. To say so, the handlers of
the host are watched (`Engine.watched`): kept are the faults that they stopped at, each with what
had been recorded by then. Watching makes no difference (`watching`), and what is seen comes to this
(`dispatch_watched`): at most one handler stops at a fault, after that nothing is recorded but the
ends of the invocations under way, and the fault is the one that a dispatch stops at.

One fault does not come out as it went in. A `StopIteration` inside an interpolation ends the
iteration over the parts of the command and is turned into another failure (`Fault.leaving`).
Whether a moment lies inside an interpolation can be read off the events so far (`stages`).

What a line makes of the fault is the last part: `handle_watched`.
-/

namespace Subshell

variable {ι σ α β : Type}

/-! ## Inside an interpolation -/

/-- What an event makes of the invocations under way, the latest first: each is followed by whether
its interpolations lie behind it. -/
def Event.stage (above : List Bool) : Event → List Bool
  | .invoked _ => false :: above
  | .finished _ => above.tail
  | .notice (.resolved _ _) => true :: above.tail
  | .notice _ | .output _ _ => above

/-- The invocations under way after some events, in the same way. -/
def stages (above : List Bool) (events : List Event) : List Bool := events.foldl Event.stage above

/-- After some events, the latest invocation under way is inside an interpolation of another. -/
def InInterpolation (events : List Event) : Prop := false ∈ (stages [] events).tail

instance (events : List Event) : Decidable (InInterpolation events) :=
  inferInstanceAs (Decidable (false ∈ _))

/-- From some invocations under way on top of others, events lead to other ones on top of them. -/
def Leads (top top' : List Bool) (events : List Event) : Prop :=
  ∀ above, stages (top ++ above) events = top' ++ above

namespace Leads

variable {top top' top'' : List Bool} {a b : List Event}

lemma nil (top : List Bool) : Leads top top [] := fun _ => rfl

lemma append (ha : Leads top top' a) (hb : Leads top' top'' b) : Leads top top'' (a ++ b) := by
  intro above
  unfold stages at *
  rw [List.foldl_append]
  exact (congrArg (List.foldl Event.stage · b) (ha above)).trans (hb above)

/-- It does not matter what lies further below. -/
lemma below (h : Leads top top' a) (base : List Bool) : Leads (top ++ base) (top' ++ base) a := by
  intro above
  rw [List.append_assoc, h, List.append_assoc]

end Leads

/-- An event that only a dispatch records: the beginning or end of an invocation, or that the shell
has put its interpolations behind it. -/
def Event.IsDispatch : Event → Prop
  | .invoked _ | .finished _ | .notice (.resolved _ _) => True
  | .notice _ | .output _ _ => False

/-- Other events do not show. -/
lemma leads_of_not_isDispatch {events : List Event} (h : ∀ e ∈ events, ¬e.IsDispatch)
    (top : List Bool) : Leads top top events := by
  induction events with
  | nil => exact .nil top
  | cons event events ih =>
    have hevent : ∀ above, event.stage above = above := by
      have hne := h event List.mem_cons_self
      cases event with
      | invoked | finished => exact absurd trivial hne
      | output => exact fun _ => rfl
      | notice notice =>
        cases notice with
        | resolved => exact absurd trivial hne
        | _ => exact fun _ => rfl
    intro above
    show stages (event.stage (top ++ above)) events = _
    rw [hevent]
    exact ih (fun e he => h e (List.mem_cons_of_mem _ he)) above

/-! ## Watching handlers -/

/-- The state of a host whose handlers are watched, and the faults that they stopped at, each with
what had been recorded by then. -/
structure Watched (σ : Type) where
  host : σ
  raised : List (Fault × List Event)

/-- What is recorded, with what has been seen of the handlers. -/
def Recorded.watched (r : Recorded (Workspace ι σ)) (raised : List (Fault × List Event)) :
    Recorded (Workspace ι (Watched σ)) :=
  ⟨⟨r.state.registry, ⟨r.state.host, raised⟩⟩, r.journal⟩

/-- What is recorded, without what has been seen of the handlers. -/
def Recorded.unwatched (r : Recorded (Workspace ι (Watched σ))) : Recorded (Workspace ι σ) :=
  ⟨⟨r.state.registry, r.state.host.host⟩, r.journal⟩

/-- What has been seen of the handlers. -/
def Recorded.raised (r : Recorded (Workspace ι (Watched σ))) : List (Fault × List Event) :=
  r.state.host.raised

@[simp] lemma Recorded.unwatched_watched (r : Recorded (Workspace ι σ))
    (raised : List (Fault × List Event)) : (r.watched raised).unwatched = r := rfl

@[simp] lemma Recorded.raised_watched (r : Recorded (Workspace ι σ))
    (raised : List (Fault × List Event)) : (r.watched raised).raised = raised := rfl

@[simp] lemma Recorded.watched_unwatched (r : Recorded (Workspace ι (Watched σ))) :
    r.unwatched.watched r.raised = r := rfl

/-- What is recorded, with what has been seen so far and the fault that there is now, if there is
one. -/
def Recorded.seeing (after : Recorded (Workspace ι σ)) (raised : List (Fault × List Event)) :
    Except Fault α → Recorded (Workspace ι (Watched σ))
  | .ok _ => after.watched raised
  | .error fault => after.watched ((fault, after.journal) :: raised)

/-- A run that is watched. -/
def Run.watched (run : Task ι σ α) : Task ι (Watched σ) α := ExceptT.mk fun r =>
  let (result, after) := run.exec r.unwatched
  (result, after.seeing r.raised result)

lemma Run.exec_watched (run : Task ι σ α) (r : Recorded (Workspace ι (Watched σ))) :
    run.watched.exec r = ((run.exec r.unwatched).1,
      (run.exec r.unwatched).2.seeing r.raised (run.exec r.unwatched).1) := rfl

/-- Watching a run makes no difference. -/
lemma Run.matches_watched (run : Task ι σ α) :
    Run.Matches (fun r s => s.unwatched = r) (fun _ => False) Eq run run.watched := by
  rintro _ s rfl
  rw [Run.exec_watched]
  rcases run.exec s.unwatched with ⟨fault | a, after⟩
  · exact .inr ⟨.error fault, rfl⟩
  · exact .inr ⟨.ok rfl, rfl⟩

/-- A way back for handlers that do not use it. -/
def Caller.idle : Caller ι σ := fun _ _ _ => return []

namespace Engine

/-- The engine with its handlers watched. They get no way back into the engine. -/
def watched (engine : Engine ι σ) : Engine ι (Watched σ) where
  act h _ context := (engine.act h Caller.idle context).watched
  capacity := engine.capacity
  patience := engine.patience

/-- The handlers of the host do not use the way back into the engine, and record nothing that only a
dispatch does. -/
def HandlersKeepOut (engine : Engine ι σ) : Prop :=
  ∀ h call context r,
    (engine.act h call context).exec r = (engine.act h Caller.idle context).exec r ∧
    ∃ events : List Event,
      ((engine.act h call context).exec r).2.journal = events.reverse ++ r.journal ∧
      ∀ e ∈ events, ¬e.IsDispatch

variable {engine : Engine ι σ}

lemma sameCapacity_watched (engine : Engine ι σ) : engine.SameCapacity engine.watched := rfl

lemma HandlersKeepOut.matches_act (hact : engine.HandlersKeepOut) (h : ι) (call : Caller ι σ)
    (call' : Caller ι (Watched σ)) (context : Context) :
    Run.Matches (fun r s => s.unwatched = r) (fun _ => False) Eq (engine.act h call context)
      (engine.watched.act h call' context) := by
  have hsame : engine.act h call context = engine.act h Caller.idle context :=
    Run.ext fun r => (hact h call context r).1
  rw [hsame]
  exact Run.matches_watched _

/-- Watching the handlers makes no difference. -/
def watching (hact : engine.HandlersKeepOut) : engine.Likeness engine.watched :=
  .exact (fun r s => s.unwatched = r) (fun event _ _ h => congrArg (Recorded.add · event) h)
    (fun h => congrArg (fun r => r.state.registry) h.symm) (sameCapacity_watched engine)
    hact.matches_act

end Engine

/-! ## How a run ends -/

/-- A fault that the engine stops at by itself. -/
def Fault.IsOwn (fault : Fault) : Prop := fault.IsCutOff ∨ fault = .exhausted

lemma Fault.IsOwn.leaving {fault : Fault} (h : fault.IsOwn) : fault.leaving.IsOwn := by
  obtain h | rfl := h
  · exact .inl h.leaving
  · exact .inr rfl

/-- Leaving two interpolations is leaving one. -/
lemma Fault.leaving_leaving (fault : Fault) : fault.leaving.leaving = fault.leaving := by
  rcases leaving_cases fault with hstays | ⟨hruntime, -⟩
  · rw [hstays, hstays]
  · rw [hruntime]
    rfl

/-- How a run may end that goes on from a record in which no handler has been seen to stop. -/
inductive Surfacing (top : List Bool) (calm : List Bool → Prop)
    (r : Recorded (Workspace ι (Watched σ))) :
    Except Fault α × Recorded (Workspace ι (Watched σ)) → Prop
  /-- It comes to a result. -/
  | fine {a : α} {after : Recorded (Workspace ι (Watched σ))} {events : List Event}
      {top' : List Bool} : after.raised = [] → after.journal = events.reverse ++ r.journal →
      Leads top top' events → calm top' → Surfacing top calm r (.ok a, after)
  /-- The engine itself stops at a fault. -/
  | own {fault : Fault} {after : Recorded (Workspace ι (Watched σ))} : after.raised = [] →
      fault.IsOwn → Surfacing top calm r (.error fault, after)
  /-- A handler stops at a fault, and the run ends with it. -/
  | raised {fault : Fault} {after : Recorded (Workspace ι (Watched σ))} {events ends : List Event}
      {stage : Bool} {others : List Bool} :
      after.raised = [(fault, events.reverse ++ r.journal)] →
      after.journal = ends ++ (events.reverse ++ r.journal) →
      (∀ e ∈ ends, ∃ context, e = .finished context) → Leads top (stage :: others) events →
      Surfacing top calm r (.error (if false ∈ others then fault.leaving else fault), after)

namespace Surfacing

variable {top top' : List Bool} {calm calm' : List Bool → Prop}
  {r mid : Recorded (Workspace ι (Watched σ))}

/-- What goes before a run in which no handler stops. -/
lemma behind (before : List Event) {ending : Except Fault α × Recorded (Workspace ι (Watched σ))}
    (h : Surfacing top' calm mid ending) (hjournal : mid.journal = before.reverse ++ r.journal)
    (hleads : Leads top top' before) : Surfacing top calm r ending := by
  have hreverse : ∀ events : List Event,
      events.reverse ++ mid.journal = (before ++ events).reverse ++ r.journal := by
    intro events
    rw [hjournal, List.reverse_append, List.append_assoc]
  cases h with
  | fine hraised hafter hleads' hcalm =>
    exact .fine hraised (hafter.trans (hreverse _)) (hleads.append hleads') hcalm
  | own hraised hown => exact .own hraised hown
  | raised hraised hafter hends hleads' =>
    rw [hreverse] at hraised hafter
    exact .raised hraised hafter hends (hleads.append hleads')

end Surfacing

/-- A run ends so wherever it starts from. -/
def Run.Surfaces (top : List Bool) (calm : List Bool → Prop) (run : Task ι (Watched σ) α) : Prop :=
  ∀ r, r.raised = [] → Surfacing top calm r (run.exec r)

namespace Run.Surfaces

variable {top top' : List Bool} {calm calm' : List Bool → Prop} {run : Task ι (Watched σ) α}
  {next : α → Task ι (Watched σ) β}

lemma pure (h : calm top) (a : α) : Surfaces top calm (pure a : Task ι (Watched σ) α) :=
  fun _ hr => .fine hr rfl (.nil top) h

lemma pure_same (a : α) : Surfaces top (· = top) (Pure.pure a : Task ι (Watched σ) α) :=
  fun _ hr => .fine hr rfl (.nil top) rfl

lemma throw {fault : Fault} (h : fault.IsOwn) :
    Surfaces top calm (throw fault : Task ι (Watched σ) α) :=
  fun _ hr => .own hr h

lemma bind (h : Surfaces top calm' run)
    (hnext : ∀ a top', calm' top' → Surfaces top' calm (next a)) :
    Surfaces top calm (run >>= next) := by
  intro r hr
  have hrun := h r hr
  rcases hexec : run.exec r with ⟨fault | a, after⟩
  · rw [Run.exec_bind_of_error hexec]
    rw [hexec] at hrun
    cases hrun with
    | own hraised hown => exact .own hraised hown
    | raised hraised hafter hends hleads => exact .raised hraised hafter hends hleads
  · rw [Run.exec_bind_of_ok hexec]
    rw [hexec] at hrun
    cases hrun with
    | fine hraised hafter hleads hcalm =>
      exact (hnext a _ hcalm after hraised).behind _ hafter hleads

/-- An event before a run. -/
lemma record_bind {event : Event} (hevent : ∀ above, event.stage (top ++ above) = top' ++ above)
    (h : Surfaces top' calm run) : Surfaces top calm (do Run.record event; run) := by
  intro r hr
  exact (h (r.add event) hr).behind [event] rfl hevent

/-- A run that goes on with the state goes on with any. -/
lemma state_bind {next : Workspace ι (Watched σ) → Task ι (Watched σ) β}
    (h : ∀ w, Surfaces top calm (next w)) : Surfaces top calm (Run.state >>= next) :=
  fun r hr => h r.state r hr

/-- In front of a run that ends a shell there are no interpolations. -/
lemma below_true (h : Surfaces [] (· = []) run) : Surfaces [true] (· = [true]) run := by
  intro r hr
  have hrun := h r hr
  generalize run.exec r = ending at hrun
  cases hrun with
  | fine hraised hafter hleads hcalm =>
    subst hcalm
    exact .fine hraised hafter (hleads.below [true]) rfl
  | own hraised hown => exact .own hraised hown
  | @raised _ _ _ _ _ others hraised hafter hends hleads =>
    have hothers : false ∈ others ↔ false ∈ others ++ [true] := by simp
    rw [if_congr hothers rfl rfl]
    exact .raised hraised hafter hends (hleads.below [true])

/-- An invocation leaves what was under way before it. -/
lemma within (context : Context) (h : Surfaces [false] (fun top => ∃ stage, top = [stage]) run) :
    Surfaces [] (· = []) (Run.within (.invoked context) (.finished context) run) := by
  intro r hr
  rw [Run.exec_within]
  have hbegins : Leads [] [false] [.invoked context] := fun _ => rfl
  have hrun := (h (r.add (.invoked context)) hr).behind [.invoked context] rfl hbegins
  show Surfacing [] (· = []) r ((run.exec (r.add (.invoked context))).1,
    (run.exec (r.add (.invoked context))).2.add (.finished context))
  generalize run.exec (r.add (.invoked context)) = ending at hrun
  cases hrun with
  | fine hraised hafter hleads hcalm =>
    obtain ⟨stage, rfl⟩ := hcalm
    have hends : Leads [stage] [] [.finished context] := fun _ => rfl
    refine .fine hraised ?_ (hleads.append hends) rfl
    rw [Recorded.journal_add, hafter, List.reverse_append, List.append_assoc]
    rfl
  | own hraised hown => exact .own hraised hown
  | @raised _ after events ends _ _ hraised hafter hends hleads =>
    have hjournal : (after.add (.finished context)).journal =
        (.finished context :: ends) ++ (events.reverse ++ r.journal) := by
      rw [Recorded.journal_add, hafter]
      rfl
    refine .raised hraised hjournal ?_ hleads
    intro e he
    rcases List.mem_cons.mp he with rfl | he
    · exact ⟨context, rfl⟩
    · exact hends e he

end Run.Surfaces

/-! ## The engine -/

section Commands

variable {run : Text → Task ι (Watched σ) Text}

/-- Out of an interpolation a fault comes as it leaves it. -/
lemma surfaces_splice {inner : Text} (h : Run.Surfaces [] (· = []) (run inner)) :
    Run.Surfaces [false] (· = [false])
      (splice (fun inner => return .text (← run inner)) inner) := by
  intro r hr
  rw [exec_splice_text]
  have hrun := h r hr
  generalize (run inner).exec r = ending at hrun
  cases hrun with
  | @fine result after events _ hraised hafter hleads hcalm =>
    subst hcalm
    have hnotice : Leads [false] [false] [.notice (.interpolated inner result)] := fun _ => rfl
    refine .fine hraised ?_ ((hleads.below [false]).append hnotice) rfl
    rw [Recorded.journal_add, hafter, List.reverse_append, List.append_assoc]
    rfl
  | own hraised hown => exact .own hraised hown.leaving
  | @raised fault _ _ _ _ others hraised hafter hends hleads =>
    have hleaving : (if false ∈ others then fault.leaving else fault).leaving =
        if false ∈ others ++ [false] then fault.leaving else fault := by
      have hmem : false ∈ others ++ [false] := by simp
      rw [if_pos hmem]
      split
      · exact fault.leaving_leaving
      · rfl
    dsimp only
    rw [hleaving]
    exact .raised hraised hafter hends (hleads.below [false])

/-- So it does out of a whole command. -/
lemma surfaces_execute (h : ∀ inner, Run.Surfaces [] (· = []) (run inner)) (command : Command) :
    Run.Surfaces [false] (· = [false])
      (command.execute fun inner => return .text (← run inner)) := by
  refine Run.Surfaces.record_bind (fun _ => rfl) ?_
  induction command with
  | nil => exact .pure_same _
  | literal text rest ih =>
    refine ih.bind ?_
    rintro after _ rfl
    exact .pure_same _
  | interpolation inner rest ihinner ihrest =>
    refine ihinner.bind ?_
    rintro text _ rfl
    refine (surfaces_splice (h text)).bind ?_
    rintro result _ rfl
    refine ihrest.bind ?_
    rintro after _ rfl
    exact .pure_same _

end Commands

namespace Engine

variable {engine : Engine ι σ} {call : Caller ι (Watched σ)} {settings : Settings}

/-- The notice that a text is no command does not show either. -/
lemma stage_nesting_notice (nesting : Nesting) (text : Text) (fault : ParseFault)
    (above : List Bool) : (Event.notice (nesting.notice text fault)).stage above = above := by
  unfold Nesting.notice
  split
  · split <;> rfl
  · rfl
  · rfl
  · rfl

lemma surfaces_shell (hcall : ∀ text depth, Run.Surfaces [] (· = []) (call settings text depth))
    (context : Context) :
    Run.Surfaces [false] (fun top => ∃ stage, top = [stage])
      (engine.watched.shell call settings context) := by
  rw [shell_eq]
  refine Run.Surfaces.record_bind (fun _ => rfl) ?_
  split
  · next command _ =>
    refine Run.Surfaces.record_bind (fun _ => rfl) ?_
    refine (surfaces_execute (fun inner => hcall inner _) command).bind ?_
    rintro text _ rfl
    -- from here on the interpolations lie behind the shell
    have hresolved : ∀ above : List Bool, Event.stage ([false] ++ above)
        (.notice (.resolved context.args text)) = [true] ++ above := fun _ => rfl
    refine Run.Surfaces.record_bind hresolved ?_
    refine (hcall text _).below_true.bind ?_
    rintro result _ rfl
    exact .pure ⟨true, rfl⟩ _
  · next fault _ =>
    refine Run.Surfaces.record_bind (fun above => stage_nesting_notice _ _ _ _) ?_
    split
    · next hcause => exact .throw (.inl (Nesting.isCutOff_fault hcause))
    · exact Run.Surfaces.record_bind (fun _ => rfl) (.pure ⟨false, rfl⟩ _)

lemma surfaces_builtin (b : Builtin) (args : Text) :
    Run.Surfaces [false] (fun top => ∃ stage, top = [stage])
      (b.act args : Task ι (Watched σ) (List Text)) := by
  cases b with
  | ping | echo | upper | lower | reverse => exact .pure ⟨false, rfl⟩ _
  | say =>
    simp only [Builtin.act]
    split
    · exact .pure ⟨false, rfl⟩ _
    · exact Run.Surfaces.record_bind (fun _ => rfl) (.pure ⟨false, rfl⟩ _)
  | help => exact .state_bind fun _ => .pure ⟨false, rfl⟩ _

/-- The fault of a handler of the host is seen as it is. -/
lemma surfaces_custom (hact : engine.HandlersKeepOut) (h : ι) (context : Context) :
    Run.Surfaces [false] (fun top => ∃ stage, top = [stage])
      (engine.watched.act h call context) := by
  intro r hr
  obtain ⟨-, events, hjournal, hevents⟩ := hact h Caller.idle context r.unwatched
  have hleads : Leads [false] [false] events := leads_of_not_isDispatch hevents [false]
  show Surfacing _ _ _ ((engine.act h Caller.idle context).watched.exec r)
  rw [Run.exec_watched]
  rcases hexec : (engine.act h Caller.idle context).exec r.unwatched with ⟨fault | replies, after⟩
  · rw [hexec] at hjournal
    have hraised : (after.seeing r.raised (.error fault : Except Fault (List Text))).raised =
        [(fault, events.reverse ++ r.journal)] := by
      show (fault, after.journal) :: r.raised = _
      rw [hr, show after.journal = _ from hjournal]
      rfl
    have hafter : (after.seeing r.raised (.error fault : Except Fault (List Text))).journal =
        [] ++ (events.reverse ++ r.journal) := hjournal
    exact .raised hraised hafter (fun _ h => nomatch h) hleads
  · rw [hexec] at hjournal
    exact .fine hr hjournal hleads ⟨false, rfl⟩

lemma surfaces_dispatchOnce (hact : engine.HandlersKeepOut)
    (hcall : ∀ settings text depth, Run.Surfaces [] (· = []) (call settings text depth))
    (settings : Settings) (text : Text) (depth : Int) :
    Run.Surfaces [] (· = []) (engine.watched.dispatchOnce call settings text depth) := by
  unfold dispatchOnce
  obtain hfits | ⟨limit, hlimit, hlt⟩ := within_or_beyond settings depth
  · rw [checkDepth_eq_pure hfits, pure_bind]
    split
    · exact .pure_same _
    · refine .state_bind fun w => ?_
      split
      · exact Run.Surfaces.record_bind (fun _ => rfl) (.pure_same _)
      · next entry _ =>
        refine Run.Surfaces.record_bind (fun _ => rfl) (.within _ ?_)
        unfold perform
        split
        · exact surfaces_shell (hcall _) _
        · exact surfaces_builtin _ _
        · exact surfaces_custom hact _ _
  · intro r hr
    rw [Run.exec_bind_of_error (exec_checkDepth_of_lt hlimit hlt text r)]
    exact .own hr (.inl (Fault.isCutOff_of_nowhere _ _ _))

/-- However many dispatches lie inside one another, the fault of a handler surfaces. -/
theorem surfaces_dispatchWithin (hact : engine.HandlersKeepOut) (rounds : Nat)
    (settings : Settings) (text : Text) (depth : Int) :
    Run.Surfaces [] (· = []) (engine.watched.dispatchWithin rounds settings text depth) := by
  induction rounds generalizing settings text depth with
  | zero => exact .throw (.inr rfl)
  | succ rounds ih =>
    refine surfaces_dispatchOnce hact (fun settings text depth => ?_) settings text depth
    refine (ih settings text depth).bind ?_
    rintro replies _ rfl
    exact Run.Surfaces.record_bind (fun _ => rfl) (.pure_same _)

/-- Watched or not, a dispatch comes to the same. If no handler is seen to stop at a fault, the
dispatch can only stop at one of the engine's own. If one is, it is the only one: nothing is
recorded after it but that the invocations under way are over, and the dispatch stops at its fault,
or at what that becomes inside an interpolation. -/
lemma dispatch_watched (hact : engine.HandlersKeepOut) (settings : Settings) (text : Text)
    (depth : Int) (r : Recorded (Workspace ι σ)) :
    ∃ result after raised,
      (engine.dispatch settings text depth).exec r = (result, after) ∧
      (engine.watched.dispatch settings text depth).exec (r.watched []) =
        (result, after.watched raised) ∧
      (raised = [] → ∀ fault, result = .error fault → fault.IsOwn) ∧
      ∀ fault journal, (fault, journal) ∈ raised → ∃ events ends,
        raised = [(fault, journal)] ∧ journal = events.reverse ++ r.journal ∧
        after.journal = ends ++ journal ∧ (∀ e ∈ ends, ∃ context, e = .finished context) ∧
        result = .error (if InInterpolation events then fault.leaving else fault) := by
  have hsurfaces := surfaces_dispatchWithin hact engine.patience settings text depth (r.watched [])
    rfl
  have hmatches : Run.Matches (fun r s => s.unwatched = r) (fun _ => False) Eq
      (engine.dispatchWithin engine.patience settings text depth)
      (engine.watched.dispatchWithin engine.patience settings text depth) :=
    (watching hact).dispatchWithin engine.patience rfl text depth
  obtain ⟨hresult, hafter⟩ := hmatches.of_no_parting (r := r) (s := r.watched []) rfl
  rcases hdispatch : (engine.dispatchWithin engine.patience settings text depth).exec r with
    ⟨result, after⟩
  rcases hwatched : (engine.watched.dispatchWithin engine.patience settings text depth).exec
    (r.watched []) with ⟨result', after'⟩
  rw [hdispatch, hwatched] at hresult hafter
  rw [hwatched] at hsurfaces
  obtain rfl : result = result' := corresponds_eq_iff.mp hresult
  obtain rfl : after'.unwatched = after := hafter
  refine ⟨result, after'.unwatched, after'.raised, hdispatch, hwatched, ?_, ?_⟩
  · intro hraised fault hfault
    cases hsurfaces with
    | fine => cases hfault
    | own _ hown => cases hfault; exact hown
    | raised hraised' => rw [hraised] at hraised'; cases hraised'
  · intro fault journal hmem
    cases hsurfaces with
    | fine hraised => rw [hraised] at hmem; cases hmem
    | own hraised => rw [hraised] at hmem; cases hmem
    | @raised fault' _ events ends stage others hraised hjournal hends hleads =>
      rw [hraised, List.mem_singleton] at hmem
      cases hmem
      refine ⟨events, ends, hraised, rfl, hjournal, hends, ?_⟩
      have hstages : stages [] events = (stage :: others) ++ [] := hleads []
      have hiff : InInterpolation events ↔ false ∈ others := by
        unfold InInterpolation
        rw [hstages, List.append_nil, List.tail_cons]
      simp only [hiff]

end Engine

/-! ## What a line makes of it -/

/-- The notes that name the command of a line. -/
def lineNotes (command : Text) (known : Bool) : List (Text × Value) :=
  [("command", .text command), ("known_command", .bool known)]

/-- An outcome tells of a failure for a reason, and of the command of the line. Its content is what
the failure says. -/
structure Outcome.TellsFailure (outcome : Outcome) (reason : Reason) (command : Text)
    (known : Bool) : Prop where
  status : outcome.report.status = .failed
  replies : outcome.report.replies = []
  notes : ∃ error : List (Text × Value),
    outcome.report.notes = ("error".toList, .object error) :: lineNotes command known ∧
    error.lookup "message".toList = some (.text outcome.report.content) ∧
    error.lookup "reason".toList = some (.text reason.text)

/-- The report of a line that completes. -/
def Report.completed (content : Text) (replies : List Text) (command : Text) (known : Bool) :
    Report :=
  ⟨content, .complete, replies,
    lineNotes command known ++ [("reply_count".toList, .int replies.length)]⟩

/-- A fault says that something is nested too deep, at a position that there cannot be. -/
def Fault.IsMisplaced (fault : Fault) : Prop :=
  ∃ deep position, fault = .tooDeep deep ∧ deep.position = some position ∧ position < 0

namespace Engine

variable {engine : Engine ι σ}

lemma tellsFailure_failed (command : Text) (known : Bool) (failure : Failure) :
    (failed command known failure).TellsFailure failure.reason command known :=
  ⟨rfl, rfl, _, rfl, rfl, rfl⟩

/-- An interruption is not reported. -/
lemma exec_reportFault_of_not_isFailure {fault : Fault} (h : fault.isFailure = false)
    (line command : Text) (known : Bool) (r : Recorded (Workspace ι σ)) :
    (reportFault line command known fault).exec r = (.error fault, r) := by
  unfold reportFault
  cases fault with
  | exit code => rfl
  | other kind message =>
    dsimp only
    rw [h]
    rfl
  | _ => cases h

/-- What is nested too deep at a position that there cannot be is not described validly. -/
lemma exec_reportFault_of_isMisplaced {fault : Fault} (h : fault.IsMisplaced) (line command : Text)
    (known : Bool) (r : Recorded (Workspace ι σ)) :
    ((reportFault line command known fault).exec r).1 =
      .error (.invalid [⟨[.field "position"], .negative⟩]) := by
  obtain ⟨deep, position, rfl, hposition, hneg⟩ := h
  have hany : deep.position.any (· < 0) = true := by
    rw [hposition]
    exact decide_eq_true hneg
  unfold reportFault
  dsimp only
  rw [Run.exec_note_bind, hany]
  rfl

/-- What a line comes to whatever its handlers do. The fault of a handler comes to the line as it
was raised, unless it was a `StopIteration` inside an interpolation, and nothing is invoked after
it. What the line makes of a fault is decided by its class: an interruption leaves the line as it
is, a failure is told for the reason that its class has, and only a nesting fault whose position
lies before the text is not told, since its description is not valid. Without a fault the line
completes with its replies. -/
theorem handle_watched (hact : engine.HandlersKeepOut) (settings : Settings) (line : Text)
    (r : Recorded (Workspace ι σ)) :
    let start := r.add (.notice (.received line))
    let known := r.state.registry.contains (commandOf line)
    ∃ result after raised,
      (engine.dispatch settings line 0).exec start = (result, after) ∧
      (engine.watched.dispatch settings line 0).exec (start.watched []) =
        (result, after.watched raised) ∧
      (raised = [] → ∀ fault, result = .error fault → fault.IsOwn) ∧
      (∀ fault journal, (fault, journal) ∈ raised → ∃ events ends,
        raised = [(fault, journal)] ∧ journal = events.reverse ++ start.journal ∧
        after.journal = ends ++ journal ∧ (∀ e ∈ ends, ∃ context, e = .finished context) ∧
        result = .error (if InInterpolation events then fault.leaving else fault)) ∧
      (∀ replies, result = .ok replies → ∃ outcome,
        (engine.handle settings line).exec r = (.ok outcome, after) ∧
        outcome.report =
          .completed (Text.join settings.separator replies) replies (commandOf line) known) ∧
      ∀ fault, result = .error fault →
        (fault.isFailure = false → (engine.handle settings line).exec r = (.error fault, after)) ∧
        (fault.IsMisplaced → ((engine.handle settings line).exec r).1 =
          .error (.invalid [⟨[.field "position"], .negative⟩])) ∧
        (fault.isFailure = true → ¬fault.IsMisplaced → ∃ outcome notice,
          (engine.handle settings line).exec r = (.ok outcome, after.add (.notice notice)) ∧
          outcome.TellsFailure fault.reason (commandOf line) known) := by
  intro start known
  obtain ⟨result, after, raised, hdispatch, hwatched, hown, hraised⟩ :=
    dispatch_watched hact settings line 0 start
  have hhandle := engine.exec_handle settings line r
  rw [show (engine.dispatch settings line 0).exec (r.add (.notice (.received line))) = _ from
    hdispatch] at hhandle
  refine ⟨result, after, raised, hdispatch, hwatched, hown, hraised, ?_, ?_⟩
  · rintro replies rfl
    exact ⟨_, hhandle, rfl⟩
  · rintro fault rfl
    refine ⟨fun hinterrupts => ?_, fun hmisplaced => ?_, fun hfailure hplaced => ?_⟩
    · exact hhandle.trans (exec_reportFault_of_not_isFailure hinterrupts _ _ _ _)
    · rw [hhandle]
      exact exec_reportFault_of_isMisplaced hmisplaced _ _ _ _
    · have hposition : ∀ deep, fault = .tooDeep deep → ∀ p ∈ deep.position, 0 ≤ p :=
        fun deep hdeep p hp => Int.not_lt.mp fun hneg => hplaced ⟨deep, p, hdeep, hp, hneg⟩
      obtain ⟨failure, notice, hexec, hreason⟩ :=
        exec_reportFault_of_isFailure hfailure hposition line (commandOf line) known after
      refine ⟨_, notice, hhandle.trans hexec, ?_⟩
      rw [← hreason]
      exact tellsFailure_failed _ _ _

/-- An engine whose only handler stops at a fault. -/
def stopping (fault : Fault) : Engine Unit Unit where
  act _ _ _ := throw fault

lemma handlersKeepOut_stopping (fault : Fault) : (stopping fault).HandlersKeepOut :=
  fun _ _ _ _ => ⟨rfl, [], rfl, fun _ h => nomatch h⟩

/-- The handler registered as `boom`, next to the shell. -/
def booming : Workspace Unit Unit where
  registry := ⟨[⟨"boom", .custom (), []⟩, ⟨shellName, .shell {}, shellHelp⟩]⟩
  host := ()

/-- A command that stops at a syntax fault of its own, two shells below an interpolation: the shells
do not take it for theirs, and the line tells of a failed command. -/
theorem handle_watched_malformed :
    let fault : Fault := .malformed ⟨"m", "t", [], some (-1)⟩
    let line : Text := "shell boom $(shell shell boom)"
    let start : Recorded (Workspace Unit Unit) := ⟨booming, [.notice (.received line)]⟩
    (((stopping fault).watched.dispatch {} line 0).exec (start.watched [])).2.raised.map Prod.fst =
        [fault] ∧
      (((stopping fault).dispatch {} line 0).exec start).1 = .error fault ∧
      ∃ outcome, (((stopping fault).handle {} line).exec ⟨booming, []⟩).1 = .ok outcome ∧
        outcome.TellsFailure .commandFailure "shell" true := by
  intro fault line start
  have hseen : (((stopping fault).watched.dispatch {} line 0).exec
      (start.watched [])).2.raised.map Prod.fst = [fault] := by decide +kernel
  obtain ⟨result, after, raised, hdispatch, hwatched, -, hraised, -, hfault⟩ :=
    handle_watched (handlersKeepOut_stopping fault) {} line ⟨booming, []⟩
  -- the handler is seen to stop at the fault, so that is what the line is told of
  have hsingle : raised.map Prod.fst = [fault] :=
    (congrArg (fun ending => ending.2.raised.map Prod.fst) hwatched).symm.trans hseen
  obtain ⟨⟨seen, journal⟩, hmem, rfl⟩ : ∃ entry ∈ raised, entry.1 = fault := by
    rw [← List.mem_map, hsingle]
    exact List.mem_singleton_self fault
  obtain ⟨events, ends, -, -, -, -, hresult⟩ := hraised _ journal hmem
  have hstays : result = .error fault := by
    rw [hresult]
    split <;> rfl
  obtain ⟨-, -, htold⟩ := hfault fault hstays
  obtain ⟨outcome, notice, hhandle, htells⟩ := htold rfl fun ⟨_, _, hdeep, _⟩ => nomatch hdeep
  exact ⟨hseen, (congrArg Prod.fst hdispatch).trans hstays, outcome, congrArg Prod.fst hhandle,
    htells⟩

/-- A `StopIteration` that a command inside an interpolation stops at does not come to the line:
what does is another failure, and it is told in the place of the first. -/
theorem handle_watched_stopIteration :
    let fault : Fault := .other "StopIteration" "m"
    let line : Text := "shell echo $(boom)"
    let start : Recorded (Workspace Unit Unit) := ⟨booming, [.notice (.received line)]⟩
    (((stopping fault).watched.dispatch {} line 0).exec (start.watched [])).2.raised.map Prod.fst =
        [fault] ∧
      (((stopping fault).dispatch {} line 0).exec start).1 ≠ .error fault ∧
      ∃ outcome, (((stopping fault).handle {} line).exec ⟨booming, []⟩).1 = .ok outcome ∧
        outcome.content = "Command failed: generator raised StopIteration" ∧
        outcome.content ≠ "Command failed: " ++ fault.message := by
  intro fault line start
  have hcontent : ((((stopping fault).handle {} line).exec ⟨booming, []⟩).1.map
      Outcome.content).toOption = some "Command failed: generator raised StopIteration".toList := by
    decide +kernel
  refine ⟨by decide +kernel, by decide +kernel, ?_⟩
  rcases hhandle : (((stopping fault).handle {} line).exec ⟨booming, []⟩).1 with other | outcome
  · rw [hhandle] at hcontent
    cases hcontent
  · rw [hhandle] at hcontent
    have htold : outcome.content = "Command failed: generator raised StopIteration" :=
      Option.some.inj hcontent
    refine ⟨outcome, rfl, htold, ?_⟩
    rw [htold]
    decide

end Engine

end Subshell
