import Subshell.Proofs.Invocation
/-!
# What a run keeps

A `Contract` says what may be said of a run wherever it starts and however it ends: an invariant of
the state, the events that it may record, and the faults that it may stop at. `Run.Keeps` is that a
run honours it. Contracts are honoured step by step, and the engine honours one when its calls do:
`keeps_shell`, `keeps_builtin` and `keeps_dispatchOnce` leave to each result only the induction over
dispatches inside one another, in which it matters what a call is given.
-/

namespace Subshell

variable {σ α β : Type}

/-- What a run promises. -/
structure Contract (σ : Type) where
  /-- What holds of the state before and after. -/
  inv : σ → Prop
  /-- The events that may be recorded, in their order. -/
  records : List Event → Prop
  /-- The faults that may end the run. -/
  faults : Fault → Prop
  nothing : records []
  append : ∀ {a b}, records a → records b → records (a ++ b)
  notice : ∀ notice, records [.notice notice]

/-- From any state with the invariant, the run records what the contract allows, keeps the
invariant, and stops at no other fault than the contract allows. -/
def Run.Keeps (C : Contract σ) (run : Run σ α) : Prop :=
  ∀ r, C.inv r.state → ∃ events,
    (run.exec r).2.journal = events.reverse ++ r.journal ∧ C.records events ∧
      C.inv (run.exec r).2.state ∧ ∀ fault, (run.exec r).1 = .error fault → C.faults fault

namespace Run.Keeps

variable {C D : Contract σ} {run : Run σ α} {next : α → Run σ β}

lemma pure (a : α) : Keeps C (pure a) :=
  fun _ hr => ⟨[], rfl, C.nothing, hr, fun _ h => by cases h⟩

lemma throw {fault : Fault} (h : C.faults fault) : Keeps C (throw fault : Run σ α) :=
  fun _ hr => ⟨[], rfl, C.nothing, hr, fun _ hfault => by cases hfault; exact h⟩

lemma record {event : Event} (h : C.records [event]) : Keeps C (Run.record event) :=
  fun _ hr => ⟨[event], rfl, h, hr, fun _ hfault => by cases hfault⟩

/-- What both parts of a run keep, the whole run keeps. -/
lemma bind (h : Keeps C run) (hnext : ∀ a, Keeps C (next a)) : Keeps C (run >>= next) := by
  intro r hr
  obtain ⟨events, hjournal, hrecords, hinv, hfaults⟩ := h r hr
  rcases hrun : run.exec r with ⟨fault | a, after⟩
  · rw [hrun] at hjournal hinv hfaults
    rw [Run.exec_bind_of_error hrun]
    refine ⟨events, hjournal, hrecords, hinv, ?_⟩
    intro fault' hfault'
    cases hfault'
    exact hfaults fault rfl
  · rw [hrun] at hjournal hinv
    rw [Run.exec_bind_of_ok hrun]
    obtain ⟨more, hjournal', hrecords', hinv', hfaults'⟩ := hnext a after hinv
    refine ⟨events ++ more, ?_, C.append hrecords hrecords', hinv', hfaults'⟩
    rw [hjournal', hjournal, List.reverse_append, List.append_assoc]

lemma note_bind (notice : Notice) (h : Keeps C run) :
    Keeps C (do Run.note notice; run) :=
  (record (C.notice notice)).bind fun _ => h

/-- A run that goes on with the state goes on with one that has the invariant. -/
lemma state_bind {next : σ → Run σ β} (h : ∀ s, C.inv s → Keeps C (next s)) :
    Keeps C (Run.state >>= next) := by
  intro r hr
  rw [Run.exec_state_bind]
  exact h r.state hr r hr

/-- An attempt keeps what the run keeps. -/
lemma attempt (h : Keeps C run) : Keeps C run.attempt := by
  intro r hr
  obtain ⟨events, hjournal, hrecords, hinv, -⟩ := h r hr
  exact ⟨events, hjournal, hrecords, hinv, fun _ hfault => by cases hfault⟩

/-- Between two events a run may keep another contract, with the same invariant. -/
lemma within {first last : Event} (h : Keeps D run) (hinv : ∀ s, D.inv s ↔ C.inv s)
    (hrecords : ∀ events, D.records events → C.records (first :: (events ++ [last])))
    (hfaults : ∀ fault, D.faults fault → C.faults fault) :
    Keeps C (Run.within first last run) := by
  intro r hr
  rw [Run.exec_within]
  obtain ⟨events, hjournal, hallowed, hafter, hends⟩ :=
    h (r.add first) ((hinv r.state).mpr hr)
  refine ⟨first :: (events ++ [last]), ?_, hrecords events hallowed, (hinv _).mp hafter,
    fun fault hfault => hfaults fault (hends fault hfault)⟩
  show last :: (run.exec (r.add first)).2.journal = _
  rw [hjournal]
  simp

/-- A contract that promises less is kept as well. -/
lemma mono (h : Keeps D run) (hinv : ∀ s, D.inv s ↔ C.inv s)
    (hrecords : ∀ events, D.records events → C.records events)
    (hfaults : ∀ fault, D.faults fault → C.faults fault) : Keeps C run := by
  intro r hr
  obtain ⟨events, hjournal, hallowed, hafter, hends⟩ := h r ((hinv r.state).mpr hr)
  exact ⟨events, hjournal, hrecords events hallowed, (hinv _).mp hafter,
    fun fault hfault => hfaults fault (hends fault hfault)⟩

end Run.Keeps

/-! ## The engine -/

section Commands

variable {C : Contract σ} {run : Text → Run σ Text}

/-- An interpolation keeps what its callback keeps. -/
lemma keeps_splice (hleaving : ∀ fault, C.faults fault → C.faults fault.leaving) {inner : Text}
    (h : Run.Keeps C (run inner)) :
    Run.Keeps C (splice (fun inner => return .text (← run inner)) inner) := by
  intro r hr
  rw [exec_splice_text]
  obtain ⟨events, hjournal, hrecords, hinv, hfaults⟩ := h r hr
  rcases hrun : (run inner).exec r with ⟨fault | result, after⟩
  · rw [hrun] at hjournal hinv hfaults
    refine ⟨events, hjournal, hrecords, hinv, ?_⟩
    intro fault' hfault'
    cases hfault'
    exact hleaving fault (hfaults fault rfl)
  · rw [hrun] at hjournal hinv
    refine ⟨events ++ [.notice (.interpolated inner result)], ?_,
      C.append hrecords (C.notice _), hinv, fun _ hfault => by cases hfault⟩
    show _ :: after.journal = _
    rw [show after.journal = _ from hjournal]
    simp

/-- So does a whole command. -/
lemma keeps_execute (hleaving : ∀ fault, C.faults fault → C.faults fault.leaving)
    (h : ∀ inner, Run.Keeps C (run inner)) (command : Command) :
    Run.Keeps C (command.execute fun inner => return .text (← run inner)) := by
  apply Run.Keeps.note_bind
  induction command with
  | nil => exact .pure _
  | literal text rest ih => exact ih.bind fun _ => .pure _
  | interpolation inner rest ihinner ihrest =>
    refine ihinner.bind fun text => ?_
    exact (keeps_splice hleaving (h text)).bind fun _ => ihrest.bind fun _ => .pure _

end Commands

namespace Engine

variable {ι : Type} {engine : Engine ι σ} {C : Contract (Workspace ι σ)} {call : Caller ι σ}
  {settings : Settings}

/-- The shell keeps what its calls keep, if a cut-off is allowed. -/
lemma keeps_shell (hcut : ∀ fault : Fault, fault.IsCutOff → C.faults fault)
    (hleaving : ∀ fault, C.faults fault → C.faults fault.leaving) {context : Context}
    (hcall : ∀ text, Run.Keeps C (call settings text (context.depth + 1))) :
    Run.Keeps C (engine.shell call settings context) := by
  rw [shell_eq]
  apply Run.Keeps.note_bind
  split
  · next command _ =>
    apply Run.Keeps.note_bind
    refine (keeps_execute hleaving hcall command).bind fun text => ?_
    exact (hcall text).bind (fun _ => .pure _) |>.note_bind _
  · next fault _ =>
    apply Run.Keeps.note_bind
    split
    · next hcause => exact .throw (hcut _ (Nesting.isCutOff_fault hcause))
    · exact (Run.Keeps.pure _).note_bind _

/-- A built-in command keeps what allows it to put something out. -/
lemma keeps_builtin (houtput : ∀ text, C.records [.output .commands text]) (b : Builtin)
    (args : Text) : Run.Keeps C (b.act args : Task ι σ (List Text)) := by
  cases b with
  | ping | echo | upper | lower | reverse => exact .pure _
  | say =>
    simp only [Builtin.act]
    split
    · exact .pure _
    · exact (Run.Keeps.record (houtput _)).bind fun _ => .pure _
  | help => exact .state_bind fun w _ => .pure _

/-- A dispatch keeps what the invocation that it leads to keeps, if a cut-off is allowed. -/
lemma keeps_dispatchOnce (hcut : ∀ fault : Fault, fault.IsCutOff → C.faults fault) (text : Text)
    {depth : Int}
    (hperform : (∀ limit ∈ settings.limit, depth ≤ (limit : Int)) → ∀ w : Workspace ι σ, C.inv w →
      ∀ entry ∈ w.registry.entries, ∀ args,
        Run.Keeps C (Run.within (.invoked ⟨entry.name, args, depth⟩)
          (.finished ⟨entry.name, args, depth⟩)
          (engine.perform call entry.handler ⟨entry.name, args, depth⟩))) :
    Run.Keeps C (engine.dispatchOnce call settings text depth) := by
  obtain hdepth | ⟨limit, hlimit, hlt⟩ := within_or_beyond settings depth
  · unfold dispatchOnce
    rw [checkDepth_eq_pure hdepth, pure_bind]
    split
    · exact .pure _
    · next word args _ =>
      refine .state_bind fun w hw => ?_
      split
      · exact (Run.Keeps.pure _).note_bind _
      · next entry hentry =>
        have hmem : entry ∈ w.registry.entries := List.mem_of_find?_eq_some hentry
        exact (hperform hdepth w hw entry hmem args).note_bind _
  · intro r hr
    have hstop := exec_checkDepth_of_lt hlimit hlt text r
    unfold dispatchOnce
    rw [Run.exec_bind_of_error hstop]
    refine ⟨[_], rfl, C.notice _, hr, ?_⟩
    intro fault hfault
    cases hfault
    exact hcut _ (Fault.isCutOff_of_nowhere _ _ _)

/-- The joined result keeps what the replies keep. -/
lemma keeps_joined {replies : Task ι σ (List Text)} (text : Text) (h : Run.Keeps C replies) :
    Run.Keeps C (joined settings text replies) :=
  h.bind fun _ => (Run.Keeps.pure _).note_bind _

/-- What is reported of a fault is told to the log only. -/
lemma keeps_reportFault (hfaults : ∀ fault, C.faults fault) (line command : Text) (known : Bool)
    (fault : Fault) : Run.Keeps C (reportFault (ι := ι) (σ := σ) line command known fault) := by
  unfold reportFault
  split
  · refine Run.Keeps.note_bind _ ?_
    split
    · exact .throw (hfaults _)
    · exact .pure _
  · exact (Run.Keeps.pure _).note_bind _
  · split
    · exact .throw (hfaults _)
    · exact (Run.Keeps.pure _).note_bind _

/-- A line keeps what its dispatch keeps, if any fault is allowed. -/
lemma keeps_handle (hfaults : ∀ fault, C.faults fault) {line : Text}
    (h : Run.Keeps C (engine.dispatch settings line 0)) :
    Run.Keeps C (engine.handle settings line) := by
  unfold handle
  apply Run.Keeps.note_bind
  refine .state_bind fun w _ => h.attempt.bind fun result => ?_
  split
  · exact .pure _
  · exact keeps_reportFault hfaults _ _ _ _

end Engine

end Subshell
