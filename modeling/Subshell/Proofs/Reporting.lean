import Subshell.Proofs.Contract
import Subshell.Proofs.Rewriting
import Subshell.Proofs.Surfacing
/-!
# Lines that always come to an outcome

A failure can be told as the outcome of a line unless its own description is not valid
(`Fault.IsReportable`). The engine itself stops at nothing else, and so a line comes to an outcome
whenever the handlers of the host do not either (`exists_outcome`). Handlers may call the engine and
pass on what it stops at, so what is asked of them is asked relative to their calls
(`Engine.HandlersReport`).
-/

namespace Subshell

variable {ι σ : Type}

namespace Fault

/-- A failure whose description is valid. -/
def IsReportable (fault : Fault) : Prop := fault.isFailure = true ∧ ¬fault.IsMisplaced

variable {fault : Fault}

lemma IsCutOff.isReportable (h : fault.IsCutOff) : fault.IsReportable := by
  obtain ⟨deep, rfl⟩ := h.eq_tooDeep
  refine ⟨rfl, ?_⟩
  intro hmisplaced
  obtain ⟨_, position, heq, hposition, hneg⟩ := hmisplaced
  cases heq
  have hnonneg : 0 ≤ position := h position hposition
  omega

/-- A failure leaves an interpolation as a failure. -/
lemma IsReportable.leaving (h : fault.IsReportable) : fault.leaving.IsReportable := by
  rcases leaving_cases fault with hstays | ⟨hruntime, -⟩
  · rw [hstays]
    exact h
  · rw [hruntime]
    exact ⟨by decide, fun ⟨_, _, heq, _⟩ => by cases heq⟩

end Fault

/-- A run that may do anything but take back what is recorded, and that stops at failures only, with
descriptions that are valid. -/
def reporting : Contract (Workspace ι σ) where
  inv _ := True
  records _ := True
  faults := Fault.IsReportable
  nothing := trivial
  append := fun _ _ => trivial
  notice := fun _ => trivial

namespace Engine

/-- The handlers of the host fail only in ways that can be told, if what they call does. -/
def HandlersReport (engine : Engine ι σ) : Prop :=
  ∀ h (call : Caller ι σ) context,
    (∀ settings text depth, Run.Keeps reporting (call settings text depth)) →
      Run.Keeps reporting (engine.act h call context)

variable {engine : Engine ι σ}

/-- Then so does every dispatch. -/
lemma keeps_dispatchWithin_reporting (hreport : engine.HandlersReport) (rounds : Nat)
    (settings : Settings) (text : Text) (depth : Int) :
    Run.Keeps reporting (engine.dispatchWithin rounds settings text depth) := by
  -- the induction is on the dispatches that may lie inside one another
  induction rounds generalizing settings text depth with
  | zero =>
    have hexhausted : Fault.exhausted.IsReportable := ⟨rfl, fun ⟨_, _, heq, _⟩ => by cases heq⟩
    exact .throw hexhausted
  | succ rounds ih =>
    have hcall : ∀ settings text depth, Run.Keeps reporting
        (joined settings text (engine.dispatchWithin rounds settings text depth)) :=
      fun settings text depth => keeps_joined text (ih settings text depth)
    refine keeps_dispatchOnce (fun _ => Fault.IsCutOff.isReportable) text ?_
    intro _ w _ entry _ args
    refine Run.Keeps.within (D := reporting) ?_ (fun _ => Iff.rfl) (fun _ _ => trivial) fun _ => id
    unfold perform
    split
    · exact keeps_shell (fun _ => Fault.IsCutOff.isReportable) (fun _ => Fault.IsReportable.leaving)
        fun text => hcall _ text _
    · exact keeps_builtin (fun _ => trivial) _ _
    · exact hreport _ _ _ hcall

/-- A line comes to an outcome, whatever its commands do. -/
theorem exists_outcome (hreport : engine.HandlersReport) (settings : Settings) (line : Text)
    (r : Recorded (Workspace ι σ)) :
    ∃ outcome after, (engine.handle settings line).exec r = (.ok outcome, after) := by
  obtain ⟨-, -, -, -, hfaults⟩ := keeps_dispatchWithin_reporting hreport engine.patience settings
    line 0 (r.add (.notice (.received line))) trivial
  rw [exec_handle]
  rcases hrun : (engine.dispatch settings line 0).exec (r.add (.notice (.received line))) with
    ⟨fault | replies, after⟩
  · have hdispatch : ((engine.dispatchWithin engine.patience settings line 0).exec
        (r.add (.notice (.received line)))).1 = .error fault := congrArg Prod.fst hrun
    obtain ⟨hfailure, hplaced⟩ : fault.IsReportable := hfaults fault hdispatch
    have hposition : ∀ deep, fault = .tooDeep deep → ∀ position ∈ deep.position, 0 ≤ position := by
      intro deep hdeep position hmem
      by_contra hneg
      exact hplaced ⟨deep, position, hdeep, hmem, Int.not_le.mp hneg⟩
    obtain ⟨failure, notice, hreported, -⟩ := exec_reportFault_of_isFailure hfailure hposition line
      (commandOf line) (r.state.registry.contains (commandOf line)) after
    exact ⟨_, _, hreported⟩
  · exact ⟨_, after, rfl⟩

end Engine

end Subshell
