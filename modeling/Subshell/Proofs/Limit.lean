import Subshell.Proofs.Comparison
/-!
# Loosening the depth limit

The limit is enforced twice: by the reader, on interpolations inside one another, and by each
dispatch, on shells inside one another. It only cuts off. Where a line is not cut off under a limit,
it comes to the same under a looser one or none: `handle_of_looser`.

The comparison is that of `Engine.Likeness`, where the first run may part from the second at a
cut-off. It carries over to whole lines because no one takes a cut-off for anything else on its way
out: the shell answers malformed arguments, but raises again what says that they nest too deep.
-/

namespace Subshell

variable {ι σ : Type}

/-- The settings are the same but for a looser limit. -/
def Settings.Loosened (t t' : Settings) : Prop :=
  Looser t.limit t'.limit ∧ t' = { t with limit := t'.limit }

lemma Settings.Loosened.refl (t : Settings) : t.Loosened t := ⟨.refl t.limit, rfl⟩

/-- The records are the same but for looser limits of the registered shells. -/
structure Recorded.Loosened (r s : Recorded (Workspace ι σ)) : Prop where
  registry : r.state.registry.Alike Settings.Loosened s.state.registry
  host : r.state.host = s.state.host
  journal : r.journal = s.journal

namespace Engine

variable {engine : Engine ι σ}

/-- Runs under a limit and under a looser one, which part where the limit cuts off. -/
def loosening (hact : engine.HandlersRespect Recorded.Loosened) : engine.Likeness engine :=
  .sameReplies Settings.Loosened Recorded.Loosened Fault.IsCutOff
    (fun event _ _ h => ⟨h.registry, h.host, congrArg (event :: ·) h.journal⟩)
    Recorded.Loosened.registry Fault.IsCutOff.leaving
    (fun h => by
      rw [h.2]
      exact ⟨rfl, rfl⟩)
    (fun h => .inr ⟨h.1, fun _ => id⟩) (.refl engine) hact

/-- A line that is not cut off under a limit comes to the same outcome under a looser one. The same
is recorded on the way: the same commands are invoked with the same arguments and at the same
depths, the same is put out, and the state of the host is the same in the end. -/
theorem handle_of_looser (hact : engine.HandlersRespect Recorded.Loosened) {settings : Settings}
    {loose : Option Nat} (hloose : Looser settings.limit loose) (line : Text)
    {r s : Recorded (Workspace ι σ)} (hrs : r.Loosened s)
    (hcut : ∀ outcome failure, ((engine.handle settings line).exec r).1 = .ok outcome →
      outcome.failure = some failure → failure.reason ≠ .depthExceeded) :
    ((engine.handle { settings with limit := loose } line).exec s).1 =
        ((engine.handle settings line).exec r).1 ∧
      ((engine.handle settings line).exec r).2.Loosened
        ((engine.handle { settings with limit := loose } line).exec s).2 := by
  have hsettings : settings.Loosened { settings with limit := loose } := ⟨hloose, rfl⟩
  have hdispatch := (loosening hact).dispatchWithin engine.patience hsettings line 0
  have hstart := (loosening hact).events (.notice (.received line)) _ _ hrs
  rw [exec_handle] at hcut ⊢
  rw [exec_handle, ← hrs.registry.contains]
  unfold dispatch at hcut ⊢
  obtain ⟨fault, r', hr, hparts⟩ | ⟨fault, r', s', hr, hs, halike⟩ |
    ⟨replies, _, r', s', hr, hs, rfl, halike⟩ := hdispatch.cases_on hstart
  · -- what is cut off is reported as such
    rw [hr] at hcut
    obtain ⟨failure, final, hreport, hreason, -⟩ := exec_reportFault_of_isCutOff hparts line
      (commandOf line) (r.state.registry.contains (commandOf line)) r'
    exact absurd hreason (hcut _ failure (congrArg Prod.fst hreport) rfl)
  · rw [hr, hs]
    have hreport : Run.Matches _ (fun _ => False) Eq _ _ :=
      (loosening hact).events.reportFault line (commandOf line)
        (r.state.registry.contains (commandOf line)) fault
    obtain ⟨-, -, hfalse⟩ | ⟨hresult, hfinal⟩ := hreport r' s' halike
    · exact hfalse.elim
    · exact ⟨(corresponds_eq_iff.mp hresult).symm, hfinal⟩
  · rw [hr, hs]
    exact ⟨rfl, halike⟩

/-- A command with an interpolation is within a limit of one, so that nothing changes without it. -/
theorem handle_of_looser_one :
    ((counter.handle { limit := none } "shell tick $(tick)").exec
        ⟨ticking { limit := none }, []⟩).1 =
      ((counter.handle { limit := some 1 } "shell tick $(tick)").exec
        ⟨ticking { limit := some 1 }, []⟩).1 ∧
    Recorded.Loosened
      ((counter.handle { limit := some 1 } "shell tick $(tick)").exec
        ⟨ticking { limit := some 1 }, []⟩).2
      ((counter.handle { limit := none } "shell tick $(tick)").exec
        ⟨ticking { limit := none }, []⟩).2 := by
  have hact : counter.HandlersRespect Recorded.Loosened := by
    refine counter_handlersRespect (fun _ _ h => h.host) ?_
    intro r s n h
    exact ⟨h.registry, rfl, h.journal⟩
  have hloose : Looser ({ limit := some 1 } : Settings).limit none := fun _ h => nomatch h
  have hstart : Recorded.Loosened (⟨ticking { limit := some 1 }, []⟩ : Recorded _)
      ⟨ticking { limit := none }, []⟩ :=
    ⟨.cons ⟨rfl, .custom (), rfl⟩ (.cons ⟨rfl, .shell ⟨hloose, rfl⟩, rfl⟩ .nil), rfl, rfl⟩
  have hcomplete : (((counter.handle { limit := some 1 } "shell tick $(tick)").exec
      ⟨ticking { limit := some 1 }, []⟩).1.map (·.failure.isSome)).toOption = some false := by
    decide +kernel
  refine handle_of_looser hact hloose _ hstart ?_
  intro outcome failure houtcome hfailure
  rw [houtcome, Except.map, hfailure] at hcomplete
  cases hcomplete

end Engine

end Subshell
