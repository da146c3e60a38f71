import Subshell.Proofs.Comparison
import Subshell.Proofs.Depth
/-!
# How long a shell can go on

A command may reply with a text that has the shell run the command again, and with a longer text
each time, so nothing about the text bounds how long this goes on. The limit does: each dispatch
that a shell makes is one deeper, and one beyond the limit is stopped before anything else. So at
most as many dispatches lie inside one another as there are depths up to the first one beyond the
limit (`roundsFor`).

* `dispatchOver` leaves open what is done where the rounds are used up. With enough of them that
  does not matter, so it does not come to that (`matches_dispatchOver`).
* The contract `stacking` bounds the shells under way at any moment
  (`keeps_dispatchWithin_stacking`).
* `dispatch_ends` puts both together.
-/

namespace Subshell

variable {ι σ : Type}

/-- As many dispatches inside one another as there can be from a depth on under a limit, the one
that is stopped included. -/
def roundsFor (limit depth : Nat) : Nat := max 1 (limit + 2 - depth)

/-! ## Shells under way -/

/-- What stands at the front of two lists stands at the front of the first, or it is the first and
what stands at the front of the second. -/
lemma prefix_append_cases {α : Type} {a b c : List α} (h : c <+: a ++ b) :
    c <+: a ∨ ∃ d, d <+: b ∧ c = a ++ d := by
  obtain hshort | ⟨d, rfl⟩ := List.prefix_or_prefix_of_prefix h (List.prefix_append a b)
  · exact .inl hshort
  · exact .inr ⟨d, (List.prefix_append_right_inj a).mp h, rfl⟩

/-- An invocation is at most one shell more. -/
lemma shells_cons_le (context : Context) (above : List Context) :
    shells (context :: above) ≤ shells above + 1 := by
  unfold shells
  rw [List.countP_cons]
  split <;> omega

/-- At no moment of a run are more than `n` shells under way in addition to those before it, and in
the end no invocation is. -/
def stacking (settings : Settings) (n : Nat) : Contract (Workspace ι σ) where
  inv w := w.registry.OwnShell settings
  records events := ∀ above, underWay above events = above ∧
    ∀ before, before <+: events → shells (underWay above before) ≤ shells above + n
  faults _ := True
  nothing := by
    refine fun above => ⟨rfl, fun before h => ?_⟩
    rw [List.prefix_nil.mp h]
    exact Nat.le_add_right _ n
  append := by
    intro a b ha hb above
    obtain ⟨hends, hbefore⟩ := ha above
    obtain ⟨hends', hbefore'⟩ := hb above
    refine ⟨by rw [underWay_append, hends, hends'], fun before h => ?_⟩
    obtain hfirst | ⟨more, hmore, rfl⟩ := prefix_append_cases h
    · exact hbefore before hfirst
    · rw [underWay_append, hends]
      exact hbefore' more hmore
  notice := by
    refine fun notice above => ⟨rfl, fun before h => ?_⟩
    obtain rfl | ⟨more, rfl, hmore⟩ := List.prefix_cons_iff.mp h
    · exact Nat.le_add_right _ n
    · rw [List.prefix_nil.mp hmore]
      exact Nat.le_add_right _ n

/-- What does its duty begins no shells. -/
lemma Run.Keeps.stacking_of_hostDuty {α : Type} {settings : Settings} {run : Task ι σ α}
    (h : Run.Keeps (hostDuty settings) run) (n : Nat) : Run.Keeps (stacking settings n) run := by
  refine h.mono (fun _ => Iff.rfl) (fun events hplain above => ⟨?_, fun before hbefore => ?_⟩)
    fun _ => id
  · exact (allFit_of_isPlain hplain none above).2
  · have hplain' : ∀ event ∈ before, event.IsPlain :=
      fun event hevent => hplain event (hbefore.subset hevent)
    rw [(allFit_of_isPlain hplain' none above).2]
    exact Nat.le_add_right _ n

/-- An invocation may be one shell more than what lies inside it. -/
lemma Run.Keeps.within_stacking {α : Type} {settings : Settings} {n : Nat} {run : Task ι σ α}
    (h : Run.Keeps (stacking settings n) run) (context : Context) :
    Run.Keeps (stacking settings (n + 1))
      (Run.within (.invoked context) (.finished context) run) := by
  refine h.within (fun _ => Iff.rfl) (fun events hrecords above => ?_) fun _ => id
  obtain ⟨hends, hbefore⟩ := hrecords (context :: above)
  have hcontext := shells_cons_le context above
  have hends' : underWay above (.invoked context :: (events ++ [.finished context])) = above := by
    rw [underWay_cons, underWay_append]
    show underWay (underWay (context :: above) events) [.finished context] = above
    rw [hends]
    rfl
  refine ⟨hends', fun before h => ?_⟩
  -- before the invocation, during it, or after its end
  obtain rfl | ⟨more, rfl, hmore⟩ := List.prefix_cons_iff.mp h
  · exact Nat.le_add_right _ _
  · obtain hinside | hwhole := List.prefix_concat_iff.mp hmore
    · rw [hinside, hends']
      exact Nat.le_add_right _ _
    · have hle := hbefore more hwhole
      show shells (underWay (context :: above) more) ≤ _
      omega

namespace Engine

variable {engine : Engine ι σ} {settings : Settings} {limit : Nat}

/-- There are as many shells under way as there are depths left within the limit. -/
lemma keeps_dispatchWithin_stacking
    (hduty : ∀ h call context, Run.Keeps (hostDuty settings) (engine.act h call context))
    (hlimit : settings.limit = some limit) (rounds : Nat) (text : Text) {depth : Int} {n : Nat}
    (hn : (limit : Int) + 1 ≤ n + depth) :
    Run.Keeps (stacking settings n) (engine.dispatchWithin rounds settings text depth) := by
  induction rounds generalizing text depth n with
  | zero => exact .throw trivial
  | succ rounds ih =>
    refine keeps_dispatchOnce (fun _ _ => trivial) text ?_
    intro hdepth w hown entry hentry args
    -- within the limit there is one depth at least
    obtain ⟨n, rfl⟩ : ∃ m, n = m + 1 := by
      have hle : depth ≤ (limit : Int) := hdepth limit hlimit
      exact ⟨n - 1, by omega⟩
    refine Run.Keeps.within_stacking ?_ _
    obtain ⟨hshell, hnone⟩ := hown entry hentry
    unfold perform
    split
    · next other hhandler =>
      have hother : other = settings :=
        Handler.shell.inj (hhandler.symm.trans (hshell (hnone other hhandler)))
      rw [hother]
      refine keeps_shell (fun _ _ => trivial) (fun _ => id) fun text => keeps_joined text ?_
      apply ih
      push_cast at hn
      show (limit : Int) + 1 ≤ n + (depth + 1)
      omega
    · refine Run.Keeps.stacking_of_hostDuty (keeps_builtin (fun _ event hevent => ?_) _ _) n
      rw [List.mem_singleton.mp hevent]
      trivial
    · exact (hduty _ _ _).stacking_of_hostDuty n

end Engine

/-! ## Enough rounds -/

/-- A registry with its own shell is like itself, whatever other settings there are. -/
lemma Registry.OwnShell.alike {settings : Settings} {registry : Registry ι}
    (h : registry.OwnShell settings) :
    registry.Alike (fun t t' => t = settings ∧ t' = settings) registry := by
  apply List.forall₂_same.mpr
  intro entry hentry
  refine ⟨rfl, ?_, rfl⟩
  obtain ⟨hshell, hnone⟩ := h entry hentry
  rcases hhandler : entry.handler with t | b | c
  · have hown : t = settings := Handler.shell.inj (hhandler.symm.trans (hshell (hnone t hhandler)))
    exact .shell ⟨hown, hown⟩
  · exact .builtin b
  · exact .custom c

/-- The records are the same, and their shell is that of the settings. -/
def Recorded.SameOwned (settings : Settings) (r s : Recorded (Workspace ι σ)) : Prop :=
  r = s ∧ r.state.registry.OwnShell settings

namespace Engine

variable (engine : Engine ι σ) {settings : Settings} {limit : Nat}

/-- Dispatches a text, with `rounds` dispatches inside one another. What lies further inside is left
to another way to dispatch. -/
def dispatchOver (beyond : Settings → Text → Int → Task ι σ (List Text)) :
    (rounds : Nat) → Settings → Text → Int → Task ι σ (List Text)
  | 0, settings, text, depth => beyond settings text depth
  | rounds + 1, settings, text, depth =>
    engine.dispatchOnce
      (fun settings text depth =>
        joined settings text (dispatchOver beyond rounds settings text depth))
      settings text depth

/-- A dispatch gives up where its rounds are used up. -/
lemma dispatchWithin_eq_dispatchOver (rounds : Nat) :
    engine.dispatchWithin rounds = engine.dispatchOver (fun _ _ _ => throw .exhausted) rounds := by
  induction rounds with
  | zero => rfl
  | succ rounds ih =>
    funext settings text depth
    rw [dispatchWithin, dispatchOver, ih]

variable {engine}

/-- The same run under the shell's own settings. -/
def ownRuns (hact : engine.HandlersRespect (Recorded.SameOwned settings)) :
    engine.Likeness engine :=
  .sameReplies (fun t t' => t = settings ∧ t' = settings) (Recorded.SameOwned settings)
    (fun _ => False) (fun event _ _ h => ⟨congrArg (Recorded.add · event) h.1, h.2⟩)
    (fun h => by
      rw [← h.1]
      exact h.2.alike)
    False.elim
    (fun h => by
      rw [h.1, h.2]
      exact ⟨rfl, rfl⟩)
    (fun h => .inl (by rw [h.1, h.2])) (.refl engine) hact

/-- Handlers that do not use the way back into the engine, and leave the shell alone, do the same
whatever the way back is. -/
lemma handlersRespect_sameOwned (hback : engine.HandlersRespect Eq)
    (hduty : ∀ h call context, Run.Keeps (hostDuty settings) (engine.act h call context)) :
    engine.HandlersRespect (Recorded.SameOwned settings) := by
  rintro h call call' context r _ ⟨rfl, hown⟩
  obtain ⟨hresult, hafter⟩ := (hback h call call' context).of_no_parting (r := r) rfl
  obtain ⟨-, -, -, hinv, -⟩ := hduty h call context r hown
  exact .inr ⟨hresult, hafter, hinv⟩

/-- With enough rounds, it does not matter how many they are or what would be done beyond them. -/
theorem matches_dispatchOver (hact : engine.HandlersRespect (Recorded.SameOwned settings))
    (hlimit : settings.limit = some limit)
    (beyond beyond' : Settings → Text → Int → Task ι σ (List Text)) {rounds rounds' : Nat}
    {depth : Int} (hpositive : 0 < rounds) (hpositive' : 0 < rounds')
    (henough : (limit : Int) + 2 ≤ rounds + depth) (henough' : (limit : Int) + 2 ≤ rounds' + depth)
    (text : Text) :
    Run.Matches (Recorded.SameOwned settings) (fun _ => False) Eq
      (engine.dispatchOver beyond rounds settings text depth)
      (engine.dispatchOver beyond' rounds' settings text depth) := by
  induction rounds generalizing rounds' depth text with
  | zero => exact absurd hpositive (Nat.lt_irrefl 0)
  | succ rounds ih =>
    obtain ⟨rounds', rfl⟩ : ∃ n, rounds' = n + 1 := Nat.exists_eq_add_one.mpr hpositive'
    let L := ownRuns hact
    have hself : L.settings settings settings := ⟨rfl, rfl⟩
    unfold dispatchOver
    obtain hwithin | ⟨limit', hlimit', hlt⟩ := within_or_beyond settings depth
    · -- a dispatch within the limit leaves enough rounds for those that it makes
      have hle : depth ≤ (limit : Int) := hwithin limit hlimit
      refine L.dispatchOnce hself (fun t t' ht text => L.joined ht text ?_) text
      obtain ⟨rfl, rfl⟩ := ht
      exact ih (by omega) (by omega) (by omega) (by omega) text
    · -- and beyond the limit there is nothing that it could make
      intro r s hrs
      obtain ⟨rfl, hown⟩ := hrs
      have hstop := exec_checkDepth_of_lt hlimit' hlt text r
      unfold dispatchOnce
      rw [Run.exec_bind_of_error hstop, Run.exec_bind_of_error hstop]
      exact .inr ⟨.error _, rfl, hown⟩

/-- A text dispatched under a limit comes to an end. The rounds that the limit leaves room for are
enough: what would be done beyond them is not come to, and more of them change nothing. At no moment
are more shells under way than there are depths left within the limit. -/
theorem dispatch_ends (hback : engine.HandlersRespect Eq)
    (hduty : ∀ h call context, Run.Keeps (hostDuty settings) (engine.act h call context))
    (hlimit : settings.limit = some limit) (text : Text) (depth : Nat)
    {r : Recorded (Workspace ι σ)} (hown : r.state.registry.OwnShell settings) :
    (∀ rounds, roundsFor limit depth ≤ rounds →
      (engine.dispatchWithin rounds settings text depth).exec r =
        (engine.dispatchWithin (roundsFor limit depth) settings text depth).exec r) ∧
    (∀ beyond, (engine.dispatchOver beyond (roundsFor limit depth) settings text depth).exec r =
      (engine.dispatchWithin (roundsFor limit depth) settings text depth).exec r) ∧
    ∃ events,
      ((engine.dispatchWithin (roundsFor limit depth) settings text depth).exec r).2.journal =
        events.reverse ++ r.journal ∧
      (∀ before, before <+: events → shells (underWay [] before) ≤ limit + 1 - depth) ∧
      underWay [] events = [] := by
  have hact := handlersRespect_sameOwned hback hduty
  have hsame : ∀ beyond beyond' rounds, roundsFor limit depth ≤ rounds →
      (engine.dispatchOver beyond rounds settings text depth).exec r =
        (engine.dispatchOver beyond' (roundsFor limit depth) settings text depth).exec r := by
    intro beyond beyond' rounds hrounds
    have hone : 1 ≤ roundsFor limit depth := Nat.le_max_left _ _
    have hroom : limit + 2 - depth ≤ roundsFor limit depth := Nat.le_max_right _ _
    have henough : (limit : Int) + 2 ≤ (roundsFor limit depth : Nat) + (depth : Nat) := by omega
    have hmore : (limit : Int) + 2 ≤ (rounds : Nat) + (depth : Nat) := by omega
    have hmatch := matches_dispatchOver hact hlimit beyond beyond' (Nat.le_trans hone hrounds) hone
      hmore henough text
    have hstart : r.SameOwned settings r := ⟨rfl, hown⟩
    obtain ⟨hresult, hafter, -⟩ := hmatch.of_no_parting hstart
    exact Prod.ext (corresponds_eq_iff.mp hresult) hafter
  refine ⟨?_, ?_, ?_⟩
  · intro rounds hrounds
    rw [dispatchWithin_eq_dispatchOver, dispatchWithin_eq_dispatchOver]
    exact hsame _ _ rounds hrounds
  · intro beyond
    rw [dispatchWithin_eq_dispatchOver]
    exact hsame beyond _ _ (Nat.le_refl _)
  · have hkeeps : Run.Keeps (stacking settings (limit + 1 - depth))
        (engine.dispatchWithin (roundsFor limit depth) settings text depth) :=
      keeps_dispatchWithin_stacking hduty hlimit _ text (by omega)
    obtain ⟨events, hjournal, hrecords, -, -⟩ := hkeeps r hown
    obtain ⟨hends, hbefore⟩ := hrecords []
    refine ⟨events, hjournal, fun before h => ?_, hends⟩
    have hle := hbefore before h
    rwa [show shells [] = 0 from rfl, Nat.zero_add] at hle

/-- An engine whose only handler replies with a text that has the shell run it again, on arguments
twice as long. -/
def growing : Engine Unit Unit where
  act _ _ context :=
    return [shellName ++ " $(grow ".toList ++ context.args ++ context.args ++ [')']]

/-- The handler registered as `grow`, next to the shell. -/
def grown (settings : Settings) : Workspace Unit Unit where
  registry := ⟨[⟨"grow", .custom (), []⟩, ⟨shellName, .shell settings, shellHelp⟩]⟩
  host := ()

/-- What would go on for ever is stopped, at a text that has grown. One round fewer than there is
room for is too few. -/
theorem dispatch_ends_growing :
    let settings : Settings := { limit := some 2 }
    let start : Recorded (Workspace Unit Unit) := ⟨grown settings, []⟩
    ((growing.dispatchWithin 3 settings "shell $(grow a)" 0).exec start).1 = .error .exhausted ∧
    ((growing.dispatchWithin 4 settings "shell $(grow a)" 0).exec start).1 =
      .error (.tooDeep ⟨"grow aaaa", some 2, "Nested command invocation at depth 3", none⟩) ∧
    ∀ rounds, 4 ≤ rounds →
      (growing.dispatchWithin rounds settings "shell $(grow a)" 0).exec start =
        (growing.dispatchWithin 4 settings "shell $(grow a)" 0).exec start := by
  intro settings start
  have hback : growing.HandlersRespect Eq := by
    rintro h call call' context r _ rfl
    exact .inr ⟨.ok rfl, rfl⟩
  have hduty : ∀ h call context,
      Run.Keeps (hostDuty settings) (growing.act h call context) :=
    fun _ _ _ => .pure _
  have hown : (grown settings).registry.OwnShell settings :=
    ownShell_pair (by decide) () settings shellHelp
  exact ⟨by decide +kernel, by decide +kernel,
    (dispatch_ends hback hduty rfl "shell $(grow a)" 0 (r := start) hown).1⟩

end Engine

end Subshell
