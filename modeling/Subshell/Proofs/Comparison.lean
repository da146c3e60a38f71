import Mathlib.Data.List.Forall2
import Subshell.Proofs.Front
import Subshell.Proofs.Invocation
/-!
# Two runs side by side

That something does not matter to the engine is said of two runs of it: from two records that differ
in what does not matter, both come to results that correspond and to records that differ no
more than before. `Run.Matches` is that comparison for single runs, with one way out: at certain
faults the first run may part from the second.

`Engine.Likeness` says what is compared of two engines, which may be the same: under which settings,
on which records, with which replies. It carries what such a comparison asks of them, and
`Likeness.dispatchWithin` is the one induction over dispatches from which every such result follows.
-/

namespace Subshell

variable {σ τ α β γ δ : Type}

/-! ## Single runs -/

/-- Two results correspond: both are values that do, or both are the same fault. -/
inductive Corresponds (same : α → β → Prop) : Except Fault α → Except Fault β → Prop
  | ok {a : α} {b : β} : same a b → Corresponds same (.ok a) (.ok b)
  | error (fault : Fault) : Corresponds same (.error fault) (.error fault)

lemma corresponds_eq_iff {a b : Except Fault α} : Corresponds Eq a b ↔ a = b := by
  constructor
  · intro h
    cases h with
    | ok h => rw [h]
    | error fault => rfl
  · intro h
    subst h
    cases a with
    | ok a => exact .ok rfl
    | error fault => exact .error fault

/-- Results that correspond still do in a weaker sense. -/
lemma Corresponds.imp {same weaker : α → β → Prop} {a : Except Fault α} {b : Except Fault β}
    (h : Corresponds same a b) (himp : ∀ x y, same x y → weaker x y) : Corresponds weaker a b := by
  cases h with
  | ok hxy => exact .ok (himp _ _ hxy)
  | error fault => exact .error fault

/-- From records that are alike, the first run parts from the second at a fault, or both come to
results that correspond and to records that are alike. -/
def Run.Matches (alike : Recorded σ → Recorded τ → Prop) (parting : Fault → Prop)
    (same : α → β → Prop) (a : Run σ α) (b : Run τ β) : Prop :=
  ∀ r s, alike r s →
    (∃ fault, (a.exec r).1 = .error fault ∧ parting fault) ∨
      Corresponds same (a.exec r).1 (b.exec s).1 ∧ alike (a.exec r).2 (b.exec s).2

namespace Run.Matches

variable {alike : Recorded σ → Recorded τ → Prop} {parting parting' : Fault → Prop}
  {same : α → β → Prop} {same' : γ → δ → Prop} {a : Run σ α} {b : Run τ β}

lemma pure {x : α} {y : β} (h : same x y) : Matches alike parting same (pure x) (pure y) :=
  fun _ _ hrs => .inr ⟨.ok h, hrs⟩

lemma throw (fault : Fault) : Matches alike parting same (throw fault) (throw fault) :=
  fun _ _ hrs => .inr ⟨.error fault, hrs⟩

/-- A run that always stops at a fault of parting matches any other. -/
lemma of_parting (h : ∀ r, ∃ fault, (a.exec r).1 = .error fault ∧ parting fault) :
    Matches alike parting same a b :=
  fun r _ _ => .inl (h r)

/-- A matching run ends in one of three ways. -/
lemma cases_on (h : Matches alike parting same a b) {r : Recorded σ} {s : Recorded τ}
    (hrs : alike r s) :
    (∃ fault r', a.exec r = (.error fault, r') ∧ parting fault) ∨
      (∃ fault r' s', a.exec r = (.error fault, r') ∧ b.exec s = (.error fault, s') ∧
        alike r' s') ∨
      ∃ x y r' s', a.exec r = (.ok x, r') ∧ b.exec s = (.ok y, s') ∧ same x y ∧ alike r' s' := by
  obtain ⟨fault, hfault, hparts⟩ | ⟨hresult, halike⟩ := h r s hrs
  · exact .inl ⟨fault, _, Prod.ext hfault rfl, hparts⟩
  · rcases ha : a.exec r with ⟨resulta, r'⟩
    rcases hb : b.exec s with ⟨resultb, s'⟩
    rw [ha, hb] at hresult halike
    cases hresult with
    | ok hsame => exact .inr (.inr ⟨_, _, r', s', rfl, rfl, hsame, halike⟩)
    | error fault => exact .inr (.inl ⟨fault, r', s', rfl, rfl, halike⟩)

lemma bind {f : α → Run σ γ} {g : β → Run τ δ} (h : Matches alike parting same a b)
    (hnext : ∀ x y, same x y → Matches alike parting same' (f x) (g y)) :
    Matches alike parting same' (a >>= f) (b >>= g) := by
  intro r s hrs
  obtain ⟨fault, r', ha, hparts⟩ | ⟨fault, r', s', ha, hb, halike⟩ |
    ⟨x, y, r', s', ha, hb, hsame, halike⟩ := h.cases_on hrs
  · rw [Run.exec_bind_of_error ha]
    exact .inl ⟨fault, rfl, hparts⟩
  · rw [Run.exec_bind_of_error ha, Run.exec_bind_of_error hb]
    exact .inr ⟨.error fault, halike⟩
  · rw [Run.exec_bind_of_ok ha, Run.exec_bind_of_ok hb]
    exact hnext x y hsame r' s' halike

/-- Runs of which the first may not part from the second come to results that correspond. -/
lemma of_no_parting (h : Matches alike (fun _ => False) same a b) {r : Recorded σ} {s : Recorded τ}
    (hrs : alike r s) :
    Corresponds same (a.exec r).1 (b.exec s).1 ∧ alike (a.exec r).2 (b.exec s).2 := by
  obtain ⟨_, -, hparts⟩ | hends := h r s hrs
  · exact hparts.elim
  · exact hends

/-- More ways to part do not hurt, and neither does a weaker correspondence. -/
lemma mono {weaker : α → β → Prop} (h : Matches alike parting same a b)
    (hparting : ∀ fault, parting fault → parting' fault) (hsame : ∀ x y, same x y → weaker x y) :
    Matches alike parting' weaker a b := by
  intro r s hrs
  obtain ⟨fault, r', ha, hparts⟩ | ⟨fault, r', s', ha, hb, halike⟩ |
    ⟨x, y, r', s', ha, hb, hxy, halike⟩ := h.cases_on hrs
  · rw [ha]
    exact .inl ⟨fault, rfl, hparting fault hparts⟩
  · rw [ha, hb]
    exact .inr ⟨.error fault, halike⟩
  · rw [ha, hb]
    exact .inr ⟨.ok (hsame x y hxy), halike⟩

end Run.Matches

/-- Records that are alike stay so when the same event is recorded in both. -/
def KeepsEvents (alike : Recorded σ → Recorded τ → Prop) : Prop :=
  ∀ event r s, alike r s → alike (r.add event) (s.add event)

section Events

variable {alike : Recorded σ → Recorded τ → Prop} {parting : Fault → Prop} {same : α → β → Prop}
  {a : Run σ α} {b : Run τ β}

lemma KeepsEvents.record (h : KeepsEvents alike) (event : Event) :
    Run.Matches alike parting Eq (Run.record event) (Run.record event) :=
  fun r s hrs => .inr ⟨.ok rfl, h event r s hrs⟩

/-- Runs that match still do when both are preceded by the same notice. -/
lemma KeepsEvents.note_bind (h : KeepsEvents alike) (notice : Notice)
    (hmatch : Run.Matches alike parting same a b) :
    Run.Matches alike parting same (do Run.note notice; a) (do Run.note notice; b) :=
  (h.record _).bind fun _ _ _ => hmatch

lemma KeepsEvents.within (h : KeepsEvents alike) (first last : Event)
    (hmatch : Run.Matches alike parting same a b) :
    Run.Matches alike parting same (Run.within first last a) (Run.within first last b) := by
  intro r s hrs
  rw [Run.exec_within, Run.exec_within]
  obtain hparts | ⟨hresult, halike⟩ := hmatch _ _ (h first r s hrs)
  · exact .inl hparts
  · exact .inr ⟨hresult, h last _ _ halike⟩

/-- The same fault is reported alike. -/
lemma KeepsEvents.reportFault {ι σ : Type}
    {alike : Recorded (Workspace ι σ) → Recorded (Workspace ι σ) → Prop} (h : KeepsEvents alike)
    (line command : Text) (known : Bool) (fault : Fault) :
    Run.Matches alike parting Eq (Engine.reportFault line command known fault)
      (Engine.reportFault line command known fault) := by
  unfold Engine.reportFault
  split
  · apply h.note_bind
    split
    · exact .throw _
    · exact .pure rfl
  · exact h.note_bind _ (.pure rfl)
  · split
    · exact .throw _
    · exact h.note_bind _ (.pure rfl)

end Events

/-! ## Registries -/

variable {ι : Type}

/-- Two handlers are the same, up to the settings that shells are bound to. -/
inductive Handler.Alike (settings : Settings → Settings → Prop) : Handler ι → Handler ι → Prop
  | shell {t t' : Settings} : settings t t' → Handler.Alike settings (.shell t) (.shell t')
  | builtin (b : Builtin) : Handler.Alike settings (.builtin b) (.builtin b)
  | custom (h : ι) : Handler.Alike settings (.custom h) (.custom h)

/-- Two entries are the same, up to the settings that shells are bound to. -/
structure Entry.Alike (settings : Settings → Settings → Prop) (a b : Entry ι) : Prop where
  name : a.name = b.name
  handler : a.handler.Alike settings b.handler
  help : a.help = b.help

/-- Two registries are the same, up to the settings that shells are bound to. -/
def Registry.Alike (settings : Settings → Settings → Prop) (a b : Registry ι) : Prop :=
  List.Forall₂ (Entry.Alike settings) a.entries b.entries

section Registries

variable {settings : Settings → Settings → Prop} {a b : Registry ι}

lemma Handler.Alike.refl (h : ∀ t, settings t t) (handler : Handler ι) :
    handler.Alike settings handler := by
  cases handler with
  | shell t => exact .shell (h t)
  | builtin b => exact .builtin b
  | custom c => exact .custom c

lemma Registry.Alike.refl (h : ∀ t, settings t t) (a : Registry ι) : a.Alike settings a := by
  apply List.forall₂_same.mpr
  intro entry _
  exact ⟨rfl, .refl h entry.handler, rfl⟩

/-- The same names lead to commands that are alike. -/
lemma Registry.Alike.lookup (h : a.Alike settings b) (name : Text) :
    Option.Rel (Entry.Alike settings) (a.lookup name) (b.lookup name) := by
  obtain ⟨entries⟩ := a
  obtain ⟨entries'⟩ := b
  show Option.Rel _ (entries.find? _) (entries'.find? _)
  change List.Forall₂ (Entry.Alike settings) entries entries' at h
  induction h with
  | nil => exact .none
  | @cons entry entry' _ _ hentry _ ih =>
    rw [List.find?_cons, List.find?_cons, hentry.name]
    split
    · exact .some hentry
    · exact ih

/-- A name leads to a command in both registries or in neither. -/
lemma Registry.Alike.contains (h : a.Alike settings b) (name : Text) :
    a.contains name = b.contains name := by
  have hlookup := h.lookup name
  unfold Registry.contains
  generalize a.lookup name = found, b.lookup name = found' at hlookup
  cases hlookup <;> rfl

/-- The names are listed in the same order. -/
lemma Registry.Alike.map_name_sorted (h : a.Alike settings b) :
    a.sorted.map (·.name) = b.sorted.map (·.name) := by
  have hnames : a.entries.map (·.name) = b.entries.map (·.name) :=
    List.forall₂_eq_eq_eq ▸ List.forall₂_map_left_iff.mpr
      (List.forall₂_map_right_iff.mpr (h.imp fun _ _ hentry => hentry.name))
  have hsorted : ∀ registry : Registry ι, registry.sorted.map (·.name) =
      (registry.entries.map (·.name)).mergeSort fun x y => !decide (y < x) :=
    fun registry => List.map_mergeSort fun _ _ _ _ => rfl
  rw [hsorted, hsorted, hnames]

/-- So is the help on any topic. -/
lemma Registry.Alike.helpOn (h : a.Alike settings b) (topic : Text) :
    Builtin.helpOn a topic = Builtin.helpOn b topic := by
  have hlookup := h.lookup topic
  unfold Builtin.helpOn
  rw [h.map_name_sorted]
  generalize a.lookup topic = found, b.lookup topic = found' at hlookup
  cases hlookup with
  | none => rfl
  | some hentry =>
    dsimp only
    rw [hentry.help, hentry.name]

end Registries

/-! ## Engines -/

/-- The handlers of the host take no notice of what `alike` leaves open, and do not use the way back
into the engine. -/
def Engine.HandlersRespect {ι σ : Type} (engine : Engine ι σ)
    (alike : Recorded (Workspace ι σ) → Recorded (Workspace ι σ) → Prop) : Prop :=
  ∀ h call call' context, Run.Matches alike (fun _ => False) Eq
    (engine.act h call context) (engine.act h call' context)

/-- The counter respects what it cannot tell apart: records with the same count, which stay alike
when it counts on. -/
lemma Engine.counter_handlersRespect
    {alike : Recorded (Workspace Unit Nat) → Recorded (Workspace Unit Nat) → Prop}
    (hhost : ∀ r s, alike r s → r.state.host = s.state.host)
    (hcount : ∀ r s n, alike r s →
      alike { r with state.host := n } { s with state.host := n }) :
    counter.HandlersRespect alike := by
  intro h call call' context r s hrs
  rw [exec_counter, exec_counter, hhost r s hrs]
  exact .inr ⟨.ok rfl, hcount r s _ hrs⟩

/-- Two engines can follow interpolations equally deep. -/
def Engine.SameCapacity {ι σ τ : Type} (engine : Engine ι σ) (other : Engine ι τ) : Prop :=
  engine.capacity = other.capacity

lemma Engine.SameCapacity.refl {ι σ : Type} (engine : Engine ι σ) :
    engine.SameCapacity engine := rfl

/-- What is compared of the runs of two engines with handlers of the same names. They may be the
same engine. -/
structure Engine.Likeness {ι σ τ : Type} (engine : Engine ι σ) (other : Engine ι τ) where
  /-- Which settings the second run may have where the first has others. -/
  settings : Settings → Settings → Prop
  /-- What the second record may be where the first is another. -/
  alike : Recorded (Workspace ι σ) → Recorded (Workspace ι τ) → Prop
  /-- The faults at which the first run may part from the second. -/
  parting : Fault → Prop
  /-- What the second run may reply where the first replies something else. -/
  replies : List Text → List Text → Prop
  events : KeepsEvents alike
  registry : ∀ {r s}, alike r s → r.state.registry.Alike settings s.state.registry
  leaving : ∀ {fault}, parting fault → parting fault.leaving
  same : ∀ l, replies l l
  join : ∀ {l l'}, replies l l' → ∀ separator, Text.join separator l = Text.join separator l'
  separator : ∀ {t t'}, settings t t' → t.separator = t'.separator
  /-- Limits differ only where the first run may part at what the stricter one cuts off. -/
  limit : ∀ {t t'}, settings t t' → t.limit = t'.limit ∨
    Looser t.limit t'.limit ∧ ∀ fault : Fault, fault.IsCutOff → parting fault
  suppressed : ∀ {t t'}, settings t t' → ∀ result : Text,
    replies (if result.isEmpty && t.suppressEmpty then [] else [result])
      (if result.isEmpty && t'.suppressEmpty then [] else [result])
  capacity : engine.SameCapacity other
  act : ∀ h call call' context,
    Run.Matches alike parting replies (engine.act h call context) (other.act h call' context)

namespace Engine.Likeness

/-- A comparison of runs with the same replies. -/
def sameReplies {engine : Engine ι σ} {other : Engine ι τ}
    (settings : Settings → Settings → Prop)
    (alike : Recorded (Workspace ι σ) → Recorded (Workspace ι τ) → Prop) (parting : Fault → Prop)
    (events : KeepsEvents alike)
    (registry : ∀ {r s}, alike r s → r.state.registry.Alike settings s.state.registry)
    (leaving : ∀ {fault}, parting fault → parting fault.leaving)
    (replied : ∀ {t t'}, settings t t' →
      t.separator = t'.separator ∧ t.suppressEmpty = t'.suppressEmpty)
    (limit : ∀ {t t'}, settings t t' → t.limit = t'.limit ∨
      Looser t.limit t'.limit ∧ ∀ fault : Fault, fault.IsCutOff → parting fault)
    (capacity : engine.SameCapacity other)
    (act : ∀ h call call' context, Run.Matches alike (fun _ => False) Eq
      (engine.act h call context) (other.act h call' context)) : engine.Likeness other where
  settings := settings
  alike := alike
  parting := parting
  replies := Eq
  events := events
  registry := registry
  leaving := leaving
  same := fun _ => rfl
  join := fun h _ => by rw [h]
  separator := fun h => (replied h).1
  limit := limit
  suppressed := fun h _ => by rw [(replied h).2]
  capacity := capacity
  act := fun h call call' context =>
    (act h call call' context).mono (fun _ => False.elim) fun _ _ => id

/-- A comparison of runs under the same settings, from records with the same registry. -/
def sameSettings {engine : Engine ι σ} {other : Engine ι τ}
    (alike : Recorded (Workspace ι σ) → Recorded (Workspace ι τ) → Prop) (parting : Fault → Prop)
    (events : KeepsEvents alike)
    (registry : ∀ {r s}, alike r s → r.state.registry = s.state.registry)
    (leaving : ∀ {fault}, parting fault → parting fault.leaving)
    (capacity : engine.SameCapacity other)
    (act : ∀ h call call' context, Run.Matches alike (fun _ => False) Eq
      (engine.act h call context) (other.act h call' context)) : engine.Likeness other :=
  sameReplies Eq alike parting events
    (fun h => by
      rw [registry h]
      exact .refl (fun _ => rfl) _)
    leaving
    (fun h => by
      rw [h]
      exact ⟨rfl, rfl⟩)
    (fun h => .inl (by rw [h])) capacity act

/-- The same, where the first run may not part from the second. -/
def exact {engine : Engine ι σ} {other : Engine ι τ}
    (alike : Recorded (Workspace ι σ) → Recorded (Workspace ι τ) → Prop)
    (events : KeepsEvents alike)
    (registry : ∀ {r s}, alike r s → r.state.registry = s.state.registry)
    (capacity : engine.SameCapacity other)
    (act : ∀ h call call' context, Run.Matches alike (fun _ => False) Eq
      (engine.act h call context) (other.act h call' context)) : engine.Likeness other :=
  sameSettings alike (fun _ => False) events registry False.elim capacity act

variable {engine : Engine ι σ} {other : Engine ι τ} (L : engine.Likeness other)
  {call : Caller ι σ} {call' : Caller ι τ} {t t' : Settings}

/-- A looser limit leaves at least as much room. -/
lemma room_looser {limit loose : Option Nat} (h : Looser limit loose) (capacity : Option Nat) :
    Looser (Nesting.room ⟨limit, capacity⟩) (Nesting.room ⟨loose, capacity⟩) := by
  intro n hn
  rcases loose with - | loose
  · rcases capacity with - | capacity
    · cases hn
    · cases hn
      rcases limit with - | limit
      · exact ⟨n, rfl, Nat.le_refl _⟩
      · exact ⟨min limit n, rfl, Nat.min_le_right _ _⟩
  · obtain ⟨m, rfl, hle⟩ := h loose rfl
    rcases capacity with - | capacity
    · cases hn
      exact ⟨m, rfl, hle⟩
    · cases hn
      exact ⟨min m capacity, rfl, by omega⟩

/-- A text is read alike under both settings, unless it is nested too deep for the first. -/
lemma reading (h : L.settings t t') (text : Text) :
    (∃ fault, Command.parse (engine.nesting t).room text = .error fault ∧ fault.cause = .tooDeep ∧
        L.parting ((engine.nesting t).fault text fault)) ∨
      Command.parse (other.nesting t').room text = Command.parse (engine.nesting t).room text ∧
        ∀ fault, Command.parse (engine.nesting t).room text = .error fault →
          (other.nesting t').fault text fault = (engine.nesting t).fault text fault ∧
            (other.nesting t').notice text fault = (engine.nesting t).notice text fault := by
  obtain hequal | ⟨hlooser, hcut⟩ := L.limit h
  · have hnesting : other.nesting t' = engine.nesting t := by
      unfold Engine.nesting
      rw [hequal, show engine.capacity = other.capacity from L.capacity]
    rw [hnesting]
    exact .inr ⟨rfl, fun _ _ => ⟨rfl, rfl⟩⟩
  · have hroom : Looser (engine.nesting t).room (other.nesting t').room := by
      unfold Engine.nesting
      rw [show engine.capacity = other.capacity from L.capacity]
      exact room_looser hlooser _
    obtain ⟨rest, hdeep⟩ | hsame := Command.parse_of_looser hroom text
    · exact .inl ⟨_, hdeep, rfl, hcut _ (Nesting.isCutOff_fault rfl)⟩
    · by_cases hdeep : ∃ fault, Command.parse (engine.nesting t).room text = .error fault ∧
          fault.cause = .tooDeep
      · obtain ⟨fault, hparse, hcause⟩ := hdeep
        exact .inl ⟨fault, hparse, hcause, hcut _ (Nesting.isCutOff_fault hcause)⟩
      · refine .inr ⟨hsame, fun fault hparse => ?_⟩
        have hcause : fault.cause ≠ .tooDeep := fun hcause => hdeep ⟨fault, hparse, hcause⟩
        rw [Nesting.fault_of_cause_ne hcause, Nesting.fault_of_cause_ne hcause]
        exact ⟨rfl, Nesting.notice_of_cause_ne _ hcause⟩

/-- What one run stops as too deep the other stops too, or may part at. -/
lemma checkDepth (h : L.settings t t') (text : Text) (depth : Int) :
    Run.Matches L.alike L.parting Eq (Engine.checkDepth t text depth)
      (Engine.checkDepth t' text depth) := by
  obtain hequal | ⟨hlooser, hcut⟩ := L.limit h
  · have hsame : Engine.checkDepth (ι := ι) (σ := σ) t text depth =
        Engine.checkDepth t' text depth := by
      unfold Engine.checkDepth
      rw [hequal]
    rw [hsame]
    unfold Engine.checkDepth
    split
    · split
      · exact L.events.note_bind _ (.throw _)
      · exact .pure rfl
    · exact .pure rfl
  · obtain hfits | ⟨limit, hlimit, hlt⟩ := within_or_beyond t depth
    · have hfits' : ∀ limit ∈ t'.limit, depth ≤ (limit : Int) := by
        intro loose hloose
        obtain ⟨limit, hlimit, hle⟩ := hlooser loose hloose
        have := hfits limit hlimit
        omega
      rw [checkDepth_eq_pure hfits, checkDepth_eq_pure hfits']
      exact .pure rfl
    · refine .of_parting fun r => ?_
      rw [exec_checkDepth_of_lt hlimit hlt]
      exact ⟨_, rfl, hcut _ (Fault.isCutOff_of_nowhere _ _ _)⟩

/-! ### The shell -/

/-- Interpolations whose callbacks match give the same texts. -/
lemma splice {run : Text → Task ι σ Text} {run' : Text → Task ι τ Text} (inner : Text)
    (h : Run.Matches L.alike L.parting Eq (run inner) (run' inner)) :
    Run.Matches L.alike L.parting Eq
      (splice (fun inner => return .text (← run inner)) inner)
      (splice (fun inner => return .text (← run' inner)) inner) := by
  intro r s hrs
  rw [exec_splice_text, exec_splice_text]
  obtain ⟨fault, r', ha, hparts⟩ | ⟨fault, r', s', ha, hb, halike⟩ |
    ⟨x, y, r', s', ha, hb, rfl, halike⟩ := h.cases_on hrs
  · rw [ha]
    exact .inl ⟨_, rfl, L.leaving hparts⟩
  · rw [ha, hb]
    exact .inr ⟨.error _, halike⟩
  · rw [ha, hb]
    exact .inr ⟨.ok rfl, L.events _ _ _ halike⟩

/-- So do whole commands. -/
lemma execute {run : Text → Task ι σ Text} {run' : Text → Task ι τ Text}
    (h : ∀ inner, Run.Matches L.alike L.parting Eq (run inner) (run' inner)) (command : Command) :
    Run.Matches L.alike L.parting Eq
      (command.execute fun inner => return .text (← run inner))
      (command.execute fun inner => return .text (← run' inner)) := by
  apply L.events.note_bind
  induction command with
  | nil => exact .pure rfl
  | literal text rest ih =>
    refine ih.bind ?_
    rintro after _ rfl
    exact .pure rfl
  | interpolation inner rest ihinner ihrest =>
    refine ihinner.bind ?_
    rintro text _ rfl
    refine (L.splice text (h text)).bind ?_
    rintro result _ rfl
    refine ihrest.bind ?_
    rintro after _ rfl
    exact .pure rfl

/-- A command is carried out alike, but for an empty result that one of the shells may leave
unanswered. -/
lemma carryOut (h : L.settings t t') {context : Context}
    (hcall : ∀ text, Run.Matches L.alike L.parting Eq (call t text (context.depth + 1))
      (call' t' text (context.depth + 1))) (command : Command) :
    Run.Matches L.alike L.parting L.replies (Engine.carryOut call t context command)
      (Engine.carryOut call' t' context command) := by
  refine (L.execute hcall command).bind ?_
  rintro text _ rfl
  apply L.events.note_bind
  refine (hcall text).bind ?_
  rintro result _ rfl
  exact .pure (L.suppressed h result)

/-- The shells do alike whatever their arguments are. -/
lemma shell (h : L.settings t t') {context : Context}
    (hcall : ∀ text, Run.Matches L.alike L.parting Eq (call t text (context.depth + 1))
      (call' t' text (context.depth + 1))) :
    Run.Matches L.alike L.parting L.replies (engine.shell call t context)
      (other.shell call' t' context) := by
  rw [shell_eq, shell_eq]
  apply L.events.note_bind
  obtain ⟨fault, hparse, hcause, hparts⟩ | ⟨hsame, hfaults⟩ := L.reading h context.args
  · rw [hparse]
    dsimp only
    rw [if_pos hcause]
    exact .of_parting fun r => ⟨_, rfl, hparts⟩
  · rw [hsame]
    rcases hparse : Command.parse (engine.nesting t).room context.args with fault | command
    · obtain ⟨hfault, hnotice⟩ := hfaults fault hparse
      dsimp only
      rw [hfault, hnotice]
      apply L.events.note_bind
      split
      · exact .throw _
      · exact L.events.note_bind _ (.pure (L.same _))
    · exact L.events.note_bind _ (L.carryOut h hcall command)

/-! ### Dispatching -/

/-- Reading the state gives states of records that are alike. -/
lemma state : Run.Matches L.alike L.parting
    (fun (w : Workspace ι σ) (w' : Workspace ι τ) => w.registry.Alike L.settings w'.registry)
    Run.state Run.state :=
  fun _ _ hrs => .inr ⟨.ok (L.registry hrs), hrs⟩

/-- A built-in command does the same. -/
lemma builtin (b : Builtin) (args : Text) :
    Run.Matches L.alike L.parting Eq (b.act args : Task ι σ _) (b.act args : Task ι τ _) := by
  cases b with
  | ping | echo | upper | lower | reverse => exact .pure rfl
  | say =>
    simp only [Builtin.act]
    split
    · exact .pure rfl
    · exact (L.events.record _).bind fun _ _ _ => .pure rfl
  | help =>
    refine L.state.bind ?_
    intro w w' hregistry
    rw [hregistry.helpOn]
    exact .pure rfl

/-- Handlers that are alike do alike. -/
lemma perform {handler handler' : Handler ι} (h : handler.Alike L.settings handler')
    {context : Context}
    (hcall : ∀ t t', L.settings t t' → ∀ text, Run.Matches L.alike L.parting Eq
      (call t text (context.depth + 1)) (call' t' text (context.depth + 1))) :
    Run.Matches L.alike L.parting L.replies (engine.perform call handler context)
      (other.perform call' handler' context) := by
  cases h with
  | shell h => exact L.shell h (hcall _ _ h)
  | builtin b =>
    refine (L.builtin b context.args).mono (fun _ => id) ?_
    rintro replies _ rfl
    exact L.same replies
  | custom c => exact L.act c call call' context

/-- A dispatch only calls one deeper than itself. -/
lemma dispatchOnce (h : L.settings t t') {depth : Int}
    (hcall : ∀ t t', L.settings t t' → ∀ text, Run.Matches L.alike L.parting Eq
      (call t text (depth + 1)) (call' t' text (depth + 1))) (text : Text) :
    Run.Matches L.alike L.parting L.replies (engine.dispatchOnce call t text depth)
      (other.dispatchOnce call' t' text depth) := by
  refine (L.checkDepth h text depth).bind fun _ _ _ => ?_
  split
  · exact .pure (L.same _)
  · next word args _ =>
    refine L.state.bind ?_
    intro w w' hregistry
    have hlookup := hregistry.lookup word
    generalize w.registry.lookup word = found, w'.registry.lookup word = found' at hlookup
    cases hlookup with
    | none => exact L.events.note_bind _ (.pure (L.same _))
    | some hentry =>
      dsimp only
      rw [hentry.name]
      exact L.events.note_bind _ (L.events.within _ _ (L.perform hentry.handler hcall))

/-- Replies that correspond are joined to the same result. -/
lemma joined {a : Task ι σ (List Text)} {b : Task ι τ (List Text)} (h : L.settings t t')
    (text : Text) (hmatch : Run.Matches L.alike L.parting L.replies a b) :
    Run.Matches L.alike L.parting Eq (Engine.joined t text a) (Engine.joined t' text b) := by
  refine hmatch.bind ?_
  intro l l' hreplies
  rw [L.separator h, L.join hreplies]
  exact L.events.note_bind _ (.pure rfl)

/-- A dispatch comes to the same under both settings, however many dispatches may lie inside one
another. -/
theorem dispatchWithin (rounds : Nat) (h : L.settings t t') (text : Text) (depth : Int) :
    Run.Matches L.alike L.parting L.replies (engine.dispatchWithin rounds t text depth)
      (other.dispatchWithin rounds t' text depth) := by
  induction rounds generalizing t t' text depth with
  | zero => exact .throw _
  | succ rounds ih =>
    exact L.dispatchOnce h (fun t t' h text => L.joined h text (ih h text _)) text

/-- More patience in the second run does not matter, if the first may part where it is exhausted. -/
theorem dispatchWithin_of_le (hexhausted : L.parting .exhausted) {rounds more : Nat}
    (hle : rounds ≤ more) (h : L.settings t t') (text : Text) (depth : Int) :
    Run.Matches L.alike L.parting L.replies (engine.dispatchWithin rounds t text depth)
      (other.dispatchWithin more t' text depth) := by
  induction rounds generalizing more t t' text depth with
  | zero => exact .of_parting fun r => ⟨.exhausted, rfl, hexhausted⟩
  | succ rounds ih =>
    obtain ⟨more, rfl⟩ : ∃ n, more = n + 1 := Nat.exists_eq_add_one.mpr (Nat.zero_lt_of_lt hle)
    have hless : rounds ≤ more := Nat.le_of_succ_le_succ hle
    exact L.dispatchOnce h (fun t t' h text => L.joined h text (ih hless h text _)) text

/-- The same for the joined results. -/
lemma runWithin_of_le (hexhausted : L.parting .exhausted) {rounds more : Nat}
    (hle : rounds ≤ more) (h : L.settings t t') (text : Text) (depth : Int) :
    Run.Matches L.alike L.parting Eq (engine.runWithin rounds t text depth)
      (other.runWithin more t' text depth) :=
  L.joined h text (L.dispatchWithin_of_le hexhausted hle h text depth)

end Engine.Likeness

end Subshell
