import Mathlib.Data.List.Nodup
import Subshell.Proofs.Invocation
import Subshell.Proofs.LowerCase
/-!
# What a history of calls leaves registered

Commands come and go by two calls, one that registers a command and one that unregisters it, and
either may be made with a name in any spelling. After any calls at all, of which some may have been
refused (`registry_after_calls`):

* the names are single words in lower case and all different (`Registry.WellNamed`);
* a name leads to the command that was registered last under its key, unless that was unregistered
  since (`Registry.LastRegistered`);
* the list of the commands is in strict order and complete;
* each command is found under the name that it is listed with, by a lookup and by a dispatch
  (`Engine.Reaches`).

A registration is refused for its name only (`Registry.Refuses`), and then nothing changes.
-/

namespace Subshell

variable {ι σ : Type}

/-! ## Keys -/

/-- A key has no blanks at its ends. -/
lemma strip_commandKey (name : Text) : Text.strip (commandKey name) = commandKey name :=
  Text.strip_lower_strip name

lemma lower_commandKey (name : Text) : Text.lower (commandKey name) = commandKey name :=
  Text.lower_lower _

/-- A key has no words only if it is empty. -/
lemma words_commandKey_eq_nil_iff {name : Text} :
    Text.words (commandKey name) = [] ↔ commandKey name = [] := by
  rw [Text.words_eq_nil_iff]
  refine ⟨Text.eq_nil_of_blank_suffix (strip_commandKey name) List.suffix_rfl, fun hnil c hc => ?_⟩
  rw [hnil] at hc
  cases hc

/-- A name that a command can have: a single word in lower case. -/
structure IsName (name : Text) : Prop where
  ne_nil : name ≠ []
  not_blank : ∀ c ∈ name, isBlank c = false
  lower : Text.lower name = name

lemma isName_iff (name : Text) :
    name ≠ [] ∧ name.all (!isBlank ·) = true ∧ Text.lower name = name ↔ IsName name := by
  simp only [List.all_eq_true, Bool.not_eq_true']
  exact ⟨fun h => ⟨h.1, h.2.1, h.2.2⟩, fun h => ⟨h.ne_nil, h.not_blank, h.lower⟩⟩

instance (name : Text) : Decidable (IsName name) := decidable_of_iff _ (isName_iff name)

/-- A name is its own key. -/
lemma IsName.commandKey {name : Text} (h : IsName name) : commandKey name = name := by
  rw [Subshell.commandKey, Text.strip_of_not_blank h.not_blank, h.lower]

/-- A key that is a single word is a name. -/
lemma isName_commandKey {name : Text} (h : (Text.words (commandKey name)).length = 1) :
    IsName (commandKey name) where
  ne_nil := ((Text.length_words_eq_one_iff (strip_commandKey name)).mp h).1
  not_blank := ((Text.length_words_eq_one_iff (strip_commandKey name)).mp h).2
  lower := lower_commandKey name

namespace Registry

variable {registry : Registry ι} {name : Text} {handler : Handler ι} {help : Text}

/-! ## Single calls -/

/-- A registry refuses names that are empty or more than one word, and names that are taken. -/
def Refuses (registry : Registry ι) (name : Text) : Prop :=
  commandKey name = [] ∨ 1 < (Text.words (commandKey name)).length ∨ registry.contains name = true

instance (registry : Registry ι) (name : Text) : Decidable (registry.Refuses name) :=
  inferInstanceAs (Decidable (_ ∨ _ ∨ _))

/-- Why a name is refused: it is no single word, or else it is taken. -/
def refusal (name : Text) : RegistrationFault :=
  if (Text.words (commandKey name)).length = 1 then .taken (commandKey name) else .invalidName name

lemma contains_eq_any (registry : Registry ι) (name : Text) :
    registry.contains name = registry.entries.any (·.name = commandKey name) := by
  unfold contains lookup
  rw [Bool.eq_iff_iff, List.find?_isSome, List.any_eq_true]

/-- A name that is refused registers nothing. -/
lemma register_of_refuses (h : registry.Refuses name) (handler : Handler ι) (help : Text) :
    registry.register name handler help = .error (refusal name) := by
  unfold register refusal
  by_cases hone : (Text.words (commandKey name)).length = 1
  · have htaken : registry.entries.any (·.name = commandKey name) = true := by
      rcases h with hempty | hmany | htaken
      · have hnone : Text.words (commandKey name) = [] := words_commandKey_eq_nil_iff.mpr hempty
        rw [hnone] at hone
        cases hone
      · omega
      · rwa [← contains_eq_any]
    dsimp only
    rw [if_neg (not_not_intro hone), if_pos htaken, if_pos hone]
  · dsimp only
    rw [if_pos hone, if_neg hone]

/-- A name that is not refused is a single word. -/
lemma length_words_of_not_refuses (h : ¬registry.Refuses name) :
    (Text.words (commandKey name)).length = 1 := by
  have hne : (Text.words (commandKey name)).length ≠ 0 := by
    rw [Ne, List.length_eq_zero_iff, words_commandKey_eq_nil_iff]
    exact fun hempty => h (.inl hempty)
  have hle : ¬1 < (Text.words (commandKey name)).length := fun hmany => h (.inr (.inl hmany))
  omega

/-- A name that no command has is not refused. -/
lemma not_refuses_of_free (h : IsName name)
    (hfree : ∀ entry ∈ registry.entries, entry.name ≠ name) : ¬registry.Refuses name := by
  have hstrip : Text.strip name = name := by
    rw [← h.commandKey]
    exact strip_commandKey name
  have hone : (Text.words name).length = 1 :=
    (Text.length_words_eq_one_iff hstrip).mpr ⟨h.ne_nil, h.not_blank⟩
  rw [Refuses, contains_eq_any, h.commandKey]
  rintro (hempty | hmany | htaken)
  · exact h.ne_nil hempty
  · omega
  · obtain ⟨entry, hentry, hname⟩ := List.any_eq_true.mp htaken
    exact hfree entry hentry (of_decide_eq_true hname)

/-- Any other name registers a command behind the others. -/
lemma register_of_not_refuses (h : ¬registry.Refuses name) (handler : Handler ι) (help : Text) :
    registry.register name handler help =
      .ok ⟨registry.entries ++ [⟨commandKey name, handler, help⟩]⟩ := by
  have hfree : registry.contains name = false :=
    Bool.eq_false_iff.mpr fun htaken => h (.inr (.inr htaken))
  unfold register
  dsimp only
  rw [if_neg (fun hne => hne (length_words_of_not_refuses h)), ← contains_eq_any, hfree]
  rfl

/-- After a command is registered, its key leads to it, and any other to what it led to. -/
lemma lookup_register (h : ¬registry.Refuses name) (other : Text) :
    lookup ⟨registry.entries ++ [⟨commandKey name, handler, help⟩]⟩ other =
      if commandKey other = commandKey name then some ⟨commandKey name, handler, help⟩
      else registry.lookup other := by
  have hfree : registry.lookup name = none := by
    rw [← Option.not_isSome_iff_eq_none]
    exact fun htaken => h (.inr (.inr htaken))
  unfold lookup at *
  rw [List.find?_append]
  split
  · next heq =>
    rw [heq, hfree, List.find?_cons_of_pos (by simp)]
    rfl
  · next hne =>
    rw [List.find?_cons_of_neg (by simpa using Ne.symm hne)]
    exact Option.or_none

/-- After a command is unregistered, its key leads to nothing, and any other to what it led to. -/
lemma lookup_unregister (registry : Registry ι) (name other : Text) :
    (registry.unregister name).lookup other =
      if commandKey other = commandKey name then none else registry.lookup other := by
  unfold unregister lookup
  rw [List.find?_filter]
  split
  · next heq =>
    rw [List.find?_eq_none]
    simp [heq]
  · next hne =>
    congr 1
    funext entry
    by_cases hname : entry.name = commandKey other
    · simp [hname, hne]
    · simp [hname]

end Registry

namespace Workspace

variable {r : Recorded (Workspace ι σ)} {name : Text}

/-- A registration that is refused is a fault, and nothing changes. -/
lemma exec_register_of_refuses (h : r.state.registry.Refuses name) (handler : Handler ι)
    (help : Text) :
    (register name handler help).exec r = (.error (.registration (Registry.refusal name)), r) := by
  unfold register
  rw [Run.exec_state_bind, Registry.register_of_refuses h]
  rfl

/-- Any other registration adds the command, and the log is told. -/
lemma exec_register_of_not_refuses (h : ¬r.state.registry.Refuses name) (handler : Handler ι)
    (help : Text) :
    (register name handler help).exec r =
      (.ok (), ⟨⟨⟨r.state.registry.entries ++ [⟨commandKey name, handler, help⟩]⟩, r.state.host⟩,
        .notice (.registered (commandKey name)) :: r.journal⟩) := by
  unfold register
  rw [Run.exec_state_bind, Registry.register_of_not_refuses h]
  rfl

end Workspace

/-! ## Names -/

/-- The names of a registry are names that a command can have, and no two are the same. -/
structure Registry.WellNamed (registry : Registry ι) : Prop where
  isName : ∀ entry ∈ registry.entries, IsName entry.name
  nodup : (registry.entries.map (·.name)).Nodup

namespace Registry

variable {registry : Registry ι} {entry : Entry ι}

lemma wellNamed_empty : WellNamed ({} : Registry ι) where
  isName _ hentry := nomatch hentry
  nodup := List.nodup_nil

lemma sorted_perm (registry : Registry ι) : registry.sorted.Perm registry.entries :=
  List.mergeSort_perm _ _

namespace WellNamed

/-- Each command is found under its name. -/
lemma lookup_name (h : registry.WellNamed) (hentry : entry ∈ registry.entries) :
    registry.lookup entry.name = some entry := by
  have hkey : commandKey entry.name = entry.name := (h.isName entry hentry).commandKey
  have hsome : (registry.lookup entry.name).isSome = true := by
    unfold lookup
    rw [List.find?_isSome]
    exact ⟨entry, hentry, decide_eq_true hkey.symm⟩
  obtain ⟨found, hfound⟩ := Option.isSome_iff_exists.mp hsome
  have hmem : found ∈ registry.entries := List.mem_of_find?_eq_some hfound
  have hname : found.name = entry.name := (name_of_lookup hfound).trans hkey
  have hsame : found = entry := List.inj_on_of_nodup_map h.nodup hmem hentry hname
  rw [hfound, hsame]

/-- A registration keeps the names. -/
lemma register {name : Text} (h : registry.WellNamed) (hfree : ¬registry.Refuses name)
    (handler : Handler ι) (help : Text) :
    WellNamed ⟨registry.entries ++ [⟨commandKey name, handler, help⟩]⟩ where
  isName := by
    intro entry hentry
    rcases List.mem_append.mp hentry with hold | hnew
    · exact h.isName entry hold
    · rw [List.mem_singleton.mp hnew]
      exact isName_commandKey (length_words_of_not_refuses hfree)
  nodup := by
    have hnew : commandKey name ∉ registry.entries.map (·.name) := by
      intro hmem
      obtain ⟨entry, hentry, hname⟩ := List.mem_map.mp hmem
      have htaken : registry.contains name = true := by
        rw [contains_eq_any, List.any_eq_true]
        exact ⟨entry, hentry, decide_eq_true hname⟩
      exact hfree (.inr (.inr htaken))
    rw [List.map_append, List.nodup_append_comm]
    exact List.nodup_cons.mpr ⟨hnew, h.nodup⟩

/-- So does the end of one. -/
lemma unregister (h : registry.WellNamed) (name : Text) : (registry.unregister name).WellNamed where
  isName entry hentry := h.isName entry (List.mem_of_mem_filter hentry)
  nodup := h.nodup.sublist (List.filter_sublist.map _)

/-- The names of the list increase strictly. -/
lemma sorted_lt (h : registry.WellNamed) : registry.sorted.Pairwise (·.name < ·.name) := by
  have hsorted : registry.sorted.Pairwise fun a b => (!decide (b.name < a.name)) = true := by
    apply List.pairwise_mergeSort
    · intro a b c hab hbc
      simp only [Bool.not_eq_true', decide_eq_false_iff_not] at hab hbc ⊢
      exact List.not_lt.mpr (List.le_trans (List.not_lt.mp hab) (List.not_lt.mp hbc))
    · intro a b
      simp only [Bool.or_eq_true, Bool.not_eq_true', decide_eq_false_iff_not]
      exact (List.le_total a.name b.name).imp List.not_lt.mpr List.not_lt.mpr
  have hne : registry.sorted.Pairwise fun a b => a.name ≠ b.name := by
    have hnodup : (registry.sorted.map (·.name)).Nodup :=
      (registry.sorted_perm.map _).nodup_iff.mpr h.nodup
    exact List.pairwise_map.mp hnodup
  apply (hsorted.and hne).imp
  rintro a b ⟨hab, hdiff⟩
  simp only [Bool.not_eq_true', decide_eq_false_iff_not] at hab
  by_contra hlt
  exact hdiff (List.le_antisymm (List.not_lt.mp hab) (List.not_lt.mp hlt))

end WellNamed

end Registry

/-! ## Histories -/

/-- A call on the registry. -/
inductive Call (ι : Type)
  | register (name : Text) (handler : Handler ι) (help : Text)
  | unregister (name : Text)

namespace Call

/-- Makes a call on the registry of the engine. -/
def make : Call ι → Task ι σ Unit
  | register name handler help => Workspace.register name handler help
  | unregister name => Workspace.unregister name

/-- Makes the calls in order, also after a fault. -/
def makeAll (calls : List (Call ι)) : Task ι σ Unit :=
  calls.forM fun call => do let _ ← Run.attempt call.make

end Call

namespace Registry

/-- The registry after a call. -/
def answer (registry : Registry ι) : Call ι → Registry ι
  | .register name handler help =>
    match registry.register name handler help with
    | .ok next => next
    | .error _ => registry
  | .unregister name => registry.unregister name

/-- The registry after calls on an empty one. -/
def after (calls : List (Call ι)) : Registry ι := calls.foldl answer {}

/-- A call gives a key another command or takes away the one that it has. -/
def Changes (registry : Registry ι) (key : Text) : Call ι → Prop
  | .register name handler help =>
    commandKey name = key ∧ ∃ next, registry.register name handler help = .ok next
  | .unregister name => commandKey name = key

/-- Of the calls, one has registered a command under a key, and none of the later ones has changed
what the key stands for. -/
def LastRegistered (calls : List (Call ι)) (key : Text) (entry : Entry ι) : Prop :=
  ∃ earlier name handler help later,
    calls = earlier ++ .register name handler help :: later ∧
      (after earlier).Changes key (.register name handler help) ∧ entry = ⟨key, handler, help⟩ ∧
      ∀ middle call rest, later = middle ++ call :: rest →
        ¬(after (earlier ++ .register name handler help :: middle)).Changes key call

variable {registry : Registry ι} {entry : Entry ι} {name key : Text} {handler : Handler ι}
  {help : Text} {call : Call ι}

lemma after_concat (calls : List (Call ι)) (call : Call ι) :
    after (calls ++ [call]) = (after calls).answer call :=
  List.foldl_concat ..

lemma answer_of_refuses (h : registry.Refuses name) (handler : Handler ι) (help : Text) :
    registry.answer (.register name handler help) = registry := by
  rw [answer, register_of_refuses h]

lemma answer_of_not_refuses (h : ¬registry.Refuses name) (handler : Handler ι) (help : Text) :
    registry.answer (.register name handler help) =
      ⟨registry.entries ++ [⟨commandKey name, handler, help⟩]⟩ := by
  rw [answer, register_of_not_refuses h]

/-- A registration changes its own key, unless it is refused. -/
lemma changes_register_iff :
    registry.Changes key (.register name handler help) ↔
      commandKey name = key ∧ ¬registry.Refuses name := by
  refine and_congr_right fun _ => ⟨?_, fun h => ⟨_, register_of_not_refuses h handler help⟩⟩
  rintro ⟨next, hnext⟩ h
  rw [register_of_refuses h] at hnext
  cases hnext

/-- Every call keeps the names. -/
lemma WellNamed.answer (h : registry.WellNamed) (call : Call ι) :
    (registry.answer call).WellNamed := by
  cases call with
  | register name handler help =>
    by_cases hrefuses : registry.Refuses name
    · rw [answer_of_refuses hrefuses]
      exact h
    · rw [answer_of_not_refuses hrefuses]
      exact h.register hrefuses handler help
  | unregister name => exact h.unregister name

lemma wellNamed_after (calls : List (Call ι)) : (after calls).WellNamed := by
  induction calls using List.reverseRecOn with
  | nil => exact wellNamed_empty
  | append_singleton calls call ih =>
    rw [after_concat]
    exact ih.answer call

/-- A key keeps its command in a call that does not change it. -/
lemma lookup_answer_of_not_changes (h : ¬registry.Changes (commandKey name) call) :
    (registry.answer call).lookup name = registry.lookup name := by
  cases call with
  | register other handler help =>
    by_cases hrefuses : registry.Refuses other
    · rw [answer_of_refuses hrefuses]
    · have hne : commandKey name ≠ commandKey other := fun heq =>
        h (changes_register_iff.mpr ⟨heq.symm, hrefuses⟩)
      rw [answer_of_not_refuses hrefuses, lookup_register hrefuses, if_neg hne]
  | unregister other =>
    have hne : commandKey name ≠ commandKey other := fun heq => h heq.symm
    rw [answer, lookup_unregister, if_neg hne]

lemma lookup_answer_register (h : registry.Changes (commandKey name) (.register key handler help)) :
    (registry.answer (.register key handler help)).lookup name =
      some ⟨commandKey name, handler, help⟩ := by
  obtain ⟨hkey, hfree⟩ := changes_register_iff.mp h
  rw [answer_of_not_refuses hfree, lookup_register hfree, if_pos hkey.symm, hkey]

lemma lookup_answer_unregister (h : registry.Changes (commandKey name) (.unregister key)) :
    (registry.answer (.unregister key)).lookup name = none := by
  have hkey : commandKey key = commandKey name := h
  rw [answer, lookup_unregister, if_pos hkey.symm]

lemma not_lastRegistered_nil : ¬LastRegistered [] key entry := by
  rintro ⟨earlier, name, handler, help, later, heq, -⟩
  cases earlier <;> cases heq

/-- What stands last is the element at the seam, or stands behind it. -/
lemma concat_eq_append_cons_iff {α : Type} {front list back : List α} {a b : α} :
    list ++ [a] = front ++ b :: back ↔
      (list = front ∧ a = b ∧ back = []) ∨
        ∃ more, back = more ++ [a] ∧ list = front ++ b :: more := by
  constructor
  · intro heq
    rcases List.eq_nil_or_concat' back with rfl | ⟨more, last, rfl⟩
    · obtain ⟨rfl, hlast⟩ := List.append_inj' heq rfl
      exact .inl ⟨rfl, List.head_eq_of_cons_eq hlast, rfl⟩
    · rw [← List.cons_append, ← List.append_assoc] at heq
      obtain ⟨rfl, hlast⟩ := List.append_inj' heq rfl
      exact .inr ⟨more, by rw [hlast], rfl⟩
  · rintro (⟨rfl, rfl, rfl⟩ | ⟨more, rfl, rfl⟩)
    · rfl
    · rw [List.append_assoc, List.cons_append]

/-- The last of the calls has registered the command of a key if it changes the key, and otherwise
the command is that of the calls before. -/
lemma lastRegistered_concat_iff {calls : List (Call ι)} :
    LastRegistered (calls ++ [call]) key entry ↔
      (after calls).Changes key call ∧
          (∃ name handler help, call = .register name handler help ∧ entry = ⟨key, handler, help⟩) ∨
        ¬(after calls).Changes key call ∧ LastRegistered calls key entry := by
  constructor
  · rintro ⟨earlier, name, handler, help, later, heq, hchanges, hentry, hlater⟩
    rcases concat_eq_append_cons_iff.mp heq with ⟨rfl, rfl, rfl⟩ | ⟨more, rfl, rfl⟩
    · exact .inl ⟨hchanges, name, handler, help, rfl, hentry⟩
    · refine .inr ⟨hlater more call [] rfl, earlier, name, handler, help, more, rfl, hchanges,
        hentry, ?_⟩
      rintro middle next rest rfl
      exact hlater middle next (rest ++ [call]) (List.append_assoc middle (next :: rest) [call])
  · rintro (⟨hchanges, name, handler, help, rfl, hentry⟩ |
      ⟨hkept, earlier, name, handler, help, later, rfl, hchanges, hentry, hlater⟩)
    · refine ⟨calls, name, handler, help, [], rfl, hchanges, hentry, ?_⟩
      intro middle next rest hsplit
      cases middle <;> cases hsplit
    · refine ⟨earlier, name, handler, help, later ++ [call],
        concat_eq_append_cons_iff.mpr (.inr ⟨later, rfl, rfl⟩), hchanges, hentry, ?_⟩
      intro middle next rest hsplit
      -- the next call is the one that was added, or one of the others
      rcases concat_eq_append_cons_iff.mp hsplit with ⟨rfl, rfl, rfl⟩ | ⟨more, rfl, rfl⟩
      · exact hkept
      · exact hlater middle next more rfl

/-- A name leads to the command that was registered last under its key. -/
theorem lookup_after_iff (calls : List (Call ι)) (name : Text) (entry : Entry ι) :
    (after calls).lookup name = some entry ↔ LastRegistered calls (commandKey name) entry := by
  induction calls using List.reverseRecOn with
  | nil =>
    have hnone : (after ([] : List (Call ι))).lookup name = none := rfl
    simp [hnone, not_lastRegistered_nil]
  | append_singleton calls call ih =>
    rw [after_concat, lastRegistered_concat_iff]
    by_cases hchanges : (after calls).Changes (commandKey name) call
    · cases call with
      | register other handler help => simp [lookup_answer_register hchanges, hchanges, eq_comm]
      | unregister other => simp [lookup_answer_unregister hchanges, hchanges]
    · rw [lookup_answer_of_not_changes hchanges, ih]
      simp [hchanges]

end Registry

namespace Call

/-- A call of the engine, whether it is refused or not, leaves the registry that answers it. -/
lemma exec_make (call : Call ι) (r : Recorded (Workspace ι σ)) :
    ∃ result journal,
      call.make.exec r = (result, ⟨⟨r.state.registry.answer call, r.state.host⟩, journal⟩) := by
  cases call with
  | register name handler help =>
    by_cases hrefuses : r.state.registry.Refuses name
    · rw [Registry.answer_of_refuses hrefuses]
      exact ⟨_, r.journal, Workspace.exec_register_of_refuses hrefuses handler help⟩
    · rw [Registry.answer_of_not_refuses hrefuses]
      exact ⟨_, _, Workspace.exec_register_of_not_refuses hrefuses handler help⟩
  | unregister name => exact ⟨_, r.journal, rfl⟩

/-- So do all of them, one after the other. -/
lemma exec_makeAll (calls : List (Call ι)) (r : Recorded (Workspace ι σ)) :
    ∃ journal, (makeAll calls).exec r =
      (.ok (), ⟨⟨calls.foldl Registry.answer r.state.registry, r.state.host⟩, journal⟩) := by
  induction calls generalizing r with
  | nil => exact ⟨r.journal, rfl⟩
  | cons call calls ih =>
    obtain ⟨result, journal, hcall⟩ := call.exec_make r
    obtain ⟨journal', hcalls⟩ := ih ⟨⟨r.state.registry.answer call, r.state.host⟩, journal⟩
    refine ⟨journal', ?_⟩
    have hfirst : (do let _ ← Run.attempt call.make : Task ι σ Unit).exec r =
        (.ok (), ⟨⟨r.state.registry.answer call, r.state.host⟩, journal⟩) := by
      rw [Run.exec_bind, Run.exec_attempt, hcall]
      rfl
    unfold makeAll
    rw [List.forM, Run.exec_bind_of_ok hfirst]
    exact hcalls

end Call

/-! ## Dispatches -/

/-- A text that begins with the name of a command is dispatched to the command, with what follows
the name, wherever the registry is this one and the depth is within the limit. -/
def Engine.Reaches (engine : Engine ι σ) (registry : Registry ι) (entry : Entry ι) : Prop :=
  ∀ (rest : Text) (settings : Settings) (depth : Int) (rounds : Nat)
    (r : Recorded (Workspace ι σ)),
    (∀ c ∈ rest.head?, isBlank c = true) →
    (∀ limit ∈ settings.limit, depth ≤ (limit : Int)) →
    r.state.registry = registry →
    (engine.dispatchWithin (rounds + 1) settings (entry.name ++ rest) depth).exec r =
      (Run.within (.invoked ⟨entry.name, Text.strip rest, depth⟩)
          (.finished ⟨entry.name, Text.strip rest, depth⟩)
          (engine.perform (engine.runWithin rounds) entry.handler
            ⟨entry.name, Text.strip rest, depth⟩)).exec
        (r.add (.notice (.dispatching entry.name (Text.strip rest) depth)))

lemma Registry.WellNamed.reaches {registry : Registry ι} (h : registry.WellNamed)
    {entry : Entry ι} (hentry : entry ∈ registry.entries) (engine : Engine ι σ) :
    engine.Reaches registry entry := by
  intro rest settings depth rounds r hrest hdepth hregistry
  have hname : IsName entry.name := h.isName entry hentry
  have hword : Text.firstWord? (Text.strip (entry.name ++ rest)) =
      some (entry.name, Text.strip rest) :=
    Text.firstWord?_strip_append hname.ne_nil hname.not_blank hrest
  have hlookup : r.state.registry.lookup entry.name = some entry := by
    rw [hregistry]
    exact h.lookup_name hentry
  exact engine.exec_dispatchWithin_of_lookup hdepth hword hlookup rounds

/-! ## The registry after any calls -/

/-- Any calls on an empty registry, refused ones among them, leave a registry in which the key of
each command is its name; a name leads to the command that was registered last under its key and not
unregistered since; the list is in strict order and complete; and each command that it lists is
found and dispatched to. A further registration is refused for its name alone, and changes nothing
then. -/
theorem registry_after_calls (engine : Engine ι σ) (calls : List (Call ι)) :
    let registry := Registry.after calls
    (∀ r : Recorded (Workspace ι σ), r.state.registry = {} →
      ∃ journal, (Call.makeAll calls).exec r = (.ok (), ⟨⟨registry, r.state.host⟩, journal⟩)) ∧
    (∀ entry ∈ registry.entries, commandKey entry.name = entry.name ∧ IsName entry.name) ∧
    (∀ name entry, registry.lookup name = some entry ↔
      Registry.LastRegistered calls (commandKey name) entry) ∧
    (registry.sorted.Pairwise (·.name < ·.name) ∧ registry.sorted.Perm registry.entries ∧
      registry.sorted.length = registry.size) ∧
    (∀ entry ∈ registry.sorted,
      registry.lookup entry.name = some entry ∧ engine.Reaches registry entry) ∧
    ∀ r : Recorded (Workspace ι σ), r.state.registry = registry → ∀ name handler help,
      (registry.Refuses name → (Workspace.register name handler help).exec r =
        (.error (.registration (Registry.refusal name)), r)) ∧
      (¬registry.Refuses name → ∃ journal,
        (Workspace.register name handler help).exec r =
          (.ok (), ⟨⟨⟨registry.entries ++ [⟨commandKey name, handler, help⟩]⟩, r.state.host⟩,
            journal⟩)) := by
  intro registry
  have hnamed : registry.WellNamed := Registry.wellNamed_after calls
  have hperm : registry.sorted.Perm registry.entries := registry.sorted_perm
  refine ⟨?_, ?_, Registry.lookup_after_iff calls, ⟨hnamed.sorted_lt, hperm, hperm.length_eq⟩,
    ?_, ?_⟩
  · intro r hempty
    obtain ⟨journal, hexec⟩ := Call.exec_makeAll calls r
    rw [hempty] at hexec
    exact ⟨journal, hexec⟩
  · intro entry hentry
    have hname : IsName entry.name := hnamed.isName entry hentry
    exact ⟨hname.commandKey, hname⟩
  · intro entry hlisted
    have hentry : entry ∈ registry.entries := hperm.mem_iff.mp hlisted
    exact ⟨hnamed.lookup_name hentry, hnamed.reaches hentry engine⟩
  · intro r hregistry name handler help
    rw [← hregistry]
    exact ⟨fun hrefuses => Workspace.exec_register_of_refuses hrefuses handler help,
      fun hfree => ⟨_, Workspace.exec_register_of_not_refuses hfree handler help⟩⟩

/-- A name that is registered in one spelling, refused in another, unregistered in a third and
registered again leads to the command of the last registration. -/
theorem registry_after_calls_respelled :
    let calls : List (Call Unit) := [
      .register " Tick " (.custom ()) "first", .register "TICK" (.custom ()) "second",
      .register "tick tock" (.custom ()) "third", .unregister "tick\n",
      .register "tIcK" (.custom ()) "fourth"]
    let entry : Entry Unit := ⟨"tick", .custom (), "fourth"⟩
    let start : Recorded (Workspace Unit Nat) := ⟨⟨⟨[entry]⟩, 4⟩, []⟩
    (∃ journal, (Call.makeAll calls).exec ⟨⟨{}, 4⟩, []⟩ = (.ok (), ⟨⟨⟨[entry]⟩, 4⟩, journal⟩)) ∧
      Registry.LastRegistered calls "tick" entry ∧
      ((Engine.counter.dispatchWithin 1 {} "tick \tnow" 0).exec start).1.toOption =
        some ["5".toList] ∧
      (Workspace.register " tick" (.custom ()) []).exec start =
        (.error (.registration (.taken "tick")), start) ∧
      ∃ journal, (Workspace.register "tock" (.custom ()) []).exec start =
        (.ok (), ⟨⟨⟨[entry, ⟨"tock", .custom (), []⟩]⟩, 4⟩, journal⟩) := by
  intro calls entry start
  have hafter : Registry.after calls = ⟨[entry]⟩ := by decide +kernel
  obtain ⟨hrun, -, hlookup, -, hlisted, hregister⟩ := registry_after_calls Engine.counter calls
  rw [hafter] at hrun hlookup hlisted hregister
  have hlisted? : entry ∈ Registry.sorted ⟨[entry]⟩ :=
    (Registry.sorted_perm _).mem_iff.mpr List.mem_cons_self
  obtain ⟨hfound, hreaches⟩ := hlisted entry hlisted?
  have hinvoked : ((Engine.counter.dispatchWithin 1 {} "tick \tnow" 0).exec start).1.toOption =
      some ["5".toList] := by
    have htext : "tick \tnow".toList = entry.name ++ " \tnow" := by decide
    have hblank : ∀ c ∈ " \tnow".toList.head?, isBlank c = true := by
      intro c hc
      obtain rfl : ' ' = c := Option.some.inj hc
      exact isBlank_space
    rw [htext, hreaches " \tnow" {} 0 0 start hblank (by decide) rfl]
    decide +kernel
  have hrefusal : Registry.refusal " tick" = .taken "tick" := by decide +kernel
  exact ⟨hrun ⟨⟨{}, 4⟩, []⟩ rfl, (hlookup "tick" entry).mp hfound, hinvoked,
    hrefusal ▸ (hregister start rfl " tick" (.custom ()) []).1 (by decide +kernel),
    (hregister start rfl "tock" (.custom ()) []).2 (by decide +kernel)⟩

end Subshell
