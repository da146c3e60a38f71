import Mathlib.Tactic.Lemma
import Subshell.Schema.Reader
/-!
# What a schema reads

A schema puts readers together, and each way to do so is turned round here: it says what the parts
came to when the whole was read. So a value that was read can be taken apart step by step, down to
the fields that it holds, and one that has these fields is read by the same lemmas.
-/

namespace Subshell.Schema

variable {α β : Type}

namespace Checked

/-- What was read is one thing only. -/
lemma ok_inj {a b : α} : (ok a = ok b) ↔ a = b :=
  ⟨Except.ok.inj, congrArg ok⟩

lemma ok_ne_error {a : α} {violations : List Violation} : ok a ≠ Except.error violations :=
  fun h => by cases h

lemma ok_ne_fail {a : α} {shortfall : Shortfall} : ok a ≠ fail shortfall :=
  ok_ne_error

/-- A part that was read is changed by a function. -/
lemma map_eq_ok_iff {f : α → β} {read : Checked α} {b : β} :
    map f read = ok b ↔ ∃ a, read = ok a ∧ f a = b := by
  constructor
  · intro h
    rcases read with violations | a
    · exact absurd h.symm ok_ne_error
    · exact ⟨a, rfl, ok_inj.mp h⟩
  · intro h
    obtain ⟨a, hread, hb⟩ := h
    rw [hread, ← hb]
    rfl

/-- The same in the notation of functors. -/
lemma fmap_eq_ok_iff {f : α → β} {read : Checked α} {b : β} :
    f <$> read = ok b ↔ ∃ a, read = ok a ∧ f a = b :=
  map_eq_ok_iff

/-- A function and its argument are both read. -/
lemma seq_eq_ok_iff {reads : Checked (α → β)} {read : Checked α} {b : β} :
    reads <*> read = ok b ↔ ∃ f a, reads = ok f ∧ read = ok a ∧ f a = b := by
  constructor
  · intro h
    rcases reads with violations | f
    · rcases read with later | a <;> exact absurd h.symm ok_ne_error
    · rcases read with later | a
      · exact absurd h.symm ok_ne_error
      · exact ⟨f, a, rfl, rfl, ok_inj.mp h⟩
  · intro h
    obtain ⟨f, a, hreads, hread, hb⟩ := h
    rw [hreads, hread, ← hb]
    rfl

/-- Where a value lies does not matter to what is read of it. -/
lemma under_eq_ok_iff {step : PathStep} {read : Checked α} {a : α} :
    under step read = ok a ↔ read = ok a := by
  rcases read with violations | b
  · exact ⟨fun h => absurd h.symm ok_ne_error, fun h => absurd h.symm ok_ne_error⟩
  · exact Iff.rfl

/-- A part that was read goes through what is asked of it further. -/
lemma andThen_eq_ok_iff {read : Checked α} {next : α → Checked β} {b : β} :
    andThen read next = ok b ↔ ∃ a, read = ok a ∧ next a = ok b := by
  constructor
  · intro h
    rcases read with violations | a
    · exact absurd h.symm ok_ne_error
    · exact ⟨a, rfl, h⟩
  · intro h
    obtain ⟨a, hread, hnext⟩ := h
    rw [hread]
    exact hnext

end Checked

variable {fields : List (Text × Value)} {name : Text} {default a : α} {read : Reader α}

/-- A field with a default is missing or read. -/
lemma withDefault_eq_ok_iff :
    withDefault fields name default read = .ok a ↔
      match fields.lookup name with
      | some value => read value = .ok a
      | none => default = a := by
  unfold withDefault
  rcases fields.lookup name with - | value
  · exact Checked.ok_inj
  · exact Checked.under_eq_ok_iff

lemma withDefault_cons_self (value : Value) (fields : List (Text × Value)) (default : α)
    (read : Reader α) :
    withDefault ((name, value) :: fields) name default read = (read value).under (.field name) := by
  simp [withDefault]

/-- Other fields do not matter. -/
lemma withDefault_cons_of_ne {other : Text} (h : name ≠ other) (value : Value)
    (fields : List (Text × Value)) (default : α) (read : Reader α) :
    withDefault ((other, value) :: fields) name default read =
      withDefault fields name default read := by
  have hbeq : (name == other) = false := beq_eq_false_iff_ne.mpr h
  simp [withDefault, List.lookup_cons, hbeq]

/-- A required field is there and read. -/
lemma required_eq_ok_iff :
    required fields name read = .ok a ↔ ∃ value, fields.lookup name = some value ∧
      read value = .ok a := by
  unfold required
  rw [Checked.under_eq_ok_iff]
  rcases fields.lookup name with - | value
  · simp [Checked.ok_ne_fail.symm]
  · simp

/-- A text is read as itself, and nothing else is. -/
lemma readText_eq_ok_iff {value : Value} {text : Text} :
    readText value = .ok text ↔ value = .text text := by
  cases value with
  | text given => exact Checked.ok_inj.trans ⟨congrArg Value.text, Value.text.inj⟩
  | _ => simp [readText, Checked.ok_ne_fail.symm]

/-- The one text that is allowed is read, and nothing else is. -/
lemma readAmong_singleton_eq_ok_iff {value : Value} {allowed text : Text} :
    readAmong [allowed] value = .ok text ↔ value = .text allowed ∧ text = allowed := by
  cases value with
  | text given =>
    by_cases hgiven : given = allowed
    · simp [readAmong, hgiven, Checked.ok_inj, eq_comm]
    · have hne : Value.text given ≠ .text allowed := fun h => hgiven (Value.text.inj h)
      simp [readAmong, hgiven, hne, Checked.ok_ne_fail.symm]
  | _ => simp [readAmong, Checked.ok_ne_fail.symm]

end Subshell.Schema
