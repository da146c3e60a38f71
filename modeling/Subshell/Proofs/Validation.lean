import Subshell.Command.Loose
import Subshell.Command.Schema
import Subshell.Proofs.Checked
import Subshell.Proofs.Rewriting
/-!
# Commands read from values

Which values are read as a command, and as which, is said without reading: `Describes value command`
goes through both side by side. A value is read as a command exactly when it describes it and there
is room for its interpolations (`read_eq_ok_iff`). Two things follow for all commands and values:

* a command is read back from its own value, unless its interpolations nest too deep, and then
  nothing else is wrong with it (`read_value`, `read_of_deep`). Such a command is not given out
  either (`Command.dump`);
* wherever a child lies in a value that is read, it is tagged as a literal or an interpolation
  (`Child.isNode`), so that no command lies directly in another.

What is read is evaluated without a fault of the evaluation's own, as long as its callback returns
texts (`raised_of_exec_execute`). `read_closed` puts all of this together.
-/

namespace Subshell.Command

open Schema

/-! ## What a value describes -/

/-- The fields of a sequence with these children. It need not be tagged, but it is not tagged as
anything else, and it may be without the list if there are no children. -/
structure Heads (fields : List (Text × Value)) (items : List Value) : Prop where
  kind : ∀ tag ∈ fields.lookup kindField, tag = .text commandKind
  children : match fields.lookup "children".toList with
    | some value => value = .list items
    | none => items = []

/-- The values are the children of the command. Other fields of a child than its own do not
matter. -/
inductive Lists : List Value → Command → Prop
  | nil : Lists [] .nil
  | literal {fields : List (Text × Value)} {text : Text} {items : List Value} {rest : Command} :
    fields.lookup kindField = some (.text literalKind) →
    fields.lookup "text".toList = some (.text text) →
    Lists items rest → Lists (.object fields :: items) (.literal text rest)
  | interpolation {fields innerFields : List (Text × Value)} {innerItems items : List Value}
    {inner rest : Command} :
    fields.lookup kindField = some (.text interpolationKind) →
    fields.lookup "command".toList = some (.object innerFields) →
    Heads innerFields innerItems → Lists innerItems inner →
    Lists items rest → Lists (.object fields :: items) (.interpolation inner rest)

/-- The value is an object with the children of the command. -/
def Describes (value : Value) (command : Command) : Prop :=
  ∃ fields items, value = .object fields ∧ Heads fields items ∧ Lists items command

/-! ## Reading -/

variable {room index : Nat} {fields : List (Text × Value)} {items : List Value} {value : Value}
  {command inner : Command}

lemma checkKind_eq_ok_iff {kind tag : Text} :
    checkKind fields kind = .ok tag ↔
      tag = kind ∧ ∀ given ∈ fields.lookup kindField, given = .text kind := by
  unfold checkKind
  rw [withDefault_eq_ok_iff]
  rcases fields.lookup kindField with - | given
  · simp [eq_comm]
  · simp [readAmong_singleton_eq_ok_iff, and_comm]

lemma isText_iff {text : Text} : value.isText text = true ↔ value = .text text := by
  cases value <;> simp [Value.isText]

lemma readTuple_eq_ok_iff :
    readTuple room value = .ok command ↔
      ∃ items, value = .list items ∧ readChildren room 0 items = .ok command := by
  rw [readTuple.eq_def]
  cases value with
  | list items => simp
  | _ => simp [Checked.ok_ne_fail.symm]

lemma readChildren_nil : readChildren room index [] = .ok .nil := by
  rw [readChildren.eq_def]

/-- The children of a sequence with these fields; none if there is no list of them. -/
def readList (room : Nat) (fields : List (Text × Value)) : Checked Command :=
  match fields.lookup "children".toList with
  | none => .ok .nil
  | some value => (readTuple room value).under (.field "children")

lemma readWithin_object :
    readWithin room (.object fields) =
      (fun _ children => children) <$> checkKind fields commandKind <*> readList room fields := by
  refine (readWithin.eq_def room (.object fields)).trans (congrArg
    (fun list => (fun _ children => children) <$> checkKind fields commandKind <*> list) ?_)
  unfold readList
  split <;> split <;> simp_all only [reduceCtorEq, Option.some.injEq]

lemma readList_eq_ok_iff :
    readList room fields = .ok command ↔
      ∃ items, (match fields.lookup "children".toList with
        | some value => value = .list items
        | none => items = []) ∧ readChildren room 0 items = .ok command := by
  unfold readList
  rcases fields.lookup "children".toList with - | value
  · constructor
    · intro h
      exact ⟨[], rfl, readChildren_nil.trans h⟩
    · intro h
      obtain ⟨items, hitems, hread⟩ := h
      have hnil : items = [] := hitems
      rw [← hread, hnil, readChildren_nil]
  · exact Checked.under_eq_ok_iff.trans readTuple_eq_ok_iff

/-- A sequence is read through its list of children. -/
lemma readWithin_eq_ok_iff :
    readWithin room value = .ok command ↔
      ∃ fields items, value = .object fields ∧ Heads fields items ∧
        readChildren room 0 items = .ok command := by
  cases value with
  | object fields =>
    rw [readWithin_object]
    simp only [Checked.seq_eq_ok_iff, Checked.fmap_eq_ok_iff, readList_eq_ok_iff,
      checkKind_eq_ok_iff]
    constructor
    · intro h
      obtain ⟨_, _, ⟨_, ⟨_, hkind⟩, rfl⟩, ⟨items, hlist, hitems⟩, rfl⟩ := h
      exact ⟨fields, items, rfl, ⟨hkind, hlist⟩, hitems⟩
    · intro h
      obtain ⟨_, items, hfields, hheads, hitems⟩ := h
      rw [Value.object.inj hfields]
      exact ⟨_, command, ⟨_, ⟨rfl, hheads.kind⟩, rfl⟩, ⟨items, hheads.children, hitems⟩, rfl⟩
  | _ =>
    rw [readWithin.eq_def]
    simp [Checked.ok_ne_fail.symm]

lemma readInner_eq_ok_iff :
    readInner room fields = .ok command ↔
      ∃ value smaller, fields.lookup "command".toList = some value ∧ room = smaller + 1 ∧
        readWithin smaller value = .ok command := by
  rw [readInner.eq_def, Checked.under_eq_ok_iff]
  split
  · next hnone =>
    simp only [hnone, Checked.ok_ne_fail.symm, reduceCtorEq, false_and, exists_false]
  · next value hvalue =>
    simp only [hvalue, Option.some.injEq]
    cases room with
    | zero =>
      simp only [Checked.ok_ne_fail.symm, (Nat.succ_ne_zero _).symm, false_and, and_false,
        exists_false]
    | succ smaller =>
      simp

/-- What a child makes of the command after it. -/
lemma readChild_eq_ok_iff {put : Command → Command} :
    readChild room value = .ok put ↔
      ∃ fields, value = .object fields ∧
        ((fields.lookup kindField = some (.text literalKind) ∧
            ∃ text, fields.lookup "text".toList = some (.text text) ∧ literal text = put) ∨
          fields.lookup kindField = some (.text interpolationKind) ∧
            ∃ inner, readInner room fields = .ok inner ∧ interpolation inner = put) := by
  have hkinds : literalKind ≠ interpolationKind := by decide
  rw [readChild.eq_def]
  cases value with
  | object fields =>
    dsimp only
    rcases hkind : fields.lookup kindField with - | kind
    · simp [hkind, Checked.ok_ne_fail.symm]
    · dsimp only
      by_cases hliteral : kind = .text literalKind
      · rw [if_pos (isText_iff.mpr hliteral)]
        simp [hkind, hliteral, hkinds, Checked.under_eq_ok_iff, Checked.map_eq_ok_iff,
          required_eq_ok_iff, readText_eq_ok_iff]
      · rw [if_neg (isText_iff.not.mpr hliteral)]
        by_cases hinterpolation : kind = .text interpolationKind
        · rw [if_pos (isText_iff.mpr hinterpolation)]
          simp [hkind, hinterpolation, hkinds.symm, Checked.under_eq_ok_iff, Checked.map_eq_ok_iff]
        · rw [if_neg (isText_iff.not.mpr hinterpolation)]
          simp [hkind, hliteral, hinterpolation, Checked.ok_ne_fail.symm]
  | _ => simp [Checked.ok_ne_fail.symm]

lemma readChildren_cons_eq_ok_iff :
    readChildren room index (value :: items) = .ok command ↔
      ∃ put rest, readChild room value = .ok put ∧
        readChildren room (index + 1) items = .ok rest ∧ put rest = command := by
  rw [readChildren.eq_def]
  simp only [Checked.seq_eq_ok_iff, Checked.fmap_eq_ok_iff, Checked.under_eq_ok_iff]
  constructor
  · intro h
    obtain ⟨_, rest, ⟨put, hput, rfl⟩, hrest, hcommand⟩ := h
    exact ⟨put, rest, hput, hrest, hcommand⟩
  · intro h
    obtain ⟨put, rest, hput, hrest, hcommand⟩ := h
    exact ⟨_, rest, ⟨put, hput, rfl⟩, hrest, hcommand⟩

/-- What is read tells what the first value is. -/
lemma readChildren_eq_ok_cases :
    readChildren room index items = .ok command ↔
      match command with
      | .nil => items = []
      | .literal text rest => ∃ fields later, items = .object fields :: later ∧
          fields.lookup kindField = some (.text literalKind) ∧
          fields.lookup "text".toList = some (.text text) ∧
          readChildren room (index + 1) later = .ok rest
      | .interpolation inner rest => ∃ fields later, items = .object fields :: later ∧
          fields.lookup kindField = some (.text interpolationKind) ∧
          readInner room fields = .ok inner ∧
          readChildren room (index + 1) later = .ok rest := by
  constructor
  · intro h
    cases items with
    | nil =>
      rw [← Checked.ok_inj.mp (readChildren_nil.symm.trans h)]
    | cons value later =>
      obtain ⟨put, rest, hput, hrest, hcommand⟩ := readChildren_cons_eq_ok_iff.mp h
      obtain ⟨fields, hvalue, hkinds⟩ := readChild_eq_ok_iff.mp hput
      rcases hkinds with ⟨hkind, text, htext, heq⟩ | ⟨hkind, inner, hinner, heq⟩
      · rw [← hcommand, ← heq, hvalue]
        exact ⟨fields, later, rfl, hkind, htext, hrest⟩
      · rw [← hcommand, ← heq, hvalue]
        exact ⟨fields, later, rfl, hkind, hinner, hrest⟩
  · intro h
    cases command with
    | nil =>
      have hitems : items = [] := h
      rw [hitems, readChildren_nil]
    | literal text rest =>
      obtain ⟨fields, later, hitems, hkind, htext, hrest⟩ := h
      rw [hitems]
      exact readChildren_cons_eq_ok_iff.mpr ⟨literal text, rest,
        readChild_eq_ok_iff.mpr ⟨fields, rfl, .inl ⟨hkind, text, htext, rfl⟩⟩, hrest, rfl⟩
    | interpolation inner rest =>
      obtain ⟨fields, later, hitems, hkind, hinner, hrest⟩ := h
      rw [hitems]
      exact readChildren_cons_eq_ok_iff.mpr ⟨interpolation inner, rest,
        readChild_eq_ok_iff.mpr ⟨fields, rfl, .inr ⟨hkind, inner, hinner, rfl⟩⟩, hrest, rfl⟩

/-- Values are read as the children of a command when they are and there is room for them. -/
theorem readChildren_eq_ok_iff :
    readChildren room index items = .ok command ↔ Lists items command ∧ command.depth ≤ room := by
  -- the induction is on what is read; inside an interpolation there is room for one less
  induction command generalizing room index items with
  | nil =>
    rw [readChildren_eq_ok_cases]
    constructor
    · intro hitems
      rw [hitems]
      exact ⟨.nil, Nat.zero_le room⟩
    · intro h
      cases h.1
      rfl
  | literal text rest ih =>
    rw [readChildren_eq_ok_cases]
    constructor
    · intro h
      obtain ⟨fields, later, hitems, hkind, htext, hrest⟩ := h
      rw [hitems]
      exact ⟨.literal hkind htext (ih.mp hrest).1, (ih.mp hrest).2⟩
    · intro h
      obtain ⟨hlists, hdepth⟩ := h
      cases hlists with
      | literal hkind htext hrest => exact ⟨_, _, rfl, hkind, htext, ih.mpr ⟨hrest, hdepth⟩⟩
  | interpolation inner rest ihInner ih =>
    rw [readChildren_eq_ok_cases]
    simp only [readInner_eq_ok_iff, readWithin_eq_ok_iff]
    constructor
    · intro h
      obtain ⟨fields, later, hitems, hkind, ⟨value, smaller, hvalue, hroom, innerFields,
        innerItems, hobject, hheads, hinner⟩, hrest⟩ := h
      obtain ⟨hlists, hdepth⟩ := ihInner.mp hinner
      obtain ⟨hlater, hroomy⟩ := ih.mp hrest
      rw [hobject] at hvalue
      rw [hitems]
      refine ⟨.interpolation hkind hvalue hheads hlists hlater, ?_⟩
      unfold depth
      omega
    · intro h
      obtain ⟨hlists, hdepth⟩ := h
      unfold depth at hdepth
      cases hlists with
      | @interpolation fields innerFields innerItems later _ _ hkind hvalue hheads hinner hrest =>
        have hsmaller : inner.depth ≤ room - 1 := by omega
        have hroom : room = room - 1 + 1 := by omega
        have hroomy : rest.depth ≤ room := by omega
        exact ⟨fields, later, rfl, hkind, ⟨_, room - 1, hvalue, hroom, innerFields, innerItems, rfl,
          hheads, ihInner.mpr ⟨hinner, hsmaller⟩⟩, ih.mpr ⟨hrest, hroomy⟩⟩

/-- A value is read as the command that it describes, if there is room for it. -/
theorem read_eq_ok_iff :
    read value = .ok command ↔ Describes value command ∧ command.depth ≤ maxReadDepth := by
  unfold read Describes
  rw [readWithin_eq_ok_iff]
  constructor
  · intro h
    obtain ⟨fields, items, hvalue, hheads, hitems⟩ := h
    obtain ⟨hlists, hdepth⟩ := readChildren_eq_ok_iff.mp hitems
    exact ⟨⟨fields, items, hvalue, hheads, hlists⟩, hdepth⟩
  · intro h
    obtain ⟨⟨fields, items, hvalue, hheads, hlists⟩, hdepth⟩ := h
    exact ⟨fields, items, hvalue, hheads, readChildren_eq_ok_iff.mpr ⟨hlists, hdepth⟩⟩

/-! ## A command as a value -/

lemma heads_sequenceValue (items : List Value) :
    Heads [(kindField, .text commandKind), ("children", .list items)] items where
  kind _ htag := (Option.some.inj htag).symm
  children := rfl

lemma lists_childValues (command : Command) : Lists command.childValues command := by
  induction command with
  | nil => exact .nil
  | literal text rest ih => exact .literal rfl rfl ih
  | interpolation inner rest ihInner ih =>
    exact .interpolation rfl rfl (heads_sequenceValue inner.childValues) ihInner ih

/-- The value of a command describes it. -/
theorem describes_value (command : Command) : Describes command.value command :=
  ⟨_, command.childValues, rfl, heads_sequenceValue _, lists_childValues command⟩

/-- A command is read back from its value if it is not too deep. -/
theorem read_value : read command.value = .ok command ↔ command.depth ≤ maxReadDepth := by
  rw [read_eq_ok_iff, and_iff_right (describes_value command)]

/-! ## Commands that are too deep -/

/-- If reading fails, then for values that lie too deep, and for nothing else. -/
def FailsByDepth {α : Type} (read : Checked α) : Prop :=
  ∀ violations, read = .error violations →
    violations ≠ [] ∧ ∀ violation ∈ violations, violation.shortfall = .tooDeep

namespace FailsByDepth

variable {α β : Type} {read : Checked α}

lemma of_eq_ok {a : α} (h : read = .ok a) : FailsByDepth read := by
  intro violations herror
  rw [h] at herror
  exact absurd herror Checked.ok_ne_error

lemma tooDeep : FailsByDepth (.fail .tooDeep : Checked α) := by
  intro violations herror
  rw [← Except.error.inj herror]
  simp

lemma map {f : α → β} (h : FailsByDepth read) : FailsByDepth (read.map f) := by
  intro violations herror
  rcases read with earlier | a
  · exact h violations (congrArg Except.error (Except.error.inj herror))
  · exact absurd herror Checked.ok_ne_error

lemma seq {reads : Checked (α → β)} (hreads : FailsByDepth reads) (h : FailsByDepth read) :
    FailsByDepth (reads <*> read) := by
  intro violations herror
  rcases reads with earlier | f
  · obtain ⟨hne, hearlier⟩ := hreads earlier rfl
    rcases read with later | a
    · rw [← Except.error.inj herror]
      refine ⟨List.append_ne_nil_of_left_ne_nil hne later, fun violation hviolation => ?_⟩
      rcases List.mem_append.mp hviolation with hmem | hmem
      · exact hearlier violation hmem
      · exact (h later rfl).2 violation hmem
    · rw [← Except.error.inj herror]
      exact ⟨hne, hearlier⟩
  · rcases read with later | a
    · rw [← Except.error.inj herror]
      exact h later rfl
    · exact absurd herror Checked.ok_ne_error

lemma under {step : PathStep} (h : FailsByDepth read) : FailsByDepth (read.under step) := by
  intro violations herror
  rcases read with earlier | a
  · obtain ⟨hne, hearlier⟩ := h earlier rfl
    rw [← Except.error.inj herror]
    simpa [hne] using hearlier
  · exact absurd herror Checked.ok_ne_error

end FailsByDepth

lemma readChild_interpolation (hkind : fields.lookup kindField = some (.text interpolationKind)) :
    readChild room (.object fields) =
      ((readInner room fields).map interpolation).under (.field interpolationKind) := by
  have hliteral : (Value.text interpolationKind).isText literalKind = false := by decide
  have hinterpolation : (Value.text interpolationKind).isText interpolationKind = true := by decide
  rw [readChild.eq_def]
  dsimp only
  rw [hkind]
  dsimp only
  rw [hliteral, if_neg Bool.false_ne_true, if_pos hinterpolation]

/-- A sequence fails as its children do. -/
lemma FailsByDepth.readWithin (hheads : Heads fields items)
    (h : ∀ index, FailsByDepth (readChildren room index items)) :
    FailsByDepth (readWithin room (.object fields)) := by
  have hkind : checkKind fields commandKind = .ok commandKind :=
    checkKind_eq_ok_iff.mpr ⟨rfl, hheads.kind⟩
  have hlist : FailsByDepth (readList room fields) := by
    have hchildren := hheads.children
    unfold readList
    split
    · exact .of_eq_ok rfl
    · next value hlookup =>
      rw [hlookup] at hchildren
      rw [hchildren, readTuple.eq_def]
      exact .under (h 0)
  rw [readWithin_object]
  exact .seq (.map (.of_eq_ok hkind)) hlist

/-- The children of a command are read, or they lie too deep. -/
lemma Lists.failsByDepth (h : Lists items command) :
    FailsByDepth (readChildren room index items) := by
  -- each child of a command is read for itself, so that only room can be missing
  induction h generalizing room index with
  | nil => exact .of_eq_ok readChildren_nil
  | @literal fields text items rest hkind htext _ ih =>
    have hchild : readChild room (.object fields) = .ok (Command.literal text) :=
      readChild_eq_ok_iff.mpr ⟨fields, rfl, .inl ⟨hkind, text, htext, rfl⟩⟩
    rw [readChildren.eq_def]
    exact .seq (.map (.under (.of_eq_ok hchild))) ih
  | @interpolation fields innerFields innerItems items inner rest hkind hvalue hheads _ _ ihInner
      ih =>
    have hinner : FailsByDepth (readInner room fields) := by
      rw [readInner.eq_def]
      split
      · next hnone =>
        rw [hvalue] at hnone
        cases hnone
      · next value hlookup =>
        have hobject : value = .object innerFields :=
          Option.some.inj (hlookup.symm.trans hvalue)
        cases room with
        | zero => exact .under .tooDeep
        | succ smaller =>
          dsimp only
          rw [hobject]
          exact .under (.readWithin hheads fun _ => ihInner)
    rw [readChildren.eq_def]
    dsimp only
    rw [readChild_interpolation hkind]
    exact .seq (.map (.under (.under (.map hinner)))) ih

/-- The fields of a sequence have one list of children only. -/
lemma Heads.items_unique {others : List Value} (h : Heads fields items)
    (hothers : Heads fields others) : items = others := by
  have hitems := h.children
  have hitems' := hothers.children
  rcases hlookup : fields.lookup "children".toList with - | value
  · rw [hlookup] at hitems hitems'
    exact hitems.trans hitems'.symm
  · rw [hlookup] at hitems hitems'
    exact Value.list.inj (hitems.symm.trans hitems')

/-- Values list the children of one command only: with enough room it is the one that is read. -/
lemma Lists.unique {other : Command} (h : Lists items command) (hother : Lists items other) :
    command = other := by
  have hread : readChildren (max command.depth other.depth) 0 items = .ok command :=
    readChildren_eq_ok_iff.mpr ⟨h, Nat.le_max_left _ _⟩
  have hreadOther : readChildren (max command.depth other.depth) 0 items = .ok other :=
    readChildren_eq_ok_iff.mpr ⟨hother, Nat.le_max_right _ _⟩
  exact Checked.ok_inj.mp (hread.symm.trans hreadOther)

/-- A value that describes a command too deep to be read is refused for that alone. -/
theorem read_of_deep (h : Describes value command) (hdeep : maxReadDepth < command.depth) :
    ∃ violations, read value = .error violations ∧ violations ≠ [] ∧
      ∀ violation ∈ violations, violation.shortfall = .tooDeep := by
  obtain ⟨fields, items, hvalue, hheads, hlists⟩ := h
  have hfails : FailsByDepth (read value) := by
    rw [hvalue]
    exact .readWithin hheads fun _ => hlists.failsByDepth
  rcases hread : read value with violations | other
  · exact ⟨violations, rfl, hfails violations hread⟩
  · obtain ⟨fields', items', hvalue', hheads', hitems⟩ := readWithin_eq_ok_iff.mp hread
    obtain ⟨hother, hdepth⟩ := readChildren_eq_ok_iff.mp hitems
    have hsame : items = items' := by
      rw [hvalue] at hvalue'
      rw [← Value.object.inj hvalue'] at hheads'
      exact hheads.items_unique hheads'
    rw [← hsame] at hother
    rw [hlists.unique hother] at hdeep
    omega

/-! ## Children at any depth -/

/-- The value is a node that is tagged with a kind. -/
def IsTagged (value : Value) (kind : Text) : Prop :=
  ∃ fields, value = .object fields ∧ fields.lookup kindField = some (.text kind)

/-- A child at any depth: one in the list of the children, or one below the command of a child that
is tagged as an interpolation. -/
inductive Child : Value → Value → Prop
  | own {fields : List (Text × Value)} {items : List Value} {child : Value} :
    fields.lookup "children".toList = some (.list items) → child ∈ items →
    Child (.object fields) child
  | inside {value inner child : Value} {fields : List (Text × Value)} :
    Child value (.object fields) → fields.lookup kindField = some (.text interpolationKind) →
    fields.lookup "command".toList = some inner → Child inner child → Child value child

/-- The value is a literal or an interpolation of a command. -/
def IsNode (value : Value) : Prop :=
  IsTagged value literalKind ∨
    ∃ fields inner command, value = .object fields ∧
      fields.lookup kindField = some (.text interpolationKind) ∧
      fields.lookup "command".toList = some inner ∧ Describes inner command

lemma Lists.isNode (h : Lists items command) : ∀ item ∈ items, IsNode item := by
  induction h with
  | nil => simp
  | @literal fields _ _ _ hkind _ _ ih =>
    exact List.forall_mem_cons.mpr ⟨.inl ⟨fields, rfl, hkind⟩, ih⟩
  | @interpolation fields innerFields innerItems _ inner _ hkind hvalue hheads hinner _ _ ih =>
    exact List.forall_mem_cons.mpr ⟨.inr ⟨fields, _, inner, rfl, hkind, hvalue, innerFields,
      innerItems, rfl, hheads, hinner⟩, ih⟩

/-- The children of what describes a command are nodes, at any depth. -/
lemma Child.isNode {child : Value} (h : Child value child) (hvalue : Describes value command) :
    IsNode child := by
  -- a child that is an interpolation holds what describes a command again
  induction h generalizing command with
  | @own fields items child hlookup hmem =>
    obtain ⟨fields', items', hfields, hheads, hlists⟩ := hvalue
    have hitems := hheads.children
    rw [← Value.object.inj hfields, hlookup] at hitems
    rw [Value.list.inj hitems] at hmem
    exact hlists.isNode child hmem
  | @inside value inner child fields _ hkind hlookup _ ihOuter ihInner =>
    have hnode : IsNode (.object fields) := ihOuter hvalue
    have hkinds : literalKind ≠ interpolationKind := by decide
    -- it is not a literal as well, since it has one tag only
    rcases hnode with ⟨_, hfields, hliteral⟩ | ⟨_, inner', _, hfields, _, hlookup', hdescribes⟩
    · rw [← Value.object.inj hfields, hkind] at hliteral
      exact absurd (Value.text.inj (Option.some.inj hliteral)).symm hkinds
    · rw [← Value.object.inj hfields, hlookup] at hlookup'
      rw [← Option.some.inj hlookup'] at hdescribes
      exact ihInner hdescribes

lemma IsNode.tagged {child : Value} (h : IsNode child) :
    IsTagged child literalKind ∨ IsTagged child interpolationKind := by
  rcases h with hliteral | ⟨fields, _, _, hchild, hkind, -, -⟩
  · exact .inl hliteral
  · exact .inr ⟨fields, hchild, hkind⟩

lemma IsTagged.unique {kind other : Text} (h : IsTagged value kind) (hother : IsTagged value other) :
    kind = other := by
  obtain ⟨fields, hvalue, hkind⟩ := h
  obtain ⟨fields', hvalue', hkind'⟩ := hother
  rw [hvalue] at hvalue'
  rw [← Value.object.inj hvalue', hkind] at hkind'
  exact Value.text.inj (Option.some.inj hkind')

/-! ## Evaluating what was read -/

section Evaluating

variable {σ : Type} {run : Text → Run σ Value} {r after : Recorded σ} {fault : Fault}

/-- What stops the evaluation of a command is the failure of a call, the last one that the rewriting of
the command makes. -/
lemma failsWith_of_exec_resolve (h : (command.resolve (splice run)).exec r = (.error fault, after)) :
    ∃ argument before raised, FailsWith run argument before after raised ∧
      fault = raised.leaving := by
  obtain ⟨result, final, made, hrunning, hresolve, -⟩ := ends_of_running run _ rfl r []
  rw [hresolve] at h
  obtain ⟨hresult, hfinal⟩ := Prod.mk.inj h
  rcases result with raised | text
  · obtain ⟨_, argument, _, before, -, -, hfails⟩ := Rewriting.last_call_of_ended_error hrunning
    rw [hfinal] at hfails
    exact ⟨argument, before, raised, hfails, (Except.error.inj hresult).symm⟩
  · cases hresult

/-- A fault of the evaluation leaves an interpolation as it is, and nothing else turns into one. -/
lemma leaving_eq_evaluation_iff {broken : EvaluationFault} :
    fault.leaving = .evaluation broken ↔ fault = .evaluation broken := by
  rcases leaving_cases fault with hstays | ⟨hruntime, message, hstop⟩
  · rw [hstays]
  · rw [hruntime, hstop]
    constructor <;> intro h <;> cases h

/-- A callback that returns texts, if it returns. -/
def ReturnsTexts (run : Text → Run σ Value) : Prop :=
  ∀ argument before value after, (run argument).exec before = (.ok value, after) →
    ∃ text, value = .text text

/-- With such a callback the evaluation stops at nothing else than what the callback raises. -/
theorem raised_of_exec_execute (hrun : ReturnsTexts run)
    (h : (command.execute run).exec r = (.error fault, after)) :
    ∃ argument before raised, (run argument).exec before = (.error raised, after) ∧
      fault = raised.leaving := by
  have hresolve : (command.resolve (splice run)).exec
      (r.noted (.executing command.interpolationCount)) = (.error fault, after) := h
  obtain ⟨argument, before, raised, hfails, hfault⟩ := failsWith_of_exec_resolve hresolve
  rcases hfails with hraised | ⟨value, hvalue, hreturned, -⟩
  · exact ⟨argument, before, raised, hraised, hfault⟩
  · obtain ⟨text, htext⟩ := hrun argument before value after hreturned
    exact absurd htext (hvalue text)

end Evaluating

/-! ## Validation -/

/-- A command nested at most 254 deep is given out as its value and read back from it. A deeper one
is not given out, and its value is refused for its depth alone. Whatever value is read as a command
describes it: its children are tagged as literals and interpolations at every depth, so that a value
with a command directly in a command is not read. What was read is given out and read again, and
evaluating it stops only where its callback does: with one that returns texts, never at a fault of
the evaluation, unless the callback raises that itself. -/
theorem read_closed :
    (∀ command : Command,
      (command.depth ≤ maxReadDepth →
        command.dump = .ok command.value ∧ read command.value = .ok command) ∧
      (maxReadDepth < command.depth →
        command.dump = .error .tooNested ∧
        ∃ violations, read command.value = .error violations ∧ violations ≠ [] ∧
          ∀ violation ∈ violations, violation.shortfall = .tooDeep)) ∧
    ∀ value : Value,
      (∀ command, read value = .ok command →
        Describes value command ∧
        (∀ child, Child value child →
          IsTagged child literalKind ∨ IsTagged child interpolationKind) ∧
        command.dump = .ok command.value ∧ read command.value = .ok command ∧
        ∀ {σ : Type} (run : Text → Run σ Value), ReturnsTexts run →
          ∀ (r after : Recorded σ) (fault : Fault),
            (command.loose.execute run).exec r = (.error fault, after) →
              (∃ argument before raised, (run argument).exec before = (.error raised, after) ∧
                fault = raised.leaving) ∧
              ∀ broken, fault = .evaluation broken →
                ∃ argument before, (run argument).exec before = (.error (.evaluation broken), after)) ∧
      ((∃ child, Child value child ∧ IsTagged child commandKind) →
        ∃ violations, read value = .error violations) := by
  refine ⟨fun command => ⟨fun hdepth => ⟨dump_of_le hdepth, read_value.mpr hdepth⟩,
      fun hdeep => ⟨dump_of_lt hdeep, read_of_deep (describes_value command) hdeep⟩⟩,
    fun value => ⟨fun command hread => ?_, fun hchild => ?_⟩⟩
  · obtain ⟨hdescribes, hdepth⟩ := read_eq_ok_iff.mp hread
    refine ⟨hdescribes, fun child hchild => (hchild.isNode hdescribes).tagged, dump_of_le hdepth,
      read_value.mpr hdepth, fun run hrun r after fault hexec => ?_⟩
    rw [Loose.execute_loose] at hexec
    obtain ⟨argument, before, raised, hraised, hfault⟩ := raised_of_exec_execute hrun hexec
    refine ⟨⟨argument, before, raised, hraised, hfault⟩, fun broken hbroken => ?_⟩
    have hown : raised = .evaluation broken :=
      leaving_eq_evaluation_iff.mp (hfault.symm.trans hbroken)
    rw [hown] at hraised
    exact ⟨argument, before, hraised⟩
  · obtain ⟨child, hchild, hcommand⟩ := hchild
    rcases hread : read value with violations | command
    · exact ⟨violations, rfl⟩
    · have hdescribes := (read_eq_ok_iff.mp hread).1
      rcases (hchild.isNode hdescribes).tagged with hliteral | hinterpolation
      · exact absurd (hcommand.unique hliteral) (by decide)
      · exact absurd (hcommand.unique hinterpolation) (by decide)

/-- A command in another one, inside an interpolation. -/
def nested : Nat → Command
  | 0 => literal "x" nil
  | n + 1 => interpolation (nested n) nil

lemma depth_nested (n : Nat) : (nested n).depth = n := by
  induction n with
  | zero => rfl
  | succ n ih =>
    rw [nested, depth, ih, depth]
    omega

/-- A value without the tag of its inner command, with fields that nobody asked for and with an empty
literal next to another one is read, and evaluated with a callback that returns texts; one with a
command directly in the command of an interpolation is not read. -/
theorem read_closed_untagged :
    let value : Value := .object [("children", .list [
        .object [(kindField, .text literalKind), ("text", .text "say "), ("note", .null)],
        .object [("command", .object [("children", .list [
            .object [(kindField, .text literalKind), ("text", .text [])],
            .object [("text", .text "x"), (kindField, .text literalKind)]]), ("note", .int 1)]),
          (kindField, .text interpolationKind)]]), (kindField, .text commandKind)]
    let command := literal "say " (interpolation (literal [] (literal "x" nil)) nil)
    let grouped : Value := .object [("children", .list [
        .object [(kindField, .text interpolationKind), ("command", .object [("children", .list [
          .object [(kindField, .text commandKind), ("children", .list [])]])])]])]
    read value = .ok command ∧ command.dump = .ok command.value ∧
      read command.value = .ok command ∧
      (∀ r : Recorded Unit, ∃ text after,
        (command.loose.execute fun _ => return .text "y").exec r = (.ok text, after)) ∧
      (∃ violations, read grouped = .error violations) ∧
      (nested 255).dump = .error .tooNested ∧
      ∃ violations, read (nested 255).value = .error violations ∧ violations ≠ [] := by
  intro value command grouped
  have hread : read value = .ok command := by
    refine read_eq_ok_iff.mpr ⟨⟨_, _, rfl, ⟨?_, rfl⟩, .literal rfl rfl (.interpolation rfl rfl
      ⟨?_, rfl⟩ (.literal rfl rfl (.literal rfl rfl .nil)) .nil)⟩, by decide⟩
    · exact fun tag htag => (Option.some.inj htag).symm
    · exact fun tag htag => by cases htag
  have hdeep : maxReadDepth < (nested 255).depth := by
    rw [depth_nested]
    decide
  have hgrouped : Child grouped (.object [(kindField, .text commandKind), ("children", .list [])]) :=
    .inside (.own rfl List.mem_cons_self) rfl rfl (.own rfl List.mem_cons_self)
  have hrun : ReturnsTexts (fun _ => return .text "y" : Text → Run Unit Value) := by
    intro argument before value after hexec
    cases hexec
    exact ⟨_, rfl⟩
  obtain ⟨hcommands, hvalues⟩ := read_closed
  obtain ⟨-, -, hdump, hagain, hexecute⟩ := (hvalues value).1 command hread
  obtain ⟨hkept, violations, hrefused, hne, -⟩ := (hcommands (nested 255)).2 hdeep
  refine ⟨hread, hdump, hagain, fun r => ?_, (hvalues grouped).2 ⟨_, hgrouped, _, rfl, rfl⟩, hkept,
    violations, hrefused, hne⟩
  rcases hexec : (command.loose.execute fun _ => return .text "y").exec r with ⟨fault | text, after⟩
  · obtain ⟨⟨_, _, _, hraised, -⟩, -⟩ := hexecute _ hrun r after fault hexec
    cases hraised
  · exact ⟨text, after, rfl⟩

/-- A command 255 deep is not given out, and not read back from its value. -/
theorem read_nested_ne :
    (nested 255).dump = .error .tooNested ∧ read (nested 255).value ≠ .ok (nested 255) := by
  have hdeep : ¬(nested 255).depth ≤ maxReadDepth := by
    rw [depth_nested]
    decide
  exact ⟨dump_of_lt (Nat.lt_of_not_le hdeep), fun hread => hdeep (read_value.mp hread)⟩

end Subshell.Command
