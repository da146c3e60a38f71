import Subshell.Proofs.Checked
import Subshell.Proofs.Standard
/-!
# Settings in layers

A setting has a default, a variable of the environment may give another value, and an option of the
command line one more. Both layers are said field by field, without reading anything:

* `Environment.Gives`: a variable that is set decides its field, and any other field keeps its
  default;
* `Arguments.PutOver`: an option that is given decides its field, and any other field is that of the
  settings below.

The program has settings exactly when both layers have them (`settingsOf_eq_ok_iff`). They are
checked once for each layer, and checking changes nothing that is in order (`ofFields?_fields`).
`settings_layered` is what comes of it.
-/

namespace Subshell

/-! ## Fields one by one -/

namespace LevelName

/-- A name is found by the texts that spell it in upper case. -/
lemma ofText?_eq_some_iff {given : Text} {name : LevelName} :
    ofText? given = some name ↔ name.text = given.upper := by
  constructor
  · intro h
    have hfound := List.find?_some h
    exact of_decide_eq_true hfound
  · intro h
    unfold ofText?
    rw [← h]
    cases name <;> rfl

/-- Names are in upper case. -/
lemma upper_text (name : LevelName) : Text.upper name.text = name.text :=
  (ofText?_eq_some_iff.mp (ofText?_text name)).symm

lemma text_inj {name other : LevelName} : name.text = other.text ↔ name = other := by
  constructor
  · intro h
    have hfound : ofText? name.text = some other := by
      rw [h]
      exact ofText?_text other
    rw [ofText?_text] at hfound
    exact Option.some.inj hfound
  · exact congrArg text

end LevelName

/-- A single field is found under its name. -/
lemma lookup_field (field name : Text) (value : Value) :
    [(field, value)].lookup name = if name = field then some value else none := by
  by_cases h : name = field
  · simp [h]
  · have hbeq : (name == field) = false := beq_eq_false_iff_ne.mpr h
    simp [List.lookup_cons, h, hbeq]

namespace Settings

/-- The limit is none or at least one, as the schema asks for. -/
def InOrder (settings : Settings) : Prop := ∀ limit ∈ settings.limit, 1 ≤ limit

/-- A depth limit: none, or a number above zero. -/
def readLimit : Schema.Reader (Option Nat) :=
  Schema.orNull fun value => (Schema.readPositive value).map Int.toNat

/-- The value of a depth limit. -/
def limitValue (limit : Option Nat) : Value :=
  match limit with
  | some limit => .int limit
  | none => .null

lemma readLimit_null_eq_ok_iff {limit : Option Nat} :
    readLimit .null = .ok limit ↔ limit = none :=
  Schema.Checked.ok_inj.trans eq_comm

lemma readLimit_int_eq_ok_iff {n : Int} {limit : Option Nat} :
    readLimit (.int n) = .ok limit ↔ 0 < n ∧ limit = some n.toNat := by
  have hread : readLimit (.int n) =
      ((if 0 < n then Schema.Checked.ok n else .fail .notPositive).map Int.toNat).map some := rfl
  rw [hread]
  by_cases hn : 0 < n
  · rw [if_pos hn]
    exact Schema.Checked.ok_inj.trans ⟨fun h => ⟨hn, h.symm⟩, fun h => h.2.symm⟩
  · rw [if_neg hn]
    simp only [Schema.Checked.map_eq_ok_iff, Schema.Checked.ok_ne_fail.symm]
    simp [hn]

/-- A limit that is in order is read from its value. -/
lemma readLimit_limitValue {limit : Option Nat} (h : ∀ bound ∈ limit, 1 ≤ bound) :
    readLimit (limitValue limit) = .ok limit := by
  rcases limit with - | bound
  · rfl
  · have hbound : 1 ≤ bound := h bound rfl
    apply readLimit_int_eq_ok_iff.mpr
    constructor
    · omega
    · rw [Int.toNat_natCast]

lemma readLevel_text_eq_ok_iff {given : Text} {name : LevelName} :
    readLevel (.text given) = .ok name ↔ name.text = given.upper := by
  rw [← LevelName.ofText?_eq_some_iff]
  unfold readLevel
  rw [Schema.Checked.andThen_eq_ok_iff]
  simp only [Schema.readText_eq_ok_iff, Value.text.injEq]
  rcases hname : LevelName.ofText? given with - | other
  · simp [hname, Schema.Checked.ok_ne_fail.symm]
  · simp [hname, Schema.Checked.ok_inj]

/-- Settings are read field by field. -/
lemma ofFields_eq_ok_iff {fields : List (Text × Value)} {settings : Settings} :
    ofFields fields = .ok settings ↔
      Schema.withDefault fields limitField (some defaultLimit) readLimit = .ok settings.limit ∧
      Schema.withDefault fields separatorField [' '] Schema.readText = .ok settings.separator ∧
      Schema.withDefault fields suppressField true Schema.readBoolean =
        .ok settings.suppressEmpty ∧
      Schema.withDefault fields levelField .info readLevel = .ok settings.level := by
  have hfields : ofFields fields = (Schema.withDefault fields limitField (some defaultLimit)
      readLimit).map Settings.mk
        <*> Schema.withDefault fields separatorField [' '] Schema.readText
        <*> Schema.withDefault fields suppressField true Schema.readBoolean
        <*> Schema.withDefault fields levelField .info readLevel := rfl
  rw [hfields]
  simp only [Schema.Checked.seq_eq_ok_iff, Schema.Checked.map_eq_ok_iff]
  constructor
  · intro h
    obtain ⟨_, level, ⟨_, suppress, ⟨_, separator, ⟨limit, hlimit, rfl⟩, hseparator, rfl⟩,
      hsuppress, rfl⟩, hlevel, rfl⟩ := h
    exact ⟨hlimit, hseparator, hsuppress, hlevel⟩
  · intro h
    obtain ⟨hlimit, hseparator, hsuppress, hlevel⟩ := h
    exact ⟨_, _, ⟨_, _, ⟨_, _, ⟨_, hlimit, rfl⟩, hseparator, rfl⟩, hsuppress, rfl⟩, hlevel, rfl⟩

lemma ofFields?_eq_ok_iff {fields : List (Text × Value)} {settings : Settings} :
    ofFields? fields = .ok settings ↔ ofFields fields = .ok settings := by
  unfold ofFields?
  rcases ofFields fields with violations | read
  · constructor <;> intro h <;> cases h
  · constructor
    · exact fun h => congrArg Schema.Checked.ok (Except.ok.inj h)
    · exact fun h => congrArg Except.ok (Schema.Checked.ok_inj.mp h)

/-! ## Checking once more -/

lemma one_le_of_readLimit {value : Value} {limit : Option Nat} (h : readLimit value = .ok limit) :
    ∀ bound ∈ limit, 1 ≤ bound := by
  unfold readLimit Schema.orNull at h
  split at h
  · rw [← Schema.Checked.ok_inj.mp h]
    simp
  · simp only [Schema.readPositive, Schema.Checked.map_eq_ok_iff,
      Schema.Checked.andThen_eq_ok_iff] at h
    obtain ⟨_, ⟨n, ⟨m, -, hm⟩, rfl⟩, rfl⟩ := h
    have hpositive : 0 < m ∧ m = n := by
      by_cases hm' : 0 < m
      · rw [if_pos hm'] at hm
        exact ⟨hm', Schema.Checked.ok_inj.mp hm⟩
      · rw [if_neg hm'] at hm
        exact absurd hm.symm Schema.Checked.ok_ne_fail
    intro bound hbound
    rw [← Option.some.inj hbound]
    omega

/-- What is read is in order. -/
lemma inOrder_of_ofFields {fields : List (Text × Value)} {settings : Settings}
    (h : ofFields fields = .ok settings) : settings.InOrder := by
  have hlimit := (ofFields_eq_ok_iff.mp h).1
  rw [Schema.withDefault_eq_ok_iff] at hlimit
  split at hlimit
  · exact one_le_of_readLimit hlimit
  · unfold InOrder
    rw [← hlimit]
    simp [defaultLimit]

/-- Settings that are in order are read from their fields. -/
theorem ofFields?_fields {settings : Settings} (h : settings.InOrder) :
    ofFields? settings.fields = .ok settings := by
  rw [ofFields?_eq_ok_iff, ofFields_eq_ok_iff]
  simp only [Schema.withDefault_eq_ok_iff]
  exact ⟨readLimit_limitValue h, rfl, rfl,
    readLevel_text_eq_ok_iff.mpr (LevelName.upper_text settings.level).symm⟩

end Settings

/-! ## The environment -/

namespace Environment

/-- What a text says of the depth limit: it is one of the words for none, or it writes a number
above zero. -/
inductive WritesLimit (text : Text) : Option Nat → Prop
  | unlimited : word text ∈ noLimitWords → WritesLimit text none
  | limited {n : Nat} : word text ∉ noLimitWords → Text.readInt (word text) = .ok (n : Int) →
    0 < n → WritesLimit text (some n)

/-- The settings that the variables of the environment give. A variable that is not set leaves the
default. -/
structure Gives (environment : Environment) (settings : Settings) : Prop where
  limit : match environment.lookup limitVariable with
    | some text => WritesLimit text settings.limit
    | none => settings.limit = some defaultLimit
  separator : settings.separator = (environment.lookup separatorVariable).getD [' ']
  suppressEmpty : settings.suppressEmpty =
    ((environment.lookup suppressVariable).map fun text => decide (word text ∉ falseWords)).getD true
  level : settings.level.text = ((environment.lookup levelVariable).map Text.upper).getD "INFO"

/-- A variable of the environment is set to what it cannot be: the limit to what writes none, or the
level to what spells no name. -/
def IllFormed (environment : Environment) : Prop :=
  (∃ text, environment.lookup limitVariable = some text ∧ ∀ limit, ¬WritesLimit text limit) ∨
    ∃ text, environment.lookup levelVariable = some text ∧
      ∀ name : LevelName, name.text ≠ Text.upper text

/-- The value of a variable as a field, if it is set. -/
def optional (environment : Environment) (variableName field : Text) (decode : Text → Value) :
    List (Text × Value) :=
  match environment.lookup variableName with
  | none => []
  | some text => [(field, decode text)]

/-- The fields that cannot be ill-formed in the environment. -/
def plainFields (environment : Environment) : List (Text × Value) :=
  environment.optional separatorVariable Settings.separatorField .text ++
    environment.optional suppressVariable Settings.suppressField
      (fun text => .bool (decide (word text ∉ falseWords))) ++
    environment.optional levelVariable Settings.levelField .text

lemma lookup_optional (environment : Environment) (variableName field : Text)
    (decode : Text → Value) (name : Text) :
    (environment.optional variableName field decode).lookup name =
      if name = field then (environment.lookup variableName).map decode else none := by
  unfold optional
  rcases environment.lookup variableName with - | text
  · simp
  · exact lookup_field field name _

lemma forall_mem_optional {environment : Environment} {variableName field : Text}
    {decode : Text → Value} {p : Text × Value → Prop} (h : ∀ text, p (field, decode text)) :
    ∀ given ∈ environment.optional variableName field decode, p given := by
  unfold optional
  rcases environment.lookup variableName with - | text
  · simp
  · exact List.forall_mem_singleton.mpr (h text)

/-- Each variable is found under the name of its field, and under no other. -/
lemma lookup_plainFields (environment : Environment) (name : Text) :
    environment.plainFields.lookup name =
      if name = Settings.separatorField then (environment.lookup separatorVariable).map .text
      else if name = Settings.suppressField then
        (environment.lookup suppressVariable).map fun text =>
          .bool (decide (word text ∉ falseWords))
      else if name = Settings.levelField then (environment.lookup levelVariable).map .text
      else none := by
  have hsuppress : Settings.separatorField ≠ Settings.suppressField := by decide
  have hlevel : Settings.separatorField ≠ Settings.levelField := by decide
  have hlast : Settings.suppressField ≠ Settings.levelField := by decide
  unfold plainFields
  simp only [List.lookup_append, lookup_optional]
  split
  · next h => simp [h, hsuppress, hlevel]
  · split
    · next h => simp [h, hlast]
    · simp

lemma fieldOf_ok (environment : Environment) (variableName field : Text) (decode : Text → Value) :
    environment.fieldOf variableName field (fun text => .ok (decode text)) =
      .ok (environment.optional variableName field decode) := by
  unfold fieldOf optional
  rcases environment.lookup variableName with - | text <;> rfl

/-- Only the limit can be ill-formed in the environment. -/
lemma settingsFields_eq (environment : Environment) :
    environment.settingsFields =
      (environment.fieldOf limitVariable Settings.limitField limitOf).map
        (· ++ environment.plainFields) := by
  have hseparator : environment.fieldOf separatorVariable Settings.separatorField (.ok ∘ .text) =
      .ok (environment.optional separatorVariable Settings.separatorField .text) :=
    environment.fieldOf_ok _ _ _
  have hsuppress : (environment.fieldOf suppressVariable Settings.suppressField
        fun text => .ok (.bool (word text ∉ falseWords))) =
      .ok (environment.optional suppressVariable Settings.suppressField
        fun text => .bool (decide (word text ∉ falseWords))) :=
    environment.fieldOf_ok _ _ _
  have hlevel : environment.fieldOf levelVariable Settings.levelField (.ok ∘ .text) =
      .ok (environment.optional levelVariable Settings.levelField .text) :=
    environment.fieldOf_ok _ _ _
  unfold settingsFields
  rw [hseparator, hsuppress, hlevel]
  rcases environment.fieldOf limitVariable Settings.limitField limitOf with fault | limit
  · rfl
  · show Except.ok _ = Except.ok _
    unfold plainFields
    simp only [List.append_assoc]

/-- The settings that the environment gives, without the log. -/
def settings? (environment : Environment) : Except Fault Settings :=
  environment.settingsFields >>= Settings.ofFields?

lemma exec_settings {σ : Type} (environment : Environment) (r : Recorded σ) :
    ∃ after, environment.settings.exec r = (environment.settings?, after) := by
  unfold settings settings?
  rw [Run.exec_bind, Run.exec_ofExcept]
  rcases environment.settingsFields with fault | fields
  · exact ⟨r, rfl⟩
  · exact ⟨_, rfl⟩

/-- A text says what the limit is when its value is read as the limit. -/
lemma writesLimit_iff {text : Text} {limit : Option Nat} :
    WritesLimit text limit ↔
      ∃ value, limitOf text = .ok value ∧ Settings.readLimit value = .ok limit := by
  unfold limitOf
  constructor
  · intro h
    cases h with
    | unlimited hword =>
      rw [if_pos hword]
      exact ⟨.null, rfl, rfl⟩
    | @limited n hword hread hpositive =>
      rw [if_neg hword, hread]
      refine ⟨.int n, rfl, Settings.readLimit_int_eq_ok_iff.mpr ⟨?_, ?_⟩⟩
      · omega
      · rw [Int.toNat_natCast]
  · intro h
    obtain ⟨value, hvalue, hlimit⟩ := h
    by_cases hword : word text ∈ noLimitWords
    · rw [if_pos hword] at hvalue
      rw [← Except.ok.inj hvalue, Settings.readLimit_null_eq_ok_iff] at hlimit
      rw [hlimit]
      exact .unlimited hword
    · rw [if_neg hword] at hvalue
      rcases hread : Text.readInt (word text) with fault | n
      · rw [hread] at hvalue
        cases hvalue
      · rw [hread] at hvalue
        rw [← Except.ok.inj hvalue, Settings.readLimit_int_eq_ok_iff] at hlimit
        have hn : (n.toNat : Int) = n := by omega
        rw [hlimit.2]
        refine .limited hword ?_ ?_
        · rw [hread, hn]
        · omega

section Fields

variable {environment : Environment} {settings : Settings}

/-- The variables other than the limit's are read as they stand. -/
lemma plainFields_eq_ok_iff :
    Schema.withDefault environment.plainFields Settings.separatorField [' '] Schema.readText =
        .ok settings.separator ∧
      Schema.withDefault environment.plainFields Settings.suppressField true Schema.readBoolean =
        .ok settings.suppressEmpty ∧
      Schema.withDefault environment.plainFields Settings.levelField .info Settings.readLevel =
        .ok settings.level ↔
    settings.separator = (environment.lookup separatorVariable).getD [' '] ∧
      settings.suppressEmpty = ((environment.lookup suppressVariable).map fun text =>
        decide (word text ∉ falseWords)).getD true ∧
      settings.level.text = ((environment.lookup levelVariable).map Text.upper).getD "INFO" := by
  have hsuppress : Settings.suppressField ≠ Settings.separatorField := by decide
  have hlevel : Settings.levelField ≠ Settings.separatorField := by decide
  have hlast : Settings.levelField ≠ Settings.suppressField := by decide
  simp only [Schema.withDefault_eq_ok_iff, lookup_plainFields, if_pos, if_neg hsuppress,
    if_neg hlevel, if_neg hlast]
  refine and_congr ?_ (and_congr ?_ ?_)
  · rcases environment.lookup separatorVariable with - | text
    · exact eq_comm
    · simp [Schema.readText_eq_ok_iff, eq_comm]
  · rcases environment.lookup suppressVariable with - | text
    · exact eq_comm
    · simp [Schema.readBoolean, Schema.Checked.ok_inj, eq_comm]
  · rcases environment.lookup levelVariable with - | text
    · exact eq_comm.trans LevelName.text_inj.symm
    · simp [Settings.readLevel_text_eq_ok_iff]

/-- What the environment gives is what is read of it. -/
theorem settings?_eq_ok_iff : environment.settings? = .ok settings ↔ environment.Gives settings := by
  have hplain := @plainFields_eq_ok_iff environment settings
  have hgives : environment.Gives settings ↔
      (match environment.lookup limitVariable with
        | some text => WritesLimit text settings.limit
        | none => settings.limit = some defaultLimit) ∧
      settings.separator = (environment.lookup separatorVariable).getD [' '] ∧
      settings.suppressEmpty = ((environment.lookup suppressVariable).map fun text =>
        decide (word text ∉ falseWords)).getD true ∧
      settings.level.text = ((environment.lookup levelVariable).map Text.upper).getD "INFO" :=
    ⟨fun h => ⟨h.limit, h.separator, h.suppressEmpty, h.level⟩,
      fun h => ⟨h.1, h.2.1, h.2.2.1, h.2.2.2⟩⟩
  rw [hgives, ← hplain]
  unfold settings?
  rw [settingsFields_eq]
  unfold fieldOf
  rcases environment.lookup limitVariable with - | text
  · have hnone : environment.plainFields.lookup Settings.limitField = none := by
      rw [lookup_plainFields]
      rfl
    show Settings.ofFields? environment.plainFields = .ok settings ↔ _
    rw [Settings.ofFields?_eq_ok_iff, Settings.ofFields_eq_ok_iff, Schema.withDefault_eq_ok_iff,
      hnone, eq_comm]
  · dsimp only
    rw [writesLimit_iff]
    rcases limitOf text with fault | value
    · constructor
      · intro h
        cases h
      · intro h
        obtain ⟨⟨_, h, _⟩, _⟩ := h
        cases h
    · show Settings.ofFields? ((Settings.limitField, value) :: environment.plainFields) =
        .ok settings ↔ _
      rw [Settings.ofFields?_eq_ok_iff, Settings.ofFields_eq_ok_iff]
      simp only [Schema.withDefault_cons_self, Schema.withDefault_cons_of_ne (show
        Settings.separatorField ≠ Settings.limitField by decide), Schema.withDefault_cons_of_ne (show
        Settings.suppressField ≠ Settings.limitField by decide), Schema.withDefault_cons_of_ne (show
        Settings.levelField ≠ Settings.limitField by decide), Schema.Checked.under_eq_ok_iff]
      simp

/-- What the environment gives is in order. -/
lemma Gives.inOrder (h : environment.Gives settings) : settings.InOrder := by
  have hread := settings?_eq_ok_iff.mpr h
  unfold settings? at hread
  rcases hfields : environment.settingsFields with fault | fields
  · rw [hfields] at hread
    cases hread
  · rw [hfields] at hread
    exact Settings.inOrder_of_ofFields (Settings.ofFields?_eq_ok_iff.mp hread)

end Fields

end Environment

/-! ## The command line -/

namespace Arguments

/-- The settings that come of putting what the command line gives over others. A limit of zero, or
one without a value, is none; a level has to have a value. -/
structure PutOver (arguments : Arguments) (base settings : Settings) : Prop where
  limit : match arguments.maxDepth with
    | .absent => settings.limit = base.limit
    | .vacant => settings.limit = none
    | .value n => n = 0 ∧ settings.limit = none ∨ 0 < n ∧ settings.limit = some n.toNat
  separator : settings.separator = base.separator
  suppressEmpty : settings.suppressEmpty = base.suppressEmpty
  level : match arguments.logLevel with
    | .absent => settings.level = base.level
    | .vacant => False
    | .value text => settings.level.text = Text.upper text

/-- The value that the command line gives for the limit. -/
def limitGiven (arguments : Arguments) : Option Value :=
  match arguments.maxDepth with
  | .absent => none
  | .vacant => some .null
  | .value n => some (if n = 0 then .null else .int n)

/-- The value that the command line gives for the level. -/
def levelGiven (arguments : Arguments) : Option Value :=
  match arguments.logLevel with
  | .absent => none
  | .vacant => some (.list [])
  | .value text => some (.text text)

/-- The command line gives values for the limit and the level only. -/
lemma lookup_overrides (arguments : Arguments) (name : Text) :
    arguments.overrides.lookup name =
      if name = Settings.limitField then arguments.limitGiven
      else if name = Settings.levelField then arguments.levelGiven
      else none := by
  have hfields : Settings.limitField ≠ Settings.levelField := by decide
  have hoverrides : arguments.overrides =
      (arguments.limitGiven.map (Settings.limitField, ·)).toList ++
        (arguments.levelGiven.map (Settings.levelField, ·)).toList := by
    unfold overrides limitGiven levelGiven
    cases arguments.maxDepth <;> cases arguments.logLevel <;> rfl
  have hlookup : ∀ (field : Text) (given : Option Value),
      (given.map (field, ·)).toList.lookup name = if name = field then given else none := by
    intro field given
    rcases given with - | value
    · simp
    · exact lookup_field field name value
  rw [hoverrides, List.lookup_append, hlookup, hlookup]
  split
  · next h => simp [h, hfields]
  · simp

/-- A field keeps its place, with the value that is put over it. -/
lemma lookup_override (fields overrides : List (Text × Value)) (name : Text) :
    (override fields overrides).lookup name =
      (fields.lookup name).map ((overrides.lookup name).getD ·) := by
  induction fields with
  | nil => rfl
  | cons field rest ih =>
    obtain ⟨key, value⟩ := field
    have hcons : override ((key, value) :: rest) overrides =
        (key, (overrides.lookup key).getD value) :: override rest overrides := rfl
    rw [hcons, List.lookup_cons, List.lookup_cons, ih]
    by_cases h : name = key
    · simp [h]
    · have hbeq : (name == key) = false := beq_eq_false_iff_ne.mpr h
      rw [hbeq]

section Override

variable {arguments : Arguments} {base settings : Settings}

/-- The limit is read from what the command line gives, or from what is below. -/
lemma readLimit_limitGiven (h : base.InOrder) {limit : Option Nat} :
    Settings.readLimit (arguments.limitGiven.getD (Settings.limitValue base.limit)) = .ok limit ↔
      match arguments.maxDepth with
      | .absent => limit = base.limit
      | .vacant => limit = none
      | .value n => n = 0 ∧ limit = none ∨ 0 < n ∧ limit = some n.toNat := by
  unfold limitGiven
  rcases arguments.maxDepth with - | - | n
  · show Settings.readLimit (Settings.limitValue base.limit) = .ok limit ↔ limit = base.limit
    rw [Settings.readLimit_limitValue h, Schema.Checked.ok_inj, eq_comm]
  · exact Settings.readLimit_null_eq_ok_iff
  · show Settings.readLimit (if n = 0 then .null else .int n) = .ok limit ↔ _
    by_cases hn : n = 0
    · rw [if_pos hn, Settings.readLimit_null_eq_ok_iff]
      simp [hn]
    · rw [if_neg hn, Settings.readLimit_int_eq_ok_iff]
      simp [hn]

/-- The same for the level. -/
lemma readLevel_levelGiven {level : LevelName} :
    Settings.readLevel (arguments.levelGiven.getD (.text base.level.text)) = .ok level ↔
      match arguments.logLevel with
      | .absent => level = base.level
      | .vacant => False
      | .value text => level.text = Text.upper text := by
  unfold levelGiven
  rcases arguments.logLevel with - | - | text
  · show Settings.readLevel (.text base.level.text) = .ok level ↔ level = base.level
    rw [Settings.readLevel_text_eq_ok_iff, LevelName.upper_text, LevelName.text_inj]
  · exact iff_of_false Schema.Checked.ok_ne_fail.symm id
  · exact Settings.readLevel_text_eq_ok_iff

/-- What the command line gives is put over other settings, and nothing else about them changes. -/
lemma ofFields_override_iff (h : base.InOrder) :
    Settings.ofFields (override base.fields arguments.overrides) = .ok settings ↔
      arguments.PutOver base settings := by
  have hlimit : (override base.fields arguments.overrides).lookup Settings.limitField =
      some (arguments.limitGiven.getD (Settings.limitValue base.limit)) := by
    rw [lookup_override, lookup_overrides]
    rfl
  have hseparator : (override base.fields arguments.overrides).lookup Settings.separatorField =
      some (.text base.separator) := by
    rw [lookup_override, lookup_overrides]
    rfl
  have hsuppress : (override base.fields arguments.overrides).lookup Settings.suppressField =
      some (.bool base.suppressEmpty) := by
    rw [lookup_override, lookup_overrides]
    rfl
  have hlevel : (override base.fields arguments.overrides).lookup Settings.levelField =
      some (arguments.levelGiven.getD (.text base.level.text)) := by
    rw [lookup_override, lookup_overrides]
    rfl
  rw [Settings.ofFields_eq_ok_iff]
  simp only [Schema.withDefault_eq_ok_iff, hlimit, hseparator, hsuppress, hlevel,
    readLimit_limitGiven h, readLevel_levelGiven, Schema.readText_eq_ok_iff, Value.text.injEq]
  have hbool : Schema.readBoolean (.bool base.suppressEmpty) = .ok settings.suppressEmpty ↔
      settings.suppressEmpty = base.suppressEmpty :=
    Schema.Checked.ok_inj.trans eq_comm
  rw [hbool]
  constructor
  · intro h
    exact ⟨h.1, h.2.1.symm, h.2.2.1, h.2.2.2⟩
  · intro h
    exact ⟨h.limit, h.separator.symm, h.suppressEmpty, h.level⟩

/-- Where nothing is put over the settings, checking them once more leaves them as they are. -/
lemma exec_settings {σ : Type} (arguments : Arguments) (environment : Environment)
    (r : Recorded σ) :
    ((arguments.settings environment).exec r).1 = environment.settings? >>= fun base =>
      Settings.ofFields? (override base.fields arguments.overrides) := by
  obtain ⟨after, hexec⟩ := environment.exec_settings r
  unfold settings
  rw [Run.exec_bind, hexec]
  rcases hbase : environment.settings? with fault | base
  · rfl
  · have hinOrder : base.InOrder := (Environment.settings?_eq_ok_iff.mp hbase).inOrder
    show ((if arguments.overrides.isEmpty then pure base
      else Run.ofExcept (Settings.ofFields? (override base.fields arguments.overrides)) :
        Run σ Settings).exec after).1 = Settings.ofFields? (override base.fields arguments.overrides)
    split
    · next hempty =>
      have hnone : override base.fields [] = base.fields := List.map_id' _
      rw [List.isEmpty_iff.mp hempty, hnone, Settings.ofFields?_fields hinOrder]
      rfl
    · rfl

end Override

end Arguments

namespace Program

variable {arguments : Arguments} {environment : Environment} {settings : Settings}

/-- The program has settings when the environment gives some and the command line can be put over
them. -/
theorem settingsOf_eq_ok_iff :
    settingsOf arguments environment = .ok settings ↔
      ∃ base, environment.Gives base ∧ arguments.PutOver base settings := by
  have hexec : settingsOf arguments environment = environment.settings? >>= fun base =>
      Settings.ofFields? (Arguments.override base.fields arguments.overrides) :=
    arguments.exec_settings environment ⟨(), []⟩
  rw [hexec]
  constructor
  · intro h
    rcases hbase : environment.settings? with fault | base
    · rw [hbase] at h
      cases h
    · rw [hbase] at h
      have hgives : environment.Gives base := Environment.settings?_eq_ok_iff.mp hbase
      exact ⟨base, hgives, (Arguments.ofFields_override_iff hgives.inOrder).mp
        (Settings.ofFields?_eq_ok_iff.mp h)⟩
  · intro h
    obtain ⟨base, hgives, hover⟩ := h
    rw [Environment.settings?_eq_ok_iff.mpr hgives]
    exact Settings.ofFields?_eq_ok_iff.mpr
      ((Arguments.ofFields_override_iff hgives.inOrder).mpr hover)

/-- An environment without an ill-formed variable gives settings. -/
lemma exists_gives (h : ¬environment.IllFormed) : ∃ base, environment.Gives base := by
  obtain ⟨hlimit, hlevel⟩ := not_or.mp h
  obtain ⟨limit, hlimit⟩ : ∃ limit, match environment.lookup Environment.limitVariable with
      | some text => Environment.WritesLimit text limit
      | none => limit = some defaultLimit := by
    rcases hlookup : environment.lookup Environment.limitVariable with - | text
    · exact ⟨_, rfl⟩
    · by_contra hnone
      exact hlimit ⟨text, hlookup, fun limit hwrites => hnone ⟨limit, hwrites⟩⟩
  obtain ⟨level, hlevel⟩ : ∃ level : LevelName, level.text =
      ((environment.lookup Environment.levelVariable).map Text.upper).getD "INFO" := by
    rcases hlookup : environment.lookup Environment.levelVariable with - | text
    · exact ⟨.info, rfl⟩
    · by_contra hnone
      exact hlevel ⟨text, hlookup, fun name hname => hnone ⟨name, hname⟩⟩
  exact ⟨⟨limit, _, _, level⟩, hlimit, rfl, rfl, hlevel⟩

/-- The environment is ill-formed just when no command line comes to settings with it, and then they
all fail alike. -/
lemma illFormed_iff :
    environment.IllFormed ↔
      ∃ fault, ∀ arguments, settingsOf arguments environment = .error fault := by
  constructor
  · intro h
    have hfails : ∀ base, ¬environment.Gives base := by
      intro base hgives
      have hlimit := hgives.limit
      have hlevel := hgives.level
      rcases h with ⟨text, hlookup, hnone⟩ | ⟨text, hlookup, hnone⟩
      · rw [hlookup] at hlimit
        exact hnone _ hlimit
      · rw [hlookup] at hlevel
        exact hnone _ hlevel
    rcases hbase : environment.settings? with fault | base
    · refine ⟨fault, fun arguments => ?_⟩
      show ((arguments.settings environment).exec ⟨(), []⟩).1 = .error fault
      rw [Arguments.exec_settings, hbase]
      rfl
    · exact absurd (Environment.settings?_eq_ok_iff.mp hbase) (hfails base)
  · intro h
    by_contra hformed
    obtain ⟨fault, hfails⟩ := h
    obtain ⟨base, hgives⟩ := exists_gives hformed
    have hok : settingsOf {} environment = .ok base :=
      settingsOf_eq_ok_iff.mpr ⟨base, hgives, rfl, rfl, rfl, rfl⟩
    rw [hfails] at hok
    cases hok

/-- What the settings of a run are made of. Each is what the command line gives, or else what the
environment gives, or else the default; the environment alone gives the settings below, and what the
command line does not give is as it is there. They are in order: checking them once more changes
nothing, the level is a name in upper case, and a shell is set up with them in an empty registry.
Where the environment is ill-formed, no command line makes up for it. -/
theorem settings_layered (arguments : Arguments) (environment : Environment) :
    (∀ settings, settingsOf arguments environment = .ok settings →
      (∃ base, settingsOf {} environment = .ok base ∧ environment.Gives base ∧
        arguments.PutOver base settings) ∧
      (∀ limit ∈ settings.limit, 1 ≤ limit) ∧
      settings.level.text ∈ LevelName.all.map LevelName.text ∧
      Text.upper settings.level.text = settings.level.text ∧
      Settings.ofFields? settings.fields = .ok settings ∧
      ∀ {ι σ : Type} (engine : Engine ι σ) (host : σ),
        Nesting.ofLimit engine.capacity (settings.limit.map Int.ofNat) =
          .ok (engine.nesting settings) ∧
        ∃ journal, (do Workspace.registerBuiltins; Workspace.registerShell settings :
            Task ι σ Unit).exec ⟨⟨{}, host⟩, []⟩ =
          (.ok (), ⟨⟨.standard settings, host⟩, journal⟩)) ∧
    (environment.IllFormed ↔
      ∃ fault, ∀ arguments, settingsOf arguments environment = .error fault) := by
  refine ⟨?_, illFormed_iff⟩
  intro settings h
  obtain ⟨base, hgives, hover⟩ := settingsOf_eq_ok_iff.mp h
  have hbase : settingsOf {} environment = .ok base :=
    settingsOf_eq_ok_iff.mpr ⟨base, hgives, rfl, rfl, rfl, rfl⟩
  have hinOrder : settings.InOrder :=
    Settings.inOrder_of_ofFields ((Arguments.ofFields_override_iff hgives.inOrder).mpr hover)
  refine ⟨⟨base, hbase, hgives, hover⟩, hinOrder, ?_, LevelName.upper_text _,
    Settings.ofFields?_fields hinOrder, ?_⟩
  · apply List.mem_map_of_mem
    cases settings.level <;> decide
  · intro ι σ engine host
    refine ⟨?_, Workspace.exec_register_standard settings host⟩
    unfold Engine.nesting
    rcases hlimit : settings.limit with - | limit
    · rfl
    · have hpositive : 1 ≤ limit := hinOrder limit hlimit
      obtain ⟨n, rfl⟩ := Nat.exists_eq_add_of_le' hpositive
      rfl

/-- A depth of zero on the command line turns off the limit of the environment, and a level there is
put over another one; an environment with a limit that writes no number above zero is of no use, even
if the command line gives another limit. -/
theorem settings_layered_zero :
    let arguments : Arguments := { maxDepth := .value 0, logLevel := .value "warn" }
    let environment : Environment := [(Environment.limitVariable, " 7_0 "),
      (Environment.separatorVariable, "|"), (Environment.suppressVariable, " OFF "),
      (Environment.levelVariable, "debug")]
    let settings : Settings := ⟨none, "|", false, .warn⟩
    let illFormed : Environment := [(Environment.limitVariable, "00")]
    settingsOf arguments environment = .ok settings ∧
      (∃ base, settingsOf {} environment = .ok base ∧ base.limit = some 70 ∧
        arguments.PutOver base settings) ∧
      Settings.ofFields? settings.fields = .ok settings ∧
      illFormed.IllFormed ∧
      ∃ fault, settingsOf { maxDepth := .value 5 } illFormed = .error fault := by
  intro arguments environment settings illFormed
  have hsettings : settingsOf arguments environment = .ok settings := by decide +kernel
  have hillFormed : illFormed.IllFormed := by
    refine .inl ⟨"00", rfl, fun limit hwrites => ?_⟩
    cases hwrites with
    | unlimited hword => exact absurd hword (by decide +kernel)
    | limited _ hread hpositive =>
      have hzero : Text.readInt (Environment.word "00") = .ok 0 := by decide +kernel
      rw [hzero] at hread
      have hn := Except.ok.inj hread
      omega
  obtain ⟨hlayered, hfails⟩ := settings_layered arguments environment
  obtain ⟨⟨base, hbase, -, hover⟩, -, -, -, hagain, -⟩ := hlayered settings hsettings
  have hbelow : settingsOf {} environment = .ok ⟨some 70, "|", false, .debug⟩ := by decide +kernel
  have hlimit : base.limit = some 70 := by
    rw [hbelow] at hbase
    rw [← Except.ok.inj hbase]
  obtain ⟨fault, hfault⟩ := (settings_layered {} illFormed).2.mp hillFormed
  exact ⟨hsettings, ⟨base, hbase, hlimit, hover⟩, hagain, hillFormed, fault, hfault _⟩

end Program

end Subshell
