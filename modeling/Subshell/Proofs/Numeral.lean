import Mathlib.Data.Nat.Digits.Defs
import Subshell.Proofs.Layers
import Subshell.Proofs.LowerCase
/-!
# The depth limit as a numeral

The limit is written in the environment or on the command line, and both read it as an integer. The
environment first looks for a word that turns the limit off. Words are compared without the blanks
around them and in lower case, and a numeral has neither blanks nor letters to lose
(`word_of_readInt`), so it is a word for none only if it is the digit zero alone
(`word_mem_noLimitWords_iff`). The command line asks whether the integer is zero instead.

`settingsOf_numeral` says where this makes a difference: for zero in any other spelling, which turns
the limit off on the command line and is refused in the environment.

An integer has at most as many digits as the numeral that it is read from, so it can be written
again (`fits_of_readInt`), and the log can be told what the environment gives
(`write_settingsFields`).
-/

namespace Subshell

namespace Text

/-! ## Characters of numerals -/

/-- The code points of the signs, the underscore and the digits of all scripts. -/
def numerals : List Nat :=
  '+'.toNat :: '-'.toNat :: '_'.toNat :: digitZeros.flatMap fun z => (List.range 10).map (z + ·)

/-- No character of a numeral is blank or a capital. -/
lemma disjoint_numerals : numerals.Disjoint (capitals ++ blanks) :=
  disjoint_of_bits (by decide +kernel)

lemma mem_numerals_of_digitValue? {c : Char} {digit : Nat} (h : digitValue? c = some digit) :
    c.toNat ∈ numerals := by
  unfold digitValue? at h
  obtain ⟨z, hfind, -⟩ := Option.map_eq_some_iff.mp h
  have hzero : z ∈ digitZeros := List.mem_of_find?_eq_some hfind
  have hrange := List.find?_some hfind
  simp only [Bool.and_eq_true, decide_eq_true_eq] at hrange
  have hdigit : c.toNat ∈ (List.range 10).map (z + ·) := by
    refine List.mem_map.mpr ⟨c.toNat - z, List.mem_range.mpr ?_, ?_⟩ <;> omega
  have hdigits : c.toNat ∈ digitZeros.flatMap fun z => (List.range 10).map (z + ·) :=
    List.mem_flatMap.mpr ⟨z, hzero, hdigit⟩
  unfold numerals
  simp [hdigits]

/-- What is scanned to its end holds digits and underscores only. -/
lemma mem_numerals_of_scanDigits {value count total digits : Nat} {needed : Bool} {text : Text}
    (h : scanDigits value count needed text = some (total, digits, [])) :
    ∀ c ∈ text, c.toNat ∈ numerals := by
  induction text generalizing value count needed with
  | nil => simp
  | cons c rest ih =>
    rw [scanDigits] at h
    rw [List.forall_mem_cons]
    by_cases hc : c = '_'
    · rw [if_pos hc] at h
      cases needed with
      | true => simp at h
      | false => exact ⟨by simp [hc, numerals], ih h⟩
    · rw [if_neg hc] at h
      rcases hdigit : digitValue? c with - | digit
      · simp [hdigit] at h
      · rw [hdigit] at h
        exact ⟨mem_numerals_of_digitValue? hdigit, ih h⟩

lemma mem_numerals_of_scanSign {text : Text} (h : ∀ c ∈ (scanSign text).2, c.toNat ∈ numerals) :
    ∀ c ∈ text, c.toNat ∈ numerals := by
  unfold scanSign at h
  split at h
  · exact List.forall_mem_cons.mpr ⟨by simp [numerals], h⟩
  · exact List.forall_mem_cons.mpr ⟨by simp [numerals], h⟩
  · exact h

/-- An integer that is read is what is scanned, with its sign, of the whole text. -/
lemma scanDigits_of_readInt {text : Text} {n : Int} (h : readInt text = .ok n) :
    ∃ value count, scanDigits 0 0 true (scanSign (trim text)).2 = some (value, count, []) ∧
      count ≤ maxDigits ∧ n.natAbs = value := by
  unfold readInt at h
  rcases hsign : scanSign (trim text) with ⟨negative, digits⟩
  rw [hsign] at h
  dsimp only at h
  rcases hscan : scanDigits 0 0 true digits with - | ⟨value, count, rest⟩
  · rw [hscan] at h
    cases h
  · rw [hscan] at h
    dsimp only at h
    by_cases hcount : maxDigits < count
    · rw [if_pos hcount] at h
      cases h
    · rw [if_neg hcount] at h
      by_cases hempty : rest.isEmpty = true
      · rw [if_pos hempty] at h
        refine ⟨value, count, ?_, Nat.le_of_not_lt hcount, ?_⟩
        · rw [List.isEmpty_iff.mp hempty]
        · rw [← Except.ok.inj h]
          cases negative <;> simp
      · rw [if_neg hempty] at h
        cases h

/-- A text that writes an integer is a numeral with white space around it. -/
lemma mem_numerals_of_readInt {text : Text} {n : Int} (h : readInt text = .ok n) :
    ∀ c ∈ trim text, c.toNat ∈ numerals := by
  obtain ⟨value, count, hscan, -, -⟩ := scanDigits_of_readInt h
  exact mem_numerals_of_scanSign (mem_numerals_of_scanDigits hscan)

/-! ## Digits of numerals -/

/-- What is scanned has a value of at most as many digits as are scanned. -/
lemma lt_pow_of_scanDigits {value count total digits : Nat} {needed : Bool} {text rest : Text}
    (h : scanDigits value count needed text = some (total, digits, rest))
    (hvalue : value < 10 ^ count) : total < 10 ^ digits := by
  induction text generalizing value count needed with
  | nil =>
    cases needed with
    | true => cases h
    | false =>
      cases h
      exact hvalue
  | cons c text ih =>
    rw [scanDigits] at h
    by_cases hc : c = '_'
    · rw [if_pos hc] at h
      cases needed with
      | true => cases h
      | false => exact ih h hvalue
    · rw [if_neg hc] at h
      rcases hdigit : digitValue? c with - | digit
      · rw [hdigit] at h
        cases needed with
        | true => cases h
        | false =>
          cases h
          exact hvalue
      · rw [hdigit] at h
        have hlt : digit < 10 := digitValue?_lt hdigit
        refine ih h ?_
        rw [pow_succ]
        omega

/-- An integer that is read can be written. -/
lemma fits_of_readInt {text : Text} {n : Int} (h : readInt text = .ok n) : fits n = true := by
  obtain ⟨value, count, hscan, hcount, rfl⟩ := scanDigits_of_readInt h
  have hlt : n.natAbs < 10 ^ count := lt_pow_of_scanDigits hscan Nat.one_pos
  have hpow : n.natAbs < 10 ^ maxDigits := hlt.trans_le (Nat.pow_le_pow_right (by decide) hcount)
  exact decide_eq_true (Nat.toDigits_length 10 n.natAbs maxDigits (by decide) hpow)

/-! ## Blanks around numerals -/

/-- White space is blank. -/
lemma isBlank_of_isSpace {c : Char} (h : isSpace c = true) : isBlank c = true := by
  unfold isSpace at h
  rw [Bool.and_eq_true] at h
  exact h.1

/-- Only blanks are lost with the white space at the ends of a text. -/
lemma exists_append_trim (text : Text) :
    ∃ front back, text = front ++ trim text ++ back ∧ (∀ c ∈ front, isBlank c = true) ∧
      ∀ c ∈ back, isBlank c = true := by
  have hdropped : ∀ given : Text, ∀ c ∈ given.takeWhile isSpace, isBlank c = true :=
    fun given c hc => isBlank_of_isSpace (List.mem_takeWhile_imp hc)
  refine ⟨text.takeWhile isSpace,
    ((text.dropWhile isSpace).reverse.takeWhile isSpace).reverse, ?_, hdropped text, ?_⟩
  · unfold trim
    rw [List.append_assoc, ← List.reverse_append, List.takeWhile_append_dropWhile,
      List.reverse_reverse, List.takeWhile_append_dropWhile]
  · intro c hc
    exact hdropped _ c (List.mem_reverse.mp hc)

lemma strip_trim (text : Text) : strip (trim text) = strip text := by
  obtain ⟨front, back, htext, hfront, hback⟩ := exists_append_trim text
  calc strip (trim text) = strip (front ++ trim text ++ back) :=
        (strip_append_append hfront hback (trim text)).symm
    _ = strip text := by rw [← htext]

/-- There is no white space to drop where there are no blanks. -/
lemma trim_of_not_blank {text : Text} (h : ∀ c ∈ text, isBlank c = false) : trim text = text := by
  have hdrop : ∀ given : Text, (∀ c ∈ given, isBlank c = false) →
      given.dropWhile isSpace = given := by
    intro given hgiven
    rw [List.dropWhile_eq_self_iff]
    intro hne hspace
    have hblank := isBlank_of_isSpace hspace
    rw [hgiven _ (List.getElem_mem hne)] at hblank
    cases hblank
  unfold trim
  rw [hdrop text h, hdrop text.reverse fun c hc => h c (List.mem_reverse.mp hc),
    List.reverse_reverse]

/-- A numeral holds no blanks. -/
lemma isBlank_of_readInt {text : Text} {n : Int} (h : readInt text = .ok n) :
    ∀ c ∈ trim text, isBlank c = false := by
  intro c hc
  apply isBlank_eq_false_of_notMem
  intro hblank
  exact disjoint_numerals (mem_numerals_of_readInt h c hc) (List.mem_append_right _ hblank)

/-- A numeral is in lower case. -/
lemma lower_trim_of_readInt {text : Text} {n : Int} (h : readInt text = .ok n) :
    lower (trim text) = trim text := by
  apply lowerAfter_of_stays
  intro c hc
  apply lowerForm_of_notMem
  intro hcapital
  exact disjoint_numerals (mem_numerals_of_readInt h c hc) (List.mem_append_left _ hcapital)

end Text

namespace Environment

variable {text : Text} {n : Int}

/-- The limit that a text gives can be written. -/
lemma isWritable_of_limitOf {value : Value} (h : limitOf text = .ok value) :
    value.isWritable = true := by
  unfold limitOf at h
  by_cases hword : word text ∈ noLimitWords
  · rw [if_pos hword] at h
    cases h
    rfl
  · rw [if_neg hword] at h
    rcases hread : Text.readInt (word text) with fault | n
    · rw [hread] at h
      cases h
    · rw [hread] at h
      cases h
      exact Text.fits_of_readInt hread

/-- The word of a numeral is the numeral without the white space around it. -/
theorem word_of_readInt (h : Text.readInt text = .ok n) : word text = Text.trim text :=
  calc word text = Text.lower (Text.strip (Text.trim text)) := by
        rw [Text.strip_trim]
        rfl
    _ = Text.lower (Text.trim text) := by rw [Text.strip_of_not_blank (Text.isBlank_of_readInt h)]
    _ = Text.trim text := Text.lower_trim_of_readInt h

/-- So the word writes the same integer. -/
lemma readInt_word (h : Text.readInt text = .ok n) : Text.readInt (word text) = .ok n := by
  rw [word_of_readInt h, ← h]
  unfold Text.readInt
  rw [Text.trim_of_not_blank (Text.isBlank_of_readInt h)]

/-- What the environment gives can be written, so the log is told its written form. -/
theorem write_settingsFields {environment : Environment} {fields : List (Text × Value)}
    (h : environment.settingsFields = .ok fields) :
    (Value.object fields).write = .ok (Value.object fields).written := by
  have hplain : ∀ field ∈ environment.plainFields, field.2.isWritable = true := by
    unfold plainFields
    simp only [List.forall_mem_append]
    exact ⟨⟨forall_mem_optional fun _ => rfl, forall_mem_optional fun _ => rfl⟩,
      forall_mem_optional fun _ => rfl⟩
  refine if_pos (Value.isWritable_object_iff.mpr ?_)
  rw [settingsFields_eq] at h
  unfold fieldOf at h
  rcases hlookup : environment.lookup limitVariable with - | text
  · rw [hlookup] at h
    cases h
    exact hplain
  · rw [hlookup] at h
    dsimp only at h
    rcases hvalue : limitOf text with fault | value
    · rw [hvalue] at h
      cases h
    · rw [hvalue] at h
      cases h
      exact List.forall_mem_cons.mpr ⟨isWritable_of_limitOf hvalue, hplain⟩

/-- The digit zero is the only numeral among the words for none. -/
lemma word_mem_noLimitWords_iff (h : Text.readInt text = .ok n) :
    word text ∈ noLimitWords ↔ Text.trim text = "0" := by
  have hothers : ∀ other ∈ noLimitWords, other = "0" ∨ Text.readInt other = .error .malformed := by
    decide +kernel
  rw [← word_of_readInt h]
  constructor
  · intro hword
    rcases hothers _ hword with hzero | hmalformed
    · exact hzero
    · rw [readInt_word h] at hmalformed
      cases hmalformed
  · intro hzero
    rw [hzero]
    decide

/-- What the environment gives when it writes nothing but a limit. -/
lemma settings?_limit (h : Text.readInt text = .ok n) :
    settings? [(limitVariable, text)] =
      Settings.ofFields? [(Settings.limitField, if Text.trim text = "0" then .null else .int n)] := by
  have hlimit : limitOf text = .ok (if Text.trim text = "0" then .null else .int n) := by
    unfold limitOf
    rw [readInt_word h]
    by_cases hword : Text.trim text = "0"
    · rw [if_pos ((word_mem_noLimitWords_iff h).mpr hword), if_pos hword]
    · rw [if_neg ((word_mem_noLimitWords_iff h).not.mpr hword), if_neg hword]
  have hfields : settingsFields [(limitVariable, text)] =
      .ok [(Settings.limitField, if Text.trim text = "0" then .null else .int n)] := by
    have hfield : fieldOf [(limitVariable, text)] limitVariable Settings.limitField limitOf =
        (limitOf text).map fun value => [(Settings.limitField, value)] := rfl
    rw [settingsFields_eq, hfield, hlimit]
    rfl
  unfold settings?
  rw [hfields]
  rfl

end Environment

namespace Settings

/-- The settings with the limit `n` and defaults otherwise. A limit has to be above zero. -/
def limitedTo (n : Int) : Except Fault Settings :=
  if 0 < n then .ok { limit := some n.toNat }
  else .error (.invalid [⟨[.field limitField], .notPositive⟩])

/-- The other fields have their defaults whether they are there or not. -/
lemma ofFields?_override_limit (value : Value) :
    ofFields? (Arguments.override ({} : Settings).fields [(limitField, value)]) =
      ofFields? [(limitField, value)] := rfl

lemma ofFields?_null : ofFields? [(limitField, .null)] = .ok { limit := none } := rfl

lemma ofFields?_int (n : Int) : ofFields? [(limitField, .int n)] = limitedTo n := by
  have hfields : ofFields [(limitField, .int n)] =
      Settings.mk <$> (readLimit (.int n)).under (.field limitField)
        <*> .ok [' '] <*> .ok true <*> .ok .info := rfl
  have hread : readLimit (.int n) =
      ((if 0 < n then Schema.Checked.ok n else .fail .notPositive).map Int.toNat).map some := rfl
  unfold ofFields? limitedTo
  rw [hfields, hread]
  by_cases hn : 0 < n
  · rw [if_pos hn, if_pos hn]
    rfl
  · rw [if_neg hn, if_neg hn]
    rfl

end Settings

namespace Program

variable {text : Text} {n : Int}

/-- Without options the settings are those of the environment. -/
lemma settingsOf_without_options (environment : Environment) :
    settingsOf {} environment = environment.settings? := by
  rcases hread : environment.settings? with fault | base
  · show ((Arguments.settings {} environment).exec ⟨(), []⟩).1 = .error fault
    rw [Arguments.exec_settings, hread]
    rfl
  · exact settingsOf_eq_ok_iff.mpr
      ⟨base, Environment.settings?_eq_ok_iff.mp hread, rfl, rfl, rfl, rfl⟩

/-- A limit in the environment only. -/
lemma settingsOf_variable (h : Text.readInt text = .ok n) :
    settingsOf {} [(Environment.limitVariable, text)] =
      if Text.trim text = "0" then .ok { limit := none } else Settings.limitedTo n := by
  rw [settingsOf_without_options, Environment.settings?_limit h]
  by_cases hzero : Text.trim text = "0"
  · rw [if_pos hzero, if_pos hzero, Settings.ofFields?_null]
  · rw [if_neg hzero, if_neg hzero, Settings.ofFields?_int]

/-- A limit on the command line only. -/
lemma settingsOf_option (n : Int) :
    settingsOf { maxDepth := .value n } [] =
      if n = 0 then .ok { limit := none } else Settings.limitedTo n := by
  have hsettings : settingsOf { maxDepth := .value n } [] =
      Settings.ofFields? (Arguments.override ({} : Settings).fields
        [(Settings.limitField, if n = 0 then .null else .int n)]) := rfl
  rw [hsettings, Settings.ofFields?_override_limit]
  by_cases hn : n = 0
  · rw [if_pos hn, if_pos hn, Settings.ofFields?_null]
  · rw [if_neg hn, if_neg hn, Settings.ofFields?_int]

/-- A limit in the environment and the same limit on the command line come to the same settings, or
to the same violation, unless it is zero and written with more than the digit zero. On the command
line zero is no limit in every spelling; in the environment another spelling of it is refused, as a
limit that is not above zero. -/
theorem settingsOf_numeral (h : Text.readInt text = .ok n) :
    let given := settingsOf {} [(Environment.limitVariable, text)]
    let asked := settingsOf { maxDepth := .value n } []
    (given = asked ↔ (n = 0 → Text.trim text = "0")) ∧
      (n ≠ 0 → given = Settings.limitedTo n ∧ asked = Settings.limitedTo n) ∧
      (n = 0 → asked = .ok { limit := none } ∧
        (Text.trim text ≠ "0" →
          given = .error (.invalid [⟨[.field Settings.limitField], .notPositive⟩]))) := by
  intro given asked
  have hgiven : given = if Text.trim text = "0" then .ok { limit := none }
      else Settings.limitedTo n := settingsOf_variable h
  have hasked : asked = if n = 0 then .ok { limit := none } else Settings.limitedTo n :=
    settingsOf_option n
  have hzero : Text.trim text = "0" → n = 0 := by
    intro htrim
    have hread := Environment.readInt_word h
    rw [Environment.word_of_readInt h, htrim] at hread
    exact (Except.ok.inj hread).symm
  by_cases hn : n = 0
  · have hnone : asked = .ok { limit := none } := by rw [hasked, if_pos hn]
    have hrefused : Text.trim text ≠ "0" →
        given = .error (.invalid [⟨[.field Settings.limitField], .notPositive⟩]) := by
      intro htrim
      rw [hgiven, if_neg htrim, hn]
      rfl
    refine ⟨⟨fun heq _ => ?_, fun htrim => ?_⟩, fun hne => absurd hn hne, fun _ => ⟨hnone, hrefused⟩⟩
    · by_contra htrim
      rw [hrefused htrim, hnone] at heq
      cases heq
    · rw [hgiven, if_pos (htrim hn), hnone]
  · have htrim : Text.trim text ≠ "0" := fun htrim => hn (hzero htrim)
    rw [if_neg htrim] at hgiven
    rw [if_neg hn] at hasked
    refine ⟨⟨fun _ hzero => absurd hzero hn, fun _ => ?_⟩, fun _ => ⟨hgiven, hasked⟩,
      fun hzero => absurd hzero hn⟩
    rw [hgiven, hasked]

/-- Ten with a sign, an underscore and a digit of another script is the same limit on both ways, and
so is the digit zero with white space around it. -/
theorem settingsOf_numeral_ten :
    settingsOf {} [(Environment.limitVariable, " +1_٠\n")] =
        settingsOf { maxDepth := .value 10 } [] ∧
      settingsOf { maxDepth := .value 10 } [] = .ok { limit := some 10 } ∧
      settingsOf {} [(Environment.limitVariable, "\t0 ")] =
        settingsOf { maxDepth := .value 0 } [] := by
  have hten : Text.readInt " +1_٠\n" = .ok 10 := by decide +kernel
  have hzero : Text.readInt "\t0 " = .ok 0 := by decide +kernel
  obtain ⟨hagree, hlimited, -⟩ := settingsOf_numeral hten
  refine ⟨hagree.mpr (by decide), (hlimited (by decide)).2, ?_⟩
  exact (settingsOf_numeral hzero).1.mpr fun _ => by decide +kernel

/-- Two zeros turn the limit off on the command line, and the environment refuses them. -/
theorem settingsOf_numeral_zeros :
    Text.readInt "00" = .ok 0 ∧
      settingsOf { maxDepth := .value 0 } [] = .ok { limit := none } ∧
      settingsOf {} [(Environment.limitVariable, "00")] =
        .error (.invalid [⟨[.field Settings.limitField], .notPositive⟩]) := by
  decide +kernel

end Program

end Subshell
