import Mathlib.Data.Nat.Bitwise
import Subshell.Proofs.Strip
import Subshell.Text.Casing
/-!
# Texts in lower case

Lower case is a table, but little of what the table says matters to those who compare names:

* `lower_lower`: a text in lower case stays as it is;
* `isBlank_head?_lowerAfter` and `isBlank_getLast?_lowerAfter`: an end of a text is blank in lower
  case exactly if it is;
* `strip_lower_strip`: so what is stripped need not be stripped again.

They rest on three facts about single characters (`Settles`), which the tables are searched for
once. The code points that change in lower case, the ones that they change to and the blank ones are
listed, and a list of code points is written as one number with a bit for each of them. Two lists
have no code point in common if their numbers have no bit in common, and that is computed at once.
-/

namespace Subshell.Text

/-! ## Code points as bits -/

/-- A number with the bits of some code points. -/
def bits (points : List Nat) : Nat := points.foldr (fun n rest => 2 ^ n ||| rest) 0

lemma testBit_bits (points : List Nat) (n : Nat) :
    (bits points).testBit n = true ↔ n ∈ points := by
  induction points with
  | nil => simp [bits]
  | cons m points ih =>
    have hcons : bits (m :: points) = 2 ^ m ||| bits points := rfl
    rw [hcons, Nat.testBit_or, Bool.or_eq_true, ih, Nat.testBit_two_pow, List.mem_cons,
      decide_eq_true_iff, eq_comm]

/-- Code points without a bit in common are different ones. -/
lemma disjoint_of_bits {points others : List Nat} (h : bits points &&& bits others = 0) :
    points.Disjoint others := by
  intro n hn hother
  have hbit : (bits points &&& bits others).testBit n = true := by
    rw [Nat.testBit_and, (testBit_bits points n).mpr hn, (testBit_bits others n).mpr hother]
    rfl
  rw [h, Nat.zero_testBit] at hbit
  cases hbit

/-! ## The tables -/

namespace CaseRow

/-- The code points of a row. -/
def points (row : CaseRow) : List Nat :=
  (List.range ((row.last - row.first) / row.step + 1)).map (row.first + row.step * ·)

/-- What a code point of the row changes to. -/
def move (row : CaseRow) (n : Nat) : Nat := (n + row.offset).toNat

lemma mem_points {row : CaseRow} {n : Nat} (h : row.holds n = true) : n ∈ row.points := by
  unfold holds at h
  simp only [Bool.and_eq_true, decide_eq_true_eq, beq_iff_eq] at h
  obtain ⟨⟨hfirst, hlast⟩, hstep⟩ := h
  have hle : (n - row.first) / row.step ≤ (row.last - row.first) / row.step :=
    Nat.div_le_div_right (by omega)
  have hdvd : row.step * ((n - row.first) / row.step) = n - row.first :=
    Nat.mul_div_cancel' (Nat.dvd_of_mod_eq_zero hstep)
  refine List.mem_map.mpr ⟨(n - row.first) / row.step, List.mem_range.mpr (by omega), ?_⟩
  omega

/-- Whether all code points between the first and the last of the row change to characters. -/
def lands (row : CaseRow) : Bool :=
  0 ≤ row.first + row.offset &&
    (row.last + row.offset < 0xd800 ||
      0xdfff < row.first + row.offset && row.last + row.offset < 0x110000)

lemma isValidChar_move {row : CaseRow} {n : Nat} (hlands : row.lands = true)
    (hholds : row.holds n = true) : (row.move n).isValidChar := by
  unfold holds at hholds
  unfold lands at hlands
  simp only [Bool.and_eq_true, Bool.or_eq_true, decide_eq_true_eq] at hholds hlands
  unfold move Nat.isValidChar
  omega

end CaseRow

/-- The code points that lower case changes. -/
def capitals : List Nat := lowerExpansions.map (·.1) ++ lowerRows.flatMap (·.points)

/-- The code points that lower case changes others to; the final sigma is not in the tables. -/
def smalls : List Nat :=
  'ς'.toNat :: lowerExpansions.flatMap (·.2) ++ lowerRows.flatMap fun row => row.points.map row.move

/-- The code points of the blank characters. -/
def blanks : List Nat :=
  [0x09, 0x0a, 0x0b, 0x0c, 0x0d, 0x1c, 0x1d, 0x1e, 0x1f, 0x20, 0x85, 0xa0, 0x1680, 0x2000, 0x2001,
    0x2002, 0x2003, 0x2004, 0x2005, 0x2006, 0x2007, 0x2008, 0x2009, 0x200a, 0x2028, 0x2029, 0x202f,
    0x205f, 0x3000]

lemma mem_blanks {c : Char} (h : isBlank c = true) : c.toNat ∈ blanks := by
  unfold isBlank at h
  simp only [Bool.or_eq_true, Bool.and_eq_true, decide_eq_true_eq, beq_iff_eq] at h
  simp only [blanks, List.mem_cons, List.not_mem_nil]
  omega

/-- What lower case changes is not blank. -/
lemma disjoint_capitals_blanks : capitals.Disjoint blanks :=
  disjoint_of_bits (by decide +kernel)

/-- What it changes to does not change again, and is not blank either. -/
lemma disjoint_smalls : smalls.Disjoint (capitals ++ blanks) :=
  disjoint_of_bits (by decide +kernel)

lemma isValidChar_of_mem_lowerExpansions : ∀ expansion ∈ lowerExpansions,
    expansion.2 ≠ [] ∧ ∀ n ∈ expansion.2, n.isValidChar := by
  decide

lemma lands_of_mem_lowerRows : ∀ row ∈ lowerRows, row.lands = true :=
  List.all_eq_true.mp (by decide +kernel)

/-! ## Single characters -/

lemma toNat_ofNat {n : Nat} (h : n.isValidChar) : (Char.ofNat n).toNat = n := by
  unfold Char.ofNat
  rw [dif_pos h]
  rfl

/-- What is no capital stays. -/
lemma lowerForm_of_notMem {c : Char} (h : c.toNat ∉ capitals) : lowerForm c = [c] := by
  unfold capitals at h
  rw [List.mem_append, not_or] at h
  have hlookup : lowerExpansions.lookup c.toNat = none := by
    rw [List.lookup_eq_none_iff]
    rintro ⟨n, form⟩ hmem
    rw [bne_iff_ne]
    rintro rfl
    exact h.1 (List.mem_map_of_mem hmem)
  have hfind : lowerRows.find? (·.holds c.toNat) = none := by
    rw [List.find?_eq_none]
    intro row hrow hholds
    exact h.2 (List.mem_flatMap.mpr ⟨row, hrow, CaseRow.mem_points hholds⟩)
  unfold lowerForm caseForm
  rw [hlookup]
  dsimp only
  rw [hfind]

/-- A character stays, or it is a capital and changes to small letters. -/
lemma lowerForm_cases (c : Char) :
    lowerForm c = [c] ∨
      c.toNat ∈ capitals ∧ lowerForm c ≠ [] ∧ ∀ d ∈ lowerForm c, d.toNat ∈ smalls := by
  unfold lowerForm caseForm
  split
  · next form hlookup =>
    obtain ⟨earlier, later, heq, -⟩ := List.lookup_eq_some_iff.mp hlookup
    have hmem : (c.toNat, form) ∈ lowerExpansions := by
      rw [heq]
      exact List.mem_append_right _ List.mem_cons_self
    obtain ⟨hne, hvalid⟩ := isValidChar_of_mem_lowerExpansions _ hmem
    refine .inr ⟨List.mem_append_left _ (List.mem_map_of_mem hmem), by simpa using hne, ?_⟩
    intro d hd
    obtain ⟨n, hn, rfl⟩ := List.mem_map.mp hd
    rw [toNat_ofNat (hvalid n hn)]
    exact List.mem_cons_of_mem _ (List.mem_append_left _ (List.mem_flatMap.mpr ⟨_, hmem, hn⟩))
  · split
    · next row hfind =>
      have hrow : row ∈ lowerRows := List.mem_of_find?_eq_some hfind
      have hholds : row.holds c.toNat = true := by
        have hfound := List.find?_some hfind
        exact hfound
      have hpoint : c.toNat ∈ row.points := CaseRow.mem_points hholds
      have hvalid : (row.move c.toNat).isValidChar :=
        CaseRow.isValidChar_move (lands_of_mem_lowerRows row hrow) hholds
      refine .inr ⟨List.mem_append_right _ (List.mem_flatMap.mpr ⟨row, hrow, hpoint⟩),
        List.cons_ne_nil _ _, ?_⟩
      intro d hd
      rw [List.mem_singleton.mp hd, show (Char.ofNat (c.toNat + row.offset).toNat).toNat =
        row.move c.toNat from toNat_ofNat hvalid]
      exact List.mem_append_right _ (List.mem_flatMap.mpr ⟨row, hrow, List.mem_map_of_mem hpoint⟩)
    · exact .inl rfl

lemma isBlank_eq_false_of_notMem {c : Char} (h : c.toNat ∉ blanks) : isBlank c = false :=
  Bool.eq_false_iff.mpr fun hc => h (mem_blanks hc)

/-- Text that stays in lower case, and is blank throughout or nowhere, as the character `c` is. -/
structure Settles (c : Char) (form : Text) : Prop where
  ne_nil : form ≠ []
  stays : ∀ d ∈ form, lowerForm d = [d]
  blank : ∀ d ∈ form, isBlank d = isBlank c

/-- Small letters settle what is not blank. -/
lemma settles_of_smalls {c : Char} {form : Text} (hc : isBlank c = false) (hne : form ≠ [])
    (hform : ∀ d ∈ form, d.toNat ∈ smalls) : Settles c form where
  ne_nil := hne
  stays d hd :=
    lowerForm_of_notMem fun hcapital =>
      disjoint_smalls (hform d hd) (List.mem_append_left _ hcapital)
  blank d hd := by
    rw [hc]
    exact isBlank_eq_false_of_notMem fun hblank =>
      disjoint_smalls (hform d hd) (List.mem_append_right _ hblank)

lemma settles_lowerForm (c : Char) : Settles c (lowerForm c) := by
  rcases lowerForm_cases c with hstays | ⟨hcapital, hne, hform⟩
  · rw [hstays]
    refine ⟨List.cons_ne_nil c [], fun d hd => ?_, fun d hd => ?_⟩
    · rw [List.mem_singleton.mp hd, hstays]
    · rw [List.mem_singleton.mp hd]
  · have hc : isBlank c = false :=
      isBlank_eq_false_of_notMem fun hblank => disjoint_capitals_blanks hcapital hblank
    exact settles_of_smalls hc hne hform

/-- Both forms of the sigma are small letters. -/
lemma settles_sigma (final : Bool) : Settles 'Σ' (if final then ['ς'] else ['σ']) := by
  have hform : ∀ d : Char, d.toNat ∈ smalls → Settles 'Σ' [d] := fun d hd =>
    settles_of_smalls (by decide) (List.cons_ne_nil d []) (List.forall_mem_singleton.mpr hd)
  cases final
  · exact hform 'σ' (by decide +kernel)
  · exact hform 'ς' (by decide +kernel)

/-! ## Texts -/

variable {text before : Text}

/-- Lower case settles one character after the other. -/
lemma exists_lowerAfter_cons (before : Text) (c : Char) (rest : Text) :
    ∃ form, Settles c form ∧
      lowerAfter before (c :: rest) = form ++ lowerAfter (c :: before) rest := by
  by_cases hsigma : c = 'Σ'
  · subst hsigma
    exact ⟨_, settles_sigma _, rfl⟩
  · refine ⟨lowerForm c, settles_lowerForm c, ?_⟩
    rw [lowerAfter, if_neg hsigma]

/-- What comes out of lower case stays. -/
lemma lowerForm_of_mem_lowerAfter (before text : Text) :
    ∀ d ∈ lowerAfter before text, lowerForm d = [d] := by
  induction text generalizing before with
  | nil => intro d hd; cases hd
  | cons c rest ih =>
    obtain ⟨form, hform, heq⟩ := exists_lowerAfter_cons before c rest
    rw [heq]
    intro d hd
    rcases List.mem_append.mp hd with hfirst | hrest
    · exact hform.stays d hfirst
    · exact ih (c :: before) d hrest

/-- A text of characters that stay is left as it is, wherever it stands. -/
lemma lowerAfter_of_stays (before : Text) (h : ∀ c ∈ text, lowerForm c = [c]) :
    lowerAfter before text = text := by
  induction text generalizing before with
  | nil => rfl
  | cons c rest ih =>
    have hc : lowerForm c = [c] := h c List.mem_cons_self
    have hsigma : c ≠ 'Σ' := by
      rintro rfl
      exact absurd hc (by decide)
    rw [lowerAfter, if_neg hsigma, hc, ih _ fun d hd => h d (List.mem_cons_of_mem c hd)]
    rfl

/-- A text begins with a slash in lower case only if it does, since no letter changes to one. -/
lemma head?_of_head?_lower (h : (lower text).head? = some '/') :
    text.head? = some '/' := by
  have hslash : '/'.toNat ∉ smalls := by decide +kernel
  cases text with
  | nil => cases h
  | cons c rest =>
    rw [lower, lowerAfter] at h
    by_cases hsigma : c = 'Σ'
    · rw [if_pos hsigma] at h
      split at h <;> cases h
    · rw [if_neg hsigma] at h
      rcases lowerForm_cases c with hstays | ⟨-, hne, hform⟩
      · rw [hstays] at h
        exact h
      · obtain ⟨d, more, hcons⟩ := List.exists_cons_of_ne_nil hne
        rw [hcons] at h
        have hd : d = '/' := Option.some.inj h
        have hsmall : d.toNat ∈ smalls := hform d (by rw [hcons]; exact List.mem_cons_self)
        rw [hd] at hsmall
        exact absurd hsmall hslash

/-- A text in lower case stays as it is. -/
theorem lower_lower (text : Text) : lower (lower text) = lower text :=
  lowerAfter_of_stays [] (lowerForm_of_mem_lowerAfter [] text)

/-- Nothing is lost altogether. -/
lemma lowerAfter_eq_nil_iff : lowerAfter before text = [] ↔ text = [] := by
  cases text with
  | nil => simp [lowerAfter]
  | cons c rest =>
    obtain ⟨form, hform, heq⟩ := exists_lowerAfter_cons before c rest
    simp [heq, hform.ne_nil]

/-- A text begins with a blank in lower case exactly if it does. -/
lemma isBlank_head?_lowerAfter :
    ∀ d ∈ (lowerAfter before text).head?, ∃ c ∈ text.head?, isBlank d = isBlank c := by
  cases text with
  | nil => intro d hd; cases hd
  | cons c rest =>
    obtain ⟨form, hform, heq⟩ := exists_lowerAfter_cons before c rest
    obtain ⟨first, more, rfl⟩ := List.exists_cons_of_ne_nil hform.ne_nil
    rw [heq]
    rintro d ⟨⟩
    exact ⟨c, rfl, hform.blank first List.mem_cons_self⟩

/-- A text ends with a blank in lower case exactly if it does. -/
lemma isBlank_getLast?_lowerAfter :
    ∀ d ∈ (lowerAfter before text).getLast?, ∃ c ∈ text.getLast?, isBlank d = isBlank c := by
  induction text generalizing before with
  | nil => intro d hd; cases hd
  | cons c rest ih =>
    obtain ⟨form, hform, heq⟩ := exists_lowerAfter_cons before c rest
    rw [heq]
    intro d hd
    cases rest with
    | nil =>
      rw [lowerAfter, List.append_nil] at hd
      exact ⟨c, rfl, hform.blank d (List.mem_of_getLast? hd)⟩
    | cons next rest =>
      have hne : lowerAfter (c :: before) (next :: rest) ≠ [] :=
        lowerAfter_eq_nil_iff.not.mpr (List.cons_ne_nil next rest)
      rw [List.getLast?_append_of_ne_nil _ hne] at hd
      obtain ⟨last, hlast, hblank⟩ := ih d hd
      exact ⟨last, by rw [List.getLast?_cons_cons]; exact hlast, hblank⟩

/-- What has no blanks at its ends has none there in lower case. -/
theorem strip_lower_strip (text : Text) : strip (lower (strip text)) = lower (strip text) := by
  apply strip_of_ends
  · intro d hd
    obtain ⟨c, hc, hblank⟩ := isBlank_head?_lowerAfter d hd
    rw [hblank, isBlank_head?_strip text c hc]
  · intro d hd
    obtain ⟨c, hc, hblank⟩ := isBlank_getLast?_lowerAfter d hd
    rw [hblank, isBlank_getLast?_strip text c hc]

end Subshell.Text
