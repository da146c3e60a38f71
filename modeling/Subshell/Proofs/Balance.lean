import Mathlib.Order.Bounds.Defs
import Subshell.Proofs.Scan
/-!
# The limit of the reader

How many markers are open after some tokens is a running balance (`openMarkers`), and a limit is
exceeded at the first marker that is opened inside too many others (`FirstBeyond`). The reader
counts the interpolations that it has descended into, and a command has the depth of its deepest
interpolation. All three come to the same:

* `scan_some` compares the scans with and without a limit. They part only at a marker beyond the
  limit, and only where the scan without one has not stopped before;
* `depth_isGreatest` is the depth of a command in terms of the balance;
* `read_some` is the comparison for `Nesting.read`.
-/

namespace Subshell

/-! ## Open markers -/

/-- The number of open markers after a token. -/
def Token.balance (opened : Nat) : Token → Nat
  | opening => opened + 1
  | closing => opened - 1
  | escapedOpening | escaped _ | dangling | plain _ => opened

/-- A token that is no marker opens and closes nothing. -/
lemma Token.balance_of_ne {opened : Nat} {token : Token} (hopening : token ≠ .opening)
    (hclosing : token ≠ .closing) : token.balance opened = opened := by
  cases token with
  | opening => exact absurd rfl hopening
  | closing => exact absurd rfl hclosing
  | _ => rfl

/-- Only an opening marker inside enough others leads beyond a limit. -/
lemma Token.balance_le {limit opened : Nat} {token : Token} (hopened : opened ≤ limit)
    (h : ¬(token = .opening ∧ opened = limit)) : token.balance opened ≤ limit := by
  cases token with
  | opening =>
    have hne : opened ≠ limit := fun heq => h ⟨rfl, heq⟩
    show opened + 1 ≤ limit
    omega
  | closing => exact Nat.le_trans (Nat.sub_le opened 1) hopened
  | _ => exact hopened

/-- The number of open markers after some tokens. -/
def openMarkers (opened : Nat) (ts : List Token) : Nat := ts.foldl Token.balance opened

/-- The tokens, which begin at a position, have a marker at another one that is opened inside
`limit` others, and none is opened inside more before it. -/
def FirstBeyond (limit opened position : Nat) (ts : List Token) (beyond : Nat) : Prop :=
  ∃ before after, ts = before ++ .opening :: after ∧
    position + (before.flatMap Token.source).length = beyond ∧
    openMarkers opened before = limit ∧ ∀ part, part <+: before → openMarkers opened part ≤ limit

variable {limit opened position beyond total : Nat} {token : Token} {ts : List Token}

/-- What holds of all fronts of some tokens holds of no tokens and of those behind the first. -/
lemma forall_prefix_cons {p : List Token → Prop} :
    (∀ part, part <+: token :: ts → p part) ↔ p [] ∧ ∀ part, part <+: ts → p (token :: part) := by
  constructor
  · intro h
    exact ⟨h [] List.nil_prefix, fun part hpart => h _ (List.cons_prefix_cons.mpr ⟨rfl, hpart⟩)⟩
  · rintro ⟨hnil, hcons⟩ part hpart
    obtain rfl | ⟨rest, rfl, hrest⟩ := List.prefix_cons_iff.mp hpart
    · exact hnil
    · exact hcons rest hrest

/-- The characters of some tokens come after those of the token in front of them. -/
lemma length_flatMap_source_cons (position : Nat) (token : Token) (ts : List Token) :
    position + ((token :: ts).flatMap Token.source).length =
      position + token.source.length + (ts.flatMap Token.source).length := by
  rw [List.flatMap_cons, List.length_append, Nat.add_assoc]

namespace FirstBeyond

/-- Nothing is opened without tokens. -/
lemma not_nil : ¬FirstBeyond limit opened position [] beyond := by
  rintro ⟨before, after, h, -⟩
  exact List.append_ne_nil_of_right_ne_nil before (List.cons_ne_nil _ after) h.symm

lemma le (h : FirstBeyond limit opened position ts beyond) : position ≤ beyond := by
  obtain ⟨before, after, -, hbeyond, -⟩ := h
  omega

/-- The marker is a part of the text. -/
lemma lt (h : FirstBeyond limit opened position ts beyond) :
    beyond < position + (ts.flatMap Token.source).length := by
  obtain ⟨before, after, rfl, rfl, -⟩ := h
  rw [List.flatMap_append, List.flatMap_cons, List.length_append, List.length_append]
  have hmarker : Token.opening.source.length = 2 := rfl
  omega

/-- The first token is the marker, or the marker comes after it. -/
lemma cons_iff : FirstBeyond limit opened position (token :: ts) beyond ↔
    token = .opening ∧ opened = limit ∧ beyond = position ∨
      opened ≤ limit ∧ FirstBeyond limit (token.balance opened) (position + token.source.length) ts
        beyond := by
  constructor
  · rintro ⟨_ | ⟨first, before⟩, after, hts, hbeyond, hbefore, hparts⟩
    · cases hts
      exact .inl ⟨rfl, hbefore, hbeyond.symm⟩
    · cases hts
      obtain ⟨hnil, hparts⟩ := forall_prefix_cons.mp hparts
      refine .inr ⟨hnil, before, after, rfl, ?_, hbefore, hparts⟩
      rw [← hbeyond, length_flatMap_source_cons]
  · rintro (⟨rfl, hopened, rfl⟩ | ⟨hle, before, after, rfl, rfl, hbefore, hparts⟩)
    · refine ⟨[], ts, rfl, rfl, hopened, ?_⟩
      intro part hpart
      rw [List.prefix_nil.mp hpart]
      exact Nat.le_of_eq hopened
    · exact ⟨token :: before, after, rfl, length_flatMap_source_cons _ _ _, hbefore,
        forall_prefix_cons.mpr ⟨hle, hparts⟩⟩

/-- Any other token is passed over. -/
lemma cons_iff_of_not (hopened : opened ≤ limit) (h : ¬(token = .opening ∧ opened = limit)) :
    FirstBeyond limit opened position (token :: ts) beyond ↔
      FirstBeyond limit (token.balance opened) (position + token.source.length) ts beyond := by
  rw [cons_iff]
  constructor
  · rintro (⟨htoken, hlimit, -⟩ | ⟨-, hlater⟩)
    · exact absurd ⟨htoken, hlimit⟩ h
    · exact hlater
  · intro hlater
    exact .inr ⟨hopened, hlater⟩

end FirstBeyond

/-- Never more than `limit` markers are open exactly if none is opened inside `limit` others. -/
theorem openMarkers_le_iff (hopened : opened ≤ limit) (position : Nat) :
    (∀ part, part <+: ts → openMarkers opened part ≤ limit) ↔
      ∀ beyond, ¬FirstBeyond limit opened position ts beyond := by
  induction ts generalizing opened position with
  | nil =>
    refine iff_of_true ?_ fun _ => FirstBeyond.not_nil
    intro part hpart
    rw [List.prefix_nil.mp hpart]
    exact hopened
  | cons token ts ih =>
    by_cases hfull : token = .opening ∧ opened = limit
    · obtain ⟨rfl, rfl⟩ := hfull
      refine iff_of_false ?_ ?_
      · intro h
        have hle : opened + 1 ≤ opened := h [.opening] ⟨ts, rfl⟩
        omega
      · intro h
        exact h position (FirstBeyond.cons_iff.mpr (.inl ⟨rfl, rfl, rfl⟩))
    · have hle : token.balance opened ≤ limit := Token.balance_le hopened hfull
      rw [forall_prefix_cons]
      simp only [FirstBeyond.cons_iff_of_not hopened hfull]
      rw [← ih hle (position + token.source.length)]
      exact and_iff_right hopened

/-! ## The scan within a limit -/

/-- Where a scan of a text of `total` characters stops: at the end of the text if it finds nothing
or a marker that is not closed, and otherwise at what it finds. -/
def stopAt (total : Nat) : Option (ParseCause × Nat) → Nat
  | none | some (.unclosed, _) => total
  | some (_, position) => position

variable {stack : List Nat}

/-- A scan does not go back. -/
lemma position_le_stopAt (htotal : position + (ts.flatMap Token.source).length ≤ total) :
    position ≤ stopAt total (scan none stack position ts) := by
  fun_induction scan none stack position ts with
  | case1 | case2 => exact htotal
  | case3 _ _ _ h => cases h
  | case4 stack position rest _ ih =>
    have hrest : position + 2 + (rest.flatMap Token.source).length ≤ total := by
      rw [length_flatMap_source_cons] at htotal
      exact htotal
    exact Nat.le_trans (Nat.le_add_right position 2) (ih hrest)
  | case5 | case7 => exact Nat.le_refl _
  | case6 top stack position rest ih =>
    rw [length_flatMap_source_cons] at htotal
    exact Nat.le_trans (Nat.le_add_right position 1) (ih htotal)
  | case8 stack position token rest _ _ _ _ ih =>
    rw [length_flatMap_source_cons] at htotal
    exact Nat.le_trans (Nat.le_add_right position _) (ih htotal)

/-- The scans with and without a limit part at the first marker beyond the limit, and only where the
scan without one has not stopped before. -/
theorem scan_some (hstack : stack.length ≤ limit)
    (htotal : position + (ts.flatMap Token.source).length ≤ total) :
    (∃ beyond, FirstBeyond limit stack.length position ts beyond ∧
      beyond < stopAt total (scan none stack position ts) ∧
      scan (some limit) stack position ts = some (.tooDeep, beyond)) ∨
    (∀ beyond, FirstBeyond limit stack.length position ts beyond →
      stopAt total (scan none stack position ts) ≤ beyond) ∧
      scan (some limit) stack position ts = scan none stack position ts := by
  fun_induction scan none stack position ts with
  | case1 | case2 => exact .inr ⟨fun _ h => absurd h FirstBeyond.not_nil, rfl⟩
  | case3 _ _ _ h => cases h
  | case4 stack position rest _ ih =>
    rw [length_flatMap_source_cons] at htotal
    rw [scan]
    by_cases hfull : stack.length = limit
    · rw [if_pos (congrArg some hfull.symm)]
      refine .inl ⟨position, FirstBeyond.cons_iff.mpr (.inl ⟨rfl, hfull, rfl⟩), ?_, rfl⟩
      exact Nat.lt_of_lt_of_le (Nat.lt_add_of_pos_right Nat.two_pos) (position_le_stopAt htotal)
    · have hroom : limit ≠ stack.length := fun h => hfull h.symm
      rw [if_neg fun h => hroom (Option.some.inj h)]
      simp only [FirstBeyond.cons_iff_of_not hstack fun h => hfull h.2]
      exact ih (Nat.lt_of_le_of_ne hstack hfull) htotal
  | case5 | case7 => exact .inr ⟨fun _ h => h.le, by rw [scan]⟩
  | case6 top stack position rest ih =>
    have hclosing : Token.closing ≠ .opening := Token.noConfusion
    have hpassed : ∀ beyond, FirstBeyond limit (top :: stack).length position (.closing :: rest)
        beyond ↔ FirstBeyond limit stack.length (position + 1) rest beyond :=
      fun _ => FirstBeyond.cons_iff_of_not hstack fun h => hclosing h.1
    rw [length_flatMap_source_cons] at htotal
    rw [scan]
    simp only [hpassed]
    exact ih (Nat.le_of_succ_le hstack) htotal
  | case8 stack position token rest hopening hnil hcons hdangling ih =>
    have hclosing : token ≠ .closing := by
      rcases stack with - | ⟨top, stack⟩
      · exact hnil rfl
      · exact hcons top stack rfl
    rw [length_flatMap_source_cons] at htotal
    rw [scan_token hopening hclosing hdangling]
    simp only [FirstBeyond.cons_iff_of_not hstack fun h => hopening h.1,
      Token.balance_of_ne hopening hclosing]
    exact ih hstack htotal

/-! ## Reading within a limit -/

variable {text : Text} {c : Command}

/-- The comparison for the tokens of a text. -/
lemma scan_tokens_some (limit : Nat) (text : Text) :
    (∃ beyond, FirstBeyond limit 0 0 (tokens text) beyond ∧
      beyond < stopAt text.length (scan none [] 0 (tokens text)) ∧
      scan (some limit) [] 0 (tokens text) = some (.tooDeep, beyond)) ∨
    (∀ beyond, FirstBeyond limit 0 0 (tokens text) beyond →
      stopAt text.length (scan none [] 0 (tokens text)) ≤ beyond) ∧
      scan (some limit) [] 0 (tokens text) = scan none [] 0 (tokens text) := by
  have hstack : ([] : List Nat).length ≤ limit := Nat.zero_le limit
  have htotal : 0 + ((tokens text).flatMap Token.source).length = text.length := by
    rw [flatMap_source_tokens, Nat.zero_add]
  exact scan_some hstack (Nat.le_of_eq htotal)

/-- Nothing is found in a text exactly if it is read. -/
lemma scan_eq_none_iff {bound : Option Nat} :
    scan bound [] 0 (tokens text) = none ↔ ∃ c, Command.parse bound text = .ok c := by
  rw [Command.scan_eq_parse]
  rcases Command.parse bound text with fault | c <;> simp

/-- Where nothing is found without a limit, nothing is found within one exactly if no marker is
beyond it. -/
lemma scan_some_eq_none_iff (h : scan none [] 0 (tokens text) = none) :
    scan (some limit) [] 0 (tokens text) = none ↔
      ∀ beyond, ¬FirstBeyond limit 0 0 (tokens text) beyond := by
  obtain ⟨beyond, hbeyond, -, hscan⟩ | ⟨hstop, hscan⟩ := scan_tokens_some limit text
  · rw [hscan]
    exact iff_of_false (fun h => nomatch h) fun hnone => hnone beyond hbeyond
  · rw [hscan, h]
    refine iff_of_true rfl fun beyond hbeyond => ?_
    have hlt := hbeyond.lt
    rw [flatMap_source_tokens, Nat.zero_add] at hlt
    have hle := hstop beyond hbeyond
    rw [h] at hle
    exact Nat.not_lt_of_le hle hlt

namespace Command

/-- A text is read within a limit exactly if it is read without one as a command that is not too
deep, and it is read as the same command. -/
theorem parse_some_eq_ok :
    parse (some limit) text = .ok c ↔ parse none text = .ok c ∧ c.depth ≤ limit := by
  have hlooser : Looser (some limit) none := fun _ h => nomatch h
  constructor
  · intro h
    obtain ⟨rest, hdeep⟩ | hsame := parse_of_looser hlooser text
    · rw [h] at hdeep
      cases hdeep
    · exact ⟨hsame.trans h, depth_of_front (parse_eq_ok.mp h) limit rfl⟩
  · rintro ⟨h, hdepth⟩
    have hfront : front none text = .ok (c, []) := parse_eq_ok.mp h
    have hmerged : c.merged = c := (normal_of_front hfront).merged
    have hlimited : front (some limit) text = .ok (c.merged, []) := by
      refine front_of_writes (writes_of_front hfront) (.inl rfl) ?_
      intro n hn
      cases hn
      exact hdepth
    rw [hmerged] at hlimited
    exact parse_eq_ok.mpr hlimited

/-- A command is within a limit exactly if never more markers are open in its text. -/
lemma depth_le_iff (h : parse none text = .ok c) (limit : Nat) :
    c.depth ≤ limit ↔ ∀ part, part <+: tokens text → openMarkers 0 part ≤ limit := by
  have hscan : scan none [] 0 (tokens text) = none := scan_eq_none_iff.mpr ⟨c, h⟩
  rw [openMarkers_le_iff (Nat.zero_le limit) 0, ← scan_some_eq_none_iff hscan, scan_eq_none_iff]
  constructor
  · intro hdepth
    exact ⟨c, parse_some_eq_ok.mpr ⟨h, hdepth⟩⟩
  · rintro ⟨d, hd⟩
    obtain ⟨hparse, hdepth⟩ := parse_some_eq_ok.mp hd
    rw [h] at hparse
    cases hparse
    exact hdepth

/-- The depth of a command is the greatest number of markers that are open in its text at once. -/
theorem depth_isGreatest (h : parse none text = .ok c) :
    IsGreatest {n | ∃ part, part <+: tokens text ∧ openMarkers 0 part = n} c.depth := by
  constructor
  · by_contra hnone
    -- otherwise a smaller limit would do
    have hless : ∀ part, part <+: tokens text → openMarkers 0 part ≤ c.depth - 1 := by
      intro part hpart
      have hle := (depth_le_iff h c.depth).mp (Nat.le_refl _) part hpart
      have hne : openMarkers 0 part ≠ c.depth := fun heq => hnone ⟨part, hpart, heq⟩
      omega
    have hdepth : c.depth ≤ c.depth - 1 := (depth_le_iff h _).mpr hless
    have hpos : c.depth ≠ 0 := fun hzero => hnone ⟨[], List.nil_prefix, hzero.symm⟩
    omega
  · rintro n ⟨part, hpart, rfl⟩
    exact (depth_le_iff h c.depth).mp (Nat.le_refl _) part hpart

end Command

/-- Without a limit nothing is too deep. -/
lemma cause_ne_tooDeep_of_scan {cause : ParseCause} {found : Nat}
    (h : scan none stack position ts = some (cause, found)) : cause ≠ .tooDeep := by
  fun_induction scan none stack position ts with
  | case1 => cases h
  | case2 | case5 | case7 => cases h; exact ParseCause.noConfusion
  | case3 _ _ _ hnone => cases hnone
  | case4 _ _ _ _ ih | case6 _ _ _ _ ih | case8 _ _ _ _ _ _ _ _ ih => exact ih h

/-- What else is found is reported without regard to the limit. -/
lemma finding_of_ne (text : Text) (position : Nat) {cause : ParseCause} (h : cause ≠ .tooDeep) :
    ∃ malformed, ∀ bound, finding bound text position cause = .malformed malformed := by
  cases cause with
  | tooDeep => exact absurd rfl h
  | unclosed | stray | dangling => exact ⟨_, fun _ => rfl⟩

section Read

variable {σ : Type} (r : Recorded σ) {bound : Option Nat}

lemma read_eq_ok_iff :
    (((⟨bound, none⟩ : Nesting).read text).exec r).1 = .ok c ↔
      Command.parse bound text = .ok c := by
  rw [read_fst]
  rcases Command.parse bound text with fault | d
  · exact iff_of_false (fun h => nomatch h) fun h => nomatch h
  · constructor
    · intro h
      cases h
      rfl
    · intro h
      cases h
      rfl

/-- A text in which a scan finds something is refused with that. -/
lemma read_of_scan {cause : ParseCause}
    (h : scan bound [] 0 (tokens text) = some (cause, position)) :
    (((⟨bound, none⟩ : Nesting).read text).exec r).1 =
      .error (finding bound text position cause) := by
  obtain ⟨fault, hparse, rfl, rfl⟩ := scan_eq_some_iff.mp h
  obtain ⟨hsuffix, -⟩ := Command.rest_of_parse_error hparse
  rw [read_fst, hparse, ← toFault_eq_finding hsuffix]
  rfl

/-- A command that is too deep is refused at the first marker beyond the limit. -/
lemma read_of_lt_depth (h : Command.parse none text = .ok c) (hdepth : limit < c.depth) :
    ∃ beyond, FirstBeyond limit 0 0 (tokens text) beyond ∧
      (((⟨some limit, none⟩ : Nesting).read text).exec r).1 =
        .error (finding (some limit) text beyond .tooDeep) := by
  obtain ⟨beyond, hbeyond, -, hscan⟩ | ⟨-, hscan⟩ := scan_tokens_some limit text
  · exact ⟨beyond, hbeyond, read_of_scan r hscan⟩
  · -- otherwise the text would be read within the limit
    rw [scan_eq_none_iff.mpr ⟨c, h⟩] at hscan
    obtain ⟨d, hd⟩ := scan_eq_none_iff.mp hscan
    obtain ⟨hsame, hle⟩ := Command.parse_some_eq_ok.mp hd
    rw [h] at hsame
    cases hsame
    omega

/-- What is refused without a limit is refused for the same fault within it, unless a marker beyond
the limit comes first. -/
lemma read_of_parse_error {found : ParseFault} (h : Command.parse none text = .error found)
    (limit : Nat) :
    let limited := (((⟨some limit, none⟩ : Nesting).read text).exec r).1
    let unlimited := (((⟨none, none⟩ : Nesting).read text).exec r).1
    let stop := stopAt text.length (some (found.cause, found.position text))
    (∃ malformed, unlimited = .error (.malformed malformed)) ∧
      ((∃ beyond < stop, FirstBeyond limit 0 0 (tokens text) beyond ∧
          limited = .error (finding (some limit) text beyond .tooDeep)) ∨
        (∀ beyond, FirstBeyond limit 0 0 (tokens text) beyond → stop ≤ beyond) ∧
          limited = unlimited) := by
  intro limited unlimited stop
  have hscan : scan none [] 0 (tokens text) = some (found.cause, found.position text) :=
    scan_eq_some_iff.mpr ⟨found, h, rfl, rfl⟩
  obtain ⟨malformed, hmalformed⟩ :=
    finding_of_ne text (found.position text) (cause_ne_tooDeep_of_scan hscan)
  have hunlimited : unlimited = .error (.malformed malformed) := by
    rw [← hmalformed none]
    exact read_of_scan r hscan
  refine ⟨⟨malformed, hunlimited⟩, ?_⟩
  have hcompare := scan_tokens_some limit text
  rw [hscan] at hcompare
  obtain ⟨beyond, hbeyond, hstop, hdeep⟩ | ⟨hstop, hsame⟩ := hcompare
  · exact .inl ⟨beyond, hstop, hbeyond, read_of_scan r hdeep⟩
  · refine .inr ⟨hstop, ?_⟩
    rw [hunlimited, ← hmalformed (some limit)]
    exact read_of_scan r hsame

end Read

/-- A limit on the reader is a limit on the depth of what is read, which is the greatest number of
markers that are open at once. Within it a text is read as without one. Beyond it, a text is refused
at the first marker that is opened inside too many others. What is refused without a limit is
refused for the same fault, unless there is such a marker before the point where the reader
stops. -/
theorem read_some {σ : Type} (limit : Nat) (text : Text) (r : Recorded σ) :
    let limited := (((⟨some limit, none⟩ : Nesting).read text).exec r).1
    let unlimited := (((⟨none, none⟩ : Nesting).read text).exec r).1
    (∀ c, limited = .ok c ↔ unlimited = .ok c ∧ c.depth ≤ limit) ∧
    (∀ c, unlimited = .ok c →
      IsGreatest {n | ∃ part, part <+: tokens text ∧ openMarkers 0 part = n} c.depth ∧
      (limit < c.depth → ∃ beyond, FirstBeyond limit 0 0 (tokens text) beyond ∧
        limited = .error (finding (some limit) text beyond .tooDeep))) ∧
    ∀ found, Command.parse none text = .error found →
      let stop := stopAt text.length (some (found.cause, found.position text))
      (∃ malformed, unlimited = .error (.malformed malformed)) ∧
      ((∃ beyond < stop, FirstBeyond limit 0 0 (tokens text) beyond ∧
          limited = .error (finding (some limit) text beyond .tooDeep)) ∨
        (∀ beyond, FirstBeyond limit 0 0 (tokens text) beyond → stop ≤ beyond) ∧
          limited = unlimited) := by
  intro limited unlimited
  refine ⟨fun c => ?_, fun c hc => ?_, fun found hfound => read_of_parse_error r hfound limit⟩
  · rw [read_eq_ok_iff, read_eq_ok_iff]
    exact Command.parse_some_eq_ok
  · have hparse : Command.parse none text = .ok c := (read_eq_ok_iff r).mp hc
    exact ⟨Command.depth_isGreatest hparse, read_of_lt_depth r hparse⟩

/-- A marker beyond the limit is reported although a later one is never closed. -/
example : scan (some 1) [] 0 (tokens "$(a$(b))$(".toList) = some (.tooDeep, 3) ∧
    scan none [] 0 (tokens "$(a$(b))$(".toList) = some (.unclosed, 8) := by decide

end Subshell
