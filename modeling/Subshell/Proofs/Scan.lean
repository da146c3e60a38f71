import Subshell.Command.Reading
import Subshell.Proofs.RoundTrip
/-!
# The first fault of a text

The reader descends into interpolations and may find a fault at any depth. `scan` does not descend:
it goes over the tokens of a text once, keeping the positions of the markers that are open on a
stack, and stops at the first fault. Both find the same.

* `scanAt_of_front_error` and `scanAt_of_front_ok` follow the reader with the scan: what the reader
  reads as a command leaves the stack of the scan as it was;
* `scan_eq_parse` is the comparison for whole texts;
* `read_error_iff_scan` words it for `Nesting.read`, with the message and the place of each fault.
-/

namespace Subshell

/-! ## A scan with a stack -/

/-- What is found first by going over tokens from a position on: a cause and its position. The stack
holds the positions of the markers that are open, the latest first. -/
def scan (limit : Option Nat) :
    (opened : List Nat) → (position : Nat) → List Token → Option (ParseCause × Nat)
  | [], _, [] => none
  | top :: _, _, [] => some (.unclosed, top)
  | opened, position, .opening :: rest =>
    -- the limit is on the markers that are open already
    if limit = some opened.length then some (.tooDeep, position)
    else scan limit (position :: opened) (position + 2) rest
  | [], position, .closing :: _ => some (.stray, position)
  | _ :: opened, position, .closing :: rest => scan limit opened (position + 1) rest
  | _, position, .dangling :: _ => some (.dangling, position)
  | opened, position, token :: rest => scan limit opened (position + token.source.length) rest

/-- What is found first at the end of a text of `total` characters. -/
def scanAt (limit : Option Nat) (opened : List Nat) (total : Nat) (s : Text) :
    Option (ParseCause × Nat) :=
  scan limit opened (total - s.length) (tokens s)

variable {limit : Option Nat} {opened : List Nat} {total : Nat}

lemma scanAt_nil : scanAt limit [] total [] = none := by
  simp [scanAt, tokens, scan]

lemma scanAt_nil_cons (top : Nat) :
    scanAt limit (top :: opened) total [] = some (.unclosed, top) := by
  simp [scanAt, tokens, scan]

lemma scanAt_opening {rest : Text} (hs : ('$' :: '(' :: rest).length ≤ total) :
    scanAt limit opened total ('$' :: '(' :: rest) =
      if limit = some opened.length then
        some (.tooDeep, total - ('$' :: '(' :: rest).length)
      else scanAt limit ((total - ('$' :: '(' :: rest).length) :: opened) total rest := by
  have hposition : total - ('$' :: '(' :: rest).length + 2 = total - rest.length := by
    simp only [List.length_cons] at hs ⊢
    omega
  unfold scanAt
  rw [tokens, scan, hposition]

lemma scanAt_closing_nil (rest : Text) :
    scanAt limit [] total (')' :: rest) = some (.stray, total - (')' :: rest).length) := by
  rw [scanAt, tokens, scan]

lemma scanAt_closing {rest : Text} (top : Nat) (hs : (')' :: rest).length ≤ total) :
    scanAt limit (top :: opened) total (')' :: rest) = scanAt limit opened total rest := by
  have hposition : total - (')' :: rest).length + 1 = total - rest.length := by
    simp only [List.length_cons] at hs ⊢
    omega
  unfold scanAt
  rw [tokens, scan, hposition]

lemma scanAt_dangling : scanAt limit opened total ['\\'] = some (.dangling, total - 1) := by
  rw [scanAt, tokens, scan]
  rfl

/-- The scan passes over a token that stands for itself. -/
lemma scan_token {position : Nat} {token : Token} {ts : List Token} (hopening : token ≠ .opening)
    (hclosing : token ≠ .closing) (hdangling : token ≠ .dangling) :
    scan limit opened position (token :: ts) =
      scan limit opened (position + token.source.length) ts := by
  rw [scan]
  · exact hopening
  · exact hdangling
  · exact fun _ => hclosing
  · exact fun _ _ _ => hclosing

/-- The same at the end of a text. -/
lemma scanAt_token {s rest : Text} {token : Token} (ht : tokens s = token :: tokens rest)
    (hstands : token ≠ .opening ∧ token ≠ .closing ∧ token ≠ .dangling)
    (hlength : s.length = token.source.length + rest.length) (hs : s.length ≤ total) :
    scanAt limit opened total s = scanAt limit opened total rest := by
  have hposition : total - s.length + token.source.length = total - rest.length := by omega
  rw [scanAt, ht, scan_token hstands.1 hstands.2.1 hstands.2.2, hposition, scanAt]

/-- The scan passes over a spelling. -/
lemma scanAt_spelled {s text rest : Text} (h : Spelling s text rest) (hs : s.length ≤ total) :
    scanAt limit opened total s = scanAt limit opened total rest := by
  have hmarker : ∀ after : Text, ('\\' :: '$' :: '(' :: after).length ≤ total →
      scanAt limit opened total ('\\' :: '$' :: '(' :: after) = scanAt limit opened total after :=
    fun after => scanAt_token (show _ = .escapedOpening :: tokens after by rw [tokens]) (by simp)
      (by simp only [Token.source, List.length_cons, List.length_nil]; omega)
  have hplain : ∀ {c : Char} {after : Text}, c ≠ '\\' → c ≠ ')' → opens (c :: after) = false →
      (c :: after).length ≤ total →
      scanAt limit opened total (c :: after) = scanAt limit opened total after :=
    fun hb hc ho => scanAt_token (tokens_plain hb hc ho) (by simp)
      (by simp only [Token.source, List.length_cons, List.length_nil]; omega)
  cases h with
  | marker => exact hmarker rest hs
  | plain hb hc ho => exact hplain hb hc ho hs
  | escaped c =>
    by_cases ho : opens (c :: rest) = true
    · -- the scan takes the marker as a whole, and would also take the parenthesis by itself
      obtain ⟨rfl, hrest⟩ := (opens_cons c rest).mp ho
      obtain ⟨after, rfl⟩ := List.head?_eq_some_iff.mp hrest
      have hparen : ('(' :: after).length ≤ total := by
        simp only [List.length_cons] at hs ⊢
        omega
      rw [hmarker after hs, hplain (by decide) (by decide) (by simp [opens]) hparen]
    · exact scanAt_token (tokens_escaped (Bool.eq_false_iff.mpr ho)) (by simp)
        (by simp only [Token.source, List.length_cons, List.length_nil]; omega) hs

/-! ## The reader and the scan -/

namespace Command

/-- The room that the reader has left when some markers are open. -/
lemma room_eq_zero_iff (hopened : ∀ n ∈ limit, opened.length ≤ n) :
    limit.map (· - opened.length) = some 0 ↔ limit = some opened.length := by
  cases limit with
  | none => simp
  | some n =>
    have := hopened n rfl
    simp only [Option.map_some, Option.some.injEq]
    omega

lemma map_room (limit : Option Nat) (opened : List Nat) (position : Nat) :
    (limit.map (· - opened.length)).map (· - 1) = limit.map (· - (position :: opened).length) := by
  rw [Option.map_map]
  rfl

lemma opened_le (hopened : ∀ n ∈ limit, opened.length ≤ n) (hlimit : limit ≠ some opened.length)
    (position : Nat) : ∀ n ∈ limit, (position :: opened).length ≤ n := by
  intro n hn
  have hle := hopened n hn
  have hne : n ≠ opened.length := by
    intro heq
    apply hlimit
    rw [← heq]
    exact hn
  show opened.length + 1 ≤ n
  omega

/-- What is read as a command leaves the stack of the scan as it was. -/
theorem scanAt_of_front_ok {s left : Text} {c : Command} (hs : s.length ≤ total)
    (hopened : ∀ n ∈ limit, opened.length ≤ n)
    (h : front (limit.map (· - opened.length)) s = .ok (c, left)) :
    scanAt limit opened total s = scanAt limit opened total left := by
  induction s using reading_induction generalizing opened c left with
  | nil => rw [front_nil] at h; cases h; rfl
  | closing rest => rw [front_closing] at h; cases h; rfl
  | dangling => rw [front_dangling] at h; cases h
  | spelled s text rest hspelled ih =>
    obtain ⟨after, hafter, -⟩ := (front_spelled_eq_ok hspelled).mp h
    rw [scanAt_spelled hspelled hs]
    exact ih (by have := hspelled.length_lt; omega) hopened hafter
  | opening rest ih =>
    obtain ⟨hroom, inner, mid, after, hinner, hafter, -⟩ := front_opening_eq_ok.mp h
    rw [Ne, room_eq_zero_iff hopened] at hroom
    rw [map_room limit opened (total - ('$' :: '(' :: rest).length)] at hinner
    have hrest : rest.length ≤ total := by
      simp only [List.length_cons] at hs
      omega
    have hclosing : (')' :: mid).length ≤ total :=
      Nat.le_trans (front_suffix hinner).length_le hrest
    have hmid : mid.length ≤ total := Nat.le_trans (Nat.le_succ _) hclosing
    -- the position of the marker is put on the stack and taken off again
    rw [scanAt_opening hs, if_neg hroom,
      ih rest (Nat.le_refl _) hrest (opened_le hopened hroom _) hinner, scanAt_closing _ hclosing]
    exact ih mid (length_of_front_closing hinner) hmid hopened hafter

/-- The scan finds the fault that keeps a command from being read. -/
theorem scanAt_of_front_error {s : Text} {fault : ParseFault} (hs : s.length ≤ total)
    (hopened : ∀ n ∈ limit, opened.length ≤ n)
    (h : front (limit.map (· - opened.length)) s = .error fault) :
    scanAt limit opened total s = some (fault.cause, total - fault.rest.length) := by
  induction s using reading_induction generalizing opened with
  | nil => rw [front_nil] at h; cases h
  | closing rest => rw [front_closing] at h; cases h
  | dangling => rw [front_dangling] at h; cases h; exact scanAt_dangling
  | spelled s text rest hspelled ih =>
    rw [scanAt_spelled hspelled hs]
    exact ih (by have := hspelled.length_lt; omega) hopened ((front_spelled_eq_error hspelled).mp h)
  | opening rest ih =>
    have hrest : rest.length ≤ total := by
      simp only [List.length_cons] at hs
      omega
    rw [scanAt_opening hs]
    obtain ⟨hroom, rfl⟩ | ⟨hroom, hcases⟩ := cases_of_front_opening h
    · rw [if_pos ((room_eq_zero_iff hopened).mp hroom)]
    · rw [Ne, room_eq_zero_iff hopened] at hroom
      have hopened' := opened_le hopened hroom (total - ('$' :: '(' :: rest).length)
      rw [if_neg hroom]
      rw [map_room limit opened (total - ('$' :: '(' :: rest).length)] at hcases
      obtain hinner | ⟨inner, hinner, rfl⟩ | ⟨inner, mid, hinner, hafter⟩ := hcases
      · exact ih rest (Nat.le_refl _) hrest hopened' hinner
      · rw [scanAt_of_front_ok hrest hopened' hinner, scanAt_nil_cons]
      · have hclosing : (')' :: mid).length ≤ total :=
          Nat.le_trans (front_suffix hinner).length_le hrest
        have hmid : mid.length ≤ total := Nat.le_trans (Nat.le_succ _) hclosing
        rw [scanAt_of_front_ok hrest hopened' hinner, scanAt_closing _ hclosing]
        exact ih mid (length_of_front_closing hinner) hmid hopened hafter

/-- Reading a whole text fails at what the scan finds first, and succeeds where it finds nothing. -/
theorem scan_eq_parse (limit : Option Nat) (text : Text) :
    scan limit [] 0 (tokens text) =
      match parse limit text with
      | .ok _ => none
      | .error fault => some (fault.cause, fault.position text) := by
  have hscan : scan limit [] 0 (tokens text) = scanAt limit [] text.length text := by
    rw [scanAt, Nat.sub_self]
  have hroom : limit.map (· - ([] : List Nat).length) = limit := by
    cases limit <;> rfl
  have hopened : ∀ n ∈ limit, ([] : List Nat).length ≤ n := fun n _ => Nat.zero_le n
  rw [hscan, parse_eq_front]
  rcases hfront : front limit text with fault | ⟨c, left⟩
  · rw [← hroom] at hfront
    exact scanAt_of_front_error (Nat.le_refl _) hopened hfront
  · obtain rfl | ⟨after, rfl⟩ := front_stops hfront
    · rw [← hroom] at hfront
      rw [scanAt_of_front_ok (Nat.le_refl _) hopened hfront, scanAt_nil]
    · rw [← hroom] at hfront
      rw [scanAt_of_front_ok (Nat.le_refl _) hopened hfront, scanAt_closing_nil]
      rfl

/-! ## Where a fault lies -/

/-- A fault of the reader is at an opening marker or at the backslash that the text ends with. -/
theorem rest_of_front_error {room : Option Nat} {s : Text} {fault : ParseFault}
    (h : front room s = .error fault) : fault.rest <:+ s ∧
      ((∃ after, fault.rest = '$' :: '(' :: after) ∧
          (fault.cause = .tooDeep ∨ fault.cause = .unclosed) ∨
        fault = ⟨.dangling, ['\\']⟩) := by
  induction s using reading_induction generalizing room with
  | nil => rw [front_nil] at h; cases h
  | closing rest => rw [front_closing] at h; cases h
  | dangling => rw [front_dangling] at h; cases h; exact ⟨List.suffix_refl _, .inr rfl⟩
  | spelled s text rest hspelled ih =>
    obtain ⟨hrest, hfault⟩ := ih ((front_spelled_eq_error hspelled).mp h)
    exact ⟨hrest.trans hspelled.suffix, hfault⟩
  | opening rest ih =>
    have hopening : rest <:+ '$' :: '(' :: rest := ⟨['$', '('], rfl⟩
    obtain ⟨-, rfl⟩ | ⟨-, hinner | ⟨inner, hinner, rfl⟩ | ⟨inner, mid, hinner, hafter⟩⟩ :=
      cases_of_front_opening h
    · exact ⟨List.suffix_refl _, .inl ⟨⟨rest, rfl⟩, .inl rfl⟩⟩
    · obtain ⟨hrest, hfault⟩ := ih rest (Nat.le_refl _) hinner
      exact ⟨hrest.trans hopening, hfault⟩
    · exact ⟨List.suffix_refl _, .inl ⟨⟨rest, rfl⟩, .inr rfl⟩⟩
    · obtain ⟨hrest, hfault⟩ := ih mid (length_of_front_closing hinner) hafter
      have hmid : mid <:+ rest := (List.suffix_cons ')' mid).trans (front_suffix hinner)
      exact ⟨(hrest.trans hmid).trans hopening, hfault⟩

/-- A text is not read when no command is read at its front, or when one is and a closing marker
stops it. -/
lemma cases_of_parse_error {text : Text} {fault : ParseFault}
    (h : parse limit text = .error fault) :
    front limit text = .error fault ∨
      ∃ c after, front limit text = .ok (c, ')' :: after) ∧ fault = ⟨.stray, ')' :: after⟩ := by
  rw [parse_eq_front] at h
  rcases hfront : front limit text with fault' | ⟨c, left⟩
  · rw [hfront] at h
    cases h
    exact .inl rfl
  · rw [hfront] at h
    obtain rfl | ⟨after, rfl⟩ := front_stops hfront
    · cases h
    · cases h
      exact .inr ⟨c, after, rfl, rfl⟩

/-- What keeps a text from being read is found in it, where there still is a character. -/
theorem rest_of_parse_error {text : Text} {fault : ParseFault}
    (h : parse limit text = .error fault) :
    fault.rest <:+ text ∧ fault.rest ≠ [] ∧ (fault.cause = .dangling → fault.rest = ['\\']) := by
  obtain hfront | ⟨c, after, hfront, rfl⟩ := cases_of_parse_error h
  · obtain ⟨hsuffix, ⟨⟨after, hrest⟩, hcause⟩ | rfl⟩ := rest_of_front_error hfront
    · have hne : fault.rest ≠ [] := by
        rw [hrest]
        exact List.cons_ne_nil _ _
      refine ⟨hsuffix, hne, ?_⟩
      intro hdangling
      rw [hdangling] at hcause
      simp at hcause
    · exact ⟨hsuffix, List.cons_ne_nil _ _, fun _ => rfl⟩
  · exact ⟨front_suffix hfront, List.cons_ne_nil _ _, fun hdangling => by cases hdangling⟩

/-- The reader does not look behind a closing marker that closes nothing. -/
theorem parse_stray_append {text left : Text} (h : parse limit text = .error ⟨.stray, left⟩) :
    ∃ before after, left = ')' :: after ∧ text = before ++ ')' :: after ∧
      ∀ other, parse limit (before ++ ')' :: other) = .error ⟨.stray, ')' :: other⟩ := by
  obtain hfront | ⟨c, after, hfront, hfault⟩ := cases_of_parse_error h
  · -- at the front of a text nothing is stray
    obtain ⟨-, ⟨-, hcause⟩ | hfault⟩ := rest_of_front_error hfront
    · simp at hcause
    · cases hfault
  · cases hfault
    -- the command in front of the stray marker is written there whatever comes behind
    obtain ⟨before, htext, hbefore⟩ := exists_writes (writes_of_front hfront)
    refine ⟨before, after, rfl, htext, ?_⟩
    intro other
    rw [parse_eq_front, front_of_writes (hbefore (')' :: other) rfl) (.inr ⟨other, rfl⟩)
      (depth_of_front hfront)]

end Command

/-! ## The fault that is reported -/

/-- A scan that ends inside an interpolation has met no backslash at the end. -/
lemma dangling_not_mem_of_scan {position top : Nat} {ts : List Token}
    (h : scan limit opened position ts = some (.unclosed, top)) : .dangling ∉ ts := by
  fun_induction scan limit opened position ts with
  | case1 => cases h
  | case2 => exact List.not_mem_nil
  | case3 => cases h
  | case4 opened position rest _ ih =>
    rw [List.mem_cons, not_or]
    exact ⟨Token.noConfusion, ih h⟩
  | case5 => cases h
  | case6 top opened position rest ih =>
    rw [List.mem_cons, not_or]
    exact ⟨Token.noConfusion, ih h⟩
  | case7 => cases h
  | case8 opened position token rest _ _ _ hdangling ih =>
    rw [List.mem_cons, not_or]
    exact ⟨fun htoken => hdangling htoken.symm, ih h⟩

/-- The fault that a text is refused with when the scan finds a cause at a position. -/
def finding (limit : Option Nat) (text : Text) (position : Nat) : ParseCause → Fault
  | .tooDeep => .tooDeep ⟨text, limit.map Int.ofNat, [], some position⟩
  | .unclosed => .malformed ⟨"Unmatched '$('.", text,
      "No closing ')' for interpolation starting at position " ++ Text.ofNat position,
      some position⟩
  | .stray => .malformed ⟨"Unmatched ')'.", text,
      "Trailing content: '" ++ text.drop position ++ "'", some position⟩
  | .dangling => .malformed ⟨"Dangling escape.", text,
      "A trailing '\\' must be followed by the character it escapes", some position⟩

/-- The text from a fault on is what lies behind its position. -/
lemma toFault_eq_finding {text : Text} {fault : ParseFault} (h : fault.rest <:+ text) :
    fault.toFault limit text = finding limit text (fault.position text) fault.cause := by
  have hrest : fault.rest = text.drop (fault.position text) := List.suffix_iff_eq_drop.mp h
  obtain ⟨cause, rest⟩ := fault
  cases cause with
  | tooDeep => rfl
  | unclosed => rfl
  | stray =>
    dsimp only at hrest
    simp only [ParseFault.toFault, ParseFault.details, finding, ← hrest]
    rfl
  | dangling => rfl

/-- Without a capacity of the engine, a text is refused with what keeps it from being a command. -/
lemma read_fst {σ : Type} (limit : Option Nat) (text : Text) (r : Recorded σ) :
    (((⟨limit, none⟩ : Nesting).read text).exec r).1 =
      (Command.parse limit text).mapError (ParseFault.toFault · limit text) := by
  have hroom : (⟨limit, none⟩ : Nesting).room = limit := by
    cases limit <;> rfl
  have hfault : ∀ fault : ParseFault,
      (⟨limit, none⟩ : Nesting).fault text fault = fault.toFault limit text := by
    intro fault
    rw [Nesting.fault, Nesting.exhausts, hroom]
    simp
  rw [Nesting.read, Run.exec_bind, Run.exec_note]
  dsimp only
  rw [hroom]
  rcases Command.parse limit text with fault | command
  · dsimp only
    rw [Run.exec_bind, Run.exec_note]
    dsimp only
    rw [Run.exec_throw, hfault]
    rfl
  · rfl

/-- What the scan finds is the fault that keeps the text from being read. -/
lemma scan_eq_some_iff {text : Text} {cause : ParseCause} {position : Nat} :
    scan limit [] 0 (tokens text) = some (cause, position) ↔
      ∃ fault, Command.parse limit text = .error fault ∧ fault.cause = cause ∧
        fault.position text = position := by
  rw [Command.scan_eq_parse]
  rcases Command.parse limit text with fault | command
  · simp
  · simp

/-- What the scan finds, it finds at a character of the text. -/
lemma position_lt_of_scan {text : Text} {cause : ParseCause} {position : Nat}
    (h : scan limit [] 0 (tokens text) = some (cause, position)) : position < text.length := by
  obtain ⟨fault, hparse, -, hposition⟩ := scan_eq_some_iff.mp h
  obtain ⟨hsuffix, hne, -⟩ := Command.rest_of_parse_error hparse
  have hpos : 0 < fault.rest.length := List.length_pos_iff.mpr hne
  have hle : fault.rest.length ≤ text.length := hsuffix.length_le
  rw [← hposition, ParseFault.position]
  omega

/-- A backslash that escapes nothing is the last character of the text. -/
lemma position_of_scan_dangling {text : Text} {position : Nat}
    (h : scan limit [] 0 (tokens text) = some (.dangling, position)) :
    position = text.length - 1 := by
  obtain ⟨fault, hparse, hcause, hposition⟩ := scan_eq_some_iff.mp h
  obtain ⟨-, -, hdangling⟩ := Command.rest_of_parse_error hparse
  rw [← hposition, ParseFault.position, hdangling hcause]
  rfl

/-- Behind a closing marker that closes nothing the text does not matter. -/
lemma scan_stray_append {text : Text} {position : Nat}
    (h : scan limit [] 0 (tokens text) = some (.stray, position)) (other : Text) :
    scan limit [] 0 (tokens (text.take (position + 1) ++ other)) = some (.stray, position) := by
  obtain ⟨⟨_, rest⟩, hparse, rfl, hposition⟩ := scan_eq_some_iff.mp h
  obtain ⟨before, after, rfl, rfl, hother⟩ := Command.parse_stray_append hparse
  have hbefore : position = before.length := by
    rw [← hposition, ParseFault.position, List.length_append, Nat.add_sub_cancel]
  have htake : (before ++ ')' :: after).take (position + 1) ++ other = before ++ ')' :: other := by
    rw [hbefore, List.take_length_add_append, List.append_assoc]
    rfl
  apply scan_eq_some_iff.mpr
  refine ⟨⟨.stray, ')' :: other⟩, ?_, rfl, ?_⟩
  · rw [htake]
    exact hother other
  · rw [htake, hbefore, ParseFault.position, List.length_append, Nat.add_sub_cancel]

/-- A text is refused exactly when the scan finds something, and then with what the scan finds
first. That lies within the text; a backslash that escapes nothing is its last character, and where
there is one no open marker is reported; and behind a closing marker that closes nothing the text
does not matter. -/
theorem read_error_iff_scan {σ : Type} (limit : Option Nat) (text : Text) (r : Recorded σ) :
    (∀ fault, (((⟨limit, none⟩ : Nesting).read text).exec r).1 = .error fault ↔
      ∃ cause position, scan limit [] 0 (tokens text) = some (cause, position) ∧
        fault = finding limit text position cause) ∧
    ∀ cause position, scan limit [] 0 (tokens text) = some (cause, position) →
      position < text.length ∧
      (cause = .dangling → position = text.length - 1) ∧
      (cause = .unclosed → .dangling ∉ tokens text) ∧
      (cause = .stray → ∀ other : Text,
        scan limit [] 0 (tokens (text.take (position + 1) ++ other)) =
          some (.stray, position)) := by
  constructor
  · intro fault
    rw [read_fst]
    constructor
    · intro hread
      rcases hparse : Command.parse limit text with found | command
      · rw [hparse] at hread
        obtain ⟨hsuffix, -⟩ := Command.rest_of_parse_error hparse
        have hscan := scan_eq_some_iff.mpr ⟨found, hparse, rfl, rfl⟩
        refine ⟨found.cause, found.position text, hscan, ?_⟩
        rw [← toFault_eq_finding hsuffix]
        exact (Except.error.inj hread).symm
      · rw [hparse] at hread
        cases hread
    · intro hscan
      obtain ⟨cause, position, hscan, hfault⟩ := hscan
      obtain ⟨found, hparse, hcause, hposition⟩ := scan_eq_some_iff.mp hscan
      obtain ⟨hsuffix, -⟩ := Command.rest_of_parse_error hparse
      rw [hparse, hfault, ← hcause, ← hposition, ← toFault_eq_finding hsuffix]
      rfl
  · intro cause position h
    refine ⟨position_lt_of_scan h, ?_, ?_, ?_⟩
    · intro hcause
      rw [hcause] at h
      exact position_of_scan_dangling h
    · intro hcause
      rw [hcause] at h
      exact dangling_not_mem_of_scan h
    · intro hcause other
      rw [hcause] at h
      exact scan_stray_append h other

/-- Of two markers that are not closed, the later is reported. -/
theorem read_unclosed_twice :
    (((⟨some 2, none⟩ : Nesting).read "$(a$(b").exec (⟨(), []⟩ : Recorded Unit)).1 =
      .error (finding (some 2) "$(a$(b" 3 .unclosed) := by
  have hscan : scan (some 2) [] 0 (tokens "$(a$(b".toList) = some (.unclosed, 3) := by decide
  exact ((read_error_iff_scan (some 2) "$(a$(b" (⟨(), []⟩ : Recorded Unit)).1 _).mpr
    ⟨.unclosed, 3, hscan, rfl⟩

end Subshell
