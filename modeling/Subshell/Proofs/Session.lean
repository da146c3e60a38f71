import Subshell.Console
import Subshell.Proofs.LowerCase
import Subshell.Proofs.Reporting
/-!
# Sessions

A session takes the lines of its input one after another. What taking one does is said line by line
(`Turn.IsTaken`): a blank line does nothing, a control line prints and leaves the workspace as it is,
and any other line is handed to the engine, whose outcome is printed. The lines follow one another,
each after a prompt (`Linked`), up to the first that asks to end the session.

`exec_process` is the step, for one line, and `exec_converse` the run, by induction on the lines.
Nothing but a line that asks for it ends a session, because every line comes to an outcome.
-/

namespace Subshell

/-- What is recorded once some lines are printed. -/
def Recorded.printing {σ : Type} (r : Recorded σ) (texts : List Text) : Recorded σ :=
  { r with journal := (texts.map fun text => Event.output .console (text ++ "\n")).reverse ++
      r.journal }

/-- What is recorded once a line is asked for. -/
def Recorded.prompted {σ : Type} (r : Recorded σ) : Recorded σ := r.add (.output .prompt "> ")

namespace Console

variable {ι σ : Type}

/-! ## The lines of an input -/

/-- The lines of an input. The last one need not end with a line break. -/
def lines : Text → List Text
  | [] => []
  | c :: rest =>
    if c = '\n' then [] :: lines rest
    else
      match lines rest with
      | [] => [[c]]
      | line :: later => (c :: line) :: later

lemma lines_eq_nil_iff {input : Text} : lines input = [] ↔ input = [] := by
  cases input with
  | nil => simp [lines]
  | cons c rest =>
    rw [lines]
    split
    · simp
    · split <;> simp

/-- The first line goes up to the first line break, and the line break goes with it. -/
lemma lines_cons (c : Char) (rest : Text) :
    lines (c :: rest) = (c :: rest).takeWhile (· ≠ '\n') ::
      lines (((c :: rest).drop ((c :: rest).takeWhile (· ≠ '\n')).length).drop 1) := by
  induction rest generalizing c with
  | nil =>
    by_cases hc : c = '\n'
    · simp [lines, hc]
    · simp [lines, hc]
  | cons d rest ih =>
    by_cases hc : c = '\n'
    · rw [lines, if_pos hc, List.takeWhile_cons_of_neg (by simpa using hc)]
      rfl
    · have htake : (c :: d :: rest).takeWhile (· ≠ '\n') = c :: (d :: rest).takeWhile (· ≠ '\n') :=
        List.takeWhile_cons_of_pos (by simpa using hc)
      rw [lines, if_neg hc, ih d, htake]
      rfl

/-- A line that is typed with a line break is the first line of the input. -/
lemma lines_append {line : Text} (h : '\n' ∉ line) (rest : Text) :
    lines (line ++ '\n' :: rest) = line :: lines rest := by
  induction line with
  | nil => simp [lines]
  | cons c line ih =>
    rw [List.mem_cons, not_or] at h
    rw [List.cons_append, lines, if_neg (Ne.symm h.1), ih h.2]

/-- Lines that are typed with a line break each are the lines of the input. -/
lemma lines_flatMap {typed : List Text} (h : ∀ line ∈ typed, '\n' ∉ line) :
    lines (typed.flatMap (· ++ ['\n'])) = typed := by
  induction typed with
  | nil => rfl
  | cons line later ih =>
    rw [List.forall_mem_cons] at h
    rw [List.flatMap_cons, List.append_assoc, List.singleton_append, lines_append h.1, ih h.2]

/-! ## What a line asks for -/

/-- The first word of a line in lower case. -/
def keyword (line : Text) : Text := Text.lower (Engine.commandOf line)

/-- The line asks to end the session. -/
def IsExit (line : Text) : Prop := keyword line = "/exit"

instance decidableIsExit (line : Text) : Decidable (IsExit line) :=
  inferInstanceAs (Decidable (keyword line = "/exit".toList))

/-- Whether notes are printed after a line, if they are or are not before. -/
def adjusted (verbose : Bool) (line : Text) : Bool :=
  let args := ((Text.firstWord? (Text.strip line)).map Prod.snd).getD []
  if keyword line ≠ "/verbose" then verbose
  else if args = [] then !verbose
  else if Text.lower args ∈ onWords then true
  else if Text.lower args ∈ offWords then false
  else verbose

/-- Whether notes are printed after some lines; at first they are not. -/
def verbosity (lines : List Text) : Bool := lines.foldl adjusted false

/-- The lines that are handed to the engine: those before the first that asks to end the session,
without the blanks around them, and of these the ones that are not empty and are not for the console
itself. -/
def commandLines (lines : List Text) : List Text :=
  ((lines.takeWhile fun line => ¬IsExit line).map Text.strip).filter fun line =>
    line ≠ [] ∧ line.head? ≠ some '/'

variable {line : Text}

/-- Only a line that begins with a slash has a word of the console. -/
lemma head?_of_keyword (h : (keyword line).head? = some '/') :
    (Text.strip line).head? = some '/' := by
  rw [← Engine.head?_commandOf]
  exact Text.head?_of_head?_lower h

lemma adjusted_of_command (h : (Text.strip line).head? ≠ some '/') (verbose : Bool) :
    adjusted verbose line = verbose := by
  have hword : keyword line ≠ "/verbose" := by
    intro hkeyword
    apply h
    apply head?_of_keyword
    rw [hkeyword]
    rfl
  unfold adjusted
  rw [if_pos hword]

lemma IsExit.head? (h : IsExit line) : (Text.strip line).head? = some '/' := by
  apply head?_of_keyword
  rw [show keyword line = "/exit".toList from h]
  rfl

/-! ## What is printed -/

variable {r : Recorded (Workspace ι σ)}

lemma printing_append (texts more : List Text) :
    r.printing (texts ++ more) = (r.printing texts).printing more := by
  unfold Recorded.printing
  simp

/-- Prints a line and goes on. -/
lemma exec_print_bind {α : Type} (text : Text) (next : Unit → Task ι σ α) :
    (print text >>= next).exec r = (next ()).exec (r.printing [text]) := rfl

/-- The lines that an outcome is printed as. -/
def shown (outcome : Outcome) : List Text :=
  if outcome.failure.isSome then ["Error: " ++ outcome.content]
  else if !outcome.content.isEmpty then [outcome.content]
  else if !outcome.known then
    ["Unknown command: " ++ outcome.command, "Type 'help' to list commands"]
  else []

/-- The lines that its notes are printed as. -/
def noted (outcome : Outcome) : List Text :=
  ["\nNotes:", (Value.object outcome.notes).laidOut 0]

lemma exec_display (verbose : Bool) (outcome : Outcome) :
    (display verbose outcome : Task ι σ Unit).exec r =
      (.ok (), r.printing (shown outcome ++ if verbose then noted outcome else [])) := by
  unfold display shown
  -- the notes are printed after each way to show the outcome, so that all tests are decided at once
  cases outcome.failure.isSome <;> cases outcome.content.isEmpty <;> cases outcome.known <;>
    cases verbose <;> rfl

/-! ## Control lines -/

/-- The entries of the registry are printed line by line. -/
lemma exec_forIn_print {α : Type} (entries : List α) (text : α → Text) :
    (forIn entries PUnit.unit fun entry _ => do
      print (text entry)
      pure (.yield PUnit.unit) : Task ι σ PUnit).exec r =
      (.ok PUnit.unit, r.printing (entries.map text)) := by
  induction entries generalizing r with
  | nil => rfl
  | cons entry entries ih =>
    rw [List.forIn_cons, bind_assoc, exec_print_bind, pure_bind]
    dsimp only
    rw [ih, ← printing_append]
    rfl

/-- Whether notes are printed after a control line. -/
def Control.after (verbose : Bool) : Control → Bool
  | .verbose setting => setting.getD (!verbose)
  | _ => verbose

/-- A control line that does not end the session prints, and that is all that it does. -/
lemma exec_control {asked : Control} (h : asked ≠ .exit) (settings : Settings) (verbose : Bool) :
    ∃ texts, (control (some settings) verbose asked : Task ι σ Bool).exec r =
      (.ok (asked.after verbose), r.printing texts) := by
  cases asked with
  | help =>
    unfold control
    have hlist : ∀ s : Recorded (Workspace ι σ), ((do
        for entry in (← Run.state).registry.sorted do
          print ("  " ++ entry.name ++ " - " ++ entry.help)
        return verbose) : Task ι σ Bool).exec s = (.ok verbose, s.printing
          (s.state.registry.sorted.map fun entry => "  " ++ entry.name ++ " - " ++ entry.help)) := by
      intro s
      rw [Run.exec_state_bind, Run.exec_bind, exec_forIn_print]
      rfl
    let heading : List Text := ["Available commands:", "  /help - Show this help",
      "  /verbose [on|off] - Toggle verbose mode", "  /exit - Exit the REPL", "Shell commands:"]
    refine ⟨heading ++ (r.state.registry.sorted.map fun entry =>
      "  ".toList ++ entry.name ++ " - " ++ entry.help), ?_⟩
    rw [printing_append]
    exact hlist (r.printing heading)
  | exit => exact absurd rfl h
  | verbose setting => cases setting <;> exact ⟨[_], rfl⟩
  | badOption text => exact ⟨[_, _], rfl⟩
  | unknown word => exact ⟨[_, _], rfl⟩

/-- What a control line asks for is said by its first word. -/
lemma ofLine_strip (line : Text) :
    Control.ofLine (Text.strip line) =
      if keyword line = "/help" then .help
      else if keyword line = "/exit" then .exit
      else if keyword line = "/verbose" then
        .ofVerbosity (((Text.firstWord? (Text.strip line)).map Prod.snd).getD [])
      else .unknown (keyword line) := by
  unfold Control.ofLine keyword
  rcases hfirst : Text.firstWord? (Text.strip line) with - | ⟨word, args⟩
  · rw [Engine.commandOf_eq_nil hfirst]
    rfl
  · rw [Engine.commandOf_eq hfirst]
    rfl

lemma ofVerbosity_ne_exit (args : Text) : Control.ofVerbosity args ≠ .exit := by
  unfold Control.ofVerbosity
  split
  · simp
  · split
    · simp
    · split <;> simp

lemma ofLine_strip_eq_exit_iff : Control.ofLine (Text.strip line) = .exit ↔ IsExit line := by
  rw [ofLine_strip]
  unfold IsExit
  split
  · next hhelp =>
    rw [hhelp]
    decide
  · split
    · next hexit => exact iff_of_true rfl hexit
    · next hexit =>
      refine iff_of_false ?_ hexit
      split
      · exact ofVerbosity_ne_exit _
      · simp

/-- The words of a line that asks for notes are read as `adjusted` says. -/
lemma after_ofLine_strip (verbose : Bool) :
    (Control.ofLine (Text.strip line)).after verbose = adjusted verbose line := by
  rw [ofLine_strip]
  unfold adjusted
  by_cases hverbose : keyword line = "/verbose"
  · -- both sides try the same words in the same order
    rw [hverbose, if_neg (by decide), if_neg (by decide), if_pos rfl]
    unfold Control.ofVerbosity
    simp only [List.isEmpty_iff]
    split
    · rfl
    · split
      · rfl
      · split <;> rfl
  · rw [if_neg hverbose, if_pos hverbose]
    split
    · rfl
    · split <;> rfl

/-! ## One line -/

/-- A line that was taken in a session, with the records before and after it. -/
structure Turn (ι σ : Type) where
  line : Text
  /-- Whether notes are printed. -/
  verbose : Bool
  before : Recorded (Workspace ι σ)
  after : Recorded (Workspace ι σ)
  /-- The lines handed to the engine. -/
  handed : List Text

/-- What taking a line comes to, by what kind of line it is. -/
inductive Turn.IsTaken (engine : Engine ι σ) (settings : Settings) (turn : Turn ι σ) : Prop
  /-- A line with nothing but blanks does nothing. -/
  | blank : Text.strip turn.line = [] → turn.handed = [] → turn.after = turn.before →
    IsTaken engine settings turn
  /-- A line of the console itself prints, and nothing else is recorded or changed. -/
  | control {texts : List Text} : (Text.strip turn.line).head? = some '/' → turn.handed = [] →
    turn.after = turn.before.printing texts → IsTaken engine settings turn
  /-- Any other line is handed to the engine, and the outcome is printed, its notes only if they are
  wanted. -/
  | command {outcome : Outcome} {handled : Recorded (Workspace ι σ)} :
    Text.strip turn.line ≠ [] → (Text.strip turn.line).head? ≠ some '/' →
    turn.handed = [Text.strip turn.line] →
    (engine.handle settings (Text.strip turn.line)).exec turn.before = (.ok outcome, handled) →
    turn.after = handled.printing (shown outcome ++ if turn.verbose then noted outcome else []) →
    IsTaken engine settings turn

variable {engine : Engine ι σ} {settings : Settings}

/-- A line that does not ask to end the session is taken, and sets whether notes are printed. -/
lemma exec_process (hreport : engine.HandlersReport) (h : ¬IsExit line) (verbose : Bool)
    (r : Recorded (Workspace ι σ)) :
    ∃ turn : Turn ι σ, turn.line = line ∧ turn.verbose = verbose ∧ turn.before = r ∧
      turn.IsTaken engine settings ∧
      (process engine (some settings) verbose line).exec r =
        (.ok (adjusted verbose line), turn.after) := by
  unfold process
  dsimp only
  by_cases hempty : Text.strip line = []
  · have hcommand : (Text.strip line).head? ≠ some '/' := by
      rw [hempty]
      simp
    rw [hempty, adjusted_of_command hcommand]
    exact ⟨⟨line, verbose, r, r, []⟩, rfl, rfl, rfl, .blank hempty rfl rfl, rfl⟩
  · rw [if_neg (List.isEmpty_iff.not.mpr hempty)]
    by_cases hslash : (Text.strip line).head? = some '/'
    · obtain ⟨texts, hcontrol⟩ := @exec_control ι σ r _ (ofLine_strip_eq_exit_iff.not.mpr h)
        settings verbose
      rw [if_pos hslash, hcontrol, after_ofLine_strip]
      exact ⟨⟨line, verbose, r, r.printing texts, []⟩, rfl, rfl, rfl, .control hslash rfl rfl, rfl⟩
    · -- the outcome is there whatever the commands do, and so the line does not stop the session
      obtain ⟨outcome, handled, hhandle⟩ :=
        Engine.exists_outcome hreport settings (Text.strip line) r
      have hdemand : (Run.ofExcept (Fault.demand "handle" (some settings)) :
          Task ι σ Settings).exec r = (.ok settings, r) := rfl
      rw [if_neg hslash, Run.exec_bind_of_ok hdemand, Run.exec_bind_of_ok hhandle,
        Run.exec_bind_of_ok (exec_display verbose outcome), adjusted_of_command hslash]
      exact ⟨⟨line, verbose, r, _, [Text.strip line]⟩, rfl, rfl, rfl,
        .command hempty hslash rfl hhandle rfl, rfl⟩

/-- A line that asks to end the session stops it. -/
lemma exec_process_exit (h : IsExit line) (verbose : Bool) :
    (process engine (some settings) verbose line).exec r =
      (.error (.exit 0), r.printing ["Exiting..."]) := by
  have hslash : (Text.strip line).head? = some '/' := h.head?
  have hempty : Text.strip line ≠ [] := by
    intro hempty
    rw [hempty] at hslash
    cases hslash
  unfold process
  dsimp only
  rw [if_neg (List.isEmpty_iff.not.mpr hempty), if_pos hslash, ofLine_strip_eq_exit_iff.mpr h]
  rfl

/-! ## A session -/

/-- The turns follow one another from a record on, each after a prompt, to the last record. -/
def Linked (start : Recorded (Workspace ι σ)) : List (Turn ι σ) → Recorded (Workspace ι σ) → Prop
  | [], last => last = start
  | turn :: later, last => turn.before = start.prompted ∧ Linked turn.after later last

/-- Whether notes are printed goes from turn to turn. -/
def Toggled (verbose : Bool) : List (Turn ι σ) → Prop
  | [] => True
  | turn :: later => turn.verbose = verbose ∧ Toggled (adjusted verbose turn.line) later

/-- At the end of the input the session ends by itself. -/
lemma exec_converse_nil (verbose : Bool) (r : Recorded (Workspace ι σ)) :
    (converse engine (some settings) verbose []).exec r =
      (.ok ⟨verbose, [], none⟩, r.prompted.printing ["\nExiting..."]) := by
  rw [converse]
  rfl

/-- Otherwise the first line is taken, and the session goes on with the others or stops. -/
lemma exec_converse_cons {input : Text} {later : List Text} (h : lines input = line :: later)
    (verbose : Bool) (r : Recorded (Workspace ι σ)) :
    ∃ left, lines left = later ∧ (converse engine (some settings) verbose input).exec r =
      match (process engine (some settings) verbose line).exec r.prompted with
      | (.ok verbose, after) => (converse engine (some settings) verbose left).exec after
      | (.error fault, after) =>
        if fault.typeName ∈ endings then
          (.ok ⟨verbose, left, none⟩, after.printing ["\nExiting..."])
        else (.ok ⟨verbose, left, some fault⟩, after) := by
  cases input with
  | nil => cases h
  | cons c rest =>
    rw [lines_cons] at h
    obtain ⟨hline, hlater⟩ := List.cons.inj h
    refine ⟨_, hlater, ?_⟩
    have hprompt : ∀ next : Unit → Task ι σ Ending,
        (Run.output .prompt "> " >>= next).exec r = (next ()).exec r.prompted := fun _ => rfl
    rw [converse, hprompt]
    dsimp only
    rw [Run.exec_bind, Run.exec_attempt, hline]
    rcases (process engine (some settings) verbose line).exec r.prompted with ⟨fault | after, s⟩
    · dsimp only
      split <;> rfl
    · rfl

/-- The turns of a session up to the line that asks to end it, or to the end of the input. -/
lemma exec_converse (hreport : engine.HandlersReport) (input : Text) (verbose : Bool)
    (r : Recorded (Workspace ι σ)) :
    ∃ (turns : List (Turn ι σ)) (last : Recorded (Workspace ι σ)),
      Linked r turns last ∧ Toggled verbose turns ∧
      (∀ turn ∈ turns, turn.IsTaken engine settings ∧ ¬IsExit turn.line) ∧
      (lines input = turns.map Turn.line ∧
          (converse engine (some settings) verbose input).exec r =
            (.ok ⟨(turns.map Turn.line).foldl adjusted verbose, [], none⟩,
              last.prompted.printing ["\nExiting..."]) ∨
        ∃ line unread, IsExit line ∧ lines input = turns.map Turn.line ++ line :: lines unread ∧
          (converse engine (some settings) verbose input).exec r =
            (.ok ⟨(turns.map Turn.line).foldl adjusted verbose, unread, some (.exit 0)⟩,
              last.prompted.printing ["Exiting..."])) := by
  -- the induction is on the lines still to come; notes, input and record are those at the next prompt
  induction hlines : lines input generalizing input verbose r with
  | nil =>
    rw [lines_eq_nil_iff.mp hlines]
    exact ⟨[], r, rfl, trivial, by simp, .inl ⟨rfl, exec_converse_nil verbose r⟩⟩
  | cons line later ih =>
    obtain ⟨left, hleft, hexec⟩ :=
      @exec_converse_cons ι σ line engine settings input later hlines verbose r
    by_cases hexit : IsExit line
    · rw [exec_process_exit hexit] at hexec
      refine ⟨[], r, rfl, trivial, by simp, .inr ⟨line, left, hexit, ?_, hexec⟩⟩
      rw [hleft]
      rfl
    · obtain ⟨turn, hline, hverbose, hbefore, htaken, hprocess⟩ :=
        exec_process hreport hexit verbose r.prompted
      rw [hprocess] at hexec
      obtain ⟨turns, last, hlinked, htoggled, hturns, hends⟩ :=
        ih left (adjusted verbose line) turn.after hleft
      refine ⟨turn :: turns, last, ⟨hbefore, hlinked⟩, ⟨hverbose, by rw [hline]; exact htoggled⟩,
        List.forall_mem_cons.mpr ⟨⟨htaken, by rw [hline]; exact hexit⟩, hturns⟩, ?_⟩
      rw [List.map_cons, hline, hexec]
      rcases hends with ⟨hall, hend⟩ | ⟨exit, unread, hexit, hall, hend⟩
      · exact .inl ⟨by rw [hall], hend⟩
      · exact .inr ⟨exit, unread, hexit, by rw [hall]; rfl, hend⟩

section Turns

variable {turns : List (Turn ι σ)}

/-- Notes are printed in a turn as the lines before it say. -/
lemma Toggled.verbose_eq {verbose : Bool} {earlier later : List (Turn ι σ)} {turn : Turn ι σ}
    (h : Toggled verbose (earlier ++ turn :: later)) :
    turn.verbose = (earlier.map Turn.line).foldl adjusted verbose := by
  induction earlier generalizing verbose with
  | nil => exact h.1
  | cons first earlier ih => exact ih h.2

lemma Turn.IsTaken.handed_eq {turn : Turn ι σ} (h : turn.IsTaken engine settings) :
    turn.handed = [Text.strip turn.line].filter fun line => line ≠ [] ∧ line.head? ≠ some '/' := by
  cases h with
  | blank hempty hhanded _ => simp [hempty, hhanded]
  | control hslash hhanded _ => simp [hslash, hhanded]
  | command hempty hslash hhanded _ _ => simp [hempty, hslash, hhanded]

/-- The lines that are handed over are those that are neither blank nor for the console. -/
lemma flatMap_handed (h : ∀ turn ∈ turns, turn.IsTaken engine settings) :
    turns.flatMap Turn.handed = ((turns.map Turn.line).map Text.strip).filter fun line =>
      line ≠ [] ∧ line.head? ≠ some '/' := by
  induction turns with
  | nil => rfl
  | cons turn turns ih =>
    rw [List.forall_mem_cons] at h
    rw [List.flatMap_cons, ih h.2, h.1.handed_eq, ← List.filter_append]
    rfl

end Turns

end Console

end Subshell
