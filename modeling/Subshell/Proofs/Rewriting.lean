import Mathlib.Logic.Function.Iterate
import Mathlib.Tactic.Lemma
import Subshell.Command.Evaluation
/-!
# Evaluation as rewriting

Evaluation descends into a command. `Rewriting` does not: again and again it takes the first
interpolation in post-order, calls the callback on the literals of its inner command, and puts the
returned text in the place of the interpolation, until none is left.

* `map_next` and `next_inner` say which interpolation is taken: the first in post-order, with only
  literals inside it;
* `resolve_of_next` and `resolve_of_next_none` take one step off an evaluation, for every monad;
* `ends_of_running` runs an evaluation and the rewriting side by side to their common end;
* `execute_eq_rewriting` is the comparison from the start. The two part only where a callback raises
  `StopIteration`, which does not leave an evaluation as it is.
-/

namespace Subshell

namespace Command

/-! ## The next interpolation -/

/-- The literals at the top of a command, one after the other. -/
def literals : Command → Text
  | nil => []
  | literal text rest => text ++ rest.literals
  | interpolation _ rest => rest.literals

/-- The inner commands of all interpolations, each after those that lie inside it. -/
def postorder : Command → List Command
  | nil => []
  | literal _ rest => rest.postorder
  | interpolation inner rest => inner.postorder ++ inner :: rest.postorder

/-- The inner command of the first interpolation in post-order, and the command with a text in the
place of that interpolation. -/
def next : Command → Option (Command × (Text → Command))
  | nil => none
  | literal text rest => rest.next.map fun (inner, fill) => (inner, literal text ∘ fill)
  | interpolation inner rest =>
    match inner.next with
    | none => some (inner, (literal · rest))
    | some (innermost, fill) => some (innermost, (interpolation · rest) ∘ fill)

lemma length_postorder (c : Command) : c.postorder.length = c.interpolationCount := by
  induction c with
  | nil => rfl
  | literal text rest ih => exact ih
  | interpolation inner rest ih₁ ih₂ =>
    rw [postorder, interpolationCount, List.length_append, List.length_cons, ih₁, ih₂]
    omega

/-- The next interpolation is the first one in post-order. -/
theorem map_next (c : Command) : c.next.map Prod.fst = c.postorder.head? := by
  induction c with
  | nil => rfl
  | literal text rest ih =>
    rw [next, postorder, Option.map_map, ← ih]
    rfl
  | interpolation inner rest ih =>
    rw [next, postorder, List.head?_append, ← ih, List.head?_cons]
    cases inner.next <;> rfl

/-- There is a next interpolation exactly when there is one at all. -/
lemma next_eq_none_iff (c : Command) : c.next = none ↔ c.interpolationCount = 0 := by
  rw [← length_postorder, List.length_eq_zero_iff, ← List.head?_eq_none_iff, ← map_next,
    Option.map_eq_none_iff]

/-- Induction on where the next interpolation is: behind a literal, at the front with only literals
inside it, or inside the interpolation at the front. -/
theorem next_induction {motive : Command → Command → (Text → Command) → Prop}
    (behind : ∀ text rest inner fill, rest.next = some (inner, fill) → motive rest inner fill →
      motive (literal text rest) inner (literal text ∘ fill))
    (front : ∀ inner rest, inner.next = none →
      motive (interpolation inner rest) inner (literal · rest))
    (inside : ∀ first rest inner fill, first.next = some (inner, fill) → motive first inner fill →
      motive (interpolation first rest) inner ((interpolation · rest) ∘ fill))
    {c inner : Command} {fill : Text → Command} (h : c.next = some (inner, fill)) :
    motive c inner fill := by
  induction c generalizing inner fill with
  | nil => cases h
  | literal text rest ih =>
    rw [next, Option.map_eq_some_iff] at h
    obtain ⟨⟨innermost, hole⟩, hrest, heq⟩ := h
    cases heq
    exact behind text rest inner hole hrest (ih hrest)
  | interpolation first rest ih =>
    rw [next] at h
    split at h
    · next hfirst =>
      cases h
      exact front first rest hfirst
    · next innermost hole hfirst =>
      cases h
      exact inside first rest inner hole hfirst (ih hfirst)

/-- Only literals lie inside the next interpolation. -/
theorem next_inner {c inner : Command} {fill : Text → Command} (h : c.next = some (inner, fill)) :
    inner.interpolationCount = 0 := by
  refine next_induction (motive := fun _ inner _ => inner.interpolationCount = 0)
    ?behind ?front ?inside h
  case behind =>
    intro text rest inner fill _ ih
    exact ih
  case front =>
    intro inner rest hnone
    exact (next_eq_none_iff inner).mp hnone
  case inside =>
    intro first rest inner fill _ ih
    exact ih

/-- Whatever text takes the place of the next interpolation, one interpolation fewer is left. -/
theorem interpolationCount_fill {c inner : Command} {fill : Text → Command}
    (h : c.next = some (inner, fill)) (result : Text) :
    (fill result).interpolationCount + 1 = c.interpolationCount := by
  refine next_induction
    (motive := fun c _ fill => (fill result).interpolationCount + 1 = c.interpolationCount)
    ?behind ?front ?inside h
  case behind =>
    intro text rest inner fill _ ih
    show (fill result).interpolationCount + 1 = rest.interpolationCount
    exact ih
  case front =>
    intro inner rest hnone
    have hzero : inner.interpolationCount = 0 := (next_eq_none_iff inner).mp hnone
    show rest.interpolationCount + 1 = 1 + inner.interpolationCount + rest.interpolationCount
    omega
  case inside =>
    intro first rest inner fill _ ih
    show 1 + (fill result).interpolationCount + rest.interpolationCount + 1 =
      1 + first.interpolationCount + rest.interpolationCount
    omega

section Lawful

variable {m : Type → Type} [Monad m] [LawfulMonad m] (run : Text → m Text)

/-- Without interpolations, an evaluation calls nothing and gives the literals. -/
theorem resolve_of_next_none {c : Command} (h : c.next = none) :
    c.resolve run = pure c.literals := by
  induction c with
  | nil => rfl
  | literal text rest ih =>
    rw [next, Option.map_eq_none_iff] at h
    rw [resolve, ih h, pure_bind, literals]
  | interpolation inner rest =>
    rw [next] at h
    split at h <;> cases h

/-- An evaluation begins with the next interpolation, and goes on as the evaluation of the command
in which what was returned has taken its place. -/
theorem resolve_of_next {c inner : Command} {fill : Text → Command}
    (h : c.next = some (inner, fill)) :
    c.resolve run = run inner.literals >>= fun result => (fill result).resolve run := by
  refine next_induction (motive := fun c inner fill =>
    c.resolve run = run inner.literals >>= fun result => (fill result).resolve run)
    ?behind ?front ?inside h
  case behind =>
    intro text rest inner fill _ ih
    unfold resolve
    rw [ih, bind_assoc]
    rfl
  case front =>
    intro inner rest hnone
    rw [resolve, resolve_of_next_none run hnone, pure_bind]
    rfl
  case inside =>
    intro first rest inner fill _ ih
    rw [resolve, ih, bind_assoc]
    rfl

end Lawful

end Command

/-! ## Rewriting -/

variable {σ : Type}

/-- What is recorded once the log is told a notice. -/
def Recorded.noted (r : Recorded σ) (notice : Notice) : Recorded σ :=
  { r with journal := .notice notice :: r.journal }

/-- The fault of a callback that is called with a text and returns something else. It shows what was
returned, and where that cannot be written the fault is that it cannot. -/
def breach (argument : Text) (value : Value) : Fault :=
  if value.isWritable then
    .evaluation ⟨"Run callback must return a string.", argument,
      "Got " ++ value.typeName ++ ": " ++ value.written⟩
  else .tooManyDigits

/-- Where a rewriting is: what is recorded and what the callback has been called with so far, and
the command as it stands or the result. -/
inductive Rewriting (σ : Type)
  | running (command : Command) (recorded : Recorded σ) (calls : List Text)
  | ended (result : Except Fault Text) (recorded : Recorded σ) (calls : List Text)

namespace Rewriting

/-- A rewriting begins with the command, and with no calls. -/
def start (command : Command) (r : Recorded σ) : Rewriting σ :=
  running command (r.noted (.executing command.interpolationCount)) []

/-- A step calls the callback for the next interpolation. It ends the rewriting where there is no
next interpolation and where the callback fails. -/
def step (run : Text → Run σ Value) : Rewriting σ → Rewriting σ
  | running command r calls =>
    match command.next with
    | none => ended (.ok command.literals) r calls
    | some (inner, fill) =>
      -- nothing but literals is left in the inner command
      let argument := inner.literals
      match (run argument).exec r with
      | (.error fault, r) => ended (.error fault) r (calls ++ [argument])
      | (.ok (.text result), r) =>
        running (fill result) (r.noted (.interpolated argument result)) (calls ++ [argument])
      | (.ok value, r) => ended (.error (breach argument value)) r (calls ++ [argument])
  | ended result r calls => ended result r calls

variable {run : Text → Run σ Value}

/-- Nothing is done after the end. -/
lemma iterate_step_ended (n : Nat) (result : Except Fault Text) (r : Recorded σ)
    (calls : List Text) : (step run)^[n] (ended result r calls) = ended result r calls := by
  induction n with
  | zero => rfl
  | succ n ih => exact ih

end Rewriting

/-- The callback fails a call: it raises a fault, or it returns no text. -/
def FailsWith (run : Text → Run σ Value) (argument : Text) (before after : Recorded σ)
    (fault : Fault) : Prop :=
  (run argument).exec before = (.error fault, after) ∨
    ∃ value, (∀ text, value ≠ .text text) ∧ (run argument).exec before = (.ok value, after) ∧
      fault = breach argument value

/-- A call of the callback returns a text or fails. -/
lemma text_or_failsWith (run : Text → Run σ Value) (argument : Text) (r : Recorded σ) :
    (∃ result after, (run argument).exec r = (.ok (.text result), after)) ∨
      ∃ fault after, FailsWith run argument r after fault := by
  rcases hcall : (run argument).exec r with ⟨fault | value, after⟩
  · exact .inr ⟨fault, after, .inl hcall⟩
  · by_cases htext : ∃ text, value = .text text
    · obtain ⟨text, rfl⟩ := htext
      exact .inl ⟨text, after, rfl⟩
    · have hvalue : ∀ text, value ≠ .text text := by
        intro text heq
        exact htext ⟨text, heq⟩
      exact .inr ⟨breach argument value, after, .inr ⟨value, hvalue, hcall, rfl⟩⟩

namespace Rewriting

variable {run : Text → Run σ Value} {command inner : Command} {fill : Text → Command}
  {r after : Recorded σ} {calls : List Text}

lemma step_of_next_none (h : command.next = none) :
    step run (running command r calls) = ended (.ok command.literals) r calls := by
  simp only [step, h]

lemma step_of_text {result : Text} (h : command.next = some (inner, fill))
    (hcall : (run inner.literals).exec r = (.ok (.text result), after)) :
    step run (running command r calls) =
      running (fill result) (after.noted (.interpolated inner.literals result))
        (calls ++ [inner.literals]) := by
  simp only [step, h, hcall]

lemma step_of_failsWith {fault : Fault} (h : command.next = some (inner, fill))
    (hcall : FailsWith run inner.literals r after fault) :
    step run (running command r calls) =
      ended (.error fault) after (calls ++ [inner.literals]) := by
  obtain hcall | ⟨value, hvalue, hcall, rfl⟩ := hcall
  · simp only [step, h, hcall]
  · simp only [step, h, hcall]

/-- A rewriting that ends with a text has made a call for each interpolation. -/
theorem length_calls_of_ended_ok {n : Nat} {text : Text} {final : Recorded σ} {made : List Text}
    (h : (step run)^[n] (running command r calls) = ended (.ok text) final made) :
    made.length = calls.length + command.interpolationCount := by
  induction n generalizing command r calls with
  | zero => cases h
  | succ n ih =>
    rw [Function.iterate_succ_apply] at h
    rcases hnext : command.next with - | ⟨inner, fill⟩
    · rw [step_of_next_none hnext, iterate_step_ended] at h
      cases h
      rw [(Command.next_eq_none_iff _).mp hnext, Nat.add_zero]
    · rcases text_or_failsWith run inner.literals r with
        ⟨result, after, hcall⟩ | ⟨fault, after, hcall⟩
      · rw [step_of_text hnext hcall] at h
        rw [ih h, List.length_append, List.length_singleton,
          ← Command.interpolationCount_fill hnext result]
        omega
      · rw [step_of_failsWith hnext hcall, iterate_step_ended] at h
        cases h

/-- A rewriting that ends with a fault has it from its last call. -/
theorem last_call_of_ended_error {n : Nat} {fault : Fault} {final : Recorded σ} {made : List Text}
    (h : (step run)^[n] (running command r calls) = ended (.error fault) final made) :
    ∃ before argument stage prior, made = calls ++ before ++ [argument] ∧
      (step run)^[before.length] (running command r calls) =
        running stage prior (calls ++ before) ∧
      FailsWith run argument prior final fault := by
  induction n generalizing command r calls with
  | zero => cases h
  | succ n ih =>
    rw [Function.iterate_succ_apply] at h
    rcases hnext : command.next with - | ⟨inner, fill⟩
    · rw [step_of_next_none hnext, iterate_step_ended] at h
      cases h
    · rcases text_or_failsWith run inner.literals r with
        ⟨result, after, hcall⟩ | ⟨fault, after, hcall⟩
      · rw [step_of_text hnext hcall] at h
        -- the calls after the first one are those of the rewriting that the first step leads to
        obtain ⟨before, argument, stage, prior, hmade, hstage, hfails⟩ := ih h
        refine ⟨inner.literals :: before, argument, stage, prior, ?_, ?_, hfails⟩
        · rw [hmade, List.append_assoc calls]
          rfl
        · rw [List.length_cons, Function.iterate_succ_apply, step_of_text hnext hcall, hstage,
            List.append_assoc]
          rfl
      · rw [step_of_failsWith hnext hcall, iterate_step_ended] at h
        cases h
        refine ⟨[], inner.literals, command, r, ?_, ?_, hcall⟩
        · rw [List.append_nil]
        · rw [List.append_nil]
          rfl

end Rewriting

/-! ## The calls of an evaluation -/

/-- What is recorded, with the calls that were made as a part of the state. -/
def Recorded.traced (r : Recorded σ) (calls : List Text) : Recorded (σ × List Text) :=
  ⟨(r.state, calls), r.journal⟩

/-- The callback, keeping what it is called with. -/
def traced (run : Text → Run σ Value) (argument : Text) : Run (σ × List Text) Value :=
  ExceptT.mk fun r =>
    let (result, after) := (run argument).exec ⟨r.state.1, r.journal⟩
    (result, after.traced (r.state.2 ++ [argument]))

section Calls

variable {run : Text → Run σ Value} {argument : Text} {r after : Recorded σ} {fault : Fault}
  {calls : List Text}

lemma exec_traced : (traced run argument).exec (r.traced calls) =
    (((run argument).exec r).1, ((run argument).exec r).2.traced (calls ++ [argument])) := rfl

/-- Keeping the calls does not make a call fail differently. -/
lemma FailsWith.traced (h : FailsWith run argument r after fault) :
    FailsWith (traced run) argument (r.traced calls) (after.traced (calls ++ [argument]))
      fault := by
  obtain hcall | ⟨value, hvalue, hcall, hfault⟩ := h
  · exact .inl (by rw [exec_traced, hcall])
  · exact .inr ⟨value, hvalue, by rw [exec_traced, hcall], hfault⟩

lemma exec_splice_of_text {result : Text}
    (h : (run argument).exec r = (.ok (.text result), after)) :
    (splice run argument).exec r = (.ok result, after.noted (.interpolated argument result)) := by
  rw [splice, Run.exec_bind, Run.exec_attempt, h]
  rfl

lemma leaving_breach (argument : Text) (value : Value) :
    (breach argument value).leaving = breach argument value := by
  unfold breach
  split <;> rfl

/-- A value that is no text is shown in the fault, or else cannot be written. -/
lemma exec_splice_of_not_text {value : Value} (hvalue : ∀ text, value ≠ .text text)
    (h : (run argument).exec r = (.ok value, after)) :
    (splice run argument).exec r = (.error (breach argument value), after) := by
  have hshown : (splice run argument).exec r = (Run.ofExcept value.write >>= fun written =>
      throw (.evaluation ⟨"Run callback must return a string.", argument,
        "Got " ++ value.typeName ++ ": " ++ written⟩)).exec after := by
    rw [splice, Run.exec_bind, Run.exec_attempt, h]
    cases value with
    | text text => exact absurd rfl (hvalue text)
    | _ => rfl
  rw [hshown, Run.exec_bind, Run.exec_ofExcept, Value.write, breach]
  by_cases hwritable : value.isWritable = true
  · rw [if_pos hwritable, if_pos hwritable]
    rfl
  · rw [if_neg hwritable, if_neg hwritable]

/-- A fault of a call leaves an interpolation as `Fault.leaving` says. -/
lemma exec_splice_of_failsWith (h : FailsWith run argument r after fault) :
    (splice run argument).exec r = (.error fault.leaving, after) := by
  obtain hcall | ⟨value, hvalue, hcall, rfl⟩ := h
  · rw [splice, Run.exec_bind, Run.exec_attempt, hcall]
    rfl
  · rw [leaving_breach]
    exact exec_splice_of_not_text hvalue hcall

end Calls

/-- A fault leaves an interpolation as it is unless it is a `StopIteration`. -/
lemma leaving_eq_iff (fault : Fault) :
    fault.leaving = fault ↔ ∀ message, fault ≠ .other "StopIteration" message := by
  cases fault with
  | other kind message =>
    unfold Fault.leaving
    dsimp only
    by_cases hkind : kind = "StopIteration"
    · rw [if_pos hkind]
      constructor
      · intro h
        injection h with hruntime
        rw [hkind] at hruntime
        exact absurd hruntime (by decide)
      · intro h
        exact absurd (by rw [hkind]) (h message)
    · rw [if_neg hkind]
      constructor
      · intro _ message' h
        injection h with hstop
        exact hkind hstop
      · intro _
        rfl
  | _ => exact iff_of_true rfl (fun _ h => by cases h)

/-- If it does not, it leaves it as a failure. -/
lemma leaving_cases (fault : Fault) :
    fault.leaving = fault ∨
      fault.leaving = .other "RuntimeError" "generator raised StopIteration" ∧
        ∃ message, fault = .other "StopIteration" message := by
  by_cases hstop : ∃ message, fault = .other "StopIteration" message
  · obtain ⟨message, rfl⟩ := hstop
    exact .inr ⟨rfl, message, rfl⟩
  · exact .inl ((leaving_eq_iff fault).mpr fun message h => hstop ⟨message, h⟩)

/-- The same for the result of an evaluation. -/
lemma mapError_leaving_eq_iff (result : Except Fault Text) :
    result.mapError Fault.leaving = result ↔
      ∀ message, result ≠ .error (.other "StopIteration" message) := by
  cases result with
  | ok text => exact iff_of_true rfl (fun _ h => by cases h)
  | error fault =>
    show Except.error fault.leaving = Except.error fault ↔ _
    rw [Except.error.injEq, leaving_eq_iff]
    constructor
    · intro h message hresult
      exact h message (Except.error.inj hresult)
    · intro h message hfault
      exact h message (by rw [hfault])

/-! ## The comparison -/

/-- An evaluation and the rewriting of the same command come to the same end. -/
theorem ends_of_running (run : Text → Run σ Value) (n : Nat) {command : Command}
    (hn : command.interpolationCount = n) (r : Recorded σ) (calls : List Text) :
    ∃ result final made,
      (Rewriting.step run)^[n + 1] (.running command r calls) = .ended result final made ∧
      (command.resolve (splice run)).exec r = (result.mapError Fault.leaving, final) ∧
      (command.resolve (splice (traced run))).exec (r.traced calls) =
        (result.mapError Fault.leaving, final.traced made) := by
  induction n generalizing command r calls with
  | zero =>
    -- without interpolations both end at once
    have hnext : command.next = none := (Command.next_eq_none_iff command).mpr hn
    refine ⟨.ok command.literals, r, calls, Rewriting.step_of_next_none hnext, ?_, ?_⟩
    · rw [Command.resolve_of_next_none _ hnext]
      rfl
    · rw [Command.resolve_of_next_none _ hnext]
      rfl
  | succ n ih =>
    rcases hnext : command.next with - | ⟨inner, fill⟩
    · rw [(Command.next_eq_none_iff command).mp hnext] at hn
      cases hn
    · rw [Function.iterate_succ_apply]
      rcases text_or_failsWith run inner.literals r with
        ⟨text, after, hcall⟩ | ⟨fault, after, hcall⟩
      · have hfill : (fill text).interpolationCount = n := by
          have := Command.interpolationCount_fill hnext text
          omega
        obtain ⟨result, final, made, hends, hresolve, htraced⟩ :=
          ih hfill (after.noted (.interpolated inner.literals text)) (calls ++ [inner.literals])
        refine ⟨result, final, made, ?_, ?_, ?_⟩
        · rw [Rewriting.step_of_text hnext hcall]
          exact hends
        · rw [Command.resolve_of_next _ hnext, Run.exec_bind, exec_splice_of_text hcall]
          exact hresolve
        · have htext : (traced run inner.literals).exec (r.traced calls) =
              (.ok (.text text), after.traced (calls ++ [inner.literals])) := by
            rw [exec_traced, hcall]
          rw [Command.resolve_of_next _ hnext, Run.exec_bind, exec_splice_of_text htext]
          exact htraced
      · -- after a call that fails the steps that remain do nothing
        refine ⟨.error fault, after, calls ++ [inner.literals], ?_, ?_, ?_⟩
        · rw [Rewriting.step_of_failsWith hnext hcall, Rewriting.iterate_step_ended]
        · rw [Command.resolve_of_next _ hnext, Run.exec_bind, exec_splice_of_failsWith hcall]
          rfl
        · rw [Command.resolve_of_next _ hnext, Run.exec_bind,
            exec_splice_of_failsWith hcall.traced]
          rfl

/-- An evaluation and the rewriting of its command make the same calls in the same order and record
the same, and their results agree but for the fault that cannot leave an interpolation: they are the
same exactly when the rewriting does not end with a `StopIteration`. A rewriting ends after a step
for each interpolation and one for the literals. It has called the callback for each interpolation
when its result is a text; a fault is from the last call. -/
theorem execute_eq_rewriting (command : Command) (run : Text → Run σ Value) (r : Recorded σ) :
    ∃ result final calls,
      (Rewriting.step run)^[command.interpolationCount + 1] (.start command r) =
        .ended result final calls ∧
      (command.execute run).exec r = (result.mapError Fault.leaving, final) ∧
      (command.execute (traced run)).exec (r.traced []) =
        (result.mapError Fault.leaving, final.traced calls) ∧
      (result.mapError Fault.leaving = result ↔
        ∀ message, result ≠ .error (.other "StopIteration" message)) ∧
      (∀ text, result = .ok text → calls.length = command.interpolationCount) ∧
      ∀ fault, result = .error fault → ∃ before argument stage prior,
        calls = before ++ [argument] ∧
        (Rewriting.step run)^[before.length] (.start command r) = .running stage prior before ∧
        FailsWith run argument prior final fault := by
  obtain ⟨result, final, calls, hends, hresolve, htraced⟩ :=
    ends_of_running run _ rfl (r.noted (.executing command.interpolationCount)) []
  refine ⟨result, final, calls, hends, ?_, ?_, mapError_leaving_eq_iff result, ?_, ?_⟩
  · rw [Command.execute, Run.exec_bind]
    exact hresolve
  · rw [Command.execute, Run.exec_bind]
    exact htraced
  · intro text htext
    rw [htext] at hends
    rw [Rewriting.length_calls_of_ended_ok hends, List.length_nil, Nat.zero_add]
  · intro fault hfault
    rw [hfault] at hends
    exact Rewriting.last_call_of_ended_error hends

/-- A returned text that looks like a command is not read, and a call that returns no text is the
last one. -/
theorem execute_of_nested_call :
    let run : Text → Run Unit Value := fun argument =>
      if argument = "b".toList then return .text "$(c)" else return .null
    let command : Command :=
      .interpolation (.literal "a" (.interpolation (.literal "b" .nil) .nil)) .nil
    ((command.execute (traced run)).exec (Recorded.traced ⟨(), []⟩ [])).1 =
        .error (breach "a$(c)" .null) ∧
      ((command.execute (traced run)).exec (Recorded.traced ⟨(), []⟩ [])).2.state.2 =
        ["b".toList, "a$(c)".toList] := by
  intro run command
  obtain ⟨result, final, calls, hends, -, htraced, -⟩ := execute_eq_rewriting command run ⟨(), []⟩
  have hrun : ∃ recorded,
      (Rewriting.step run)^[command.interpolationCount + 1] (.start command ⟨(), []⟩) =
        .ended (.error (breach "a$(c)" .null)) recorded ["b".toList, "a$(c)".toList] := ⟨_, rfl⟩
  obtain ⟨recorded, hrun⟩ := hrun
  rw [hrun] at hends
  injection hends with hresult _ hcalls
  rw [htraced, ← hresult, ← hcalls]
  exact ⟨rfl, rfl⟩

/-- The rewriting ends with the `StopIteration` of its call, and the evaluation with a failure. -/
theorem execute_ne_rewriting :
    let run : Text → Run Unit Value := fun _ => throw (.other "StopIteration" "m")
    let command : Command := .interpolation (.literal "x" .nil) .nil
    ¬ ∃ result final calls,
      (Rewriting.step run)^[command.interpolationCount + 1] (.start command ⟨(), []⟩) =
        .ended result final calls ∧
      (command.execute run).exec ⟨(), []⟩ = (result, final) := by
  intro run command h
  obtain ⟨result, final, calls, hends, hexec⟩ := h
  have hrun : ∃ recorded,
      (Rewriting.step run)^[command.interpolationCount + 1] (.start command ⟨(), []⟩) =
        .ended (.error (.other "StopIteration" "m")) recorded ["x".toList] := ⟨_, rfl⟩
  obtain ⟨recorded, hrun⟩ := hrun
  rw [hrun] at hends
  injection hends with hresult
  have hfailure : ((command.execute run).exec ⟨(), []⟩).1 =
      .error (.other "RuntimeError" "generator raised StopIteration") := rfl
  rw [hexec, ← hresult] at hfailure
  injection hfailure with hfault
  injection hfault with hkind
  exact absurd hkind (by decide)

end Subshell
