import ListScript.Proofs.Frames
import ListScript.Proofs.Termination

/-!
# Histories of sessions

What happens in a session is what happens in its operations, one after another. Of everything that a
host does, only operations evaluate something.

A lambda form gives a lambda that captured a frame. Which frame that is can be seen at the moment
when the evaluation of the form ends: it is the latest one.

Results:
1. `Session.exists_history`, `Session.history_unique`: every session has one history.
2. `Session.History.makes`: where the evaluation of a lambda form ends, a lambda was made.
3. `Captured`: the frames that lambdas captured so far, and in which frames the lambdas were made.
-/

namespace ListScript

/-! ## 1. Histories -/

namespace Session

/-- The step leaves the trace. -/
def Passes (s : Session) : Step → List Moment → Prop
  | .operation op, trace => ∃ outcome, s.Performs op trace outcome
  | _, trace => trace = []

/-- What happens in the session during some steps. -/
def History (s : Session) : List Step → List Moment → Prop
  | [], history => history = []
  | step :: steps, history =>
    ∃ trace later, s.Passes step trace ∧ (s.step step).History steps later ∧
      history = trace ++ later

theorem exists_passes (s : Session) (step : Step) : ∃ trace, s.Passes step trace := by
  cases step with
  | operation op =>
    obtain ⟨trace, outcome, run⟩ := s.exists_performs op
    exact ⟨trace, outcome, run⟩
  | _ => exact ⟨[], rfl⟩

theorem passes_unique {s : Session} {step : Step} {trace trace' : List Moment}
    (h : s.Passes step trace) (h' : s.Passes step trace') : trace = trace' := by
  cases step with
  | operation op =>
    obtain ⟨outcome, run⟩ := h
    obtain ⟨outcome', run'⟩ := h'
    exact (run.unique run').1
  | _ => exact h.trans h'.symm

theorem exists_history (s : Session) (steps : List Step) : ∃ history, s.History steps history := by
  induction steps generalizing s with
  | nil => exact ⟨[], rfl⟩
  | cons step steps ih =>
    obtain ⟨trace, passes⟩ := s.exists_passes step
    obtain ⟨later, follows⟩ := ih (s.step step)
    exact ⟨_, trace, later, passes, follows, rfl⟩

theorem history_unique {s : Session} {steps : List Step} {history history' : List Moment}
    (h : s.History steps history) (h' : s.History steps history') : history = history' := by
  induction steps generalizing s history history' with
  | nil => exact h.trans h'.symm
  | cons step steps ih =>
    obtain ⟨trace, later, passes, follows, rfl⟩ := h
    obtain ⟨trace', later', passes', follows', rfl⟩ := h'
    rw [passes_unique passes passes', ih follows follows']

/-- An evaluation that a host asks for ends if it gives a value. -/
theorem Performs.eq_of_eval {s : Session} {scope : FrameId} {form : Value} {trace : List Moment}
    {answer : Answer} {store : Store}
    (run : s.Performs (.eval scope form) trace (.ok answer store)) :
    ∃ inner, trace = ⟨[], .begins (.eval scope form), s.store⟩ ::
      (inner ++ [⟨[], .ends (.eval scope form), store⟩]) := by
  change Runs s.setting 0 [] (.ask (.eval scope form) fun v => .done (Answer.value v))
    s.store trace _ at run
  cases run with
  | answered ran closed went =>
    cases went
    exact ⟨_, rfl⟩

end Session

/-! ## 2. Lambdas -/

/-- At the moment, the evaluation of a lambda form in the frame `scope` ends and gives a lambda that
captured the frame `captured`. -/
def Moment.Makes (m : Moment) (scope : FrameId) (params : List String) (body : Value)
    (captured : FrameId) : Prop :=
  ∃ head names before, m.event = .ends (.eval scope (.list [head, .list names, body])) ∧
    SpecialForm.ofHead? head = some .lambda ∧
    ∀ evaluator, Evaluation.special evaluator scope .lambda [.list names, body] before =
      .ok (.lambda params body captured) m.store

section Lambda

variable {evaluator : Evaluator} {scope : FrameId} {args : List Value} {store : Store}

theorem special_lambda {names : List Value} {params : List String} (body : Value)
    (given : Evaluation.parameterNames names = .ok params) :
    Evaluation.special evaluator scope .lambda [.list names, body] store =
      .ok (.lambda params body store.scopes.size)
        { store with scopes := store.scopes.newFrame scope .empty } := by
  simp only [Evaluation.special, given]
  rfl

/-- A lambda form makes one frame and gives a lambda that captured it. -/
theorem special_lambda_eq_ok {v : Value} {mid : Store}
    (h : Evaluation.special evaluator scope .lambda args store = .ok v mid) :
    ∃ names params body, args = [.list names, body] ∧
      Evaluation.parameterNames names = .ok params ∧
      v = .lambda params body store.scopes.size ∧
      mid = { store with scopes := store.scopes.newFrame scope .empty } := by
  rcases args with _ | ⟨names, _ | ⟨body, _ | ⟨extra, more⟩⟩⟩
  · cases h
  · cases names <;> cases h
  · cases names with
    | list names =>
      cases given : Evaluation.parameterNames names with
      | error e =>
        simp only [Evaluation.special, given] at h
        cases h
      | ok params =>
        rw [special_lambda body given] at h
        cases h
        exact ⟨names, params, body, rfl, given, rfl, rfl⟩
    | _ => cases h
  · cases names <;> cases h

/-- The same for a request that a lambda form is evaluated. -/
theorem actWithin_lambda {setting : Setting} {exhausted : Import} {nesting depth : Nat}
    {head : Value} (isLambda : SpecialForm.ofHead? head = some .lambda) {v : Value} {mid : Store}
    (acted : (Request.eval scope (.list (head :: args))).actWithin setting exhausted nesting depth
      store = .ok v mid) :
    ∃ names params body, args = [.list names, body] ∧
      Evaluation.parameterNames names = .ok params ∧
      v = .lambda params body store.scopes.size ∧
      mid = { store with scopes := store.scopes.newFrame scope .empty } := by
  simp only [Request.actWithin, Request.act] at acted
  cases levels : setting.depthLimit - depth with
  | zero =>
    rw [levels] at acted
    cases acted
  | succ left =>
    rw [levels] at acted
    simp only [Evaluation.eval, Evaluation.form, isLambda] at acted
    exact special_lambda_eq_ok acted

end Lambda

section Moments

variable {m : Moment} {scope captured : FrameId} {params : List String} {body : Value}

/-- The frame that was captured is the latest one. -/
theorem Moment.Makes.spec (makes : m.Makes scope params body captured) :
    (∃ form, m.event = .ends (.eval scope form)) ∧ m.store.scopes.size = captured + 1 := by
  obtain ⟨head, names, before, ends, -, given⟩ := makes
  obtain ⟨_, _, _, -, -, same, mid⟩ := special_lambda_eq_ok (given fun _ _ => throw .moduleNesting)
  cases same
  exact ⟨⟨_, ends⟩, mid ▸ Scopes.size_newFrame⟩

/-- Where the evaluation of a lambda form ends, a lambda was made. -/
theorem Moment.Explained.makes {setting : Setting} {base : Nat} {trace : List Moment}
    (explained : m.Explained setting base trace) {head : Value} {args : List Value}
    (ended : m.event = .ends (.eval scope (.list (head :: args))))
    (isLambda : SpecialForm.ofHead? head = some .lambda) :
    ∃ params body captured, m.Makes scope params body captured := by
  obtain ⟨v, start, -, -, -, acted⟩ := explained.ends _ ended
  obtain ⟨names, params, body, rfl, given, -, mid⟩ := actWithin_lambda isLambda
    (acted (fun _ => throw .moduleNesting) _ (Nat.lt_succ_self (missing setting start.store)))
  refine ⟨params, body, start.store.scopes.size, head, names, start.store, ended, isLambda, ?_⟩
  exact fun evaluator => mid ▸ special_lambda body given

end Moments

theorem Session.History.makes {s : Session} {steps : List Step} {history : List Moment}
    (h : s.History steps history) {m : Moment} (mem : m ∈ history) {scope : FrameId} {head : Value}
    {args : List Value} (ended : m.event = .ends (.eval scope (.list (head :: args))))
    (isLambda : SpecialForm.ofHead? head = some .lambda) :
    ∃ params body captured, m.Makes scope params body captured := by
  induction steps generalizing s history with
  | nil => cases h ▸ mem
  | cons step steps ih =>
    obtain ⟨trace, later, passes, follows, rfl⟩ := h
    rcases List.mem_append.mp mem with mem | mem
    · cases step with
      | operation op =>
        obtain ⟨outcome, run⟩ := passes
        exact (run.explained mem).makes ended isLambda
      | _ => cases passes ▸ mem
    · exact ih follows mem

/-! ## 3. Captured frames -/

/-- The frames that are held by lambdas, each with the frame in which the lambda was made: those
that were held before, and those that lambdas captured in the trace. -/
def Captured (held : FrameId → FrameId → Prop) (trace : List Moment) (scope captured : FrameId) :
    Prop :=
  held scope captured ∨ ∃ m ∈ trace, ∃ params body, m.Makes scope params body captured

section Captured

variable (held : FrameId → FrameId → Prop) (m : Moment) (trace later : List Moment)

theorem captured_nil : Captured held [] = held := by
  funext scope captured
  simp [Captured]

theorem captured_append :
    Captured held (trace ++ later) = Captured (Captured held trace) later := by
  funext scope captured
  simp only [Captured, List.mem_append, or_and_right, exists_or, or_assoc]

theorem captured_cons : Captured held (m :: later) = Captured (Captured held [m]) later :=
  captured_append held [m] later

/-- Only the end of an evaluation makes a lambda. -/
theorem captured_of_event {m : Moment} (quiet : ∀ scope form, m.event ≠ .ends (.eval scope form)) :
    Captured held [m] = held := by
  have none (scope captured : FrameId) (params : List String) (body : Value) :
      ¬ m.Makes scope params body captured := by
    intro makes
    obtain ⟨form, ends⟩ := makes.spec.1
    exact quiet scope form ends
  funext scope captured
  simp [Captured, none]

end Captured

end ListScript
