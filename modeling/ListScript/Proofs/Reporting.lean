import ListScript.Proofs.Batch
import ListScript.Proofs.ErrorPassing

/-!
# Reports

A line that fails is reported to the host, once and with the error that its feeding gives. Modules
are fed too, with drafts of their own, but an error in one of them is passed on and not reported, so
it makes no difference how many modules it leaves behind. Asking to exit is passed on in the same
way and is no failure. The host sees the error of every other operation itself.

Results:
1. `reports_perform`: an operation adds the reports that its outcome calls for.
2. `reports_after`: while the host listens, the reports of a run are those of its operations.
3. `reports_once`: both, wherever in an operation the error arose.
-/

namespace ListScript

/-- The reports that the outcome of an operation calls for. -/
def Operation.due : Operation → Except Error Answer → List Report
  | .feed _ _, .error (.exit _) => []
  | .feed _ _, .error e => [⟨e.severity, e.message⟩]
  | _, _ => []

namespace Session

/-- The reports that some steps call for, in order. -/
def due (s : Session) : List Step → List Report
  | [] => []
  | .operation op :: rest => op.due (s.perform op).1 ++ (s.perform op).2.due rest
  | step :: rest => (s.step step).due rest

variable {s : Session}

/-! ## 1. One operation -/

theorem report_listening (listening : s.reporting = true) (e : Error) :
    s.report e = { s with reports := s.reports ++ e.report?.toList } :=
  if_pos listening

/-- An error is reported as a failure unless it asks to exit. -/
theorem due_error (line : String) (echo : Bool) (e : Error) :
    (Operation.feed line echo).due (.error e) = e.report?.toList := by
  cases e <;> rfl

theorem due_ok (op : Operation) (answer : Answer) : op.due (.ok answer) = [] := by
  cases op <;> rfl

/-- While the host listens, an operation adds the reports that its outcome calls for, and the host
goes on to listen. -/
theorem reports_perform (listening : s.reporting = true) (op : Operation) :
    (s.perform op).2.reports = s.reports ++ op.due (s.perform op).1 ∧
      (s.perform op).2.reporting = true := by
  rw [perform_eq]
  cases s.act op s.store with
  | ok answer store =>
    refine ⟨?_, listening⟩
    rw [conclude, due_ok, List.append_nil]
  | error e store =>
    cases op with
    | feed line echo =>
      have listening : ({ s with store } : Session).reset.reporting = true := listening
      simp only [conclude, fail, due_error, report_listening listening]
      exact ⟨rfl, listening⟩
    | _ => exact ⟨(List.append_nil _).symm, listening⟩

/-- A line that fails leaves no statement behind. -/
theorem draft_perform_feed {line : String} {echo : Bool} {e : Error}
    (failed : (s.perform (.feed line echo)).1 = .error e) :
    (s.perform (.feed line echo)).2.draft = .empty := by
  rw [perform_eq] at failed ⊢
  cases ran : s.act (.feed line echo) s.store with
  | ok answer store =>
    rw [ran] at failed
    cases failed
  | error e store => exact draft_report _ e

/-! ## 2. A run -/

/-- While the host listens, the reports of a run are those that its operations call for. -/
theorem reports_after (listening : s.reporting = true) {steps : List Step}
    (kept : ∀ reporting, Step.listen reporting ∈ steps → reporting = true) :
    (s.after steps).reports = s.reports ++ s.due steps ∧ (s.after steps).reporting = true := by
  induction steps generalizing s with
  | nil => exact ⟨(List.append_nil _).symm, listening⟩
  | cons step rest ih =>
    have later : ∀ reporting, Step.listen reporting ∈ rest → reporting = true :=
      fun reporting mem => kept reporting (.tail _ mem)
    have quiet (calm : (s.step step).reports = s.reports)
        (listens : (s.step step).reporting = true) :
        (s.after (step :: rest)).reports = s.reports ++ (s.step step).due rest ∧
          (s.after (step :: rest)).reporting = true := by
      rw [← calm]
      exact ih listens later
    cases step with
    | operation op =>
      obtain ⟨reports, listens⟩ := reports_perform listening op
      obtain ⟨reports', listens'⟩ := ih listens later
      refine ⟨?_, listens'⟩
      rw [due, ← List.append_assoc, ← reports]
      exact reports'
    | listen reporting => exact quiet rfl (kept reporting (.head _))
    | assign scope name v =>
      refine quiet ?_ ?_
      · simp only [step]
        cases s.store.scopes.set? scope name v <;> rfl
      · simp only [step]
        cases s.store.scopes.set? scope name v <;> exact listening
    | _ => exact quiet rfl listening

/-! ## 3. Wherever the error arose -/

/-- Every failure is reported once. While the host listens, any steps add the reports that their
operations call for and no others. A line that failed has one, with the severity and the message of
the error that feeding it gave, unless that asked to exit, and no statement is left. A line that was
taken and every other operation have none. It makes no difference where in an operation the error
arose, and in how many modules: the error that feeding gives, and the one that is reported, is the
one that some request failed with first. -/
theorem reports_once (s : Session) (steps : List Step) (listening : s.reporting = true)
    (kept : ∀ reporting, Step.listen reporting ∈ steps → reporting = true) :
    (s.after steps).reports = s.reports ++ s.due steps ∧
    ∀ op, let t := s.after steps
      (∀ line echo e, op = .feed line echo → (t.perform op).1 = .error e →
        (t.perform op).2.reports =
          t.reports ++ (if e.exitCode? = none then [⟨e.severity, e.message⟩] else []) ∧
        (t.perform op).2.draft = .empty) ∧
      ((∀ line echo, op ≠ .feed line echo) ∨ (∃ answer, (t.perform op).1 = .ok answer) →
        (t.perform op).2.reports = t.reports) ∧
      ∀ trace outcome m request e, t.Performs op trace outcome → m ∈ trace →
        m.event = .fails request e →
        (t.perform op).1 = .error e ∧
          (t.perform op).2.reports = t.reports ++ op.due (.error e) := by
  obtain ⟨reports, listens⟩ := reports_after listening kept
  refine ⟨reports, fun op => ?_⟩
  intro t
  obtain ⟨added, -⟩ := reports_perform listens op
  refine ⟨?_, ?_, ?_⟩
  · rintro line echo e rfl failed
    refine ⟨?_, draft_perform_feed failed⟩
    rw [added, failed, due_error]
    cases e <;> rfl
  · intro calm
    have none : op.due (t.perform op).1 = [] := by
      rcases calm with noLine | ⟨answer, taken⟩
      · cases op with
        | feed line echo => exact absurd rfl (noLine line echo)
        | _ => rfl
      · rw [taken, due_ok]
    rw [added, none, List.append_nil]
  · intro trace outcome m request e run mem fails
    obtain ⟨earlier, later, split⟩ := List.append_of_mem mem
    obtain ⟨around, paths, -, -, -, rfl, -⟩ := run.unwinds split fails
    have given : (t.perform op).1 = .error e := by
      rw [run.perform_eq]
      rfl
    exact ⟨given, given ▸ added⟩

/-- A module that imports a module that fails, and one that imports a module that exits. -/
def failingFiles : FileTree :=
  (((FileTree.write {} "a" (.file (some "(import \"b\")"))).write "b"
    (.file (some "(print 1)\n(car (quote ()))"))).write "c" (.file (some "(import \"d\")"))).write
    "d" (.file (some "(exit 3)"))

/-- The failure is reported once, and the exit is not. What the host evaluates itself is not. -/
theorem reports_once_nestedImports :
    let s := Session.new { files := failingFiles }
    let steps := [Step.operation (.evalText "(import \"a\")"),
      .operation (.feed "(import \"a\")" true), .operation (.importModule "a"),
      .operation (.feed "(import \"c\")" true)]
    let car : Error := .malformed "car" .emptyList
    s.reporting = true ∧ (∀ reporting, Step.listen reporting ∈ steps → reporting = true) ∧
      (s.after steps).reports = s.reports ++ s.due steps ∧
      s.reports ++ s.due steps = [⟨.fatal, car.message⟩] := by
  intro s steps car
  have listening : s.reporting = true := by decide +kernel
  have kept : ∀ reporting, Step.listen reporting ∈ steps → reporting = true := by
    simp [steps]
  exact ⟨listening, kept, (reports_once s steps listening kept).1, by decide +kernel⟩

end Session

end ListScript
