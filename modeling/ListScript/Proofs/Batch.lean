import ListScript.Proofs.Drafting
import ListScript.Proofs.Operation

/-!
# Feeding a text and reading it at once

A text can be fed line by line, so that each statement is evaluated as soon as it is complete, or be
read as a whole and then be evaluated form by form. If the text reads well and closes its quoted
sections on their lines, both do the same.

The lines that are still to be fed, with what the draft holds, have the tokens that are still to be
evaluated. A statement is complete where no list is open, and there the tokens are cut between two
forms.

Results:
1. `reached_after`: every session holds a draft that lines lead to.
2. `feedAll_eq_evalForms`: feeding the lines of some forms evaluates these forms.
3. `feedAll_eq_evalText`: feeding the lines of a text does what evaluating the text does.
-/

namespace ListScript

namespace Session

/-! ## 1. Drafts of a session -/

theorem draft_report (s : Session) (e : Error) : (s.report e).draft = s.draft := by
  unfold report
  split <;> rfl

theorem reached_perform {s : Session} (h : s.draft.Reached) (op : Operation) :
    (s.perform op).2.draft.Reached := by
  rw [perform_eq]
  cases s.act op s.store with
  | ok answer store =>
    cases op with
    | feed line echo =>
      simp only [conclude, draftAfter]
      split
      · exact h
      · next next added => exact .waiting h added
      · next statement rest added => exact .complete h added
    | _ => exact h
  | error e store =>
    cases op with
    | feed line echo =>
      simp only [conclude, fail, draft_report]
      exact .empty
    | _ => exact h

/-- Every session holds a draft that lines lead to. -/
theorem reached_after {s : Session} (h : s.draft.Reached) (steps : List Step) :
    (s.after steps).draft.Reached := by
  induction steps generalizing s with
  | nil => exact h
  | cons step steps ih =>
    refine ih ?_
    cases step with
    | operation op => exact reached_perform h op
    | reset => exact .empty
    | assign scope name v =>
      simp only [Session.step]
      cases s.store.scopes.set? scope name v <;> exact h
    | _ => exact h

/-! ## 2. Evaluating forms one after another -/

/-- Feeds lines until one fails. -/
def feedAll (s : Session) : List String → Except Error Unit × Session
  | [] => (.ok (), s)
  | line :: rest =>
    match s.feed line false with
    | (.ok _, s) => s.feedAll rest
    | (.error e, s) => (.error e, s)

end Session

/-- Evaluates forms in the root frame and drops their values. -/
def Module.evalForms (setting : Setting) (imports : Import) : List Value → Eval Unit
  | [] => return ()
  | form :: rest => do
    let _ ← Evaluation.run setting imports rootFrame form
    evalForms setting imports rest

namespace BatchLemmas

variable {setting : Setting} {imports : Import}

theorem evalForms_append (forms more : List Value) :
    Module.evalForms setting imports (forms ++ more) = (do
      Module.evalForms setting imports forms
      Module.evalForms setting imports more) := by
  induction forms with
  | nil => rfl
  | cons form forms ih =>
    simp only [List.cons_append, Module.evalForms, ih, bind_assoc]

/-- Of the values of forms that are evaluated at once only the last is kept. -/
theorem evalForms_eq_foldlM (forms : List Value) (start : Value) :
    Module.evalForms setting imports forms = (do
      let _ ← forms.foldlM (fun _ form => Evaluation.run setting imports rootFrame form) start
      return ()) := by
  induction forms generalizing start with
  | nil => rfl
  | cons form forms ih =>
    rw [List.foldlM_cons, bind_assoc, Module.evalForms]
    exact bind_congr fun v => ih v

theorem evalForms_eq_forM (forms : List Value) :
    Module.evalForms setting imports forms = forms.forM fun form => do
      let _ ← Evaluation.run setting imports rootFrame form
      return () := by
  induction forms with
  | nil => rfl
  | cons form forms ih =>
    rw [List.forM, bind_assoc, Module.evalForms]
    refine bind_congr fun v => ?_
    rw [pure_bind, ih]

/-- A statement that reads well is evaluated form by form. -/
theorem runStatement_eq {statement : String} {forms : List Value}
    (read : readAll statement = .ok forms) :
    Module.runStatement setting imports false statement =
      Module.evalForms setting imports forms := by
  unfold Module.runStatement
  rw [read, evalForms_eq_forM]
  rfl

/-- A text that reads well is evaluated form by form. -/
theorem evalText_eq {s : Session} {text : String} {forms : List Value}
    (read : readAll text = .ok forms) :
    let act := Module.evalForms s.setting s.imports forms
    (s.evalText text).1.map (fun _ => ()) = act.outcome s.store ∧
      (s.evalText text).2.store = act.after s.store := by
  rw [evalForms_eq_foldlM forms .nil]
  simp only [Session.evalText, Session.run, Eval.outcome, Eval.after, read, Eval.bind_apply,
    Eval.ofExcept]
  cases forms.foldlM (fun _ form => Evaluation.run s.setting s.imports rootFrame form)
    Value.nil s.store with
  | ok v store => exact ⟨rfl, rfl⟩
  | error e store => exact ⟨rfl, rfl⟩

end BatchLemmas

open BatchLemmas

namespace Session

/-! ## 3. Feeding lines -/

/-- Feeding lines evaluates the forms whose tokens the draft and the lines hold. -/
theorem feedAll_eq_evalForms {s : Session} {rest : List String} {forms : List Value}
    (steady : s.draft.Steady) (noComment : ∀ line ∈ rest, ';' ∉ line.toList)
    (closes : ∀ line ∈ rest, ClosesQuotes line)
    (read : parseAll (tokenize s.draft.text ++ rest.flatMap tokenize) = .ok forms) :
    let act := Module.evalForms s.setting s.imports forms
    (s.feedAll rest).1 = act.outcome s.store ∧ (s.feedAll rest).2.store = act.after s.store ∧
      (s.feedAll rest).2.draft = .empty := by
  induction rest generalizing s forms with
  | nil =>
    -- A text that waits has open parentheses, and then it would not read well.
    have balanced := nesting_of_parseAll read
    rw [List.flatMap_nil, List.append_nil] at read balanced
    have none : s.draft.text = "" := steady.pending.resolve_right fun waits =>
      waits (steady.depth.trans balanced)
    rw [none, tokenize, String.toList_empty, scanTokens_nil, lastWord, parseAll] at read
    cases read
    exact ⟨rfl, rfl, Draft.eq_empty_of_text steady none⟩
  | cons line rest ih =>
    obtain ⟨noComment, noComments⟩ := List.forall_mem_cons.mp noComment
    obtain ⟨closes, closed⟩ := List.forall_mem_cons.mp closes
    rw [List.flatMap_cons, ← List.append_assoc] at read
    cases added : s.draft.add line with
    | blank =>
      rw [Draft.tokenize_of_add_blank noComment added, List.append_nil] at read
      have fed : s.feedAll (line :: rest) = s.feedAll rest := by
        simp only [feedAll, feed, added]
      rw [fed]
      exact ih steady noComments closed read
    | waiting next =>
      obtain ⟨steadyNext, tokens⟩ := steady.waiting noComment closes added
      have fed : s.feedAll (line :: rest) = Session.feedAll { s with draft := next } rest := by
        simp only [feedAll, feed, added]
      have steadyNext : Draft.Steady (Session.draft { s with draft := next }) := steadyNext
      rw [fed]
      exact ih steadyNext noComments closed (tokens ▸ read)
    | complete statement draft =>
      -- The tokens are cut between two forms, so the statement reads well on its own.
      obtain ⟨rfl, tokens, balanced⟩ := steady.complete noComment closes added
      rw [← tokens] at read
      obtain ⟨first, others, hfirst, hothers, rfl⟩ := parseAll_append read balanced
      simp only [feedAll, feed, added, runStatement_eq hfirst, run, Eval.outcome, Eval.after,
        evalForms_append, Eval.bind_apply]
      cases Module.evalForms s.setting s.imports first s.store with
      | ok _ store =>
        have steadyNext : Draft.Steady (Session.draft { s with store, draft := .empty }) :=
          Draft.steady_empty
        exact ih steadyNext noComments closed hothers
      | error e store => exact ⟨rfl, store_report _ e, draft_report _ e⟩

/-- Feeding the lines of a text to an idle session does what evaluating the text at once does, if
the text has no semicolon, closes its quoted sections on the lines that open them, has no backslash
outside of them and reads well. Outcome and store are the same, and the session is idle again. -/
theorem feedAll_eq_evalText {s : Session} {text : String} (reached : s.draft.Reached)
    (idle : s.isIdle) (noComment : ';' ∉ text.toList)
    (closes : ∀ line ∈ lines text, ClosesQuotes line)
    (read : (readAll text).isOk) :
    let fed := s.feedAll (lines text)
    let batch := s.evalText text
    fed.1 = batch.1.map (fun _ => ()) ∧ fed.2.store = batch.2.store ∧ fed.2.isIdle := by
  intro fed batch
  have fresh : s.draft = .empty := reached.eq_empty_of_isIdle idle
  cases hread : readAll text with
  | error e =>
    rw [hread] at read
    cases read
  | ok forms =>
    have steady : s.draft.Steady := fresh ▸ Draft.steady_empty
    have noComments (line : String) (mem : line ∈ lines text) : ';' ∉ line.toList :=
      fun found => noComment (mem_of_mem_lines mem found)
    have tokens :
        parseAll (tokenize s.draft.text ++ (lines text).flatMap tokenize) = .ok forms := by
      rw [fresh, ← tokenize_lines closes]
      exact hread
    obtain ⟨outcome, store, draft⟩ := feedAll_eq_evalForms steady noComments closes tokens
    obtain ⟨batchOutcome, batchStore⟩ := evalText_eq hread
    refine ⟨outcome.trans batchOutcome.symm, store.trans batchStore.symm, ?_⟩
    rw [isIdle, draft]
    rfl

/-- A program with a form over many lines, a blank line, several forms on a line, and a parenthesis
and an escaped quote inside a quoted section. -/
def sprawling : String :=
  "(define x\r\n\n  \"a(\\\"\") (print x)\nx (print\n\"b\")"

/-- Fed line by line the program prints what it prints at once. -/
theorem feedAll_eq_evalText_sprawling :
    let s := Session.new {}
    let fed := s.feedAll (lines sprawling)
    let batch := s.evalText sprawling
    (s.draft.Reached ∧ s.isIdle ∧ ';' ∉ sprawling.toList ∧
      (∀ line ∈ lines sprawling, ClosesQuotes line) ∧ (readAll sprawling).isOk) ∧
    (fed.1 = batch.1.map (fun _ => ()) ∧ fed.2.store = batch.2.store ∧ fed.2.isIdle) ∧
    fed.2.store.sink.text = "a(\"\nb\n" := by
  have reached : (Session.new {}).draft.Reached := by
    rw [new_eq_after]
    exact reached_after .empty _
  have idle : (Session.new {}).isIdle := by decide +kernel
  have noComment : ';' ∉ sprawling.toList := by decide +kernel
  have closes : ∀ line ∈ lines sprawling, ClosesQuotes line := by decide +kernel
  have read : (readAll sprawling).isOk := by decide +kernel
  have printed : ((Session.new {}).feedAll (lines sprawling)).2.store.sink.text = "a(\"\nb\n" := by
    decide +kernel
  have agree := feedAll_eq_evalText reached idle noComment closes read
  exact ⟨⟨reached, idle, noComment, closes, read⟩, agree, printed⟩

end Session

end ListScript
