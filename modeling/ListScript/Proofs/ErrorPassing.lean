import ListScript.Proofs.Termination

/-!
# Errors are passed on

An error is never caught. Where a request fails, the requests around it fail with the same error,
from the inside to the outside, and nothing else happens. Each module that was in progress is failed
on the way. So an operation ends with the first error that it meets, and keeps what was done before.

Results:
1. `Runs.unwinds`: what follows a failure in a run.
2. `perform_passes_errors`: the same for operations, and a text that cannot be read is not evaluated
   in part.
-/

namespace ListScript

open Journal

variable {setting : Setting} {base : Nat} {inside : List Request} {store : Store}

/-! ## 1. Failing modules -/

namespace Store

/-- Fails some modules one after another. -/
def failModules (store : Store) (paths : List Path) : Store :=
  paths.foldl failModule store

theorem failModules_append (store : Store) (paths more : List Path) :
    store.failModules (paths ++ more) = (store.failModules paths).failModules more :=
  List.foldl_append

/-- Failing modules changes what counts as imported and the journal, and nothing else. -/
theorem failModules_spec (store : Store) (paths : List Path) :
    (store.failModules paths).scopes = store.scopes ∧
      (store.failModules paths).sink = store.sink ∧
      (store.failModules paths).imported = store.imported.filter fun path => path ∉ paths := by
  induction paths generalizing store with
  | nil => simp [failModules]
  | cons path rest ih =>
    obtain ⟨scopes, sink, imported⟩ := ih (store.failModule path)
    refine ⟨scopes, sink, imported.trans ?_⟩
    rw [failModule, enter, List.filter_filter]
    refine List.filter_congr fun other _ => Bool.eq_iff_iff.mpr ?_
    simp [and_comm]

end Store

theorem closeModule_error {α : Type} (module? : Option Path) (e : Error) (store : Store) :
    closeModule module? (.error e store : Outcome α) =
      .error e (store.failModules module?.toList) := by
  cases module? <;> rfl

theorem eq_ok_of_closeModule {α : Type} {module? : Option Path} {left : Outcome α} {a : α}
    {mid : Store} (closed : closeModule module? left = .ok a mid) :
    ∃ store, left = .ok a store := by
  cases module? <;> cases left <;> cases closed <;> exact ⟨_, rfl⟩

/-- Ending a module does nothing to frames. -/
theorem scopes_closeModule {α : Type} {module? : Option Path} {left closed : Outcome α}
    (close : closeModule module? left = closed) :
    (storeOf closed).scopes = (storeOf left).scopes := by
  subst close
  cases module? <;> cases left <;> rfl

/-! ## 2. After a failure -/

/-- The moments of a request are its beginning, what happens inside, and its end. -/
theorem mem_split {first last m : Moment} {inner rest earlier later : List Moment}
    (split : first :: (inner ++ last :: rest) = earlier ++ m :: later) :
    m = first ∨ (∃ before after, inner = before ++ m :: after ∧ later = after ++ last :: rest) ∨
      (m = last ∧ later = rest) ∨ ∃ before, rest = before ++ m :: later := by
  rcases List.cons_eq_append_iff.mp split with ⟨-, same⟩ | ⟨before, -, split⟩
  · exact .inl (List.cons.inj same).1
  · rcases List.append_eq_append_iff.mp split with ⟨more, -, same⟩ | ⟨more, rfl, same⟩
    · rcases List.cons_eq_append_iff.mp same with ⟨-, atLast⟩ | ⟨before, -, beyond⟩
      · obtain ⟨rfl, rfl⟩ := List.cons.inj atLast
        exact .inr (.inr (.inl ⟨rfl, rfl⟩))
      · exact .inr (.inr (.inr ⟨before, beyond⟩))
    · rcases List.cons_eq_append_iff.mp same with ⟨-, atLast⟩ | ⟨after, rfl, beyond⟩
      · obtain ⟨rfl, rfl⟩ := List.cons.inj atLast
        exact .inr (.inr (.inl ⟨rfl, rfl⟩))
      · exact .inr (.inl ⟨before, after, rfl, beyond⟩)

/-- After a request failed, the requests around it fail with the same error, the innermost first,
and nothing else happens. The modules in progress are failed on the way. -/
theorem Runs.unwinds {α : Type} {plan : Plan α} {trace : List Moment} {outcome : Outcome α}
    (h : Runs setting base inside plan store trace outcome) {earlier later : List Moment}
    {m : Moment} {request : Request} {e : Error} (split : trace = earlier ++ m :: later)
    (fails : m.event = .fails request e) :
    ∃ around paths, m.inside = around ++ inside ∧
      later.map Moment.event = around.map (fun outer => .fails outer e) ∧
      openModules m.store.journal = paths ++ openModules store.journal ∧
      outcome = .error e (m.store.failModules paths) ∧
      ∀ after ∈ later, ∃ gone, gone <+: paths ∧ after.store = m.store.failModules gone := by
  induction h generalizing earlier later with
  | done => simp at split
  | fail => simp at split
  | answered ran closed went ih more =>
    rcases mem_split split with rfl | ⟨before, after, within, -⟩ | ⟨rfl, -⟩ | ⟨before, beyond⟩
    · cases fails
    · -- A request in which something failed is not answered.
      obtain ⟨around, paths, -, -, -, rfl, -⟩ := ih within
      rw [closeModule_error] at closed
      cases closed
    · cases fails
    · have called := ran.opens_call closed
      obtain ⟨around, paths, same, events, stack, left, stores⟩ := more beyond
      exact ⟨around, paths, same, events, stack.trans (congrArg (paths ++ ·) called.stack), left,
        stores⟩
  | @failed _ inside outer next store mid inner left e' ran closed ih =>
    rcases mem_split split with rfl | ⟨before, after, within, rfl⟩ | ⟨rfl, rfl⟩ | ⟨before, beyond⟩
    · cases fails
    · obtain ⟨around, paths, same, events, stack, rfl, stores⟩ := ih within
      rw [closeModule_error, ← Store.failModules_append] at closed
      cases closed
      rw [(Opens.of_call outer).stack, ← List.append_assoc] at stack
      refine ⟨around ++ [outer], _, by simp [same], by simp [events], stack, rfl, ?_⟩
      intro moment mem
      rcases List.mem_append.mp mem with mem | mem
      · obtain ⟨gone, part, at_gone⟩ := stores moment mem
        exact ⟨gone, part.trans (List.prefix_append _ _), at_gone⟩
      · cases List.mem_singleton.mp mem
        exact ⟨_, List.prefix_refl _, rfl⟩
    · cases fails
      exact ⟨[], [], rfl, rfl, (ran.opens_call closed).stack, rfl, by simp⟩
    · simp at beyond

/-- Where an effect fails, its run is over. -/
theorem Runs.eq_of_effect_error {fx : Effect} {e : Error} {mid : Store}
    (failed : fx.act setting store = .error e mid) {α : Type} {next : fx.Answer → Plan α}
    {trace : List Moment} {outcome : Outcome α}
    (h : Runs setting base inside (.ask (.effect fx) next) store trace outcome) :
    trace = [⟨inside, .begins (.effect fx), store⟩, ⟨inside, .fails (.effect fx) e, mid⟩] := by
  have called : (Request.effect fx).call setting base inside store = ⟨.fail e, mid, none⟩ := by
    simp only [Request.call, Effect.call, Eval.outcome, Eval.after, failed, Plan.ofExcept]
  have ran : Runs setting base (.effect fx :: inside)
      ((Request.effect fx).call setting base inside store).plan
      ((Request.effect fx).call setting base inside store).store [] (.error e mid) := by
    rw [called]
    exact .fail
  have closed : closeModule ((Request.effect fx).call setting base inside store).module?
      (.error e mid : Outcome fx.Answer) = .error e mid := by
    rw [called]
    rfl
  exact (h.unique (.failed ran closed)).1

/-! ## 3. Operations -/

namespace Session

/-- The text that an operation reads before it evaluates anything. -/
def submitted? (s : Session) : Operation → Option String
  | .feed line _ =>
    match s.draft.add line with
    | .complete text _ => some text
    | _ => none
  | .evalText text => some text
  | _ => none

/-- A text that is submitted is read as a whole first. -/
theorem plan_of_submitted {s : Session} {op : Operation} {text : String}
    (submitted : s.submitted? op = some text) :
    ∃ next, s.plan op = .ask (.effect (.readForms text)) next := by
  cases op with
  | feed line echo =>
    simp only [submitted?, plan] at submitted ⊢
    cases added : s.draft.add line with
    | blank =>
      rw [added] at submitted
      cases submitted
    | waiting draft =>
      rw [added] at submitted
      cases submitted
    | complete statement rest =>
      rw [added] at submitted
      cases submitted
      exact ⟨_, rfl⟩
  | evalText text' =>
    cases submitted
    exact ⟨_, rfl⟩
  | _ => cases submitted

/-- Of a text that cannot be read, no form is evaluated. -/
theorem Performs.eq_of_unreadable {s : Session} {op : Operation} {trace : List Moment}
    {outcome : Outcome Answer} (run : s.Performs op trace outcome) {text : String} {e : Error}
    (submitted : s.submitted? op = some text) (unreadable : readAll text = .error e) :
    trace = [⟨[], .begins (.effect (.readForms text)), s.store⟩,
      ⟨[], .fails (.effect (.readForms text)) e, s.store⟩] := by
  obtain ⟨next, planned⟩ := plan_of_submitted submitted
  unfold Performs at run
  rw [planned] at run
  refine run.eq_of_effect_error ?_
  rw [Effect.act, unreadable]
  rfl

end Session

/-- Errors are passed on. An operation has one run. Where an evaluation, a native procedure, a
module or an effect gives an error in it, at any depth, the requests around it fail with the same
error, and nothing else happens afterwards: no request begins. The operation ends with that error.
What changed after it are the modules that were in progress, which no longer count as imported, and
what an error does to a session apart from its store. Frames and output stay as they were when it
happened. Of a text that cannot be read, no form is evaluated. -/
theorem perform_passes_errors (s : Session) (op : Operation) :
    ∃ trace outcome, s.Performs op trace outcome ∧
      (∀ trace' outcome', s.Performs op trace' outcome' → trace' = trace ∧ outcome' = outcome) ∧
      (∀ earlier m later request e, trace = earlier ++ m :: later → m.event = .fails request e →
        (∃ start ∈ trace, start.event = .begins request ∧ start.inside = m.inside ∧
          ∀ exhausted nesting, missing s.setting start.store < nesting →
            request.actWithin s.setting exhausted nesting
              (depthInside (Session.depthOf op) m.inside) start.store = .error e m.store) ∧
        later.map Moment.event = m.inside.map (fun outer => .fails outer e) ∧
        ∃ paths final, openModules m.store.journal = paths ++ openModules s.store.journal ∧
          s.perform op = (.error e, Session.fail { s with store := final } e op) ∧
          final = m.store.failModules paths ∧
          final.scopes = m.store.scopes ∧ final.sink = m.store.sink ∧
          final.imported = m.store.imported.filter (fun path => path ∉ paths) ∧
          ∀ after ∈ later, after.store.scopes = m.store.scopes ∧ after.store.sink = m.store.sink ∧
            ∃ gone, gone <+: paths ∧ after.store = m.store.failModules gone) ∧
      (∀ text e, s.submitted? op = some text → readAll text = .error e →
        trace = [⟨[], .begins (.effect (.readForms text)), s.store⟩,
          ⟨[], .fails (.effect (.readForms text)) e, s.store⟩]) := by
  obtain ⟨trace, outcome, run⟩ := s.exists_performs op
  refine ⟨trace, outcome, run, fun _ _ other => other.unique run, ?_,
    fun text e => run.eq_of_unreadable⟩
  intro earlier m later request e split fails
  obtain ⟨around, paths, within, events, stack, rfl, stores⟩ := run.unwinds split fails
  rw [List.append_nil] at within
  obtain ⟨scopes, sink, imported⟩ := m.store.failModules_spec paths
  have explained := run.explained (split ▸ List.mem_append_right earlier List.mem_cons_self)
  have given := explained.fails request e fails
  refine ⟨given, within ▸ events, paths, _, stack, run.perform_eq, rfl, scopes, sink, imported, ?_⟩
  intro after mem
  obtain ⟨gone, part, left⟩ := stores after mem
  obtain ⟨scopes, sink, -⟩ := m.store.failModules_spec gone
  exact ⟨left ▸ scopes, left ▸ sink, gone, part, left⟩

/-- An error in a module that an argument imports. What was printed and defined before stays. -/
example :
    let files := FileTree.write {} "a" (.file (some "(print 1) (car (quote ())) (print 2)"))
    let s := (Session.new { files }).perform
      (.feed "(begin (define x 3) (print (import \"a\")) (print 4))" true)
    errorOf? s.1 = some (.malformed "car" .emptyList) ∧ s.2.store.sink.text = "1\n" ∧
      (s.2.get? "x").isSome ∧ s.2.store.imported = [] ∧ s.2.reports.length = 1 := by
  decide +kernel

end ListScript
