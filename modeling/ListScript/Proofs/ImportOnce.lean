import ListScript.Proofs.Journal
import ListScript.Proofs.RunRelation

/-!
# Modules are imported once

The modules that count as imported are written before a module runs, looked at by imports made from
inside it, and taken back if it fails. In every run the journal of modules stays legal, and what
counts as imported is what the journal says.

The invariant of an action is that it closes every module that it opens. Starting a module and
ending it each keep the journal legal, and what runs in between leaves the same modules open.

Results:
1. `act_balanced`: an operation keeps the journal legal and closes the modules that it opens.
2. `coherent_after`: so does every run.
3. `imports_once`: a module is never evaluated inside itself, it is evaluated again only after it
   failed, and between operations it counts as imported if its last evaluation ended well.
-/

namespace ListScript

open Journal

/-! ## 1. The invariant -/

/-- The journal is legal, and the store counts as imported what the journal says. -/
structure Store.Coherent (store : Store) : Prop where
  legal : Legal store.journal
  imported : store.imported = Journal.imported store.journal

/-- From a coherent store the second one is reached, coherent and with the same modules open. -/
def Store.Balanced (before after : Store) : Prop :=
  before.Coherent → after.Coherent ∧ openModules after.journal = openModules before.journal

namespace ImportOnceLemmas

theorem balanced_refl (store : Store) : store.Balanced store :=
  fun coherent => ⟨coherent, rfl⟩

theorem balanced_trans {first second third : Store} (h : first.Balanced second)
    (h' : second.Balanced third) : first.Balanced third := by
  intro coherent
  obtain ⟨mid, same⟩ := h coherent
  obtain ⟨last, same'⟩ := h' mid
  exact ⟨last, same'.trans same⟩

/-- Only the journal and the imported modules matter. -/
theorem balanced_of_eq {before after : Store} (journal : after.journal = before.journal)
    (imported : after.imported = before.imported) : before.Balanced after := by
  rintro ⟨legal, counts⟩
  refine ⟨⟨?_, ?_⟩, ?_⟩
  · rwa [journal]
  · rw [imported, counts, journal]
  · rw [journal]

theorem mem_insertPath {path other : Path} {paths : List Path} :
    other ∈ Store.insertPath path paths ↔ other = path ∨ other ∈ paths := by
  fun_induction Store.insertPath path paths with
  | case1 => simp
  | case2 first rest before => simp
  | case3 first rest before same =>
    have same : path = first := eq_of_beq same
    simp [same]
  | case4 first rest before distinct ih =>
    simp only [List.mem_cons, ih]
    exact or_left_comm

theorem mem_filter_ne {path other : Path} {paths : List Path} :
    other ∈ paths.filter (fun p => p != path) ↔ other ≠ path ∧ other ∈ paths := by
  simp [List.mem_filter, and_comm]

end ImportOnceLemmas

open ImportOnceLemmas

/-! ## 2. Modules -/

section Module

variable {store : Store} {path : Path}

theorem coherent_startModule (coherent : store.Coherent) (absent : ¬ store.isImported path) :
    (store.startModule path).Coherent ∧
      openModules (store.startModule path).journal = path :: openModules store.journal := by
  have absent : path ∉ Journal.imported store.journal := by
    rw [← coherent.imported]
    simpa [Store.isImported] using absent
  refine ⟨⟨.started coherent.legal absent fun other => ?_, rfl⟩, rfl⟩
  rw [← coherent.imported]
  exact mem_insertPath

theorem coherent_finishModule {others : List Path} (coherent : store.Coherent)
    (isOpen : openModules store.journal = path :: others) :
    (store.finishModule path).Coherent ∧
      openModules (store.finishModule path).journal = others := by
  have running : path ∈ openModules store.journal := isOpen ▸ List.mem_cons_self
  have closed : openModules (store.finishModule path).journal = others := by
    simp [Store.finishModule, Store.enter, openModules, isOpen]
  refine ⟨⟨?_, rfl⟩, closed⟩
  rw [Store.finishModule, Store.enter, coherent.imported]
  exact .finished coherent.legal running

theorem coherent_failModule {others : List Path} (coherent : store.Coherent)
    (isOpen : openModules store.journal = path :: others) :
    (store.failModule path).Coherent ∧ openModules (store.failModule path).journal = others := by
  have running : path ∈ openModules store.journal := isOpen ▸ List.mem_cons_self
  have closed : openModules (store.failModule path).journal = others := by
    simp [Store.failModule, Store.enter, openModules, isOpen]
  refine ⟨⟨.failed coherent.legal running fun other => ?_, rfl⟩, closed⟩
  rw [← coherent.imported]
  exact mem_filter_ne

end Module

/-- Whatever does not end modules itself goes through everything that evaluation does. -/
def balancing : RunRelation :=
  .ofStores Store.Balanced balanced_refl balanced_trans (fun _ _ => balanced_of_eq rfl rfl)
    fun _ _ => balanced_of_eq rfl rfl

/-- Evaluating a module once opens it and closes it again, also if it fails. -/
theorem once_balanced {setting : Setting} {imports imports' : Import} {path : Path}
    (h : balancing.rel (Module.evaluate setting imports path)
      (Module.evaluate setting imports' path)) :
    balancing.rel (Module.once setting imports path) (Module.once setting imports' path) := by
  intro store coherent
  by_cases imported : store.isImported path
  · rw [Eval.after_ok (Module.once_of_imported imported)]
    exact ⟨coherent, rfl⟩
  · -- What runs in between leaves the module on top of the open ones, so it is the one that ends.
    obtain ⟨started, opened⟩ := coherent_startModule coherent imported
    obtain ⟨ran, same⟩ := h (store.startModule path) started
    rw [opened] at same
    cases outcome : Module.evaluate setting imports path (store.startModule path) with
    | ok _ mid =>
      have left : Module.once setting imports path store = .ok () (mid.finishModule path) := by
        rw [Module.once_of_absent imported, outcome]
      rw [Eval.after_ok outcome] at ran same
      rw [Eval.after_ok left]
      exact coherent_finishModule ran same
    | error e mid =>
      have left : Module.once setting imports path store = .error e (mid.failModule path) := by
        rw [Module.once_of_absent imported, outcome]
      rw [Eval.after_error outcome] at ran same
      rw [Eval.after_error left]
      exact coherent_failModule ran same

/-! ## 3. Runs -/

/-- An operation keeps the journal legal and closes the modules that it opens. -/
theorem act_balanced (s : Session) (op : Operation) : s.store.Balanced ((s.act op).after s.store) :=
  balancing.act_self once_balanced s op s.store

theorem step_balanced (s : Session) (step : Step) : s.store.Balanced (s.step step).store := by
  cases step with
  | operation op =>
    rw [Session.step, Session.store_perform]
    exact act_balanced s op
  | assign scope name v =>
    simp only [Session.step]
    cases s.store.scopes.set? scope name v <;> exact balanced_of_eq rfl rfl
  | _ => exact balanced_of_eq rfl rfl

theorem after_balanced (s : Session) (steps : List Step) :
    s.store.Balanced (s.after steps).store := by
  induction steps generalizing s with
  | nil => exact balanced_refl s.store
  | cons step steps ih => exact balanced_trans (step_balanced s step) (ih (s.step step))

/-- In every run the store is coherent, and between two steps no module is open. -/
theorem coherent_after (setting : Setting) (steps : List Step) :
    let store := ((Session.bare setting).after steps).store
    store.Coherent ∧ openModules store.journal = [] :=
  after_balanced (Session.bare setting) steps ⟨.empty, rfl⟩

/-- Modules are imported once, in every run and at every moment of it. No module is evaluated inside
itself. Between two starts of a module its first evaluation failed. Where no module is being
evaluated, exactly those count as imported whose latest evaluation ended well, and that is so
between any two steps. -/
theorem imports_once (setting : Setting) (steps : List Step) :
    let store := ((Session.bare setting).after steps).store
    (∀ moment, moment <:+ store.journal → (openModules moment).Nodup) ∧
    (∀ later path now' between now earlier,
      store.journal =
        later ++ ⟨.started, path, now'⟩ :: (between ++ ⟨.started, path, now⟩ :: earlier) →
      ∃ after left during, between = after ++ ⟨.failed, path, left⟩ :: during ∧
        ∀ event ∈ during, event.path ≠ path) ∧
    (∀ moment, moment <:+ store.journal → openModules moment = [] →
      ∀ path, path ∈ Journal.imported moment ↔ latest? path moment = some .finished) ∧
    openModules store.journal = [] ∧ store.imported = Journal.imported store.journal := by
  intro store
  obtain ⟨coherent, idle⟩ := coherent_after setting steps
  refine ⟨fun moment suffix => ?_, fun later path now' between now earlier split => ?_,
    fun moment suffix idle path => ?_, idle, coherent.imported⟩
  · exact nodup_openModules (coherent.legal.of_suffix suffix)
  · have suffix : ⟨.started, path, now'⟩ :: (between ++ ⟨.started, path, now⟩ :: earlier) <:+
        store.journal := ⟨later, split.symm⟩
    exact failed_of_started_again (coherent.legal.of_suffix suffix)
  · exact mem_imported_of_idle (coherent.legal.of_suffix suffix) idle

/-- Two modules that import each other under different spellings, where the outer one fails at
first. The inner one finished and is not evaluated again. -/
example :
    let twice := [Step.operation (.importModule "a"), .define rootFrame "x" .nil,
      .operation (.importModule "a")]
    let files := (FileTree.write {} "a" (.file (some "(import \"./b\") x"))).write "b"
      (.file (some "(import \".//a\")"))
    (((Session.new { files }).after twice).store.journal.map
        fun event => (event.phase, event.path)) =
      [(.finished, ["a"]), (.started, ["a"]), (.failed, ["a"]), (.finished, ["b"]),
        (.started, ["b"]), (.started, ["a"])] := by
  decide +kernel

end ListScript
