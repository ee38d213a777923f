import ListScript.Proofs.ImportOnce
import ListScript.Proofs.Plan

/-!
# Traces

A run of a plan leaves a trace: every request begins, and ends or fails, and between that stands the
trace of what it asks for itself. The rules say which runs there are. They have no bound but the
depth limit, and count the depth by the evaluations in progress, so a run that does not end is none.

Rules:
* What a plan asks for is answered before the plan goes on. If that fails, the plan fails with the
  same error.
* A form is evaluated one level below the evaluation that asks for it, and not at all at the limit.
* A module that does not count as imported is started, and its forms are evaluated with nothing
  around them. It is finished or failed by how that ended.

Results:
1. `Runs.unique`: a plan has at most one run from a store.
2. `Runs.opens`: a run ends every module that it starts.
3. `Runs.opens_moment`: at every moment of a run, the modules in progress are different files that
   count as imported.
4. `Runs.depth_le`: evaluations nest up to the limit.
-/

namespace ListScript

open Journal JournalLemmas ImportOnceLemmas

/-- How an action ends: with a value or an error, and a store in either case. -/
abbrev Outcome (α : Type) := EStateM.Result Error Store α

/-- The store in which an action ends. -/
def storeOf {α : Type} : Outcome α → Store
  | .ok _ store => store
  | .error _ store => store

/-! ## 1. Calls -/

/-- How deep an evaluation stands inside of these requests, the innermost first. At the outermost
level the depth is `base`, and in a module it is zero. -/
def depthInside (base : Nat) : List Request → Nat
  | [] => base
  | .eval _ _ :: outer => depthInside base outer + 1
  | .importModule _ :: _ => 0
  | _ :: outer => depthInside base outer

/-- What a request leads to: a plan of its own and the store that it starts from. -/
structure Call (α : Type) where
  plan : Plan α
  store : Store
  /-- The module that is started, if any. -/
  module? : Option Path := none

/-- What an effect leads to is over at once. -/
def Effect.call (setting : Setting) (store : Store) (fx : Effect) : Call fx.Answer where
  plan := .ofExcept ((fx.act setting).outcome store)
  store := (fx.act setting).after store

/-- What an import leads to. A module that counts as imported is not started again. -/
def importCall (setting : Setting) (store : Store) (name : String) : Call Unit :=
  match setting.resolve name with
  | .error e => { plan := .fail e, store }
  | .ok path =>
    if store.isImported path then { plan := .done (), store }
    else { plan := .module path, store := store.startModule path, module? := some path }

/-- What a request leads to inside of the requests in progress. -/
def Request.call (setting : Setting) (base : Nat) (inside : List Request) (store : Store) :
    (request : Request) → Call request.Answer
  | .effect fx => fx.call setting store
  | .eval scope form =>
    if depthInside base inside < setting.depthLimit then { plan := .form scope form, store }
    else { plan := .fail (.depthLimit setting.depthLimit), store }
  | .native action args => { plan := .native setting action args, store }
  | .importModule name => importCall setting store name

/-- Ends the module that was started, if any. -/
def closeModule {α : Type} : Option Path → Outcome α → Outcome α
  | none, outcome => outcome
  | some path, .ok a store => .ok a (store.finishModule path)
  | some path, .error e store => .error e (store.failModule path)

/-! ## 2. Runs -/

/-- What happens to a request. -/
inductive Event where
  | begins (request : Request)
  | ends (request : Request)
  | fails (request : Request) (e : Error)

/-- An event, the requests in progress around it, the innermost first, and the store right after
it. -/
structure Moment where
  inside : List Request
  event : Event
  store : Store

/-- The plan, inside of the requests in progress and from the store, runs with the trace to the
outcome. -/
inductive Runs (setting : Setting) (base : Nat) :
    {α : Type} → List Request → Plan α → Store → List Moment → Outcome α → Prop
  | done {α : Type} {inside : List Request} {a : α} {store : Store} :
    Runs setting base inside (.done a) store [] (.ok a store)
  | fail {α : Type} {inside : List Request} {e : Error} {store : Store} :
    Runs setting base inside (.fail e : Plan α) store [] (.error e store)
  | answered {α : Type} {inside : List Request} {request : Request}
    {next : request.Answer → Plan α} {store mid : Store} {inner later : List Moment}
    {left : Outcome request.Answer} {answer : request.Answer} {outcome : Outcome α}
    (ran : Runs setting base (request :: inside) (request.call setting base inside store).plan
      (request.call setting base inside store).store inner left)
    (closed : closeModule (request.call setting base inside store).module? left = .ok answer mid)
    (went : Runs setting base inside (next answer) mid later outcome) :
    Runs setting base inside (.ask request next) store
      (⟨inside, .begins request, store⟩ :: (inner ++ ⟨inside, .ends request, mid⟩ :: later)) outcome
  | failed {α : Type} {inside : List Request} {request : Request}
    {next : request.Answer → Plan α} {store mid : Store} {inner : List Moment}
    {left : Outcome request.Answer} {e : Error}
    (ran : Runs setting base (request :: inside) (request.call setting base inside store).plan
      (request.call setting base inside store).store inner left)
    (closed : closeModule (request.call setting base inside store).module? left = .error e mid) :
    Runs setting base inside (.ask request next) store
      (⟨inside, .begins request, store⟩ :: (inner ++ [⟨inside, .fails request e, mid⟩]))
      (.error e mid)

/-- What the request leads to runs with the trace to the outcome. -/
abbrev Request.Ran (setting : Setting) (base : Nat) (inside : List Request) (store : Store)
    (request : Request) (inner : List Moment) (left : Outcome request.Answer) : Prop :=
  Runs setting base (request :: inside) (request.call setting base inside store).plan
    (request.call setting base inside store).store inner left

variable {setting : Setting} {base : Nat} {inside : List Request} {store : Store}

/-- A plan has at most one run from a store. -/
theorem Runs.unique {α : Type} {plan : Plan α} {trace trace' : List Moment}
    {outcome outcome' : Outcome α} (h : Runs setting base inside plan store trace outcome)
    (h' : Runs setting base inside plan store trace' outcome') :
    trace = trace' ∧ outcome = outcome' := by
  induction h generalizing trace' with
  | done =>
    cases h'
    exact ⟨rfl, rfl⟩
  | fail =>
    cases h'
    exact ⟨rfl, rfl⟩
  | answered ran closed went ih later =>
    cases h' with
    | answered ran' closed' went' =>
      obtain ⟨rfl, rfl⟩ := ih ran'
      cases closed.symm.trans closed'
      obtain ⟨rfl, rfl⟩ := later went'
      exact ⟨rfl, rfl⟩
    | failed ran' closed' =>
      obtain ⟨rfl, rfl⟩ := ih ran'
      cases closed.symm.trans closed'
  | failed ran closed ih =>
    cases h' with
    | answered ran' closed' went' =>
      obtain ⟨rfl, rfl⟩ := ih ran'
      cases closed.symm.trans closed'
    | failed ran' closed' =>
      obtain ⟨rfl, rfl⟩ := ih ran'
      cases closed.symm.trans closed'
      exact ⟨rfl, rfl⟩

/-! ## 3. Modules in progress -/

/-- From the first store to the second, these modules were started and did not end, the latest
first. -/
structure Opens (setting : Setting) (opened : List Path) (before after : Store) : Prop where
  stack : openModules after.journal = opened ++ openModules before.journal
  nodup : opened.Nodup
  isFile : ∀ path ∈ opened, path ∈ setting.files.files
  fresh : ∀ path ∈ opened, path ∉ before.imported
  held : ∀ path ∈ opened, path ∈ after.imported
  kept : ∀ path ∈ before.imported, path ∈ after.imported

namespace Opens

variable {opened opened' : List Path} {before mid after : Store} {path : Path}

/-- Only the journal and the imported modules matter. -/
theorem of_eq (journal : after.journal = before.journal)
    (imported : after.imported = before.imported) : Opens setting [] before after where
  stack := by rw [journal, List.nil_append]
  nodup := .nil
  isFile _ mem := absurd mem List.not_mem_nil
  fresh _ mem := absurd mem List.not_mem_nil
  held _ mem := absurd mem List.not_mem_nil
  kept path mem := by rwa [imported]

theorem trans (h : Opens setting opened before mid) (h' : Opens setting opened' mid after) :
    Opens setting (opened' ++ opened) before after where
  stack := by rw [h'.stack, h.stack, List.append_assoc]
  nodup := by
    refine List.nodup_append.mpr ⟨h'.nodup, h.nodup, ?_⟩
    rintro path mem _ mem' rfl
    exact h'.fresh path mem (h.held path mem')
  isFile path mem := (List.mem_append.mp mem).elim (h'.isFile path) (h.isFile path)
  fresh path mem counts := by
    rcases List.mem_append.mp mem with mem | mem
    · exact h'.fresh path mem (h.kept path counts)
    · exact h.fresh path mem counts
  held path mem :=
    (List.mem_append.mp mem).elim (h'.held path) fun mem => h'.kept path (h.held path mem)
  kept path counts := h'.kept path (h.kept path counts)

/-- A file is started that does not count as imported. -/
theorem start (isFile : path ∈ setting.files.files) (absent : ¬ before.isImported path) :
    Opens setting [path] before (before.startModule path) where
  stack := rfl
  nodup := by simp
  isFile := by simpa using isFile
  fresh := by simpa [Store.isImported] using absent
  held := by simp [Store.startModule, Store.enter, mem_insertPath]
  kept other counts := mem_insertPath.mpr (.inr counts)

/-- The module that was started last ends. -/
theorem close (h : Opens setting [path] before after) {phase : ModulePhase}
    (ended : phase ≠ .started) {now : List Path}
    (counts : ∀ other, other ≠ path → other ∈ after.imported → other ∈ now) :
    Opens setting [] before (after.enter phase path now) where
  stack := by
    change openModules (⟨phase, path, now⟩ :: after.journal) = _
    rw [openModules_ended ended, h.stack]
    simp
  nodup := .nil
  isFile _ mem := absurd mem List.not_mem_nil
  fresh _ mem := absurd mem List.not_mem_nil
  held _ mem := absurd mem List.not_mem_nil
  kept other before := by
    refine counts other ?_ (h.kept other before)
    rintro rfl
    exact h.fresh other List.mem_cons_self before

/-- An effect starts and ends no module. -/
theorem of_effect (fx : Effect) : Opens setting [] store ((fx.act setting).after store) := by
  cases fx with
  | lookup scope name =>
    rw [Effect.act, Eval.after_lookup]
    exact .of_eq rfl rfl
  | define scope name v => exact .of_eq rfl rfl
  | assign scope name v =>
    rw [Effect.act, Eval.after_assign]
    cases store.scopes.owner? scope name <;> exact .of_eq rfl rfl
  | newFrame parent bindings => exact .of_eq rfl rfl
  | writeLine line =>
    rw [Effect.act, Eval.after_writeLine]
    exact .of_eq rfl rfl
  | readForms text =>
    simp only [Effect.act, Eval.ofExcept, Eval.after]
    cases readAll text <;> exact .of_eq rfl rfl
  | readFile path =>
    simp only [Effect.act]
    cases setting.files.readPath path <;> exact .of_eq rfl rfl

theorem of_import (name : String) :
    Opens setting (importCall setting store name).module?.toList store
      (importCall setting store name).store := by
  unfold importCall
  cases resolved : setting.resolve name with
  | error e => exact .of_eq rfl rfl
  | ok path =>
    dsimp only
    split
    · exact .of_eq rfl rfl
    · next absent => exact .start (Setting.mem_files_of_resolve resolved) absent

/-- A request opens the module that it starts. -/
theorem of_call (request : Request) :
    Opens setting (request.call setting base inside store).module?.toList store
      (request.call setting base inside store).store := by
  cases request with
  | effect fx => exact of_effect fx
  | eval scope form =>
    unfold Request.call
    dsimp only
    split <;> exact .of_eq rfl rfl
  | native action args => exact .of_eq rfl rfl
  | importModule name => exact of_import name

theorem closeModule {α : Type} {module? : Option Path} {left : Outcome α}
    (h : Opens setting module?.toList store (storeOf left)) :
    Opens setting [] store (storeOf (ListScript.closeModule module? left)) := by
  cases module? with
  | none => exact h
  | some path =>
    cases left with
    | ok a mid => exact h.close (by decide : ModulePhase.finished ≠ .started) fun _ _ => id
    | error e mid =>
      exact h.close (by decide : ModulePhase.failed ≠ .started) fun other differs counts =>
        mem_filter_ne.mpr ⟨differs, counts⟩

end Opens

/-- A run ends every module that it starts, and takes back none that counted as imported. -/
theorem Runs.opens {α : Type} {plan : Plan α} {trace : List Moment} {outcome : Outcome α}
    (h : Runs setting base inside plan store trace outcome) :
    Opens setting [] store (storeOf outcome) := by
  induction h with
  | done => exact .of_eq rfl rfl
  | fail => exact .of_eq rfl rfl
  | answered ran closed went ih later =>
    have called := ((Opens.of_call _).trans ih).closeModule
    rw [closed] at called
    exact called.trans later
  | failed ran closed ih =>
    have called := ((Opens.of_call _).trans ih).closeModule
    rwa [closed] at called

/-- The same for what a request leads to. -/
theorem Runs.opens_call {request : Request} {inner : List Moment}
    {left closed : Outcome request.Answer}
    (ran : request.Ran setting base inside store inner left)
    (close : closeModule (request.call setting base inside store).module? left = closed) :
    Opens setting [] store (storeOf closed) :=
  close ▸ ((Opens.of_call request).trans ran.opens).closeModule

/-! ## 4. Moments -/

/-- How many modules are being imported, going by the requests in progress. -/
def modulesIn (inside : List Request) : Nat :=
  inside.countP fun request => request matches .importModule _

section Inner

variable {request : Request} {inner : List Moment} {left : Outcome request.Answer} {m : Moment}

/-- What happens inside of an import happens in the module that it started. -/
theorem Runs.modulesIn_inner
    (ran : request.Ran setting base inside store inner left) (mem : m ∈ inner) :
    modulesIn (request :: inside) =
      modulesIn inside + (request.call setting base inside store).module?.toList.length := by
  cases request with
  | effect fx => rfl
  | eval scope form =>
    simp only [Request.call]
    split <;> rfl
  | native action args => rfl
  | importModule name =>
    simp only [Request.Ran, Request.call, importCall] at ran ⊢
    cases resolved : setting.resolve name with
    | error e =>
      rw [resolved] at ran
      cases ran
      cases mem
    | ok path =>
      rw [resolved] at ran
      dsimp only at ran ⊢
      split
      · next imported =>
        rw [if_pos imported] at ran
        cases ran
        cases mem
      · simp [modulesIn]

/-- What happens inside of an evaluation happens below the limit. -/
theorem Runs.depth_inner
    (ran : request.Ran setting base inside store inner left) (mem : m ∈ inner)
    (below : depthInside base inside ≤ max base setting.depthLimit) :
    depthInside base (request :: inside) ≤ max base setting.depthLimit := by
  cases request with
  | effect fx => exact below
  | eval scope form =>
    by_cases deeper : depthInside base inside < setting.depthLimit
    · exact Nat.le_trans deeper (Nat.le_max_right base setting.depthLimit)
    · simp only [Request.Ran, Request.call, if_neg deeper] at ran
      cases ran
      cases mem
  | native action args => exact below
  | importModule name => exact Nat.zero_le _

end Inner

/-- What holds of the requests in progress and the store holds at every moment of a run, if it goes
on to hold when something begins inside of a request and when modules were opened and closed. -/
theorem Runs.invariant (holds : List Request → Store → Prop)
    (enter : ∀ {inside : List Request} {store : Store} {request : Request} {inner : List Moment}
      {left : Outcome request.Answer} {m : Moment}, holds inside store →
      request.Ran setting base inside store inner left → m ∈ inner →
      holds (request :: inside) (request.call setting base inside store).store)
    (leave : ∀ {inside : List Request} {before after : Store}, holds inside before →
      Opens setting [] before after → holds inside after)
    {α : Type} {plan : Plan α} {trace : List Moment} {outcome : Outcome α}
    (h : Runs setting base inside plan store trace outcome) (now : holds inside store) {m : Moment}
    (mem : m ∈ trace) : holds m.inside m.store := by
  induction h with
  | done => cases mem
  | fail => cases mem
  | answered ran closed went ih later =>
    have called := ran.opens_call closed
    rcases List.mem_cons.mp mem with rfl | mem
    · exact now
    rcases List.mem_append.mp mem with mem | mem
    · exact ih (enter now ran mem) mem
    rcases List.mem_cons.mp mem with rfl | mem
    · exact leave now called
    · exact later (leave now called) mem
  | failed ran closed ih =>
    have called := ran.opens_call closed
    rcases List.mem_cons.mp mem with rfl | mem
    · exact now
    rcases List.mem_append.mp mem with mem | mem
    · exact ih (enter now ran mem) mem
    · cases List.mem_singleton.mp mem
      exact leave now called

/-- At every moment of a run, the modules in progress are those that the run opened. They are
different files that count as imported. -/
theorem Runs.opens_moment {α : Type} {plan : Plan α} {trace : List Moment} {outcome : Outcome α}
    (h : Runs setting base inside plan store trace outcome) {m : Moment} (mem : m ∈ trace) :
    ∃ opened, Opens setting opened store m.store ∧
      modulesIn m.inside = modulesIn inside + opened.length := by
  refine Runs.invariant
    (fun inside' mid => ∃ opened, Opens setting opened store mid ∧
      modulesIn inside' = modulesIn inside + opened.length) ?_ ?_ h ⟨[], .of_eq rfl rfl, rfl⟩ mem
  · rintro inside' mid request inner left m ⟨opened, opens, count⟩ ran mem
    refine ⟨_, opens.trans (Opens.of_call request), ?_⟩
    rw [ran.modulesIn_inner mem, count, List.length_append]
    omega
  · rintro inside' before after ⟨opened, opens, count⟩ kept
    exact ⟨_, opens.trans kept, count⟩

/-- Evaluations nest up to the limit. -/
theorem Runs.depth_le {α : Type} {plan : Plan α} {trace : List Moment} {outcome : Outcome α}
    (h : Runs setting base inside plan store trace outcome)
    (below : depthInside base inside ≤ max base setting.depthLimit) {m : Moment}
    (mem : m ∈ trace) : depthInside base m.inside ≤ max base setting.depthLimit :=
  Runs.invariant (fun inside _ => depthInside base inside ≤ max base setting.depthLimit)
    (fun below ran mem => ran.depth_inner mem below) (fun below _ => below) h below mem

end ListScript
