import Mathlib.Data.List.Perm.Subperm
import ListScript.Proofs.Trace

/-!
# Every operation ends

The depth limit alone bounds no run, since the forms of a module are evaluated with nothing around
them. But a module counts as imported from before its first form until it fails, and a file is
started only if it does not count as imported. So wherever a module is started, fewer files are left
that may still be started, and where none is, the depth grows up to the limit.

Results:
1. `runs_total`: every plan has a run. The induction is on the files that do not count as imported,
   then on the levels that are left, then on the plan.
2. `Runs.actWithin_eq`: doing what a plan says ends as its run does, whatever would be done where
   too many modules are open.
3. `Runs.explained`: what ends or fails in a run does so when it is done by itself from the store in
   which it began.
4. `perform_terminates`: operations have runs, and their runs decide them.
-/

namespace ListScript

open Journal ImportOnceLemmas

variable {setting : Setting} {base : Nat} {inside : List Request} {store : Store}

/-! ## 1. Files that may still be started -/

/-- How many files do not count as imported. -/
def missing (setting : Setting) (store : Store) : Nat :=
  setting.files.files.countP fun path => path ∉ store.imported

theorem missing_le_files (setting : Setting) (store : Store) :
    missing setting store ≤ setting.files.files.length :=
  List.countP_le_length

/-- The modules in progress are files that did not count as imported and now do. -/
theorem Opens.missing_add_length_le {opened : List Path} {before after : Store}
    (h : Opens setting opened before after) :
    missing setting after + opened.length ≤ missing setting before := by
  let files := setting.files.files
  have split := List.countP_eq_countP_filter_add files (fun path => decide (path ∉ before.imported))
    fun path => decide (path ∈ opened)
  have started : opened.length ≤
      (files.filter fun path => decide (path ∈ opened)).countP fun path =>
        decide (path ∉ before.imported) := by
    rw [List.countP_eq_length_filter]
    refine (h.nodup.subperm fun path mem => ?_).length_le
    simp [files, h.isFile path mem, h.fresh path mem, mem]
  have left : missing setting after ≤
      (files.filter fun path => !decide (path ∈ opened)).countP fun path =>
        decide (path ∉ before.imported) := by
    rw [List.countP_filter]
    refine List.countP_mono_left fun path _ absent => ?_
    simp only [decide_eq_true_eq] at absent
    simp [mt (h.kept path) absent, mt (h.held path) absent]
  have whole : missing setting before = _ := split
  omega

theorem Opens.missing_le {opened : List Path} {before after : Store}
    (h : Opens setting opened before after) : missing setting after ≤ missing setting before :=
  Nat.le_trans (Nat.le_add_right _ _) h.missing_add_length_le

/-- Starting a module leaves one file less that may still be started. -/
theorem missing_startModule_lt {path : Path} (isFile : path ∈ setting.files.files)
    (absent : ¬ store.isImported path) :
    missing setting (store.startModule path) < missing setting store :=
  (Opens.start isFile absent).missing_add_length_le

/-! ## 2. Every plan has a run -/

namespace Plan

variable {α β : Type} {allowed : Request → Prop}

/-- The plan asks for nothing but what is allowed, whatever the answers. -/
def Asks (allowed : Request → Prop) : Plan α → Prop
  | .done _ => True
  | .fail _ => True
  | .ask request next => allowed request ∧ ∀ answer, (next answer).Asks allowed

theorem asks_any (plan : Plan α) : plan.Asks fun _ => True := by
  induction plan with
  | done a => exact trivial
  | fail e => exact trivial
  | ask request next ih => exact ⟨trivial, ih⟩

theorem asks_bind {plan : Plan α} {next : α → Plan β} (first : plan.Asks allowed)
    (later : ∀ a, (next a).Asks allowed) : (plan >>= next).Asks allowed := by
  induction plan with
  | done a => exact later a
  | fail e => exact trivial
  | ask request more ih => exact ⟨first.1, fun answer => ih answer (first.2 answer)⟩

theorem asks_forM {f : α → Plan Unit} (each : ∀ a, (f a).Asks allowed) (as : List α) :
    (as.forM f).Asks allowed := by
  induction as with
  | nil => exact trivial
  | cons a rest ih => exact asks_bind (each a) fun _ => ih

theorem asks_ofExcept (given : Except Error α) : (ofExcept given).Asks allowed := by
  cases given <;> exact trivial

theorem asks_host (program : HostProgram) (effects : ∀ fx, allowed (.effect fx)) :
    (host program).Asks allowed := by
  induction program with
  | ok v => exact trivial
  | error e => exact trivial
  | lookup scope name next ih => exact ⟨effects _, ih⟩
  | define scope name v next ih => exact ⟨effects _, fun _ => ih⟩
  | assign scope name v next ih => exact ⟨effects _, fun _ => ih⟩
  | newFrame parent bindings next ih => exact ⟨effects _, ih⟩
  | writeLine line next ih => exact ⟨effects _, fun _ => ih⟩

/-- Native procedures ask for effects and imports, and never for an evaluation or for each other. -/
theorem asks_native (action : Action) (args : List Value)
    (effects : ∀ fx, allowed (.effect fx)) (imports : ∀ name, allowed (.importModule name)) :
    (native setting action args).Asks allowed := by
  cases action with
  | builtin op => exact asks_ofExcept (op.apply args)
  | print => exact ⟨effects _, fun _ => trivial⟩
  | importModules =>
    simp only [native]
    split
    · exact trivial
    · split
      · exact trivial
      · have each (arg : Value) : (importModule arg.text).Asks allowed :=
          ⟨imports arg.text, fun _ => trivial⟩
        exact asks_bind (asks_forM each args) fun _ => trivial
  | host index =>
    simp only [native]
    split
    · exact asks_host _ effects
    · exact trivial

end Plan

/-- Inside of the requests in progress, the request has a run from every store with at most so many
files that may still be started. -/
def Ends (setting : Setting) (base left : Nat) (inside : List Request) (request : Request) : Prop :=
  ∀ store, missing setting store ≤ left →
    ∃ inner result, request.Ran setting base inside store inner result

/-- A plan has a run if what it asks for has one. -/
theorem runs_of_asks {left : Nat} {allowed : Request → Prop}
    (ends : ∀ request, allowed request → Ends setting base left inside request) {α : Type}
    {plan : Plan α} (asks : plan.Asks allowed) (few : missing setting store ≤ left) :
    ∃ trace outcome, Runs setting base inside plan store trace outcome := by
  induction plan generalizing store with
  | done a => exact ⟨_, _, .done⟩
  | fail e => exact ⟨_, _, .fail⟩
  | ask request next ih =>
    obtain ⟨inner, result, ran⟩ := ends request asks.1 store few
    cases closed : closeModule (request.call setting base inside store).module? result with
    | error e mid => exact ⟨_, _, .failed ran closed⟩
    | ok answer mid =>
      have fewer := Nat.le_trans (ran.opens_call closed).missing_le few
      obtain ⟨trace, outcome, went⟩ := ih answer (asks.2 answer) fewer
      exact ⟨_, _, .answered ran closed went⟩

section Requests

variable {left : Nat}

theorem ends_effect (fx : Effect) : Ends setting base left inside (.effect fx) := by
  intro store _
  simp only [Request.Ran, Request.call, Effect.call]
  cases (fx.act setting).outcome store with
  | ok answer => exact ⟨_, _, .done⟩
  | error e => exact ⟨_, _, .fail⟩

/-- A module is started with one file less. -/
theorem ends_import
    (fewer : ∀ less < left, ∀ inside request, Ends setting base less inside request)
    (name : String) : Ends setting base left inside (.importModule name) := by
  intro store few
  simp only [Request.Ran, Request.call, importCall]
  cases resolved : setting.resolve name with
  | error e => exact ⟨_, _, .fail⟩
  | ok path =>
    dsimp only
    split
    · exact ⟨_, _, .done⟩
    · next absent =>
      have less := missing_startModule_lt (Setting.mem_files_of_resolve resolved) absent
      have ends (request : Request) (_ : True) :=
        fewer _ (Nat.lt_of_lt_of_le less few) (.importModule name :: inside) request
      exact runs_of_asks ends (Plan.module path).asks_any (Nat.le_refl _)

theorem ends_native
    (fewer : ∀ less < left, ∀ inside request, Ends setting base less inside request)
    (action : Action) (args : List Value) :
    Ends setting base left inside (.native action args) := by
  intro store few
  have asks : (Plan.native setting action args).Asks fun request =>
      ∀ inside, Ends setting base left inside request :=
    Plan.asks_native action args (fun fx inside => ends_effect fx)
      fun name inside => ends_import fewer name
  exact runs_of_asks (fun request ends => ends _) asks few

/-- A form is evaluated with one level less. -/
theorem ends_eval
    (fewer : ∀ less < left, ∀ inside request, Ends setting base less inside request)
    (scope : FrameId) (form : Value) : Ends setting base left inside (.eval scope form) := by
  generalize levels : setting.depthLimit - depthInside base inside = n
  induction n generalizing inside scope form with
  | zero =>
    intro store few
    have reached : ¬ depthInside base inside < setting.depthLimit := by omega
    simp only [Request.Ran, Request.call, if_neg reached]
    exact ⟨_, _, .fail⟩
  | succ n ih =>
    intro store few
    have below : depthInside base inside < setting.depthLimit := by omega
    simp only [Request.Ran, Request.call, if_pos below]
    refine runs_of_asks (fun request _ => ?_) (Plan.form scope form).asks_any few
    cases request with
    | effect fx => exact ends_effect fx
    | native action args => exact ends_native fewer action args
    | importModule name => exact ends_import fewer name
    | eval scope' form' =>
      refine ih scope' form' ?_
      rw [depthInside]
      omega

end Requests

theorem ends (left : Nat) (inside : List Request) (request : Request) :
    Ends setting base left inside request := by
  induction left using Nat.strongRecOn generalizing inside request with
  | ind left fewer =>
    cases request with
    | effect fx => exact ends_effect fx
    | native action args => exact ends_native fewer action args
    | importModule name => exact ends_import fewer name
    | eval scope form => exact ends_eval fewer scope form

/-- Every plan has a run from every store. -/
theorem runs_total {α : Type} (plan : Plan α) (store : Store) :
    ∃ trace outcome, Runs setting base inside plan store trace outcome :=
  runs_of_asks (fun request _ => ends _ inside request) plan.asks_any
    (Nat.le_refl (missing setting store))

/-! ## 3. Enough nesting -/

theorem Eval.eq_ofExcept {α : Type} (act : Eval α) (store : Store) :
    act store = Eval.ofExcept (act.outcome store) (act.after store) := by
  unfold outcome after
  cases act store <;> rfl

/-- Imports a module where at most `nesting` modules may still be opened inside each other. Where
none may, something else is done. -/
def Module.importOver (setting : Setting) (exhausted : Import) : Nat → Import
  | 0 => exhausted
  | nesting + 1 => fun name => do
    let path ← Eval.ofExcept (setting.resolve name)
    Module.once setting (importOver setting exhausted nesting) path

theorem Module.importWithin_eq_importOver (nesting : Nat) :
    Module.importWithin setting nesting =
      Module.importOver setting (fun _ => throw .moduleNesting) nesting := by
  induction nesting with
  | zero => rfl
  | succ nesting ih => simp only [importWithin, importOver, ih]

/-- Does what a plan says at a depth, where at most `nesting` modules may still be opened. -/
def Plan.actWithin {α : Type} (setting : Setting) (exhausted : Import) (nesting depth : Nat)
    (plan : Plan α) : Eval α :=
  plan.act setting (Module.importOver setting exhausted nesting)
    (Evaluation.eval setting (Module.importOver setting exhausted nesting)
      (setting.depthLimit - depth))

/-- Does what a request asks for in the same way. -/
def Request.actWithin (setting : Setting) (exhausted : Import) (nesting depth : Nat)
    (request : Request) : Eval request.Answer :=
  request.act setting (Module.importOver setting exhausted nesting)
    (Evaluation.eval setting (Module.importOver setting exhausted nesting)
      (setting.depthLimit - depth))

section Enough

variable {exhausted : Import} {nesting : Nat}

/-- Where a module may still be opened, an import does what it leads to. -/
theorem importOver_eq {name : String} {left : Outcome Unit}
    (inner : ∀ {nesting}, missing setting (importCall setting store name).store < nesting →
      (importCall setting store name).plan.actWithin setting exhausted nesting 0
        (importCall setting store name).store = left)
    (enough : missing setting store < nesting) :
    Module.importOver setting exhausted nesting name store =
      closeModule (importCall setting store name).module? left := by
  obtain ⟨rest, rfl⟩ : ∃ rest, nesting = rest + 1 :=
    Nat.exists_eq_add_one.mpr (Nat.zero_lt_of_lt enough)
  change (Eval.ofExcept (setting.resolve name) >>= _ : Eval Unit) store = _
  rw [Eval.bind_apply]
  unfold importCall at inner ⊢
  cases resolved : setting.resolve name with
  | error e =>
    simp only [resolved] at inner
    exact inner enough
  | ok path =>
    simp only [resolved] at inner
    dsimp only [Eval.ofExcept]
    by_cases imported : store.isImported path
    · rw [Module.once_of_imported imported, if_pos imported]
      simp only [if_pos imported] at inner
      exact inner enough
    · -- The module takes one of the files that were left, so one module less may be opened inside.
      have less := missing_startModule_lt (Setting.mem_files_of_resolve resolved) imported
      simp only [if_neg imported] at inner
      have runs : Evaluation.eval setting (Module.importOver setting exhausted rest)
          (setting.depthLimit - 0) rootFrame =
        Evaluation.run setting (Module.importOver setting exhausted rest) rootFrame := rfl
      have ran := inner (Nat.lt_of_lt_of_le less (Nat.le_of_lt_succ enough))
      rw [Plan.actWithin, Plan.act_module _ _ _ _ runs] at ran
      rw [Module.once_of_absent imported, if_neg imported, ran]
      cases left <;> rfl

/-- What a request does is what it leads to. For an import one more module is open then, and one
file less may still be started. -/
theorem Request.actWithin_eq {request : Request} {left : Outcome request.Answer}
    (inner : ∀ {nesting}, missing setting (request.call setting base inside store).store < nesting →
      (request.call setting base inside store).plan.actWithin setting exhausted nesting
          (depthInside base (request :: inside)) (request.call setting base inside store).store =
        left)
    (enough : missing setting store < nesting) :
    request.actWithin setting exhausted nesting (depthInside base inside) store =
      closeModule (request.call setting base inside store).module? left := by
  have called := inner (Nat.lt_of_le_of_lt (Opens.of_call request).missing_le enough)
  cases request with
  | effect fx =>
    rw [Plan.actWithin, Request.call, Effect.call, Plan.act_ofExcept] at called
    exact (Eval.eq_ofExcept (fx.act setting) store).trans called
  | eval scope form =>
    by_cases below : depthInside base inside < setting.depthLimit
    · obtain ⟨levels, split⟩ : ∃ levels,
          setting.depthLimit - depthInside base inside = levels + 1 :=
        Nat.exists_eq_add_one.mpr (Nat.sub_pos_of_lt below)
      have rest : setting.depthLimit - (depthInside base inside + 1) = levels := by omega
      simp only [Request.call, if_pos below] at called ⊢
      rw [Plan.actWithin, depthInside, rest, Plan.act_form] at called
      rw [Request.actWithin, Request.act, split]
      exact called
    · have none : setting.depthLimit - depthInside base inside = 0 := by omega
      simp only [Request.call, if_neg below] at called ⊢
      rw [Request.actWithin, Request.act, none]
      exact called
  | native action args =>
    rw [Plan.actWithin, Request.call, Plan.act_native] at called
    exact called
  | importModule name => exact importOver_eq inner enough

end Enough

/-- Doing what a plan says ends as its run does, if more modules may be opened than there are files
that do not count as imported. -/
theorem Runs.actWithin_eq {α : Type} {plan : Plan α} {trace : List Moment} {outcome : Outcome α}
    (h : Runs setting base inside plan store trace outcome) (exhausted : Import) {nesting : Nat}
    (enough : missing setting store < nesting) :
    plan.actWithin setting exhausted nesting (depthInside base inside) store = outcome := by
  induction h generalizing nesting with
  | done => rfl
  | fail => rfl
  | @answered _ inside request next store mid _ _ _ _ _ ran closed went ih later =>
    have acted := (Request.actWithin_eq ih enough).trans closed
    have fewer := (ran.opens_call closed).missing_le
    refine Eq.trans ?_ (later (Nat.lt_of_le_of_lt fewer enough))
    exact (Eval.bind_apply _ _ store).trans (by rw [← Request.actWithin, acted]; rfl)
  | failed ran closed ih =>
    have acted := (Request.actWithin_eq ih enough).trans closed
    exact (Eval.bind_apply _ _ _).trans (by rw [← Request.actWithin, acted])

/-- Doing what a plan says with the imports of a session ends as its run does. -/
theorem Runs.act_eq {α : Type} {plan : Plan α} {trace : List Moment} {outcome : Outcome α}
    (h : Runs setting base inside plan store trace outcome) :
    plan.act setting (Module.importByName setting)
      (Evaluation.eval setting (Module.importByName setting)
        (setting.depthLimit - depthInside base inside)) store = outcome := by
  have enough : missing setting store < Module.nestingBound setting :=
    Nat.lt_succ_of_le (missing_le_files setting store)
  have acted := h.actWithin_eq (fun _ => throw .moduleNesting) enough
  rw [Plan.actWithin, ← Module.importWithin_eq_importOver] at acted
  exact acted

/-- The request began at a moment of the trace, inside of the same requests as now, and has the
outcome when it is done from the store there. -/
def Moment.Concludes (setting : Setting) (base : Nat) (trace : List Moment) (m : Moment)
    (request : Request) (outcome : Outcome request.Answer) : Prop :=
  ∃ start ∈ trace, start.event = .begins request ∧ start.inside = m.inside ∧
    ∀ exhausted nesting, missing setting start.store < nesting →
      request.actWithin setting exhausted nesting (depthInside base m.inside) start.store = outcome

/-- If a request ends or fails at the moment, that is its outcome. -/
structure Moment.Explained (setting : Setting) (base : Nat) (trace : List Moment) (m : Moment) :
    Prop where
  ends : ∀ request, m.event = .ends request →
    ∃ answer, m.Concludes setting base trace request (.ok answer m.store)
  fails : ∀ request e, m.event = .fails request e →
    m.Concludes setting base trace request (.error e m.store)

theorem Moment.Explained.mono {trace trace' : List Moment} {m : Moment}
    (h : m.Explained setting base trace) (sub : trace ⊆ trace') :
    m.Explained setting base trace' where
  ends request ended := by
    obtain ⟨answer, start, occurs, found⟩ := h.ends request ended
    exact ⟨answer, start, sub occurs, found⟩
  fails request e failed := by
    obtain ⟨start, occurs, found⟩ := h.fails request e failed
    exact ⟨start, sub occurs, found⟩

/-- What a request leads to decides what doing the request gives. -/
theorem Runs.actWithin_call {request : Request} {inner : List Moment}
    {left closed : Outcome request.Answer} (ran : request.Ran setting base inside store inner left)
    (close : closeModule (request.call setting base inside store).module? left = closed)
    (exhausted : Import) {nesting : Nat} (enough : missing setting store < nesting) :
    request.actWithin setting exhausted nesting (depthInside base inside) store = closed :=
  (Request.actWithin_eq (fun few => ran.actWithin_eq exhausted few) enough).trans close

/-- A request that ends or fails in a run does so when it is done from the store in which it
began. -/
theorem Runs.explained {α : Type} {plan : Plan α} {trace : List Moment} {outcome : Outcome α}
    (h : Runs setting base inside plan store trace outcome) {m : Moment} (mem : m ∈ trace) :
    m.Explained setting base trace := by
  induction h with
  | done => cases mem
  | fail => cases mem
  | @answered _ inside request _ store _ _ _ _ answer _ ran closed went ih later =>
    rcases List.mem_cons.mp mem with rfl | mem
    · exact ⟨(fun _ same => nomatch same), fun _ _ same => nomatch same⟩
    rcases List.mem_append.mp mem with mem | mem
    · exact (ih mem).mono fun _ mem => .tail _ (List.mem_append_left _ mem)
    rcases List.mem_cons.mp mem with rfl | mem
    · refine ⟨fun other ends => ?_, fun _ _ same => nomatch same⟩
      cases ends
      refine ⟨answer, ⟨inside, .begins request, store⟩, .head _, rfl, rfl, ?_⟩
      exact fun exhausted _ => ran.actWithin_call closed exhausted
    · exact (later mem).mono fun _ mem => .tail _ (List.mem_append_right _ (.tail _ mem))
  | @failed _ inside request _ store _ _ _ _ ran closed ih =>
    rcases List.mem_cons.mp mem with rfl | mem
    · exact ⟨(fun _ same => nomatch same), fun _ _ same => nomatch same⟩
    rcases List.mem_append.mp mem with mem | mem
    · exact (ih mem).mono fun _ mem => .tail _ (List.mem_append_left _ mem)
    · cases List.mem_singleton.mp mem
      refine ⟨(fun _ same => nomatch same), fun other e fails => ?_⟩
      cases fails
      refine ⟨⟨inside, .begins request, store⟩, .head _, rfl, rfl, ?_⟩
      exact fun exhausted _ => ran.actWithin_call closed exhausted

/-! ## 4. Operations -/

namespace Session

/-- Performing the operation in the session leaves the trace and ends with the outcome. -/
abbrev Performs (s : Session) (op : Operation) (trace : List Moment) (outcome : Outcome Answer) :
    Prop :=
  Runs s.setting (depthOf op) [] (s.plan op) s.store trace outcome

theorem exists_performs (s : Session) (op : Operation) :
    ∃ trace outcome, s.Performs op trace outcome :=
  runs_total (s.plan op) s.store

/-- The run of an operation decides what the operation does. -/
theorem Performs.perform_eq {s : Session} {op : Operation} {trace : List Moment}
    {outcome : Outcome Answer} (run : s.Performs op trace outcome) :
    s.perform op = s.conclude op outcome := by
  rw [Session.perform_eq, ← act_plan]
  exact congrArg (s.conclude op) run.act_eq

theorem Performs.store_eq {s : Session} {op : Operation} {trace : List Moment}
    {outcome : Outcome Answer} (run : s.Performs op trace outcome) :
    (s.perform op).2.store = storeOf outcome := by
  rw [run.perform_eq]
  cases outcome with
  | ok answer store => rfl
  | error e store => exact store_fail _ e op

end Session

/-- Every operation ends, in every state of a session. It has one run, and that run decides what the
operation does. What would be done where too many modules are open makes no difference. Evaluations
nest up to the limit. The modules that are being imported at a moment are different files that did
not count as imported before and do until they end. So there are no more of them than files, and at
every moment the files that are left and the modules in progress are no more than the files that
were left at first. -/
theorem perform_terminates (s : Session) (op : Operation) :
    ∃ trace outcome, s.Performs op trace outcome ∧
      (∀ trace' outcome', s.Performs op trace' outcome' → trace' = trace ∧ outcome' = outcome) ∧
      s.perform op = s.conclude op outcome ∧
      (∀ exhausted nesting, missing s.setting s.store < nesting →
        (s.plan op).actWithin s.setting exhausted nesting (Session.depthOf op) s.store =
          outcome) ∧
      ∀ m ∈ trace,
        depthInside (Session.depthOf op) m.inside ≤
          max (Session.depthOf op) s.setting.depthLimit ∧
        missing s.setting m.store + modulesIn m.inside ≤ missing s.setting s.store ∧
        missing s.setting s.store ≤ s.setting.files.files.length ∧
        ∃ opened, Opens s.setting opened s.store m.store ∧ opened.length = modulesIn m.inside := by
  obtain ⟨trace, outcome, run⟩ := s.exists_performs op
  refine ⟨trace, outcome, run, fun _ _ other => other.unique run, run.perform_eq, ?_, ?_⟩
  · exact fun exhausted nesting => run.actWithin_eq exhausted
  · intro m mem
    obtain ⟨opened, opens, count⟩ := run.opens_moment mem
    have count : opened.length = modulesIn m.inside := (count.trans (Nat.zero_add _)).symm
    have left := opens.missing_add_length_le
    rw [count] at left
    exact ⟨run.depth_le (Nat.le_max_left _ _) mem, left, missing_le_files _ _, opened, opens, count⟩

/-- Two modules that import each other, and a procedure that calls itself without end. -/
example :
    let files := (FileTree.write {} "a" (.file (some "(import \"b\")"))).write "b"
      (.file (some "(import \"a\") (define f (lambda (x) (f x))) (f 1)"))
    errorOf? ((Session.new { files, depthLimit := 9 }).perform (.importModule "a")).1 =
      some (.depthLimit 9) := by
  decide +kernel

end ListScript
