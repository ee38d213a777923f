import ListScript.Proofs.Captures
import ListScript.Proofs.ErrorPassing
import ListScript.Proofs.Framing

/-!
# Contracts

A contract says which names an evaluation may use, which forms it may evaluate, which values it may
meet and which texts it may read. A plan meets a contract in some frames if it asks for nothing
else, works in these frames and in those that were made for it, and goes on so whatever it is
granted.

If what is read, bound and computed stays inside a contract, and procedures of the host keep to it,
every plan of an evaluation meets it. So whoever looks at a run need only look at its effects.

Results:
1. `meets_host`: what a program of the host asks for, if it observes the contract.
2. `Lawful.meets_form`, `Lawful.meets_native`, `Lawful.meets_module`: the plans of evaluation meet a
   lawful contract.
3. `Lawful.meets_call`: so does what a request leads to, if looking names up grants what the
   contract says.
4. `Lawful.meets_plan`: so does what an operation asks for.
-/

namespace ListScript

/-! ## 1. Contracts -/

/-- The statements that some lines complete, where the first line goes to the draft. -/
def Draft.statements (draft : Draft) : List String → List String
  | [] => []
  | line :: rest =>
    match draft.add line with
    | .blank => draft.statements rest
    | .waiting draft => draft.statements rest
    | .complete statement draft => statement :: draft.statements rest

/-- What an evaluation may use: names, forms that are evaluated, values that are met, and texts that
are read. -/
structure Contract where
  name : String → Prop
  form : Value → Prop
  value : Value → Prop
  text : String → Prop

/-- The answer is a frame that was made, which may be entered from then on. -/
def Request.Enters : (request : Request) → request.Answer → FrameId → Prop
  | .effect (.newFrame _ _), made, id => id = made
  | _, _, _ => False

/-- The program uses only what is allowed and gives what may be met, as long as it finds such
values. -/
def HostProgram.Observes (C : Contract) : HostProgram → Prop
  | .ok v => C.value v
  | .error _ => True
  | .lookup _ name next => C.name name ∧ ∀ v, C.value v → (next v).Observes C
  | .define _ name v next => C.name name ∧ C.value v ∧ next.Observes C
  | .assign _ name v next => C.name name ∧ C.value v ∧ next.Observes C
  | .newFrame _ bindings next =>
    (∀ name v, bindings.find? name = some v → C.value v) ∧ ∀ made, (next made).Observes C
  | .writeLine _ next => next.Observes C

namespace Contract

section Terms

variable (C : Contract)

/-- The request asks for nothing but what is allowed. Nothing is evaluated in other frames, and no
new name is bound there. -/
def Allows (opened : FrameId → Prop) : Request → Prop
  | .effect (.lookup _ name) => C.name name
  | .effect (.define scope name v) => opened scope ∧ C.name name ∧ C.value v
  | .effect (.assign _ name v) => C.name name ∧ C.value v
  | .effect (.newFrame _ bindings) => ∀ name v, bindings.find? name = some v → C.value v
  | .effect (.readForms text) => C.text text
  | .effect _ => True
  | .eval scope form => opened scope ∧ C.form form
  | .native _ args => ∀ arg ∈ args, C.value arg
  | .importModule _ => True

/-- What may be counted on when a request is answered. -/
def Grants : (request : Request) → request.Answer → Prop
  | .effect (.lookup _ _), v => C.value v
  | .effect (.readForms _), forms => ∀ form ∈ forms, C.form form
  | .effect (.readFile _), text =>
    ∀ statement ∈ Draft.empty.statements (lines text), C.text statement
  | .effect _, _ => True
  | .eval _ _, v => C.value v
  | .native _ _, v => C.value v
  | .importModule _, _ => True

/-- What is read, bound and computed stays inside the contract. -/
structure Lawful (setting : Setting) : Prop where
  nil : C.value .nil
  truth (b : Bool) : C.value (.truth b)
  items {items : List Value} : C.value (.list items) → ∀ v ∈ items, C.value v
  lambda {params : List String} {body : Value} {captured : FrameId} :
    C.value (.lambda params body captured) ↔ C.form body
  /-- A form may be met as a value. -/
  data {form : Value} : C.form form → C.value form
  symbol {name : String} : C.form (.symbol name) → C.name name
  call {head : Value} {args : List Value} :
    SpecialForm.ofHead? head = none → C.form (.list (head :: args)) → ∀ v ∈ head :: args, C.form v
  special {head : Value} {specialForm : SpecialForm} {args : List Value} :
    SpecialForm.ofHead? head = some specialForm → specialForm ≠ .quote → specialForm ≠ .lambda →
      C.form (.list (head :: args)) → ∀ v ∈ args, C.form v
  body {head params body : Value} :
    SpecialForm.ofHead? head = some .lambda → C.form (.list [head, params, body]) → C.form body
  builtin {op : Builtin} {args : List Value} {v : Value} :
    op.apply args = .ok v → (∀ arg ∈ args, C.value arg) → C.value v
  read {text : String} {forms : List Value} :
    C.text text → readAll text = .ok forms → ∀ form ∈ forms, C.form form
  file {path : Path} {text : String} :
    setting.files.readPath path = .ok text →
      ∀ statement ∈ Draft.empty.statements (lines text), C.text statement

/-- The procedures of the host do nothing but what is allowed. -/
def Hosts (opened : FrameId → Prop) (setting : Setting) : Prop :=
  ∀ procedure ∈ setting.procedures, ∀ args, (∀ arg ∈ args, C.value arg) →
    (procedure args).Observes C ∧ (procedure args).BindsIn opened

/-- What a host hands to an operation is allowed. -/
def Admits (opened : FrameId → Prop) (s : Session) (op : Operation) : Prop :=
  (∀ text, s.submitted? op = some text → C.text text) ∧
    match op with
    | .eval scope form => opened scope ∧ C.form form
    | .apply procedure args => C.value procedure ∧ ∀ arg ∈ args, C.value arg
    | _ => True

/-- A value that an operation gives may be met. -/
def Gives : Answer → Prop
  | .value v => C.value v
  | _ => True

end Terms

/-- What procedures of the host may do where they may bind names, they may do where they may bind
more. -/
theorem Hosts.mono {C : Contract} {opened opened' : FrameId → Prop} {setting : Setting}
    (hosts : C.Hosts opened setting) (le : ∀ id, opened id → opened' id) :
    C.Hosts opened' setting := by
  intro procedure mem args hargs
  obtain ⟨observes, binds⟩ := hosts procedure mem args hargs
  exact ⟨observes, binds.mono le⟩

/-- Where all frames may be worked in, what is bound in which of them does not matter. -/
theorem hosts_of_observes {C : Contract} {setting : Setting}
    (observes : ∀ procedure ∈ setting.procedures, ∀ args, (∀ arg ∈ args, C.value arg) →
      (procedure args).Observes C) :
    C.Hosts (fun _ => True) setting :=
  fun procedure mem args hargs => ⟨observes procedure mem args hargs, HostProgram.bindsIn_true _⟩

end Contract

/-! ## 2. Plans -/

namespace Plan

variable {C : Contract} {α β : Type} {opened opened' : FrameId → Prop}

/-- The plan asks for nothing but what the contract allows, and gives something good. -/
def Meets (C : Contract) (good : α → Prop) : Plan α → (FrameId → Prop) → Prop
  | .done a, _ => good a
  | .fail _, _ => True
  | .ask request next, opened => C.Allows opened request ∧
    ∀ answer, C.Grants request answer →
      (next answer).Meets C good fun id => opened id ∨ request.Enters answer id

theorem allows_mono {request : Request} (h : C.Allows opened request)
    (le : ∀ id, opened id → opened' id) : C.Allows opened' request := by
  cases request with
  | eval scope form => exact ⟨le scope h.1, h.2⟩
  | native action args => exact h
  | importModule name => exact h
  | effect fx =>
    cases fx with
    | define scope name v => exact ⟨le scope h.1, h.2⟩
    | _ => exact h

variable {good : α → Prop} {good' : β → Prop}

theorem meets_mono {plan : Plan α} (h : plan.Meets C good opened)
    (le : ∀ id, opened id → opened' id) : plan.Meets C good opened' := by
  induction plan generalizing opened opened' with
  | done a => exact h
  | fail e => exact trivial
  | ask request next ih =>
    refine ⟨allows_mono h.1 le, fun answer granted => ih answer (h.2 answer granted) ?_⟩
    exact fun id => Or.imp_left (le id)

theorem meets_bind {plan : Plan α} {next : α → Plan β} (first : plan.Meets C good opened)
    (later : ∀ a, good a → (next a).Meets C good' opened) :
    (plan >>= next).Meets C good' opened := by
  induction plan generalizing opened with
  | done a => exact later a first
  | fail e => exact trivial
  | ask request more ih =>
    refine ⟨first.1, fun answer granted => ih answer (first.2 answer granted) fun a given => ?_⟩
    exact meets_mono (later a given) fun id => .inl

theorem meets_ofExcept {given : Except Error α} (h : ∀ a, given = .ok a → good a) :
    (ofExcept given).Meets C good opened := by
  cases given with
  | ok a => exact h a rfl
  | error e => exact trivial

theorem meets_mapM {f : α → Plan β} {as : List α} (h : ∀ a ∈ as, (f a).Meets C good' opened) :
    (as.mapM f).Meets C (fun bs => ∀ b ∈ bs, good' b) opened := by
  induction as with
  | nil => exact fun _ mem => absurd mem List.not_mem_nil
  | cons a rest ih =>
    obtain ⟨first, later⟩ := List.forall_mem_cons.mp h
    rw [List.mapM_cons]
    refine meets_bind first fun b hb => meets_bind (ih later) fun bs hbs => ?_
    exact List.forall_mem_cons.mpr ⟨hb, hbs⟩

theorem meets_foldlM {f : β → α → Plan β} {as : List α} {start : β} (first : good' start)
    (h : ∀ a ∈ as, ∀ b, good' b → (f b a).Meets C good' opened) :
    (as.foldlM f start).Meets C good' opened := by
  induction as generalizing start with
  | nil => exact first
  | cons a rest ih =>
    obtain ⟨now, later⟩ := List.forall_mem_cons.mp h
    rw [List.foldlM_cons]
    exact meets_bind (now start first) fun b hb => ih hb later

theorem meets_forM {f : α → Plan Unit} {as : List α}
    (h : ∀ a ∈ as, (f a).Meets C (fun _ => True) opened) :
    (as.forM f).Meets C (fun _ => True) opened := by
  induction as with
  | nil => exact trivial
  | cons a rest ih =>
    obtain ⟨first, later⟩ := List.forall_mem_cons.mp h
    exact meets_bind first fun _ _ => ih later

theorem meets_effect {fx : Effect} (allowed : C.Allows opened (.effect fx)) :
    (effect fx).Meets C (C.Grants (.effect fx)) opened :=
  ⟨allowed, fun _ given => given⟩

theorem meets_eval {scope : FrameId} {v : Value} (hscope : opened scope) (hform : C.form v) :
    (eval scope v).Meets C C.value opened :=
  ⟨⟨hscope, hform⟩, fun _ given => given⟩

/-- A program that binds names in the frames that may be worked in, and in those that it makes, asks
for nothing but what it observes. -/
theorem meets_host {program : HostProgram} (observes : program.Observes C)
    (binds : program.BindsIn opened) : (host program).Meets C C.value opened := by
  induction program generalizing opened with
  | ok v => exact observes
  | error e => exact trivial
  | lookup scope name next ih =>
    refine meets_bind (meets_effect observes.1) fun v granted => ?_
    exact ih v (observes.2 v granted) (binds v)
  | define scope name v next ih =>
    have allowed : C.Allows opened (.effect (.define scope name v)) :=
      ⟨binds.1, observes.1, observes.2.1⟩
    exact meets_bind (meets_effect allowed) fun _ _ => ih observes.2.2 binds.2
  | assign scope name v next ih =>
    have allowed : C.Allows opened (.effect (.assign scope name v)) := ⟨observes.1, observes.2.1⟩
    exact meets_bind (meets_effect allowed) fun _ _ => ih observes.2.2 binds
  | newFrame parent bindings next ih =>
    refine ⟨observes.1, fun made _ => ?_⟩
    exact ih made (observes.2 made) (binds made)
  | writeLine line next ih =>
    exact meets_bind (meets_effect trivial) fun _ _ => ih observes binds

end Plan

open Plan

/-! ## 3. The plans of evaluation -/

namespace Contract.Lawful

variable {C : Contract} {setting : Setting} {opened : FrameId → Prop} {scope : FrameId}

section Forms

variable (lawful : C.Lawful setting)

include lawful

theorem meets_special (hscope : opened scope) {head : Value} {specialForm : SpecialForm}
    {args : List Value} (isSpecial : SpecialForm.ofHead? head = some specialForm)
    (hform : C.form (.list (head :: args))) :
    (Plan.special scope specialForm args).Meets C C.value opened := by
  have asData : ∀ v ∈ head :: args, C.value v := lawful.items (lawful.data hform)
  fun_cases Plan.special scope specialForm args with
  | case1 form rest => exact asData form (by simp)
  | case3 test consequent rest =>
    have inner := lawful.special isSpecial (by decide) (by decide) hform
    refine meets_bind (meets_eval hscope (inner test (by simp))) fun outcome _ => ?_
    split
    · split
      · exact meets_eval hscope (inner _ (by simp))
      · exact lawful.nil
    · exact meets_eval hscope (inner consequent (by simp))
  | case5 name form =>
    have inner := lawful.special isSpecial (by decide) (by decide) hform
    refine meets_bind (meets_eval hscope (inner form (by simp))) fun v hv => ?_
    exact ⟨⟨lawful.symbol (inner _ (by simp)), hv⟩, fun _ _ => hv⟩
  | case8 name form =>
    have inner := lawful.special isSpecial (by decide) (by decide) hform
    refine meets_bind (meets_eval hscope (inner form (by simp))) fun v hv => ?_
    exact ⟨⟨hscope, lawful.symbol (inner _ (by simp)), hv⟩, fun _ _ => hv⟩
  | case11 params body =>
    refine meets_bind (meets_ofExcept fun _ _ => trivial) fun names (_ : True) => ?_
    refine ⟨fun name v found => absurd found (by simp), fun captured _ => ?_⟩
    exact lawful.lambda.mpr (lawful.body isSpecial hform)
  | case14 =>
    have inner := lawful.special isSpecial (by decide) (by decide) hform
    exact meets_foldlM lawful.nil fun form mem _ _ => meets_eval hscope (inner form mem)
  | _ => exact trivial

theorem meets_apply {procedure : Value} {args : List Value} (hprocedure : C.value procedure)
    (hargs : ∀ arg ∈ args, C.value arg) :
    (Plan.apply procedure args).Meets C C.value opened := by
  cases procedure with
  | lambda params body captured =>
    refine ⟨fun name v found => hargs v (within_of_find?_ofCall found), fun made _ => ?_⟩
    exact meets_eval (.inr rfl) (lawful.lambda.mp hprocedure)
  | native name action => exact ⟨hargs, fun _ given => given⟩
  | atom kind text => exact trivial
  | list items => exact trivial

/-- The plan of a form meets a lawful contract, in the frame that it is evaluated in. -/
theorem meets_form (hscope : opened scope) {v : Value} (hform : C.form v) :
    (Plan.form scope v).Meets C C.value opened := by
  fun_cases Plan.form scope v with
  | case1 name => exact ⟨lawful.symbol hform, fun _ given => given⟩
  | case2 => exact lawful.nil
  | case3 head args specialForm isSpecial => exact lawful.meets_special hscope isSpecial hform
  | case4 head args notSpecial =>
    obtain ⟨hhead, hargs⟩ := List.forall_mem_cons.mp (lawful.call notSpecial hform)
    refine meets_bind (meets_eval hscope hhead) fun procedure hprocedure => ?_
    refine meets_bind (meets_mapM fun arg mem => meets_eval hscope (hargs arg mem)) ?_
    exact fun values hvalues => lawful.meets_apply hprocedure hvalues
  | case5 => exact lawful.data hform

theorem meets_native (hosts : C.Hosts opened setting) (action : Action) {args : List Value}
    (hargs : ∀ arg ∈ args, C.value arg) :
    (Plan.native setting action args).Meets C C.value opened := by
  cases action with
  | builtin op => exact meets_ofExcept fun v given => lawful.builtin given hargs
  | print => exact ⟨trivial, fun _ _ => lawful.truth true⟩
  | importModules =>
    simp only [Plan.native]
    split
    · exact trivial
    · split
      · exact trivial
      · have each (arg : Value) :
            (Plan.importModule arg.text).Meets C (fun _ => True) opened :=
          ⟨trivial, fun _ _ => trivial⟩
        exact meets_bind (meets_forM fun arg _ => each arg) fun _ _ => lawful.truth true
  | host index =>
    simp only [Plan.native]
    cases found : setting.procedures[index]? with
    | none => exact trivial
    | some procedure =>
      obtain ⟨observes, binds⟩ := hosts procedure (Array.mem_of_getElem? found) args hargs
      exact meets_host observes binds

end Forms

/-! ## 4. Modules and operations -/

theorem meets_statement (root : opened rootFrame) (echo : Bool) {text : String}
    (htext : C.text text) : (Plan.statement echo text).Meets C (fun _ => True) opened := by
  refine ⟨htext, fun forms hforms => meets_forM fun form mem => ?_⟩
  refine meets_bind (meets_eval (.inl root) (hforms form mem)) fun v _ => ?_
  split
  · exact ⟨trivial, fun _ _ => trivial⟩
  · exact trivial

theorem meets_feed (root : opened rootFrame) {draft : Draft} {line : String} {rest : List String}
    (texts : ∀ text ∈ draft.statements (line :: rest), C.text text) :
    (Plan.feed draft line).Meets C (fun draft => ∀ text ∈ draft.statements rest, C.text text)
      opened := by
  unfold Plan.feed
  unfold Draft.statements at texts
  cases added : draft.add line with
  | blank =>
    rw [added] at texts
    exact texts
  | waiting next =>
    rw [added] at texts
    exact texts
  | complete text next =>
    rw [added] at texts
    obtain ⟨first, later⟩ := List.forall_mem_cons.mp texts
    exact meets_bind (meets_statement root false first) fun _ _ => later

theorem meets_feeds (root : opened rootFrame) {draft : Draft} {rest : List String}
    (texts : ∀ text ∈ draft.statements rest, C.text text) :
    (rest.foldlM Plan.feed draft).Meets C (fun _ => True) opened := by
  induction rest generalizing draft with
  | nil => exact trivial
  | cons line rest ih =>
    rw [List.foldlM_cons]
    exact meets_bind (meets_feed root texts) fun _ later => ih later

theorem meets_module (root : opened rootFrame) (path : Path) :
    (Plan.module path).Meets C (fun _ => True) opened := by
  have read : (effect (.readFile path)).Meets C (C.Grants (.effect (.readFile path))) opened :=
    meets_effect trivial
  refine meets_bind read fun text texts => meets_bind (meets_feeds root texts) fun draft _ => ?_
  split <;> exact trivial

/-- What an effect gives is what may be counted on. -/
theorem grants_of_outcome (lawful : C.Lawful setting) {store : Store} {fx : Effect}
    {answer : fx.Answer} (allowed : C.Allows opened (.effect fx))
    (bound : ∀ scope name v, C.name name → store.scopes.get? scope name = some v → C.value v)
    (given : (fx.act setting).outcome store = .ok answer) : C.Grants (.effect fx) answer := by
  cases fx with
  | lookup scope name =>
    simp only [Effect.act, Eval.outcome, Eval.lookup] at given
    cases found : store.scopes.get? scope name <;> rw [found] at given <;> cases given
    exact bound scope name _ allowed found
  | readForms text =>
    simp only [Effect.act, Eval.outcome, Eval.ofExcept] at given
    cases taken : readAll text <;> rw [taken] at given <;> cases given
    exact lawful.read allowed taken
  | readFile path =>
    simp only [Effect.act] at given
    cases taken : setting.files.readPath path <;> rw [taken] at given <;> cases given
    exact lawful.file taken
  | _ => exact trivial

/-- What a request leads to meets a lawful contract that allows the request, if names that may be
used have values that may be met. -/
theorem meets_call (lawful : C.Lawful setting) (hosts : C.Hosts opened setting)
    (root : opened rootFrame) {base : Nat} {inside : List Request} {store : Store}
    {request : Request} (allowed : C.Allows opened request)
    (bound : ∀ scope name v, C.name name → store.scopes.get? scope name = some v → C.value v) :
    (request.call setting base inside store).plan.Meets C (C.Grants request) opened := by
  cases request with
  | eval scope form =>
    simp only [Request.call]
    split
    · exact lawful.meets_form allowed.1 allowed.2
    · exact trivial
  | native action args => exact lawful.meets_native hosts action allowed
  | importModule name =>
    simp only [Request.call, importCall]
    split
    · exact trivial
    · split
      · exact trivial
      · exact meets_module root _
  | effect fx =>
    exact meets_ofExcept fun answer given => lawful.grants_of_outcome allowed bound given

/-- What an operation asks for meets a lawful contract, if what is handed to it is allowed. What it
gives may be met. -/
theorem meets_plan {s : Session} (lawful : C.Lawful s.setting) (root : opened rootFrame)
    {op : Operation} (admitted : C.Admits opened s op) :
    (s.plan op).Meets C C.Gives opened := by
  obtain ⟨texts, handed⟩ := admitted
  cases op with
  | feed line echo =>
    simp only [Session.plan, Session.submitted?] at texts ⊢
    cases added : s.draft.add line with
    | blank => exact trivial
    | waiting draft => exact trivial
    | complete text rest =>
      rw [added] at texts
      exact meets_bind (meets_statement root echo (texts text rfl)) fun _ _ => trivial
  | evalText text =>
    refine meets_bind (meets_effect (texts text rfl)) fun forms hforms => ?_
    refine meets_bind (meets_foldlM lawful.nil fun form mem _ _ => ?_) fun _ given => given
    exact meets_eval root (hforms form mem)
  | importModule name => exact ⟨trivial, fun _ _ => trivial⟩
  | eval scope form => exact meets_bind (meets_eval handed.1 handed.2) fun _ given => given
  | apply procedure args =>
    exact meets_bind (lawful.meets_apply handed.1 handed.2) fun _ given => given

end Contract.Lawful

/-! ## 5. Everything -/

/-- The contract that allows everything. It still keeps an evaluation to the frames that it starts
from and those that it makes. -/
def anything : Contract where
  name _ := True
  form _ := True
  value _ := True
  text _ := True

theorem anything_grants {request : Request} (answer : request.Answer) :
    anything.Grants request answer := by
  cases request with
  | effect fx =>
    cases fx with
    | readForms text => exact fun _ _ => trivial
    | readFile path => exact fun _ _ => trivial
    | _ => exact trivial
  | _ => exact trivial

theorem anything_lawful {setting : Setting} : anything.Lawful setting where
  nil := trivial
  truth _ := trivial
  items _ _ _ := trivial
  lambda := .rfl
  data := id
  symbol _ := trivial
  call _ _ _ _ := trivial
  special _ _ _ _ _ _ := trivial
  body _ _ := trivial
  builtin _ _ := trivial
  read _ _ _ _ := trivial
  file _ _ _ := trivial

theorem anything_observes (program : HostProgram) : program.Observes anything := by
  induction program with
  | ok v => exact trivial
  | error e => exact trivial
  | lookup scope name next ih => exact ⟨trivial, fun v _ => ih v⟩
  | define scope name v next ih => exact ⟨trivial, trivial, ih⟩
  | assign scope name v next ih => exact ⟨trivial, trivial, ih⟩
  | newFrame parent bindings next ih => exact ⟨fun _ _ _ => trivial, ih⟩
  | writeLine line next ih => exact ih

/-- The procedures of the host are only kept to the frames in which they may bind names. -/
theorem anything_hosts {opened : FrameId → Prop} {setting : Setting}
    (binds : ∀ procedure ∈ setting.procedures, ∀ args, (procedure args).BindsIn opened) :
    anything.Hosts opened setting :=
  fun procedure mem args _ => ⟨anything_observes _, binds procedure mem args⟩

end ListScript
