import ListScript.Proofs.Operation

/-!
# Plans

An evaluation does nothing by itself. It asks for something, waits for the answer, and asks for
something else, until it has a value or fails. Its plan says what it asks for next, given the
answers so far. A plan cannot go on after something that it asked for has failed.

Results:
1. `act_form`, `act_native`, `act_module`: forms, native procedures and modules do what their plans
   say.
2. `Session.act_plan`: so does every operation.
-/

namespace ListScript

/-! ## 1. Requests -/

/-- The smallest things that are asked for. -/
inductive Effect where
  | lookup (scope : FrameId) (name : String)
  | define (scope : FrameId) (name : String) (v : Value)
  | assign (scope : FrameId) (name : String) (v : Value)
  | newFrame (parent : FrameId) (bindings : Bindings)
  | writeLine (line : String)
  /-- The forms of a text are read. -/
  | readForms (text : String)
  /-- The text of the file at a path is read. -/
  | readFile (path : Path)

/-- What an effect gives. -/
abbrev Effect.Answer : Effect → Type
  | .lookup _ _ => Value
  | .define _ _ _ => Unit
  | .assign _ _ _ => Unit
  | .newFrame _ _ => FrameId
  | .writeLine _ => Unit
  | .readForms _ => List Value
  | .readFile _ => String

/-- What an effect does. -/
def Effect.act (setting : Setting) : (fx : Effect) → Eval fx.Answer
  | .lookup scope name => Eval.lookup scope name
  | .define scope name v => Eval.define scope name v
  | .assign scope name v => Eval.assign scope name v
  | .newFrame parent bindings => Eval.newFrame parent bindings
  | .writeLine line => Eval.writeLine line
  | .readForms text => Eval.ofExcept (readAll text)
  | .readFile path =>
    match setting.files.readPath path with
    | .error fault => throw (.unreadable path.toText fault.message)
    | .ok text => return text

/-- What an evaluation asks for. -/
inductive Request where
  | effect (fx : Effect)
  /-- A form is evaluated in a frame. -/
  | eval (scope : FrameId) (form : Value)
  /-- A native procedure is called. -/
  | native (action : Action) (args : List Value)
  /-- A module is imported by its name. -/
  | importModule (name : String)

/-- What a request gives. -/
abbrev Request.Answer : Request → Type
  | .effect fx => fx.Answer
  | .eval _ _ => Value
  | .native _ _ => Value
  | .importModule _ => Unit

/-! ## 2. Plans -/

/-- What is asked for, given the answers so far. -/
inductive Plan (α : Type) where
  | done (a : α)
  | fail (e : Error)
  | ask (request : Request) (next : request.Answer → Plan α)

namespace Plan

variable {α β : Type}

/-- One plan after another. -/
def bind : Plan α → (α → Plan β) → Plan β
  | .done a, next => next a
  | .fail e, _ => .fail e
  | .ask request more, next => .ask request fun answer => (more answer).bind next

instance : Monad Plan where
  pure := .done
  bind := bind

theorem bind_done (plan : Plan α) : plan.bind .done = plan := by
  induction plan with
  | done a => rfl
  | fail e => rfl
  | ask request next ih => exact congrArg (Plan.ask request) (funext ih)

theorem bind_bind {γ : Type} (plan : Plan α) (next : α → Plan β) (last : β → Plan γ) :
    (plan.bind next).bind last = plan.bind fun a => (next a).bind last := by
  induction plan with
  | done a => rfl
  | fail e => rfl
  | ask request more ih => exact congrArg (Plan.ask request) (funext ih)

instance : LawfulMonad Plan :=
  LawfulMonad.mk' Plan bind_done (fun _ _ => rfl) bind_bind

/-- The plan of a pure computation. -/
def ofExcept : Except Error α → Plan α
  | .ok a => .done a
  | .error e => .fail e

/-- Asks for one thing. -/
def request (request : Request) : Plan request.Answer :=
  .ask request fun answer => .done answer

def effect (fx : Effect) : Plan fx.Answer :=
  request (.effect fx)

def eval (scope : FrameId) (form : Value) : Plan Value :=
  request (.eval scope form)

def callNative (action : Action) (args : List Value) : Plan Value :=
  request (.native action args)

def importModule (name : String) : Plan Unit :=
  request (.importModule name)

/-! ## 3. The plans of evaluation -/

/-- The plan of a special form. -/
def special (scope : FrameId) : SpecialForm → List Value → Plan Value
  | .quote, form :: _ => return form
  | .quote, [] => .fail (.malformed "quote" .missingExpression)
  | .branch, test :: consequent :: rest => do
    let outcome ← eval scope test
    if outcome.isFalse then
      match rest with
      | alternative :: _ => eval scope alternative
      | [] => return .nil
    else eval scope consequent
  | .branch, _ => .fail (.malformed "if" .missingBranch)
  | .assign, [.symbol name, form] => do
    let v ← eval scope form
    let _ ← effect (.assign scope name v)
    return v
  | .assign, [_, _] => .fail (.malformed "set!" .targetNotSymbol)
  | .assign, _ => .fail (.malformed "set!" .notNameAndValue)
  | .define, [.symbol name, form] => do
    let v ← eval scope form
    let _ ← effect (.define scope name v)
    return v
  | .define, [_, _] => .fail (.malformed "define" .nameNotSymbol)
  | .define, _ => .fail (.malformed "define" .notNameAndValue)
  | .lambda, [.list params, body] => do
    let names ← ofExcept (Evaluation.parameterNames params)
    let captured ← effect (.newFrame scope .empty)
    return .lambda names body captured
  | .lambda, [_, _] => .fail (.malformed "lambda" .parametersNotList)
  | .lambda, _ => .fail (.malformed "lambda" .notParametersAndBody)
  | .sequence, forms => forms.foldlM (fun _ form => eval scope form) .nil

/-- The plan of a procedure that is applied to values. -/
def apply : Value → List Value → Plan Value
  | .lambda params body captured, args => do
    let scope ← effect (.newFrame captured (.ofCall params args))
    eval scope body
  | .native _ action, args => callNative action args
  | other, _ => .fail (.notCallable other.render)

/-- The plan of a form. -/
def form (scope : FrameId) : Value → Plan Value
  | .atom .symbol name => effect (.lookup scope name)
  | .list [] => return .nil
  | .list (head :: args) =>
    match SpecialForm.ofHead? head with
    | some specialForm => special scope specialForm args
    | none => do
      let procedure ← eval scope head
      let values ← args.mapM (eval scope)
      apply procedure values
  | v => return v

/-- The plan of a program of the host. -/
def host : HostProgram → Plan Value
  | .ok v => return v
  | .error e => .fail e
  | .lookup scope name next => do
    let v ← effect (.lookup scope name)
    host (next v)
  | .define scope name v next => do
    let _ ← effect (.define scope name v)
    host next
  | .assign scope name v next => do
    let _ ← effect (.assign scope name v)
    host next
  | .newFrame parent bindings next => do
    let made ← effect (.newFrame parent bindings)
    host (next made)
  | .writeLine line next => do
    let _ ← effect (.writeLine line)
    host next

/-- The plan of a native procedure. -/
def native (setting : Setting) : Action → List Value → Plan Value
  | .builtin op, args => ofExcept (op.apply args)
  | .print, args => do
    let _ ← effect (.writeLine (String.join (args.map Value.render)))
    return .truth true
  | .importModules, args =>
    if args.isEmpty then .fail (.malformed "import" .noModule)
    else if !setting.importing then .fail (.malformed "import" .noImporter)
    else do
      args.forM fun arg => importModule arg.text
      return .truth true
  | .host index, args =>
    match setting.procedures[index]? with
    | some procedure => host (procedure args)
    | none => .fail (.notCallable "<Proc>")

/-- The plan of a statement. Its text is read as a whole before its first form is evaluated. -/
def statement (echo : Bool) (text : String) : Plan Unit := do
  let forms ← effect (.readForms text)
  forms.forM fun form => do
    let v ← eval rootFrame form
    if echo then effect (.writeLine v.render)

/-- The plan of a line of a module. -/
def feed (draft : Draft) (line : String) : Plan Draft :=
  match draft.add line with
  | .blank => return draft
  | .waiting draft => return draft
  | .complete text rest => do
    statement false text
    return rest

/-- The plan of the module at a path. -/
def module (path : Path) : Plan Unit := do
  let text ← effect (.readFile path)
  let draft ← (lines text).foldlM feed .empty
  if draft.isIdle then return () else .fail (.malformed "module" (.unfinished path.toText))

end Plan

/-- What an operation asks for. -/
def Session.plan (s : Session) : Operation → Plan Answer
  | .feed line echo =>
    match s.draft.add line with
    | .blank => return .complete true
    | .waiting _ => return .complete false
    | .complete text _ => do
      Plan.statement echo text
      return .complete true
  | .evalText text => do
    let forms ← Plan.effect (.readForms text)
    let v ← forms.foldlM (fun _ form => Plan.eval rootFrame form) .nil
    return .value v
  | .importModule name => do
    Plan.importModule name
    return .imported
  | .eval scope form => do
    let v ← Plan.eval scope form
    return .value v
  | .apply procedure args => do
    let v ← Plan.apply procedure args
    return .value v

/-! ## 4. Doing what a plan says -/

section Act

variable (setting : Setting) (imports : Import) (evaluator : Evaluator)

/-- Does what is asked for, where imports and evaluations are given. -/
def Request.act : (request : Request) → Eval request.Answer
  | .effect fx => fx.act setting
  | .eval scope form => evaluator scope form
  | .native action args => Evaluation.perform setting imports action args
  | .importModule name => imports name

namespace Plan

variable {α β : Type}

/-- Does what a plan asks for, one thing after another. -/
def act : Plan α → Eval α
  | .done a => pure a
  | .fail e => throw e
  | .ask request next => do
    let answer ← request.act setting imports evaluator
    (next answer).act

@[simp] theorem act_pure (a : α) : act setting imports evaluator (pure a) = pure a := rfl

@[simp] theorem act_fail (e : Error) :
    act setting imports evaluator (.fail e : Plan α) = throw e := rfl

@[simp] theorem act_bind (plan : Plan α) (next : α → Plan β) :
    act setting imports evaluator (plan >>= next) =
      act setting imports evaluator plan >>= fun a => act setting imports evaluator (next a) := by
  induction plan with
  | done a => rfl
  | fail e => rfl
  | ask request more ih =>
    have later (answer : request.Answer) :
        act setting imports evaluator ((more answer).bind next) =
          act setting imports evaluator (more answer) >>= fun a =>
            act setting imports evaluator (next a) := ih answer
    change (request.act setting imports evaluator >>= fun answer =>
      act setting imports evaluator ((more answer).bind next)) = _
    simp only [later, act, bind_assoc]

@[simp] theorem act_effect (fx : Effect) :
    act setting imports evaluator (.effect fx) = fx.act setting :=
  bind_pure _

@[simp] theorem act_eval (scope : FrameId) (v : Value) :
    act setting imports evaluator (.eval scope v) = evaluator scope v :=
  bind_pure _

@[simp] theorem act_callNative (action : Action) (args : List Value) :
    act setting imports evaluator (.callNative action args) =
      Evaluation.perform setting imports action args :=
  bind_pure _

@[simp] theorem act_importModule (name : String) :
    act setting imports evaluator (.importModule name) = imports name :=
  bind_pure _

@[simp] theorem act_ofExcept (outcome : Except Error α) :
    act setting imports evaluator (.ofExcept outcome) = Eval.ofExcept outcome := by
  cases outcome <;> rfl

@[simp] theorem act_mapM (f : α → Plan β) (as : List α) :
    act setting imports evaluator (as.mapM f) =
      as.mapM fun a => act setting imports evaluator (f a) := by
  induction as with
  | nil => rfl
  | cons a rest ih =>
    simp only [List.mapM_cons, act_bind, ih]
    rfl

@[simp] theorem act_foldlM (f : β → α → Plan β) (start : β) (as : List α) :
    act setting imports evaluator (as.foldlM f start) =
      as.foldlM (fun b a => act setting imports evaluator (f b a)) start := by
  induction as generalizing start with
  | nil => rfl
  | cons a rest ih => simp only [List.foldlM_cons, act_bind, ih]

@[simp] theorem act_forM (f : α → Plan Unit) (as : List α) :
    act setting imports evaluator (as.forM f) =
      as.forM fun a => act setting imports evaluator (f a) := by
  induction as with
  | nil => rfl
  | cons a rest ih =>
    change act setting imports evaluator (f a >>= fun _ => rest.forM f) = _
    rw [act_bind, ih]
    rfl

/-! What the plans of evaluation say is what an evaluation does. -/

theorem act_special (scope : FrameId) (specialForm : SpecialForm) (args : List Value) :
    act setting imports evaluator (special scope specialForm args) =
      Evaluation.special evaluator scope specialForm args := by
  fun_cases special scope specialForm args with
  | case3 test consequent rest =>
    simp only [Evaluation.special, act_bind, act_eval]
    refine bind_congr fun outcome => ?_
    split
    · split <;> simp
    · simp
  | _ => simp [Evaluation.special, *] <;> rfl

theorem act_apply (procedure : Value) (args : List Value) :
    act setting imports evaluator (apply procedure args) =
      Evaluation.apply setting imports evaluator procedure args := by
  cases procedure with
  | lambda params body captured =>
    simp only [apply, Evaluation.apply, act_bind, act_eval]
    rfl
  | native name action => exact act_callNative setting imports evaluator action args
  | atom kind text => rfl
  | list items => rfl

theorem act_form (scope : FrameId) (v : Value) :
    act setting imports evaluator (form scope v) =
      Evaluation.form setting imports evaluator scope v := by
  fun_cases form scope v with
  | case1 name => exact act_effect setting imports evaluator (.lookup scope name)
  | case3 head args specialForm isSpecial =>
    simp only [Evaluation.form, isSpecial, act_special]
  | case4 head args notSpecial =>
    simp only [Evaluation.form, notSpecial, act_bind, act_eval, act_mapM, act_apply]
  | _ => simp [Evaluation.form, *]

theorem act_host (program : HostProgram) :
    act setting imports evaluator (host program) = program.act := by
  induction program with
  | ok v => rfl
  | error e => rfl
  | lookup scope name next ih =>
    rw [host, act_bind, act_effect]
    exact bind_congr ih
  | define scope name v next ih =>
    rw [host, act_bind, act_effect]
    exact bind_congr fun _ => ih
  | assign scope name v next ih =>
    rw [host, act_bind, act_effect]
    exact bind_congr fun _ => ih
  | newFrame parent bindings next ih =>
    rw [host, act_bind, act_effect]
    exact bind_congr ih
  | writeLine line next ih =>
    rw [host, act_bind, act_effect]
    exact bind_congr fun _ => ih

theorem act_native (action : Action) (args : List Value) :
    act setting imports evaluator (native setting action args) =
      Evaluation.perform setting imports action args := by
  cases action with
  | builtin op => exact act_ofExcept setting imports evaluator (op.apply args)
  | print =>
    simp only [native, Evaluation.perform, Evaluation.print, act_bind, effect, request, act,
      Request.act, Effect.act, bind_pure]
    rfl
  | importModules =>
    simp only [native, Evaluation.perform, Evaluation.importAll]
    split
    · rfl
    · split
      · rfl
      · simp only [act_bind, act_forM, act_importModule]
        rfl
  | host index =>
    simp only [native, Evaluation.perform]
    cases setting.procedures[index]? with
    | none => rfl
    | some procedure => exact act_host setting imports evaluator (procedure args)

theorem act_statement (echo : Bool) (text : String)
    (runs : evaluator rootFrame = Evaluation.run setting imports rootFrame) :
    act setting imports evaluator (statement echo text) =
      Module.runStatement setting imports echo text := by
  simp only [statement, Module.runStatement, act_bind, act_forM, act_eval, runs, effect, request,
    act, Request.act, Effect.act, bind_pure]
  refine bind_congr fun forms => ?_
  congr 1
  funext form
  refine bind_congr fun v => ?_
  split
  · exact bind_pure (Eval.writeLine v.render)
  · rfl

theorem act_feed (draft : Draft) (line : String)
    (runs : evaluator rootFrame = Evaluation.run setting imports rootFrame) :
    act setting imports evaluator (feed draft line) =
      Module.feed (Module.runStatement setting imports false) draft line := by
  unfold feed Module.feed
  cases draft.add line with
  | blank => rfl
  | waiting draft => rfl
  | complete text rest =>
    simp only [act_bind, act_statement setting imports evaluator _ _ runs]
    rfl

theorem act_module (path : Path)
    (runs : evaluator rootFrame = Evaluation.run setting imports rootFrame) :
    act setting imports evaluator (module path) = Module.evaluate setting imports path := by
  simp only [module, Module.evaluate, act_bind, act_foldlM, effect, request, act, Request.act,
    Effect.act, bind_pure, act_feed setting imports evaluator _ _ runs]
  cases setting.files.readPath path with
  | error fault => rfl
  | ok text =>
    rw [pure_bind]
    refine bind_congr fun draft => ?_
    split <;> rfl

end Plan

end Act

namespace Session

/-- The depth of the evaluations that an operation asks for: a procedure that it applies is not the
value of a form, so the body of a lambda is one level down. -/
def depthOf : Operation → Nat
  | .apply _ _ => 1
  | _ => 0

/-- Every operation does what its plan says. -/
theorem act_plan (s : Session) (op : Operation) :
    (s.plan op).act s.setting s.imports
        (Evaluation.eval s.setting s.imports (s.setting.depthLimit - depthOf op)) =
      s.act op := by
  have runs : Evaluation.eval s.setting s.imports (s.setting.depthLimit - 0) rootFrame =
      Evaluation.run s.setting s.imports rootFrame := rfl
  cases op with
  | feed line echo =>
    simp only [plan, act, depthOf]
    cases s.draft.add line with
    | blank => rfl
    | waiting draft => rfl
    | complete text rest =>
      simp only [Plan.act_bind, Plan.act_statement _ _ _ _ _ runs]
      rfl
  | evalText text =>
    simp only [plan, act, depthOf, Plan.act_bind, Plan.act_foldlM, Plan.act_eval, Plan.effect,
      Plan.request, Plan.act, Request.act, Effect.act, bind_pure, runs]
    rfl
  | importModule name =>
    simp only [plan, act, Plan.act_bind, Plan.act_importModule]
    rfl
  | eval scope form =>
    simp only [plan, act, Plan.act_bind, Plan.act_eval]
    rfl
  | apply procedure args =>
    simp only [plan, act, Plan.act_bind, Plan.act_apply]
    rfl

end Session

end ListScript
