import ListScript.Builtin
import ListScript.Store

/-!
# Evaluation

A form is evaluated in a frame, with a number of levels left. Every evaluation that it asks for
has one level less, and where no level is left the depth limit is reached. What `import` does with
a name is a parameter, so evaluation knows nothing about modules.

Rules:
* A symbol has the value that its name has in the frame. Other atoms and procedures are their own
  values, and the empty list is `nil`.
* A list whose first child is the symbol of a special form is that form, whatever the symbol is
  bound to. The form decides which of its children are evaluated.
* Every other list is a call. Its first child and then its arguments are evaluated from left to
  right in the frame, and the procedure is applied to the values.
* A lambda's body is evaluated in a new frame that binds the parameters, below the frame that the
  lambda captured. The captured frame is made with the lambda, empty, below the frame it was made
  in.
* The first error ends the evaluation.
-/

namespace ListScript

/-! ## 1. Special forms -/

/-- The forms that decide themselves what to evaluate. -/
inductive SpecialForm where
  | quote
  | branch
  | assign
  | define
  | lambda
  | sequence
deriving DecidableEq, Repr

namespace SpecialForm

/-- The special forms in the order of their names. -/
def all : List SpecialForm :=
  [.sequence, .define, .branch, .lambda, .quote, .assign]

/-- The symbol that starts a special form. -/
def name : SpecialForm → String
  | .quote => "quote"
  | .branch => "if"
  | .assign => "set!"
  | .define => "define"
  | .lambda => "lambda"
  | .sequence => "begin"

/-- The special form of a name. -/
def ofName? (name : String) : Option SpecialForm :=
  all.find? fun form => form.name == name

/-- The special form that a list with this first child is. -/
def ofHead? : Value → Option SpecialForm
  | .atom .symbol name => ofName? name
  | _ => none

end SpecialForm

/-- What `import` does with the name of a module. -/
abbrev Import := String → Eval Unit

/-- Evaluates a form in a frame. -/
abbrev Evaluator := FrameId → Value → Eval Value

namespace Evaluation

/-- The names of a lambda's parameters. Each has to be a symbol. -/
def parameterNames (params : List Value) : Except Error (List String) :=
  params.mapM fun param =>
    match param with
    | .symbol name => .ok name
    | other => .error (.malformed "lambda" (.parameterNotSymbol other.render))

/-- The value of a special form, where `eval` evaluates its children. -/
@[specialize]
def special (eval : Evaluator) (scope : FrameId) : SpecialForm → List Value → Eval Value
  | .quote, form :: _ => return form
  | .quote, [] => throw (.malformed "quote" .missingExpression)
  | .branch, test :: consequent :: rest => do
    let outcome ← eval scope test
    if outcome.isFalse then
      match rest with
      | alternative :: _ => eval scope alternative
      | [] => return .nil
    else eval scope consequent
  | .branch, _ => throw (.malformed "if" .missingBranch)
  | .assign, [.symbol name, form] => do
    let v ← eval scope form
    Eval.assign scope name v
    return v
  | .assign, [_, _] => throw (.malformed "set!" .targetNotSymbol)
  | .assign, _ => throw (.malformed "set!" .notNameAndValue)
  | .define, [.symbol name, form] => do
    let v ← eval scope form
    Eval.define scope name v
    return v
  | .define, [_, _] => throw (.malformed "define" .nameNotSymbol)
  | .define, _ => throw (.malformed "define" .notNameAndValue)
  | .lambda, [.list params, body] => do
    let names ← Eval.ofExcept (parameterNames params)
    let captured ← Eval.newFrame scope .empty
    return .lambda names body captured
  | .lambda, [_, _] => throw (.malformed "lambda" .parametersNotList)
  | .lambda, _ => throw (.malformed "lambda" .notParametersAndBody)
  | .sequence, forms => forms.foldlM (fun _ form => eval scope form) .nil

/-! ## 2. Procedures -/

/-- Prints the shown forms of some values on one line, with nothing between them. -/
def print (args : List Value) : Eval Value := do
  Eval.writeLine (String.join (args.map Value.render))
  return .truth true

/-- Imports the modules named by the texts of the arguments, in order. -/
def importAll (setting : Setting) (imports : Import) (args : List Value) : Eval Value :=
  if args.isEmpty then throw (.malformed "import" .noModule)
  else if !setting.importing then throw (.malformed "import" .noImporter)
  else do
    args.forM fun arg => imports arg.text
    return .truth true

/-- Does what a native procedure does. -/
def perform (setting : Setting) (imports : Import) (action : Action) (args : List Value) :
    Eval Value :=
  match action with
  | .builtin op => Eval.ofExcept (op.apply args)
  | .print => print args
  | .importModules => importAll setting imports args
  | .host index =>
    match setting.procedures[index]? with
    | some procedure => (procedure args).act
    | none => throw (.notCallable "<Proc>")

/-- Applies a procedure to values, where `eval` evaluates the body of a lambda. -/
@[specialize]
def apply (setting : Setting) (imports : Import) (eval : Evaluator) (procedure : Value)
    (args : List Value) : Eval Value :=
  match procedure with
  | .lambda params body captured => do
    let scope ← Eval.newFrame captured (.ofCall params args)
    eval scope body
  | .native _ action => perform setting imports action args
  | other => throw (.notCallable other.render)

/-! ## 3. Forms -/

/-- The value of a form, where `eval` evaluates the forms that it asks for. -/
@[specialize]
def form (setting : Setting) (imports : Import) (eval : Evaluator) (scope : FrameId) :
    Value → Eval Value
  | .atom .symbol name => Eval.lookup scope name
  | .list [] => return .nil
  | .list (head :: args) =>
    match SpecialForm.ofHead? head with
    | some specialForm => special eval scope specialForm args
    | none => do
      let procedure ← eval scope head
      let values ← args.mapM (eval scope)
      apply setting imports eval procedure values
  | v => return v

/-- Evaluates a form in a frame with some levels left. -/
def eval (setting : Setting) (imports : Import) : Nat → Evaluator
  | 0 => fun _ _ => throw (.depthLimit setting.depthLimit)
  | left + 1 => form setting imports (eval setting imports left)

/-- Evaluates a form that no other form asked for. -/
def run (setting : Setting) (imports : Import) (scope : FrameId) (v : Value) : Eval Value :=
  eval setting imports setting.depthLimit scope v

/-- Applies a procedure that no form called. Its body is one level down. -/
def call (setting : Setting) (imports : Import) (procedure : Value) (args : List Value) :
    Eval Value :=
  apply setting imports (eval setting imports (setting.depthLimit - 1)) procedure args

end Evaluation

end ListScript
