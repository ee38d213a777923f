import ListScript.Module

/-!
# Sessions

A session is one root frame with the procedure library, one draft of the statement that is being
fed, and the modules imported so far. The host drives it by its operations, and each operation
gives an answer and the next session, also when the answer is an error.

Rules:
* Feeding a line evaluates the statement that it completes. If that fails, the draft is discarded,
  and the error is reported once unless it asks to exit.
* No other operation reports, and none of them touches the draft except a reset.
* Bindings that were made before an error stay.
-/

namespace ListScript

/-- What the host is told about an error. -/
structure Report where
  severity : Severity
  message : String
deriving DecidableEq, Repr

/-- The report of an error. Asking to exit is no failure and has none. -/
def Error.report? (e : Error) : Option Report :=
  match e.exitCode? with
  | some _ => none
  | none => some ⟨e.severity, e.message⟩

/-- The state of a session between two operations. -/
structure Session where
  setting : Setting
  store : Store
  draft : Draft := .empty
  /-- What was reported so far, in order. -/
  reports : List Report := []
  /-- Whether the host listens to reports. -/
  reporting : Bool := true

namespace Session

/-! ## 1. The procedure library -/

/-- The constants, which are symbols bound to themselves. -/
def constants : List (String × Value) :=
  [("nil", .nil), ("#t", .truth true), ("#f", .truth false)]

/-- The procedures of the library by name. -/
def procedures : List (String × Action) :=
  (Builtin.all.map fun op => (op.name, .builtin op)) ++
    [("print", .print), ("import", .importModules)]

/-- Everything that the root frame of a session binds at the start. -/
def library : List (String × Value) :=
  constants ++ procedures.map fun (name, action) => (name, .native name action)

/-! ## 2. Making a session -/

/-- A session without the procedure library. -/
def bare (setting : Setting) : Session :=
  { setting, store := .initial }

/-- Binds a name in the root frame. -/
def define (s : Session) (name : String) (v : Value) : Session :=
  { s with store.scopes := s.store.scopes.define rootFrame name v }

/-- A session with the procedure library. -/
def new (setting : Setting) : Session :=
  library.foldl (fun s (name, v) => s.define name v) (bare setting)

/-- Adds a procedure of the host to the table and binds it to its name in the root frame. -/
def register (s : Session) (name : String) (procedure : HostProcedure) : Session :=
  let index := s.setting.procedures.size
  let setting := { s.setting with procedures := s.setting.procedures.push procedure }
  { s with setting }.define name (.native name (.host index))

/-! ## 3. Operations that evaluate -/

/-- Runs an action on the session's store. -/
def run {α : Type} (s : Session) (act : Eval α) : Except Error α × Session :=
  match act s.store with
  | .ok a store => (.ok a, { s with store })
  | .error e store => (.error e, { s with store })

/-- What the procedure `import` does in this session. -/
def imports (s : Session) : Import :=
  Module.importByName s.setting

/-- Evaluates a value as a form in the root frame. -/
def evalValue (s : Session) (v : Value) : Except Error Value × Session :=
  s.run (Evaluation.run s.setting s.imports rootFrame v)

/-- Evaluates all forms of a text and gives the value of the last one, or `nil` if there is none. -/
def evalText (s : Session) (text : String) : Except Error Value × Session :=
  s.run do
    let forms ← Eval.ofExcept (readAll text)
    forms.foldlM (fun _ form => Evaluation.run s.setting s.imports rootFrame form) .nil

/-- Evaluates the first form of a text. -/
def evalFirst (s : Session) (text : String) : Except Error Value × Session :=
  s.run do
    let form ← Eval.ofExcept (read text)
    Evaluation.run s.setting s.imports rootFrame form

/-- Applies a procedure to values. -/
def apply (s : Session) (procedure : Value) (args : List Value) : Except Error Value × Session :=
  s.run (Evaluation.call s.setting s.imports procedure args)

/-- Applies the procedure that a name is bound to in the root frame. -/
def applyNamed (s : Session) (name : String) (args : List Value) : Except Error Value × Session :=
  s.run do
    let procedure ← Eval.lookup rootFrame name
    Evaluation.call s.setting s.imports procedure args

/-- Imports a module. -/
def importModule (s : Session) (name : String) : Except Error Unit × Session :=
  s.run (s.imports name)

/-! ## 4. Feeding -/

/-- Discards the statement that is being fed. -/
def reset (s : Session) : Session :=
  { s with draft := .empty }

/-- Whether no statement is being fed. -/
def isIdle (s : Session) : Bool :=
  s.draft.isIdle

/-- Tells the host about an error. -/
def report (s : Session) (e : Error) : Session :=
  if s.reporting then { s with reports := s.reports ++ e.report?.toList } else s

/-- Ends a statement that was run, where `rest` is the draft that a line left after it. -/
def endStatement (rest : Draft) : Except Error Unit × Session → Except Error Bool × Session
  | (.ok (), s) => (.ok true, { s with draft := rest })
  | (.error e, s) => (.error e, s.reset.report e)

/-- Feeds a line. The answer is whether the line left nothing to complete. With `echo`, the values
of a completed statement are written to the sink. -/
def feed (s : Session) (line : String) (echo : Bool) : Except Error Bool × Session :=
  match s.draft.add line with
  | .blank => (.ok true, s)
  | .waiting draft => (.ok false, { s with draft })
  | .complete statement rest =>
    endStatement rest (s.run (Module.runStatement s.setting s.imports echo statement))

/-! ## 5. Looking -/

/-- The value of a name in the root frame. -/
def get? (s : Session) (name : String) : Option Value :=
  s.store.scopes.get? rootFrame name

/-- Every name of the root frame with its value, in increasing order of the names. -/
def bindings (s : Session) : List (String × Value) :=
  (s.store.scopes.visible rootFrame).entries

/-- The path of the file that a module's name refers to. -/
def resolve (s : Session) (name : String) : Except Error Path :=
  s.setting.resolve name

end Session

end ListScript
