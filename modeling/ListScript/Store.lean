import ListScript.Files
import ListScript.Host
import ListScript.Sink

/-!
# Settings and stores

A setting is what an operation cannot change: limits, directories, files and the procedures of the
host. A store is what it can change: the frames, the modules that count as imported, the sink and
the journal of module evaluations. An action on a store gives a value or an error, and a store in
either case, so effects made before an error are kept.
-/

namespace ListScript

/-- What stays the same during an operation. -/
structure Setting where
  /-- Evaluations nest less deeply than this. -/
  depthLimit : Nat := 20000
  /-- Where modules are looked for, in order. -/
  includeDirs : List String := []
  files : FileTree := {}
  /-- The table that the host's native procedures refer to. -/
  procedures : Array HostProcedure := #[]
  /-- Whether the procedure `import` has an importer to ask. -/
  importing : Bool := true

/-- What happens to a module: its evaluation starts, and ends well or fails. -/
inductive ModulePhase where
  | started
  | finished
  | failed
deriving DecidableEq, Repr

/-- An entry of the journal: what happened to which module, and the modules that count as imported
from then on. -/
structure ModuleEvent where
  phase : ModulePhase
  path : Path
  imported : List Path
deriving DecidableEq, Repr

/-- What an operation can change. -/
structure Store where
  scopes : Scopes
  /-- The modules that count as imported, in the order of their paths. -/
  imported : List Path := []
  sink : Sink := {}
  /-- What happened to modules, the latest event first. -/
  journal : List ModuleEvent := []

/-- The frame that modules and statements are evaluated in. -/
def rootFrame : FrameId := 0

/-- An action that reads and changes a store and gives a value or an error. -/
abbrev Eval := EStateM Error Store

namespace Store

/-- A store whose only frame is an empty root. -/
def initial : Store :=
  { scopes := Scopes.empty.newRoot }

/-- Puts a path into its place among imported ones. -/
def insertPath (path : Path) : List Path → List Path
  | [] => [path]
  | other :: rest =>
    if path.before other then path :: other :: rest
    else if path == other then other :: rest
    else other :: insertPath path rest

/-- Whether a module counts as imported. -/
def isImported (store : Store) (path : Path) : Bool :=
  store.imported.contains path

/-- Enters in the journal what happened to a module and which modules count as imported now. Nothing
else changes what counts as imported. -/
def enter (store : Store) (phase : ModulePhase) (path : Path) (imported : List Path) : Store :=
  { store with imported, journal := ⟨phase, path, imported⟩ :: store.journal }

/-- A module counts as imported from the start of its evaluation. -/
def startModule (store : Store) (path : Path) : Store :=
  store.enter .started path (insertPath path store.imported)

/-- The evaluation of a module ended well. -/
def finishModule (store : Store) (path : Path) : Store :=
  store.enter .finished path store.imported

/-- The evaluation of a module failed, and it no longer counts as imported. -/
def failModule (store : Store) (path : Path) : Store :=
  store.enter .failed path (store.imported.filter fun other => other != path)

end Store

namespace Eval

/-- Gives the value or the error of a pure computation. -/
def ofExcept {α : Type} (outcome : Except Error α) : Eval α := fun store =>
  match outcome with
  | .ok a => .ok a store
  | .error e => .error e store

/-- The value of a name seen from a frame. -/
def lookup (scope : FrameId) (name : String) : Eval Value := fun store =>
  match store.scopes.get? scope name with
  | some v => .ok v store
  | none => .error (.unbound name) store

/-- Binds a name in a frame. -/
def define (scope : FrameId) (name : String) (v : Value) : Eval Unit := fun store =>
  .ok () { store with scopes := store.scopes.define scope name v }

/-- Gives a name a new value in the frame that owns it. -/
def assign (scope : FrameId) (name : String) (v : Value) : Eval Unit := fun store =>
  match store.scopes.owner? scope name with
  | some owner => define owner name v store
  | none => .error (.unbound name) store

/-- Makes a frame below another and gives its name. -/
def newFrame (parent : FrameId) (bindings : Bindings) : Eval FrameId := fun store =>
  .ok store.scopes.size { store with scopes := store.scopes.newFrame parent bindings }

/-- Writes a line to the sink. -/
def writeLine (line : String) : Eval Unit := fun store =>
  match store.sink.writeLine line with
  | (none, sink) => .ok () { store with sink }
  | (some e, sink) => .error e { store with sink }

/-! Actions in sequence hand the store on, and the first error ends them. -/

@[simp] theorem pure_apply {α : Type} (a : α) (store : Store) :
    (pure a : Eval α) store = .ok a store := rfl

@[simp] theorem throw_apply {α : Type} (e : Error) (store : Store) :
    (throw e : Eval α) store = .error e store := rfl

@[simp] theorem bind_apply {α β : Type} (act : Eval α) (next : α → Eval β) (store : Store) :
    (act >>= next) store =
      match act store with
      | .ok a store => next a store
      | .error e store => .error e store := by
  change EStateM.bind act next store = _
  unfold EStateM.bind
  cases act store <;> rfl

end Eval

/-- Does what a program of the host says, one step after another. -/
def HostProgram.act : HostProgram → Eval Value
  | .ok v => return v
  | .error e => throw e
  | .lookup scope name next => do
    let v ← Eval.lookup scope name
    (next v).act
  | .define scope name v next => do
    Eval.define scope name v
    next.act
  | .assign scope name v next => do
    Eval.assign scope name v
    next.act
  | .newFrame parent bindings next => do
    let made ← Eval.newFrame parent bindings
    (next made).act
  | .writeLine line next => do
    Eval.writeLine line
    next.act

end ListScript
