import ListScript.Draft
import ListScript.Evaluation
import ListScript.Reading
import ListScript.Text.Lines

/-!
# Modules

A module is a file of statements that are evaluated in the root frame. It is evaluated at most once:
while it runs and after it ended well, importing it again does nothing.

Rules:
* A name that leads to a regular file is that file. Otherwise it is looked for in the include
  directories in order, and the first regular file counts.
* A module counts as imported from before its first statement. If it fails, it no longer does, so it
  may be tried again.
* A module must not end inside a statement.
* Each open module is a file that counts as imported, so no more modules are open inside each other
  than there are files. The number of modules that may still be opened bounds the recursion.
-/

namespace ListScript

namespace Setting

/-- The names that a module may have, in the order in which they are tried. -/
def candidates (setting : Setting) (name : String) : List String :=
  name :: setting.includeDirs.map fun dir => FileTree.join dir name

/-- The path of the file that a module's name refers to. -/
def resolve (setting : Setting) (name : String) : Except Error Path :=
  match (setting.candidates name).findSome? setting.files.filePath? with
  | some path => .ok path
  | none => .error (.moduleNotFound name)

/-- A module's name refers to a file. -/
theorem mem_files_of_resolve {setting : Setting} {name : String} {path : Path}
    (resolved : setting.resolve name = .ok path) : path ∈ setting.files.files := by
  unfold resolve at resolved
  split at resolved
  · next found search =>
    cases resolved
    obtain ⟨candidate, -, leads⟩ := List.exists_of_findSome?_eq_some search
    unfold FileTree.filePath? at leads
    split at leads
    · next located =>
      cases leads
      exact FileTree.mem_files_of_entry? (FileTree.entry?_of_locate located)
    · cases leads
  · cases resolved

end Setting

namespace Module

/-- Evaluates all forms of a statement in the root frame. The statement is read as a whole before
its first form is evaluated. With `echo`, each value is written to the sink. -/
def runStatement (setting : Setting) (imports : Import) (echo : Bool) (statement : String) :
    Eval Unit := do
  let forms ← Eval.ofExcept (readAll statement)
  forms.forM fun form => do
    let v ← Evaluation.run setting imports rootFrame form
    if echo then Eval.writeLine v.render

/-- Adds a line to the draft of a module and evaluates the statement that it completes. -/
def feed (run : String → Eval Unit) (draft : Draft) (line : String) : Eval Draft :=
  match draft.add line with
  | .blank => return draft
  | .waiting draft => return draft
  | .complete statement rest => do
    run statement
    return rest

/-- Evaluates the statements of the module at a path. -/
def evaluate (setting : Setting) (imports : Import) (path : Path) : Eval Unit :=
  match setting.files.readPath path with
  | .error fault => throw (.unreadable path.toText fault.message)
  | .ok text => do
    let draft ← (lines text).foldlM (feed (runStatement setting imports false)) .empty
    if draft.isIdle then return () else throw (.malformed "module" (.unfinished path.toText))

/-- Evaluates the module at a path, which counts as imported unless that fails. -/
def start (setting : Setting) (imports : Import) (path : Path) : Eval Unit := fun store =>
  match evaluate setting imports path (store.startModule path) with
  | .ok () store => .ok () (store.finishModule path)
  | .error e store => .error e (store.failModule path)

/-- Evaluates the module at a path unless it counts as imported. -/
def once (setting : Setting) (imports : Import) (path : Path) : Eval Unit := fun store =>
  if store.isImported path then .ok () store else start setting imports path store

theorem once_of_imported {setting : Setting} {imports : Import} {path : Path} {store : Store}
    (imported : store.isImported path) : once setting imports path store = .ok () store :=
  if_pos imported

/-- A module that does not count as imported is started, and finished or failed by how its
evaluation ended. -/
theorem once_of_absent {setting : Setting} {imports : Import} {path : Path} {store : Store}
    (absent : ¬ store.isImported path) :
    once setting imports path store =
      match evaluate setting imports path (store.startModule path) with
      | .ok () mid => .ok () (mid.finishModule path)
      | .error e mid => .error e (mid.failModule path) :=
  if_neg absent

/-- Imports a module where at most `nesting` modules may still be opened inside each other. -/
def importWithin (setting : Setting) : Nat → Import
  | 0 => fun _ => throw .moduleNesting
  | nesting + 1 => fun name => do
    let path ← Eval.ofExcept (setting.resolve name)
    once setting (importWithin setting nesting) path

/-- More modules than files are never open, and one more import may be asked for inside the last. -/
def nestingBound (setting : Setting) : Nat :=
  setting.files.files.length + 1

/-- Imports the module of a name. -/
def importByName (setting : Setting) : Import :=
  importWithin setting (nestingBound setting)

end Module

end ListScript
