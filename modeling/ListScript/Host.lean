import ListScript.Error
import ListScript.Scope

/-!
# Procedures of the host

A host supplies procedures of its own. Such a procedure sees its arguments, and may act on the
session it is called in: it looks names up, binds and assigns them, makes frames, and writes to the
sink. What it does is a program, in which each step may depend on what the earlier ones found.

Rules:
* The first step that fails ends the program with its error.
* A program evaluates nothing and imports nothing, and of the session it learns what its steps find
  and nothing else. Limits, directories and files are not among that.
* What a procedure remembers from one call to the next it keeps in a frame.
-/

namespace ListScript

/-- What a procedure of the host does, step by step. -/
inductive HostProgram where
  /-- The program is over and gives a value. -/
  | ok (v : Value)
  /-- The program gives up. -/
  | error (e : Error)
  | lookup (scope : FrameId) (name : String) (next : Value → HostProgram)
  | define (scope : FrameId) (name : String) (v : Value) (next : HostProgram)
  | assign (scope : FrameId) (name : String) (v : Value) (next : HostProgram)
  | newFrame (parent : FrameId) (bindings : Bindings) (next : FrameId → HostProgram)
  | writeLine (line : String) (next : HostProgram)

/-- A procedure that the host supplies. -/
abbrev HostProcedure := List Value → HostProgram

end ListScript
