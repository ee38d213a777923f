import ListScript.Decimal.Digits

/-!
# Errors

An error is the cause of a failed operation, and its wording is computed from the cause. Asking to
exit is passed on in the same way as an error and is never a failure of its own.
-/

namespace ListScript

/-- What is wrong with the shape of a form, of an argument list or of a module. -/
inductive Fault where
  /-- More lists inside each other than the reader allows. -/
  | tooDeep (limit : Nat)
  | endOfInput
  | missingClose
  | strayClose
  | missingExpression
  | missingBranch
  | targetNotSymbol
  | nameNotSymbol
  | notNameAndValue
  | notParametersAndBody
  | parametersNotList
  | parameterNotSymbol (shown : String)
  | tooFewArguments (expected given : Nat)
  | emptyList
  | noModule
  | noImporter
  | unfinished (path : String)
  /-- A host procedure gives its own reason. -/
  | other (reason : String)
deriving DecidableEq, Repr

/-- The wording of a fault. -/
def Fault.reason : Fault → String
  | .tooDeep limit => s!"too deeply nested (max depth: {limit})"
  | .endOfInput => "unexpected end of input"
  | .missingClose => "missing ')'"
  | .strayClose => "unexpected ')'"
  | .missingExpression => "missing expression"
  | .missingBranch => "expected a test and a then branch"
  | .targetNotSymbol => "target must be a symbol"
  | .nameNotSymbol => "name must be a symbol"
  | .notNameAndValue => "expected a name and a value"
  | .notParametersAndBody => "expected a parameter list and a single body"
  | .parametersNotList => "parameters must be a list"
  | .parameterNotSymbol shown => s!"parameter {shown} is not a symbol"
  | .tooFewArguments expected given => s!"expected at least {expected} argument(s), got {given}"
  | .emptyList => "car of empty list"
  | .noModule => "no module given"
  | .noImporter => "importer is no longer available"
  | .unfinished path => s!"{path} ends inside an unfinished statement"
  | .other reason => reason

/-- The causes for which an operation ends without a value. -/
inductive Error where
  | unbound (name : String)
  | notCallable (shown : String)
  /-- The operand of a numeric procedure is no number. -/
  | notNumber (op shown : String)
  /-- The argument of `exit` does not start with a 32-bit integer. -/
  | notExitCode (shown : String)
  /-- The digits of an operand leave the range of an integer. -/
  | operandRange (op text : String)
  /-- The result of a procedure does not fit an integer. -/
  | resultRange (op shown : String)
  | divisionByZero (op : String)
  | overflow (op : String)
  /-- A procedure of the host cannot read a number, and says so in its own words. -/
  | conversion (reason : String)
  /-- A procedure of the host leaves the range of a number, and says so in its own words. -/
  | range (reason : String)
  | moduleNotFound (name : String)
  | malformed (form : String) (fault : Fault)
  | depthLimit (limit : Nat)
  /-- Modules are open inside each other more deeply than there are files. -/
  | moduleNesting
  | unreadable (path message : String)
  | exit (code : Int)
deriving DecidableEq, Repr

/-- How an error is reported: a fault of the program, or a failure of the files or the output, which
may go away. -/
inductive Severity where
  | fatal
  | failure
deriving DecidableEq, Repr

/-- The word of a severity. -/
def Severity.name : Severity → String
  | .fatal => "fatal"
  | .failure => "failure"

namespace Error

/-- The wording of an error. -/
def message : Error → String
  | .unbound name => s!"Unbound symbol: [{name}]"
  | .notCallable shown => s!"Not a function: {shown}"
  | .notNumber op shown =>
    s!"invalid argument for numerical conversion: {op} cannot read '{shown}' as a number"
  | .notExitCode shown =>
    s!"invalid argument for numerical conversion: exit: failed to cast return code '{shown}'"
  | .operandRange op text => s!"out of range: {op}: '{text}' does not fit an integer"
  | .resultRange op shown => s!"out of range: {op}: {shown} does not fit an integer"
  | .divisionByZero op => s!"out of range: division by zero in {op}"
  | .overflow op => s!"out of range: integer overflow in {op}"
  | .conversion reason => s!"invalid argument for numerical conversion: {reason}"
  | .range reason => s!"out of range: {reason}"
  | .moduleNotFound name => s!"File not found: {name}"
  | .malformed form fault => s!"Malformed {form}: {fault.reason}"
  | .depthLimit limit => s!"Evaluation depth limit exceeded (max: {limit})"
  | .moduleNesting => "Modules are nested more deeply than there are files"
  | .unreadable path message => s!"Unable to read {path}: {message}"
  | .exit code => "exit requested with code " ++ integerText code

/-- Only what cannot be read or written is a failure. -/
def severity : Error → Severity
  | .unreadable _ _ => .failure
  | _ => .fatal

/-- The code that an exit asks for. -/
def exitCode? : Error → Option Int
  | .exit code => some code
  | _ => none

end Error

/-- Two computations in sequence give a value only if both do. -/
theorem exists_of_bind_eq_ok {α β : Type} {first : Except Error α} {next : α → Except Error β}
    {b : β} (h : first >>= next = .ok b) : ∃ a, first = .ok a ∧ next a = .ok b := by
  cases first with
  | ok a => exact ⟨a, rfl, h⟩
  | error e => cases h

end ListScript
