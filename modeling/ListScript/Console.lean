import ListScript.Session

/-!
# The console

The command line runs scripts or, without any, talks with a user line by line. Its whole run is a
function of the arguments, the files and the input, where it is left open how the input falls into
lines. What it prints goes to the session's sink, and what it complains about are the session's
reports.

Rules for scripts:
* They run in order in one session. The first failure ends the run with status 1 and one report,
  and asking to exit ends it with the code asked for and none.
* A script that cannot be read and a script that ends inside a statement are failures.

Rules for a conversation:
* Each line is asked for with a prompt, which shows whether a statement is waiting for more.
* While none is, a line may be a command. Every other line is fed, and values are echoed.
* Only an exit, a command that quits or the end of the input ends it.
-/

namespace ListScript

namespace Session

/-- Prints a text as it is. -/
def say (s : Session) (text : String) : Session :=
  { s with store.sink := s.store.sink.put text }

/-- Prints some lines. -/
def sayLines (s : Session) (texts : List String) : Session :=
  texts.foldl (fun s text => s.say (text ++ "\n")) s

end Session

namespace Console

/-! ## 1. Scripts -/

/-- The code that an error ends a script run with. -/
def failureCode (e : Error) : Int :=
  e.exitCode?.getD 1

/-- Feeds lines until one fails, and gives the code of the failure. -/
def feedLines (s : Session) : List String → Option Int × Session
  | [] => (none, s)
  | line :: rest =>
    match s.feed line false with
    | (.ok _, s) => feedLines s rest
    | (.error e, s) => (some (failureCode e), s)

/-- Checks at the end of a script that no statement is waiting. -/
def endScript (s : Session) (script : String) : Option Int × Session :=
  if s.isIdle then (none, s)
  else
    let report : Report := ⟨.fatal, (Fault.unfinished script).reason⟩
    (some 1, { s with reports := s.reports ++ [report] })

/-- Runs one script, and gives the code of its failure. -/
def runScript (s : Session) (script : String) : Option Int × Session :=
  match s.setting.files.readText script with
  | .error fault => (some 1, s.report (.unreadable script fault.message))
  | .ok text =>
    match feedLines s (lines text) with
    | (some code, s) => (some code, s)
    | (none, s) => endScript s script

/-- Runs scripts in order until one fails. -/
def runScripts (s : Session) : List String → Int × Session
  | [] => (0, s)
  | script :: rest =>
    match runScript s script with
    | (some code, s) => (code, s)
    | (none, s) => runScripts s rest

/-! ## 2. Conversation -/

/-- The lines shown before the first prompt. -/
def banner : List String :=
  ["Polaris Lisp",
    "Enter expressions like: (+ 1 2)",
    "Type :help for more commands, or Ctrl+D to exit.",
    ""]

/-- The lines of the command for help. -/
def help : List String :=
  ["Commands:",
    "  :help      - Show this help message",
    "  :env       - Show current environment bindings",
    "  :quit      - Exit the interpreter",
    "  Ctrl+C     - Discard the statement being typed",
    "  Ctrl+D     - Exit the interpreter",
    "",
    "Special forms: quote if set! define lambda begin",
    "Procedures:    + - * / > < <= >= eq neq car cdr cons append list",
    "               length null? print ref import exit",
    "",
    "Examples:",
    "  (define twice (lambda (x) (* 2 x)))",
    "  (twice 5)",
    "  (import \"lib.pol\")",
    ""]

/-- The last line of a conversation that was not ended by an exit. -/
def farewell : List String := ["Goodbye!"]

/-- The number of names in a row. -/
def columns : Nat := 6

/-- A name in its column, at least ten characters wide. -/
def cell (name : String) : String :=
  "  " ++ name ++ "".pushn ' ' (10 - name.length)

/-- Names in rows, where `column` names already stand in the first row. -/
def rows (row : String) (column : Nat) : List String → List String
  | [] => if column = 0 then [] else [row]
  | name :: rest =>
    if column + 1 = columns then (row ++ cell name) :: rows "" 0 rest
    else rows (row ++ cell name) (column + 1) rest

/-- Whether a value is a native procedure. -/
def isNative : Value → Bool
  | .native _ _ => true
  | _ => false

/-- The lines that list some bindings: native procedures by name alone, then all other values. -/
def listing (bindings : List (String × Value)) : List String :=
  let natives := (bindings.filter fun entry => isNative entry.2).map Prod.fst
  let values := bindings.filter fun entry => !isNative entry.2
  [s!"Environment bindings ({bindings.length} total):", ""] ++
    (if natives.isEmpty then []
      else s!"Procedures ({natives.length}):" :: rows "" 0 natives ++ [""]) ++
    (if values.isEmpty then []
      else s!"Values ({values.length}):" ::
        values.map fun (name, v) => "  " ++ name ++ " = " ++ v.render)

/-- The lines that are not fed. -/
inductive Command where
  | help
  | environment
  | quit
deriving DecidableEq, Repr

/-- The command that a line is, if blanks around it are left out. -/
def command? (line : String) : Option Command :=
  let word := trimBlanks line
  if word = ":help" then some .help
  else if word = ":env" then some .environment
  else if word = ":quit" ∨ word = ":exit" then some .quit
  else none

/-- The prompt of a session that waits for more of a statement, and of one that does not. -/
def promptText (waiting : Bool) : String :=
  if waiting then "    ...> " else "polaris> "

/-- What a conversation does after a line: it goes on, with or without a waiting statement, or it
ends with a code. -/
inductive Turn where
  | goesOn (waiting : Bool)
  | ends (code : Int)
deriving DecidableEq, Repr

/-- What follows a line that was fed. An error other than an exit leaves nothing waiting. -/
def turnAfter : Except Error Bool → Turn
  | .ok complete => .goesOn !complete
  | .error e =>
    match e.exitCode? with
    | some code => .ends code
    | none => .goesOn false

/-- The command that a line is to a session. While a statement is waiting it is none. -/
def commandFor? (s : Session) (line : String) : Option Command :=
  if s.isIdle then command? line else none

/-- Answers a command. The prompt stays as it was. -/
def answerCommand (s : Session) (waiting : Bool) : Command → Turn × Session
  | .help => (.goesOn waiting, s.sayLines help)
  | .environment => (.goesOn waiting, s.sayLines (listing s.bindings))
  | .quit => (.ends 0, s.sayLines farewell)

/-- Answers a line. -/
def answer (s : Session) (waiting : Bool) (line : String) : Turn × Session :=
  match commandFor? s line with
  | some command => answerCommand s waiting command
  | none =>
    let (outcome, s) := s.feed line true
    (turnAfter outcome, s)

/-- Talks until the conversation ends, and gives its code. -/
def converse (s : Session) (waiting : Bool) : List String → Int × Session
  | [] => (0, (s.say (promptText waiting)).sayLines farewell)
  | line :: rest =>
    match answer (s.say (promptText waiting)) waiting line with
    | (.goesOn waiting, s) => converse s waiting rest
    | (.ends code, s) => (code, s)

/-! ## 3. The command line -/

/-- What the arguments ask for. -/
structure Invocation where
  includeDirs : List String
  scripts : List String
deriving DecidableEq, Repr

/-- Reads the arguments. `-I` is followed by an include directory, and nothing is asked for if it is
not. Every other argument is a script. -/
def Invocation.ofArguments? : List String → Option Invocation
  | [] => some ⟨[], []⟩
  | "-I" :: dir :: rest => do
    let others ← ofArguments? rest
    return { others with includeDirs := dir :: others.includeDirs }
  | ["-I"] => none
  | script :: rest => do
    let others ← ofArguments? rest
    return { others with scripts := script :: others.scripts }

/-- Everything that can be seen of a run. -/
structure Transcript where
  output : String
  errors : String
  status : Nat
deriving DecidableEq, Repr

/-- The status of a code, which the system keeps in eight bits. -/
def statusOf (code : Int) : Nat :=
  (code % 256).toNat

/-- The line of a report. -/
def reportLine (report : Report) : String :=
  "[" ++ report.severity.name ++ "] " ++ report.message ++ "\n"

/-- What is seen of a run that ended with a code. -/
def transcript (code : Int) (s : Session) : Transcript :=
  ⟨s.store.sink.text, String.join (s.reports.map reportLine), statusOf code⟩

/-- How the input of a conversation falls into the lines that are answered. -/
abbrev LineReader := String → List String

/-- Runs what the arguments ask for. -/
def execute (reader : LineReader) (files : FileTree) (arguments : List String) (input : String) :
    Transcript :=
  match Invocation.ofArguments? arguments with
  | none => ⟨"", "-I needs a directory\n", 2⟩
  | some invocation =>
    let s := Session.new { includeDirs := invocation.includeDirs, files }
    let (code, s) :=
      if invocation.scripts.isEmpty then converse (s.sayLines banner) false (reader input)
      else runScripts s invocation.scripts
    transcript code s

end Console

end ListScript
