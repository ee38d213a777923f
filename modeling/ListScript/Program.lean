import ListScript.Console

/-!
# The program

The command line as it runs. It goes through scripts line by line, or talks turn by turn, and shows
what a line printed and reported before it goes on to the next. Where it runs is left open: in any
monad that can feed a line, deliver a typed one and show something.

Rules:
* What was shown is forgotten, so the session holds only what was printed and reported since.
* A script is looked up when its turn comes, and not before.
-/

namespace ListScript

/-- The session once all that it printed and reported was shown. -/
def Session.afresh (s : Session) : Session :=
  { s with store.sink.text := "", reports := [] }

namespace Program

/-- What the program relies on where it runs. -/
structure Surroundings (m : Type → Type) where
  /-- The session that knows the file of a script, if there is one. -/
  learn : Session → String → m Session
  /-- Feeds a line, with or without echo. -/
  feed : Session → String → Bool → m (Except Error Bool × Session)
  /-- The next line that was typed. There is none at the end of the input. -/
  nextLine : m (Option String)
  /-- Shows a text and some reports. -/
  display : String → List Report → m Unit

section

variable {m : Type → Type} [Monad m] (around : Surroundings m)

/-- Shows what a session printed and reported. -/
def flush (s : Session) : m Session := do
  around.display s.store.sink.text s.reports
  return s.afresh

/-! ## 1. Scripts -/

/-- Feeds lines until one fails, and gives the code of the failure. -/
def feedLines (s : Session) : List String → m (Option Int × Session)
  | [] => return (none, s)
  | line :: rest => do
    let (outcome, s) ← around.feed s line false
    let s ← flush around s
    match outcome with
    | .ok _ => feedLines s rest
    | .error e => return (some (Console.failureCode e), s)

/-- Runs one script, and gives the code of its failure. -/
def runScript (s : Session) (script : String) : m (Option Int × Session) := do
  let s ← around.learn s script
  let (failure, s) ← match s.setting.files.readText script with
    | .error _ => pure (Console.runScript s script)
    | .ok text => do
      let (failure, s) ← feedLines around s (lines text)
      match failure with
      | some code => pure (some code, s)
      | none => pure (Console.endScript s script)
  return (failure, ← flush around s)

/-- Runs scripts in order until one fails, and gives the code. -/
def runScripts (s : Session) : List String → m Int
  | [] => return 0
  | script :: rest => do
    let (failure, s) ← runScript around s script
    match failure with
    | some code => return code
    | none => runScripts s rest

/-! ## 2. Conversation -/

/-- Answers a line. -/
def answer (s : Session) (waiting : Bool) (line : String) : m (Console.Turn × Session) :=
  match Console.commandFor? s line with
  | some command => return Console.answerCommand s waiting command
  | none => do
    let (outcome, s) ← around.feed s line true
    return (Console.turnAfter outcome, s)

/-- Asks for a line and answers it. The end of the input ends the conversation. -/
def turn (s : Session) (waiting : Bool) : m (Console.Turn × Session) := do
  let s ← flush around (s.say (Console.promptText waiting))
  let (next, s) ← match ← around.nextLine with
    | none => pure (.ends 0, s.sayLines Console.farewell)
    | some line => answer around s waiting line
  return (next, ← flush around s)

/-- Takes some turns, unless one of them ends the conversation with a code. -/
def turns (s : Session) (waiting : Bool) : Nat → m (Option Int)
  | 0 => return none
  | count + 1 => do
    match ← turn around s waiting with
    | (.goesOn waiting, s) => turns s waiting count
    | (.ends code, _) => return some code

end

end Program

end ListScript
