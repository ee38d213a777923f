import ListScript.Program
import ListScript.Terminal

/-!
# The command line

The program on a real file system. A line is run on the files that are known. If it ends because a
module was not found, the module's candidates are looked for on disk, and the line is run again from
the same session. An error ends a line for good, so nothing of the first attempt is lost or done
twice.
-/

namespace ListScript.Program

/-- What stands on disk under a name. A file that cannot be opened stands for nothing. -/
def fetch (name : String) : IO (Option Entry) := do
  try
    let bytes ← IO.FS.readBinFile name
    return some (.file (String.fromUTF8? bytes))
  catch e =>
    match e with
    | .inappropriateType _ _ _ => return some .directory
    | _ => return none

/-- The session with those files among some names that exist. -/
def learn (s : Session) (names : List String) : IO Session :=
  names.foldlM (fun s name => do
    match ← fetch name with
    | some entry => return { s with setting.files := s.setting.files.write name entry }
    | none => return s) s

/-- Runs an operation until every module that it misses was looked for. -/
partial def settle {α : Type} (tried : List String) (s : Session)
    (operation : Session → Except Error α × Session) : IO (Except Error α × Session) := do
  match operation s with
  | (.error (.moduleNotFound name), after) =>
    if tried.contains name then return (.error (.moduleNotFound name), after)
    else
      let s ← learn s (s.setting.candidates name)
      settle (name :: tried) s operation
  | outcome => return outcome

/-- The next line of the standard input. -/
def readLine : IO (Option String) := do
  return (Console.typedLines (← (← IO.getStdin).getLine)).head?

/-- Writes a text to the standard output, and reports to the standard error. -/
def write (text : String) (reports : List Report) : IO Unit := do
  IO.print text
  (← IO.getStdout).flush
  IO.eprint (String.join (reports.map Console.reportLine))

/-- The program among files, with what is typed at a terminal. -/
def terminal : Surroundings IO where
  learn s script := learn s [script]
  feed s line echo := settle [] s fun s => s.feed line echo
  nextLine := readLine
  display := write

/-- Talks until the conversation ends, and gives the code. -/
partial def converse (s : Session) (waiting : Bool) : IO Int := do
  match ← turn terminal s waiting with
  | (.goesOn waiting, s) => converse s waiting
  | (.ends code, _) => return code

end ListScript.Program

open ListScript in
/-- Runs what the arguments ask for and returns its status. -/
def main (arguments : List String) : IO UInt32 := do
  match Console.Invocation.ofArguments? arguments with
  | none =>
    let refused := Console.execute Console.typedLines {} arguments ""
    IO.eprint refused.errors
    return refused.status.toUInt32
  | some invocation =>
    let workingDirectory := FileTree.steps (toString (← IO.currentDir))
    let s := Session.new { includeDirs := invocation.includeDirs, files := { workingDirectory } }
    let code ←
      if invocation.scripts.isEmpty then Program.converse (s.sayLines Console.banner) false
      else Program.runScripts Program.terminal s invocation.scripts
    return (Console.statusOf code).toUInt32
