import ListScript.Error

/-!
# The sink

Everything a session prints goes to one sink, line by line. The writer behind it is the host's, and
may refuse a line, all of it or after some characters. A line counts as written once the writer has
taken it whole.
-/

namespace ListScript

/-- What a writer does with a line and its end. -/
inductive Reply where
  | taken
  /-- Some characters are taken, and then the writer gives a reason why it does not go on. -/
  | refused (count : Nat) (reason : String)

/-- A writer goes by the lines that it was handed before, the latest first. -/
abbrev Writer := List String → String → Reply

/-- The text taken so far, the lines that the writer was handed, the latest first, and the
writer. -/
structure Sink where
  text : String := ""
  handed : List String := []
  writer : Writer := fun _ _ => .taken

namespace Sink

/-- The path under which a failing sink is reported. -/
def path : String := "<output>"

/-- The sink with some more text. -/
def put (sink : Sink) (text : String) : Sink :=
  { sink with text := sink.text ++ text }

/-- The sink whose writer was handed one more line. -/
def hand (sink : Sink) (line : String) : Sink :=
  { sink with handed := line :: sink.handed }

/-- Writes one line, and gives the error if the writer refuses. -/
def writeLine (sink : Sink) (line : String) : Option Error × Sink :=
  let ended := line ++ "\n"
  match sink.writer sink.handed line with
  | .taken => (none, (sink.hand line).put ended)
  | .refused count reason =>
    let part := String.ofList (ended.toList.take count)
    (some (.unreadable path reason), (sink.hand line).put part)

end Sink

end ListScript
