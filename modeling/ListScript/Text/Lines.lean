/-!
# Lines

A line ends at a line feed. One carriage return just before the line feed belongs to the line's end
and not to the line. A text that ends with a line feed has no further, empty line after it.
-/

namespace ListScript

namespace Lines

/-- The line without one carriage return at its end. -/
def chomp (line : List Char) : List Char :=
  match line.getLast? with
  | some '\r' => line.dropLast
  | _ => line

/-- The lines of `chars`, where `line` holds the characters of the current line in reverse. Only a
line that a line feed ends loses its carriage return. -/
def split (line : List Char) : List Char → List (List Char)
  | [] => if line.isEmpty then [] else [line.reverse]
  | c :: rest =>
    if c = '\n' then chomp line.reverse :: split [] rest else split (c :: line) rest

end Lines

/-- The lines of a text, in order. -/
def lines (text : String) : List String :=
  (Lines.split [] text.toList).map String.ofList

example : Lines.split [] ['a', '\r', '\n', '\n', '\r'] = [['a'], [], ['\r']] := by decide

end ListScript
