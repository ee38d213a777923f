import ListScript.Console
import ListScript.Text.Backspace

/-!
# Typed lines

Where the command line runs, a user types the lines of a conversation, or a pipe delivers them. The
lines end as those of a file do, and the backspaces in a line take away what stands before them.
-/

namespace ListScript.Console

/-- The lines of what a user typed. -/
def typedLines : LineReader := fun input =>
  (lines input).map applyBackspaces

end ListScript.Console
