import ListScript.Text.Blank

/-!
# Drafts

Source text arrives line by line, and a statement may take several lines. A draft is the text of
the statement that is not complete yet, together with what decides whether it is: the parentheses
that are open and whether a quoted section is.

Rules:
* Everything from the first semicolon on that no backslash escapes is a comment, also inside a
  quoted section.
* A line that is blank without its comment leaves the draft alone.
* A double quote opens a quoted section. Inside it a double quote closes it unless it is escaped,
  and parentheses do not count. Outside it a backslash means nothing.
* A statement is complete at the end of a line on which as many parentheses were closed as opened
  and no quoted section is open. Otherwise the next line follows after a space.
-/

namespace ListScript

/-- The characters before the comment, given whether the first one is escaped. -/
def dropComment (escaped : Bool) : List Char → List Char
  | [] => []
  | c :: rest =>
    if c = ';' && !escaped then [] else c :: dropComment (c = '\\' && !escaped) rest

/-- The code of a line: the line without its comment. -/
def codeOf (line : String) : List Char :=
  dropComment false line.toList

/-- The text of a statement so far, how many more parentheses it opened than closed, whether a
quoted section is open, and whether the next character in it is escaped. -/
structure Draft where
  text : String
  depth : Int
  quoted : Bool
  escaped : Bool
deriving DecidableEq, Repr

namespace Draft

/-- No statement was begun. -/
def empty : Draft := ⟨"", 0, false, false⟩

/-- Whether no statement was begun. -/
def isIdle (draft : Draft) : Bool :=
  draft.text.isEmpty

/-- The draft with one more character. -/
def push (draft : Draft) (c : Char) : Draft :=
  let text := draft.text.push c
  if draft.quoted then
    if draft.escaped then { draft with text, escaped := false }
    else if c = '\\' then { draft with text, escaped := true }
    else if c = '"' then { draft with text, quoted := false }
    else { draft with text }
  else if c = '"' then { draft with text, quoted := true }
  else if c = '(' then { draft with text, depth := draft.depth + 1 }
  else if c = ')' then { draft with text, depth := draft.depth - 1 }
  else { draft with text }

/-- The draft with some more characters. -/
def scan (draft : Draft) (code : List Char) : Draft :=
  code.foldl push draft

theorem scan_append {draft : Draft} {code more : List Char} :
    draft.scan (code ++ more) = (draft.scan code).scan more :=
  List.foldl_append

/-- Scanning keeps every character. -/
theorem toList_text_scan {draft : Draft} {code : List Char} :
    (draft.scan code).text.toList = draft.text.toList ++ code := by
  induction code generalizing draft with
  | nil => simp [scan]
  | cons c rest ih =>
    have first : (draft.push c).text = draft.text.push c := by
      unfold push
      grind
    rw [scan, List.foldl_cons, ← scan, ih, first]
    simp

/-- Whether the text is a complete statement. -/
def isComplete (draft : Draft) : Bool :=
  draft.depth == 0 && !draft.quoted

/-- What a line does to a draft. -/
inductive Progress where
  | blank
  | waiting (draft : Draft)
  | complete (statement : String) (rest : Draft)
deriving DecidableEq, Repr

/-- Adds a line to the draft. A complete statement leaves a draft without text. -/
def add (draft : Draft) (line : String) : Progress :=
  let code := codeOf line
  if code.all isBlank then .blank
  else
    let scanned := draft.scan code
    if scanned.isComplete then .complete scanned.text { scanned with text := "" }
    else .waiting { scanned with text := scanned.text.push ' ' }

end Draft

/-- Parentheses inside a quoted section do not count, and the quote after a backslash does not close
it. -/
example : ((Draft.empty.scan ['(', '"', '(', '\\', '"', ')']).depth,
    (Draft.empty.scan ['(', '"', '(', '\\', '"', ')']).quoted) = (1, true) := by decide +kernel

end ListScript
