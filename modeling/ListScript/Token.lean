import ListScript.Text.Blank

/-!
# Tokens

A text is a sequence of parentheses and words. A parenthesis is a token of its own. A word runs up
to the next blank or parenthesis that stands outside a quoted section of that word.

Rules:
* A double quote opens or closes a quoted section unless it is escaped.
* A character is escaped when the one before it in the same word is a backslash that is not itself
  escaped. A new word starts with nothing escaped.
* A word that the text ends keeps what it has, even inside a quoted section.
-/

namespace ListScript

/-- A parenthesis or a word. -/
inductive Token where
  | opening
  | closing
  | word (text : String)
deriving DecidableEq, Repr

namespace Token

/-- The text of a token. -/
def text : Token → String
  | .opening => "("
  | .closing => ")"
  | .word text => text

/-- The token that a text stands for on its own. -/
def ofText (text : String) : Token :=
  if text = "(" then .opening else if text = ")" then .closing else .word text

end Token

/-- A character ends a word when it is a blank or a parenthesis. -/
def endsWord (c : Char) : Bool :=
  c == '(' || c == ')' || isBlank c

/-- A word that is being read: its text so far, whether a quoted section is open, and whether the
next character is escaped. -/
structure OpenWord where
  text : String
  quoted : Bool
  escaped : Bool
deriving DecidableEq, Repr

namespace OpenWord

/-- Nothing read yet. -/
def empty : OpenWord := ⟨"", false, false⟩

/-- The word with one more character. -/
def push (w : OpenWord) (c : Char) : OpenWord :=
  ⟨w.text.push c, if c = '"' && !w.escaped then !w.quoted else w.quoted, c = '\\' && !w.escaped⟩

end OpenWord

/-- The tokens of the rest of a text, given the word that is being read, if any. -/
def scanTokens : Option OpenWord → List Char → List Token
  | none, [] => []
  | some w, [] => [.word w.text]
  | none, c :: rest =>
    if c = '(' then .opening :: scanTokens none rest
    else if c = ')' then .closing :: scanTokens none rest
    else if isBlank c then scanTokens none rest
    else scanTokens (some (OpenWord.empty.push c)) rest
  | some w, c :: rest =>
    if w.quoted || !endsWord c then scanTokens (some (w.push c)) rest
    else if c = '(' then .word w.text :: .opening :: scanTokens none rest
    else if c = ')' then .word w.text :: .closing :: scanTokens none rest
    else .word w.text :: scanTokens none rest

/-- The tokens of a text, in order. -/
def tokenize (text : String) : List Token :=
  scanTokens none text.toList

example : scanTokens none ['(', 'a', ')', '"', '(', '"', 'b'] =
    [.opening, .word "a", .closing, .word "\"(\"b"] := by decide +kernel

end ListScript
