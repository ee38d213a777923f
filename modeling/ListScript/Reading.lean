import ListScript.Decimal.Numeral
import ListScript.Error
import ListScript.Token
import ListScript.Value

/-!
# Reading

Tokens become values. A word becomes an atom by its spelling alone, and parentheses become lists.

Rules for a word:
* `[+-]?digits*(.digits+)?` with at least one digit is a number: a double when it has a point and
  an integer otherwise.
* A word of two or more characters that starts and ends with a double quote is a string. Inside
  it, a backslash before a double quote or a backslash is dropped.
* Every other word is a symbol. The atom of a number or a symbol keeps the word as its text.

Rules for tokens:
* The reader keeps the lists that are open, the innermost first. A value goes into the innermost
  list or, where none is open, is the result.
* At most 255 lists may be open when a further value starts. The closing parenthesis of an open
  list is always taken.
* Tokens that were taken stay taken when the reading fails.
-/

namespace ListScript

/-! ## Words -/

namespace Word

/-- Whether a word is spelled like a number. A point needs a digit after it but none before it. -/
def isNumeral (chars : List Char) : Bool :=
  let body := (takeSign chars).2
  match body.dropWhile Char.isDigit with
  | [] => !body.isEmpty
  | '.' :: digits => !digits.isEmpty && digits.all Char.isDigit
  | _ => false

/-- The content of a string literal: a backslash that escapes a double quote or a backslash is
dropped, and every other character stays. -/
def unescape : List Char → List Char
  | '\\' :: '"' :: rest => '"' :: unescape rest
  | '\\' :: '\\' :: rest => '\\' :: unescape rest
  | c :: rest => c :: unescape rest
  | [] => []

/-- The characters between two double quotes that start and end a word. -/
def quotedBody? : List Char → Option (List Char)
  | '"' :: c :: rest =>
    if (c :: rest).getLast? = some '"' then some (c :: rest).dropLast else none
  | _ => none

end Word

/-- The atom that a word is spelled as. -/
def classify (word : String) : Value :=
  let chars := word.toList
  if Word.isNumeral chars then
    if chars.contains '.' then .double word else .integer word
  else
    match Word.quotedBody? chars with
    | some body => .string (String.ofList (Word.unescape body))
    | none => .symbol word

/-! ## Lists -/

/-- No value may start inside this many open lists. -/
def nestingLimit : Nat := 256

/-- Reads one value, where `opened` holds the children so far of each open list in reverse, the
innermost list first. The tokens that were not taken come with the outcome. -/
def readOpen : List (List Value) → List Token → Except Error Value × List Token
  | [], [] => (.error (.malformed "expression" .endOfInput), [])
  | _ :: _, [] => (.error (.malformed "list" .missingClose), [])
  | [], .closing :: rest => (.error (.malformed "expression" .strayClose), rest)
  | [items], .closing :: rest => (.ok (.list items.reverse), rest)
  | items :: outer :: opened, .closing :: rest =>
    readOpen ((.list items.reverse :: outer) :: opened) rest
  | opened, .opening :: rest =>
    if nestingLimit ≤ opened.length then
      (.error (.malformed "expression" (.tooDeep nestingLimit)), .opening :: rest)
    else readOpen ([] :: opened) rest
  | [], .word text :: rest => (.ok (classify text), rest)
  | items :: opened, .word text :: rest =>
    if nestingLimit ≤ opened.length + 1 then
      (.error (.malformed "expression" (.tooDeep nestingLimit)), .word text :: rest)
    else readOpen ((classify text :: items) :: opened) rest

/-- Reads the value at the front of some tokens. -/
def parse (tokens : List Token) : Except Error Value × List Token :=
  readOpen [] tokens

/-- A value takes at least one token. -/
theorem readOpen_length {opened : List (List Value)} {tokens rest : List Token} {v : Value}
    (h : readOpen opened tokens = (.ok v, rest)) : rest.length < tokens.length := by
  fun_induction readOpen opened tokens <;> simp_all <;> omega

/-- Reads the values of some tokens until none is left. -/
def parseAll (tokens : List Token) : Except Error (List Value) :=
  match tokens with
  | [] => .ok []
  | token :: following =>
    match _taken : parse (token :: following) with
    | (.error e, _) => .error e
    | (.ok v, rest) => do return v :: (← parseAll rest)
termination_by tokens.length
decreasing_by exact readOpen_length _taken

/-- Reads the first value of a text. What follows it is not looked at. -/
def read (text : String) : Except Error Value :=
  (parse (tokenize text)).1

/-- Reads all values of a text. -/
def readAll (text : String) : Except Error (List Value) :=
  parseAll (tokenize text)

end ListScript
