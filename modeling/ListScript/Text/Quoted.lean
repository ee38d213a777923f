import ListScript.Text.Hidden

/-!
# Quoted texts

Where a text is described rather than shown it stands between double quotes, and what would not be
seen is spelled out.

Rules:
* A backslash and a double quote get a backslash in front. A single quote stays.
* Zero, tab, line feed and carriage return have a letter of their own.
* Every other hidden character is `\u{…}` with its code point in lower-case hexadecimal.
-/

namespace ListScript

/-- The spelling of one character between double quotes. -/
def quoteChar (c : Char) : String :=
  match c with
  | '\\' => "\\\\"
  | '"' => "\\\""
  | '\x00' => "\\0"
  | '\t' => "\\t"
  | '\n' => "\\n"
  | '\r' => "\\r"
  | c =>
    if isHidden c then "\\u\x7b" ++ String.ofList (Nat.toDigits 16 c.toNat) ++ "\x7d"
    else String.singleton c

/-- A text between double quotes. -/
def quote (text : String) : String :=
  "\"" ++ String.join (text.toList.map quoteChar) ++ "\""

/-- Quoted texts between brackets. -/
def quoteList (texts : List String) : String :=
  "[" ++ ", ".intercalate (texts.map quote) ++ "]"

example : quote "a\"\n'" = "\"a\\\"\\n'\"" := by decide +kernel

example : quoteChar '\u0301' = "\\u\x7b301\x7d" := by decide +kernel

end ListScript
