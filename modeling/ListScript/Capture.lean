import ListScript.Text.Lines

/-!
# Captured bytes

A capture is the memory behind a sink. It keeps bytes, because others may write to it as well, and
gives them back as text.

Rules for the text:
* Well-formed UTF-8 is decoded. The encoding of a surrogate, of a number past `10FFFF` or with
  more bytes than needed is not well formed.
* A sequence that breaks off, because the text ends or because the next byte cannot follow, is
  replaced by one `U+FFFD`, and so is a byte that cannot start a sequence. The byte that broke it
  off is then read anew.
-/

namespace ListScript

/-- A character that is being decoded: its value so far, how many bytes are to come, and the range
of the next one. -/
structure OpenSequence where
  value : Nat
  left : Nat
  low : Nat
  high : Nat
deriving DecidableEq, Repr

/-- What a byte means where a character may start. -/
inductive LeadByte where
  | char (c : Char)
  | opens (sequence : OpenSequence)
  | invalid
deriving DecidableEq, Repr

/-- The stand-in for what is not well formed. -/
def replacement : Char := '\uFFFD'

/-- The meaning of a byte at the start of a character. The range of the second byte keeps out
surrogates, numbers past the last character and needlessly long encodings. -/
def leadByte (b : Nat) : LeadByte :=
  if b < 0x80 then .char (Char.ofNat b)
  else if b < 0xC2 then .invalid
  else if b < 0xE0 then .opens ⟨b % 0x20, 1, 0x80, 0xBF⟩
  else if b < 0xF0 then
    .opens ⟨b % 0x10, 2, if b = 0xE0 then 0xA0 else 0x80, if b = 0xED then 0x9F else 0xBF⟩
  else if b < 0xF5 then
    .opens ⟨b % 0x08, 3, if b = 0xF0 then 0x90 else 0x80, if b = 0xF4 then 0x8F else 0xBF⟩
  else .invalid

/-- The text of some bytes, given the character that is being decoded, if any. -/
def decodeBytes : Option OpenSequence → List UInt8 → List Char
  | none, [] => []
  | some _, [] => [replacement]
  | none, b :: rest =>
    match leadByte b.toNat with
    | .char c => c :: decodeBytes none rest
    | .opens sequence => decodeBytes (some sequence) rest
    | .invalid => replacement :: decodeBytes none rest
  | some sequence, b :: rest =>
    if sequence.low ≤ b.toNat ∧ b.toNat ≤ sequence.high then
      let value := sequence.value * 0x40 + b.toNat % 0x40
      if sequence.left = 1 then Char.ofNat value :: decodeBytes none rest
      else decodeBytes (some ⟨value, sequence.left - 1, 0x80, 0xBF⟩) rest
    else
      replacement ::
        match leadByte b.toNat with
        | .char c => c :: decodeBytes none rest
        | .opens sequence => decodeBytes (some sequence) rest
        | .invalid => replacement :: decodeBytes none rest

/-- The bytes that were written so far. -/
structure Capture where
  bytes : List UInt8 := []
deriving DecidableEq, Repr

namespace Capture

/-- Adds bytes as they are. -/
def write (capture : Capture) (bytes : List UInt8) : Capture :=
  ⟨capture.bytes ++ bytes⟩

/-- Adds a line and its line feed. -/
def writeLine (capture : Capture) (line : String) : Capture :=
  capture.write (line ++ "\n").toUTF8.toList

/-- The bytes as a text. -/
def contents (capture : Capture) : String :=
  String.ofList (decodeBytes none capture.bytes)

end Capture

/-- A broken sequence is one stand-in, and the byte that broke it is read anew. -/
example : decodeBytes none [0xE2, 0x82, 0x41, 0xFF] = [replacement, 'A', replacement] := by
  decide +kernel

example : decodeBytes none [0xE2, 0x82, 0xAC] = ['€'] := by decide +kernel

end ListScript
