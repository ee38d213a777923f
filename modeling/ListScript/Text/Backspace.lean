import ListScript.Text.Cluster

/-!
# Backspaces

A line that was typed may hold backspaces. They leave no trace of their own.

Rules:
* A backspace takes away the cluster that was typed last and not yet taken away. On a line with no
  such cluster it does nothing.
* It takes away as many bytes from the end of the line as the cluster has. That number is kept in
  one byte, so of a cluster of 256 bytes or more only the remainder modulo 256 goes.
-/

namespace ListScript

/-- The character that takes others away. -/
def backspace : Char := '\x08'

/-- The number of bytes of some characters. -/
def byteCount : List Char → Nat
  | [] => 0
  | c :: rest => c.utf8Size + byteCount rest

/-- A line that is being typed. -/
structure TypedLine where
  /-- The characters on the line, last first. -/
  chars : List Char
  /-- The sizes of the clusters that can be taken away, last first. -/
  sizes : List UInt8
deriving DecidableEq, Repr

namespace TypedLine

/-- What is left of characters, last first, without that many bytes at their end. A character that
loses any of its bytes is gone. -/
def dropBytes : Nat → List Char → List Char
  | 0, chars => chars
  | _ + 1, [] => []
  | count + 1, c :: rest => dropBytes (count + 1 - c.utf8Size) rest

/-- The line after a backspace. -/
def erase (line : TypedLine) : TypedLine :=
  match line.sizes with
  | [] => line
  | size :: sizes => ⟨dropBytes size.toNat line.chars, sizes⟩

/-- The line with a further cluster. -/
def append (line : TypedLine) (cluster : List Char) : TypedLine :=
  ⟨cluster.reverse ++ line.chars, (byteCount cluster).toUInt8 :: line.sizes⟩

/-- The line after a cluster was typed. -/
def press (line : TypedLine) (cluster : List Char) : TypedLine :=
  if cluster = [backspace] then line.erase else line.append cluster

end TypedLine

/-- What is left of a line after its backspaces. -/
def applyBackspaces (line : String) : String :=
  String.ofList ((clusters line.toList).foldl TypedLine.press ⟨[], []⟩).chars.reverse

example : applyBackspaces "\x08abc\x08\x08d" = "ad" := by decide +kernel

example : applyBackspaces "e\u0301\x08" = "" := by decide +kernel

/-- A cluster of 258 bytes loses its last mark. -/
example :
    (clusters ('é' :: List.replicate 128 '\u0301' ++ [backspace])).foldl TypedLine.press ⟨[], []⟩ =
      ⟨List.replicate 127 '\u0301' ++ ['é'], []⟩ := by
  decide +kernel

end ListScript
