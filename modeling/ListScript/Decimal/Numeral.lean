import ListScript.Decimal.Binary64

/-!
# Numerals

Numbers are kept as texts and read where a procedure needs them. There are three readings.

* An integer is an optional sign and one or more digits. Its value has to fit 64 bits with sign.
  The digits are taken from the left, and the first digit past the range ends the reading,
  whatever follows it.
* A decimal is an optional sign, digits with at most one point among or around them, and an
  optional exponent, or one of the words `inf`, `infinity` and `nan` in any case. It becomes the
  nearest double.
* A leading integer is an optional sign and the digits up to the first other character. Its value
  has to fit 32 bits with sign.
-/

namespace ListScript

/-- The value of a decimal digit. Only the ten ASCII digits count. -/
def digitValue? (c : Char) : Option Nat :=
  if c.isDigit then some (c.toNat - '0'.toNat) else none

/-- Whether `n` is a signed number of `bits + 1` bits. -/
def fitsSigned (bits : Nat) (n : Int) : Bool :=
  -(Nat.pow 2 bits : Int) ≤ n ∧ n < Nat.pow 2 bits

/-- Whether `n` is an integer of the language. -/
def fitsInteger (n : Int) : Bool := fitsSigned 63 n

/-- The sign in front of a numeral, and the rest. -/
def takeSign : List Char → Bool × List Char
  | '-' :: rest => (true, rest)
  | '+' :: rest => (false, rest)
  | rest => (false, rest)

/-- The number after one more digit, which moves it away from zero. -/
def appendDigit (negative : Bool) (n : Int) (digit : Nat) : Int :=
  if negative then n * 10 - digit else n * 10 + digit

/-- What an integer reading finds. -/
inductive IntegerReading where
  | value (n : Int)
  | outOfRange
  | notInteger
deriving DecidableEq, Repr

namespace IntegerReading

/-- Reads the digits after those of `n`. -/
def digits (negative : Bool) (n : Int) : List Char → IntegerReading
  | [] => .value n
  | c :: rest =>
    match digitValue? c with
    | none => .notInteger
    | some digit =>
      let next := appendDigit negative n digit
      if fitsInteger next then digits negative next rest else .outOfRange

end IntegerReading

/-- Reads a text as an integer. -/
def readInteger (text : String) : IntegerReading :=
  match takeSign text.toList with
  | (_, []) => .notInteger
  | (negative, body) => IntegerReading.digits negative 0 body

/-- Reads the digits after those of `n` up to the first other character, in 32 bits. -/
def leadingDigits (negative : Bool) (n : Int) : List Char → Option Int
  | [] => some n
  | c :: rest =>
    match digitValue? c with
    | none => some n
    | some digit =>
      let next := appendDigit negative n digit
      if fitsSigned 31 next then leadingDigits negative next rest else none

/-- Reads the integer at the front of a text. It is missing when no digit is there or when the
number does not fit 32 bits. -/
def readLeadingInteger (text : String) : Option Int :=
  match takeSign text.toList with
  | (_, []) => none
  | (negative, c :: rest) =>
    if (digitValue? c).isSome then leadingDigits negative 0 (c :: rest) else none

/-- The digits at the front, as the number they append to `n` and their count, and the rest. -/
def takeDigits (n count : Nat) : List Char → Nat × Nat × List Char
  | [] => (n, count, [])
  | c :: rest =>
    match digitValue? c with
    | none => (n, count, c :: rest)
    | some digit => takeDigits (10 * n + digit) (count + 1) rest

/-- A decimal numeral: `digits * 10 ^ power`, with the count of its digits. -/
structure Decimal where
  digits : Nat
  count : Nat
  power : Int
deriving DecidableEq, Repr

namespace Decimal

/-- The exponent at the end of a numeral: nothing, or `e`, an optional sign and digits. -/
def exponent? : List Char → Option Int
  | [] => some 0
  | c :: rest =>
    if c = 'e' ∨ c = 'E' then
      let (negative, body) := takeSign rest
      match takeDigits 0 0 body with
      | (_, 0, _) => none
      | (n, _, []) => some (if negative then -(n : Int) else n)
      | _ => none
    else none

/-- An unsigned numeral: digits, an optional point, digits and an optional exponent, with at least
one digit outside the exponent. -/
def read? (chars : List Char) : Option Decimal :=
  let (whole, wholeCount, afterWhole) := takeDigits 0 0 chars
  let (digits, count, afterDigits) :=
    match afterWhole with
    | '.' :: rest => takeDigits whole wholeCount rest
    | rest => (whole, wholeCount, rest)
  if count = 0 then none
  else (exponent? afterDigits).map fun power => ⟨digits, count, power - (count - wholeCount : Nat)⟩

/-- The double nearest to a numeral. One below `10 ^ (-400)` is zero and one of `10 ^ 400` or more
is infinite, so that a long exponent costs no more than a short one. -/
def toFloat (negative : Bool) (d : Decimal) : Float :=
  let below := d.power + d.count
  if d.digits = 0 ∨ below < -400 then Binary64.nearest negative 0 1
  else if 0 ≤ d.power then
    if 400 + d.count < d.power then Binary64.nearest negative (Nat.pow 10 400) 1
    else Binary64.nearest negative (d.digits * Nat.pow 10 d.power.toNat) 1
  else Binary64.nearest negative d.digits (Nat.pow 10 (-d.power).toNat)

end Decimal

/-- The words for the doubles that are no numbers on the line. -/
def wordFloat? (negative : Bool) (chars : List Char) : Option Float :=
  let word := chars.map Char.toLower
  if word = ['i', 'n', 'f'] ∨ word = ['i', 'n', 'f', 'i', 'n', 'i', 't', 'y'] then
    some (Float.ofBits (if negative then 0xFFF0000000000000 else 0x7FF0000000000000))
  else if word = ['n', 'a', 'n'] then some (Float.ofBits 0x7FF8000000000000)
  else none

/-- Reads a text as a double. -/
def readDecimal (text : String) : Option Float :=
  let (negative, body) := takeSign text.toList
  match Decimal.read? body with
  | some d => some (d.toFloat negative)
  | none => wordFloat? negative body

example : readInteger "-9223372036854775808" = .value (-9223372036854775808) := by decide +kernel

/-- The range is left before the stray character is met. -/
example : readInteger "9223372036854775808x" = .outOfRange := by decide +kernel

example : readInteger "92x" = .notInteger := by decide +kernel

example : Decimal.read? ['1', '.', 'e', '-', '5'] = some ⟨1, 1, -5⟩ := by decide +kernel

end ListScript
