import ListScript.Decimal.Numeral
import ListScript.Decimal.Shortest
import ListScript.Error
import ListScript.Value

/-!
# Numbers

A numeric procedure reads its operands from their texts, so a string such as `2.5` is a valid
operand. Whether the result is a double depends on the kinds of the operands alone, and how it is
computed depends on their texts.

Rules for an operand:
* The text of a double atom is read as a decimal. Every other text is read as an integer first.
* An integer out of range is refused. A text that is no integer is read as a decimal, or refused.

Rules for a fold:
* All operands are read before anything is computed.
* Without a double atom and with integers alone, every step is exact. A step that leaves the range
  of an integer is refused, and so is a division by zero.
* Everything else is folded in doubles. With a double atom the result is a double; without one it
  is rounded toward zero and has to fit an integer.
-/

namespace ListScript

/-- An integer as a value. -/
def Value.ofInt (n : Int) : Value :=
  .integer (integerText n)

/-- A double as a value, which keeps six decimals of it. -/
def Value.ofFloat (x : Float) : Value :=
  .double (Binary64.ofFloat x).toPlaces

/-- An operand that has been read. -/
inductive Number where
  | integer (n : Int)
  | double (x : Float)

namespace Number

/-- Reads an operand of the procedure `op`. -/
def ofValue (op : String) (v : Value) : Except Error Number :=
  let decimal : Except Error Number :=
    match readDecimal v.text with
    | some x => .ok (.double x)
    | none => .error (.notNumber op v.render)
  if v.tag = .atom .double then decimal
  else
    match readInteger v.text with
    | .value n => .ok (.integer n)
    | .outOfRange => .error (.operandRange op v.text)
    | .notInteger => decimal

/-- The operand as a double. -/
def toFloat : Number → Float
  | .integer n => Float.ofInt n
  | .double x => x

/-- The operand as an integer, if it was read as one. -/
def toInteger? : Number → Option Int
  | .integer n => some n
  | .double _ => none

/-- How two operands compare. Two integers compare exactly and all others as doubles. Nothing
compares with what is not a number. -/
def compare? : Number → Number → Option Ordering
  | .integer a, .integer b => some (compare a b)
  | a, b =>
    let x := a.toFloat
    let y := b.toFloat
    if x < y then some .lt
    else if x == y then some .eq
    else if y < x then some .gt
    else none

end Number

/-- One of the four operations: its name, the result of no operand if there is one, and its two
steps. The step on integers is missing where it is undefined or leaves the range of an integer. -/
structure Arithmetic where
  name : String
  identity? : Option Int
  checked : Int → Int → Option Int
  rounded : Float → Float → Float

namespace Arithmetic

/-- The number, if it is in the range of an integer. -/
def inRange? (n : Int) : Option Int :=
  if fitsInteger n then some n else none

/-- The sum of no operand is zero. -/
def addition : Arithmetic := ⟨"+", some 0, fun a b => inRange? (a + b), (· + ·)⟩

/-- A difference starts from its first operand. -/
def subtraction : Arithmetic := ⟨"-", none, fun a b => inRange? (a - b), (· - ·)⟩

/-- The product of no operand is one. -/
def multiplication : Arithmetic := ⟨"*", some 1, fun a b => inRange? (a * b), (· * ·)⟩

/-- Division of integers rounds toward zero and is undefined by zero. -/
def division : Arithmetic :=
  ⟨"/", none, fun a b => if b = 0 then none else inRange? (a.tdiv b), (· / ·)⟩

/-- One step on integers. Where it is missing, an operand of zero counts as a division by zero, and
every other as a step out of the range. -/
def step (op : Arithmetic) (total n : Int) : Except Error Int :=
  match op.checked total n with
  | some next => .ok next
  | none => if n = 0 then .error (.divisionByZero op.name) else .error (.overflow op.name)

/-- The integer that a double is rounded to, toward zero. -/
def toIntegerValue (op : Arithmetic) (x : Float) : Except Error Value :=
  let double := Binary64.ofFloat x
  match double.truncate with
  | some n =>
    if fitsInteger n then .ok (.ofInt n)
    else .error (.resultRange op.name double.toShortest)
  | none => .error (.resultRange op.name double.toShortest)

/-- The result of folding the numbers that were read, which start with the identity if there is
one. -/
def fold (op : Arithmetic) (doubled : Bool) : List Number → Except Error Value
  | [] => .error (.malformed op.name (.tooFewArguments 1 0))
  | first :: rest =>
    match doubled, (first :: rest).mapM Number.toInteger? with
    | false, some (seed :: steps) => do
      let total ← steps.foldlM op.step seed
      return .ofInt total
    | _, _ =>
      let total := rest.foldl (fun x n => op.rounded x n.toFloat) first.toFloat
      if doubled then .ok (.ofFloat total)
      else op.toIntegerValue total

/-- Applies an operation to its operands. -/
def apply (op : Arithmetic) (operands : List Value) : Except Error Value := do
  let numbers ← operands.mapM (Number.ofValue op.name)
  let seeded := (op.identity?.map Number.integer).toList ++ numbers
  op.fold (operands.any fun v => v.tag = .atom .double) seeded

end Arithmetic

/-- One of the four comparisons: its name and the orders that satisfy it. -/
structure Comparison where
  name : String
  accepts : Ordering → Bool

namespace Comparison

/-- Greater than. -/
def greater : Comparison := ⟨">", (· == .gt)⟩

/-- Less than. -/
def less : Comparison := ⟨"<", (· == .lt)⟩

/-- Less than or equal. -/
def atMost : Comparison := ⟨"<=", (· != .gt)⟩

/-- Greater than or equal. -/
def atLeast : Comparison := ⟨">=", (· != .lt)⟩

/-- Whether two numbers stand in the relation. -/
def holds (op : Comparison) (a b : Number) : Bool :=
  match a.compare? b with
  | some order => op.accepts order
  | none => false

/-- Compares the first operand with each later one. The first comparison that fails ends the work,
so an operand after it is not even read. -/
def against (op : Comparison) (first : Number) : List Value → Except Error Bool
  | [] => .ok true
  | v :: rest => do
    let other ← Number.ofValue op.name v
    if op.holds first other then op.against first rest else return false

/-- Applies a comparison to its operands. -/
def apply (op : Comparison) : List Value → Except Error Value
  | [] => .error (.malformed op.name (.tooFewArguments 1 0))
  | v :: rest => do
    let first ← Number.ofValue op.name v
    return .truth (← op.against first rest)

end Comparison

end ListScript
