import ListScript.Number

/-!
# Builtins

The builtins form a registry: each has a name, and the registry lists them in a fixed order. A
builtin takes the values of its arguments and gives a value or an error, and depends on nothing
else.

Rules for lists:
* `car`, `cdr`, `cons`, `append`, `length` and `null?` look at the children of their arguments, so
  an atom such as `nil` serves as an empty list.
* What is left after the last element of a list is `nil`.
* Surplus arguments are ignored.

Rules for the others:
* `eq` compares each later argument with the first, and the last comparison decides. With a single
  argument nothing is equal. `neq` is its opposite.
* `ref` gives the names of the kinds of its arguments.
* `exit` asks to leave with a code: zero, or the integer at the front of its argument's text.
-/

namespace ListScript

namespace Builtin

/-- The registry, in its order. -/
def all : List Builtin :=
  [.add, .sub, .mul, .div, .gt, .lt, .le, .ge, .eq, .neq, .car, .cdr, .cons, .append, .list,
    .length, .null, .ref, .exit]

/-- The name that a program calls a builtin by. -/
def name : Builtin → String
  | .add => "+"
  | .sub => "-"
  | .mul => "*"
  | .div => "/"
  | .gt => ">"
  | .lt => "<"
  | .le => "<="
  | .ge => ">="
  | .eq => "eq"
  | .neq => "neq"
  | .car => "car"
  | .cdr => "cdr"
  | .cons => "cons"
  | .append => "append"
  | .list => "list"
  | .length => "length"
  | .null => "null?"
  | .ref => "ref"
  | .exit => "exit"

/-- The builtin of a name. -/
def ofName? (name : String) : Option Builtin :=
  all.find? fun op => op.name == name

/-- The refusal of an argument list that is too short. -/
def tooFew (op : Builtin) (expected given : Nat) : Except Error α :=
  .error (.malformed op.name (.tooFewArguments expected given))

/-- Whether the last argument is the same atom as the first. -/
def lastSame (first : Value) (rest : List Value) : Bool :=
  match rest.getLast? with
  | some last => first.sameAtom last
  | none => false

/-- What is left of a list after its first child. -/
def tailOf (items : List Value) : Value :=
  match items with
  | _ :: next :: rest => .list (next :: rest)
  | _ => .nil

/-- Applies a builtin to the values of its arguments. -/
def apply (op : Builtin) (args : List Value) : Except Error Value :=
  match op, args with
  | .add, args => Arithmetic.addition.apply args
  | .sub, args => Arithmetic.subtraction.apply args
  | .mul, args => Arithmetic.multiplication.apply args
  | .div, args => Arithmetic.division.apply args
  | .gt, args => Comparison.greater.apply args
  | .lt, args => Comparison.less.apply args
  | .le, args => Comparison.atMost.apply args
  | .ge, args => Comparison.atLeast.apply args
  | .eq, first :: rest => .ok (.truth (lastSame first rest))
  | .neq, first :: rest => .ok (.truth !(lastSame first rest))
  | .car, v :: _ =>
    match v.children with
    | first :: _ => .ok first
    | [] => .error (.malformed "car" .emptyList)
  | .cdr, v :: _ => .ok (tailOf v.children)
  | .cons, head :: tail :: _ => .ok (.list (head :: tail.children))
  | .cons, [_] => tooFew op 2 1
  | .append, front :: back :: _ => .ok (.list (front.children ++ back.children))
  | .append, [_] => tooFew op 2 1
  | .list, args => .ok (.list args)
  | .length, v :: _ => .ok (.ofInt v.children.length)
  | .null, v :: _ => .ok (.truth v.children.isEmpty)
  | .ref, args => .ok (.list (args.map fun v => .string v.tag.name))
  | .exit, [] => .error (.exit 0)
  | .exit, v :: _ =>
    match readLeadingInteger v.text with
    | some code => .error (.exit code)
    | none => .error (.notExitCode v.render)
  | op, [] => tooFew op 1 0

end Builtin

theorem builtin_ofName_name (op : Builtin) : Builtin.ofName? op.name = some op := by
  cases op <;> decide +kernel

end ListScript
