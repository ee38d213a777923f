/-!
# Values

Programs and data are the same thing: atoms and lists. An atom keeps the text it was written with,
and a number is only read where a procedure needs one. Two more kinds of value come from
evaluation: native procedures, which have a name and refer to what they do, and lambdas, which
have parameters, a body and the frame captured when they were made.

Rules:
* `nil`, `#t` and `#f` are ordinary symbols.
* Only an atom has text and only a list has children. Where the other kind is met, the text or the
  list of children is empty.
* Two values are the same atom when their kinds and texts agree, so all lists are the same atom.
* Equality looks into lists, compares native procedures by name and lambdas by identity. Each
  lambda captures a frame of its own, so the captured frame is its identity.
-/

namespace ListScript

/-- A frame is named by its position among all frames. -/
abbrev FrameId := Nat

/-- The four kinds of atom. -/
inductive AtomKind where
  | symbol
  | integer
  | double
  | string
deriving DecidableEq, Repr

/-- The procedures that depend on nothing but their arguments. -/
inductive Builtin where
  | add | sub | mul | div
  | gt | lt | le | ge
  | eq | neq
  | car | cdr | cons | append | list | length | null
  | ref | exit
deriving DecidableEq, Repr

/-- What a native procedure does: a builtin, one of the two procedures that act on the session, or
an entry in the host's table of procedures. -/
inductive Action where
  | builtin (op : Builtin)
  | print
  | importModules
  | host (index : Nat)
deriving DecidableEq, Repr

/-- A value of the language, which is also the form of its programs. -/
inductive Value where
  | atom (kind : AtomKind) (text : String)
  | list (items : List Value)
  | native (name : String) (action : Action)
  | lambda (params : List String) (body : Value) (captured : FrameId)
deriving Repr

/-- The kinds of value. -/
inductive Tag where
  | atom (kind : AtomKind)
  | list
  | procedure
  | lambda
deriving DecidableEq, Repr

/-- The name of a kind of value, as `ref` gives it. -/
def Tag.name : Tag → String
  | .atom .symbol => "symbol"
  | .atom .integer => "integer"
  | .atom .double => "double"
  | .atom .string => "string"
  | .list => "list"
  | .procedure => "procedure"
  | .lambda => "lambda"

namespace Value

/-! Atoms by their kinds. -/

@[match_pattern] abbrev symbol (name : String) : Value := .atom .symbol name
@[match_pattern] abbrev integer (text : String) : Value := .atom .integer text
@[match_pattern] abbrev double (text : String) : Value := .atom .double text
@[match_pattern] abbrev string (text : String) : Value := .atom .string text

instance : Inhabited Value := ⟨symbol "nil"⟩

/-- The value that stands for "nothing": a symbol, not the empty list. -/
def nil : Value := symbol "nil"

/-- The symbol of a truth value. -/
def truth (b : Bool) : Value := symbol (if b then "#t" else "#f")

/-- The kind of a value. -/
def tag : Value → Tag
  | .atom kind _ => .atom kind
  | .list _ => .list
  | .native _ _ => .procedure
  | .lambda _ _ _ => .lambda

/-- The text of an atom. Lists and procedures have none. -/
def text : Value → String
  | .atom _ text => text
  | _ => ""

/-- The children of a list. Atoms and procedures have none. -/
def children : Value → List Value
  | .list items => items
  | _ => []

/-- Whether the value is the symbol `name`. -/
def isSymbol (name : String) : Value → Bool
  | .atom .symbol text => text == name
  | _ => false

/-- A value counts as false when its text is `#f`, whatever the kind of the atom. -/
def isFalse (v : Value) : Bool :=
  v.text == "#f"

/-- Whether kind and text agree. -/
def sameAtom (a b : Value) : Bool :=
  a.tag == b.tag && a.text == b.text

/-! ## Equality -/

mutual

/-- Lists are equal child by child, native procedures by name, lambdas by captured frame, and
atoms by kind and text. -/
def equals : Value → Value → Bool
  | .list as, .list bs => equalsAll as bs
  | .native a _, .native b _ => a == b
  | .lambda _ _ a, .lambda _ _ b => a == b
  | .atom kind a, .atom kind' b => kind == kind' && a == b
  | _, _ => false

/-- Lists of values are equal when they are equally long and equal in each place. -/
def equalsAll : List Value → List Value → Bool
  | [], [] => true
  | a :: as, b :: bs => equals a b && equalsAll as bs
  | _, _ => false

end

/-! ## Shown form -/

mutual

/-- The text of a value as a program prints it: an atom is its bare text and a list stands between
parentheses, its children one space apart. -/
def render : Value → String
  | .atom _ text => text
  | .list items => "(" ++ " ".intercalate (renderEach items) ++ ")"
  | .native _ _ => "<Proc>"
  | .lambda _ _ _ => "<Lambda>"

/-- The shown form of each value. -/
def renderEach : List Value → List String
  | [] => []
  | v :: rest => render v :: renderEach rest

end

theorem renderEach_eq_map (vs : List Value) : renderEach vs = vs.map render := by
  induction vs with
  | nil => rfl
  | cons v rest ih => simp [renderEach, ih]

end Value

example : Value.render (.list [.symbol "a", .list [], .integer "1"]) = "(a () 1)" := by
  decide +kernel

end ListScript
