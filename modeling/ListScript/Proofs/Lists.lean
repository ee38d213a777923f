import ListScript.Builtin

/-!
# Taking lists apart and putting them together

The empty list has two spellings: a program writes `()`, and `cdr` leaves the symbol `nil` after the
last element. The list procedures look at the children of their arguments and at nothing else, and
neither spelling has any. So the two are interchangeable, and the laws of lists hold with both.

Results:
1. `Builtin.apply_eq_of_children`, `Builtin.apply_cons_eq_of_children`: arguments with the same
   children give the same result.
2. `walk_eq`: going down a list visits its children in order and never fails.
3. `list_laws`: lists are put together from what they are taken apart into.
-/

namespace ListScript

namespace Builtin

/-! ## 1. What list procedures look at -/

/-- The procedures that look at nothing but the children of their arguments. The first argument of
`cons` becomes a child itself. -/
def looksAtChildren : Builtin → Bool
  | .car | .cdr | .length | .null | .append => true
  | _ => false

/-- The spellings of the empty list. -/
def emptyLists : List Value :=
  [.list [], .nil]

theorem children_of_mem_emptyLists {empty : Value} (mem : empty ∈ emptyLists) :
    empty.children = [] := by
  simp only [emptyLists, List.mem_cons, List.not_mem_nil, or_false] at mem
  rcases mem with rfl | rfl
  · rfl
  · rfl

/-- Arguments with the same children give the same result, errors included. -/
theorem apply_eq_of_children {op : Builtin} (looks : op.looksAtChildren = true)
    {args args' : List Value} (same : args.map Value.children = args'.map Value.children) :
    op.apply args = op.apply args' := by
  match args, args' with
  | [], [] => rfl
  | [], _ :: _ => cases same
  | _ :: _, [] => cases same
  | first :: rest, first' :: rest' =>
    obtain ⟨children, others⟩ := List.cons.inj same
    cases op with
    | car | cdr | length | null => simp only [apply, children]
    | append =>
      match rest, rest' with
      | [], [] => rfl
      | [], _ :: _ => cases others
      | _ :: _, [] => cases others
      | second :: _, second' :: _ => simp only [apply, children, (List.cons.inj others).1]
    | _ => cases looks

/-- The same of `cons` with a fixed first argument. -/
theorem apply_cons_eq_of_children {first : Value} {args args' : List Value}
    (same : args.map Value.children = args'.map Value.children) :
    cons.apply (first :: args) = cons.apply (first :: args') := by
  match args, args' with
  | [], [] => rfl
  | [], _ :: _ => cases same
  | _ :: _, [] => cases same
  | second :: _, second' :: _ => simp only [apply, (List.cons.inj same).1]

/-! ## 2. What list procedures give -/

/-- Both spellings of what is left have the children that are left. -/
theorem children_tailOf (items : List Value) : (tailOf items).children = items.tail := by
  match items with
  | [] => rfl
  | [_] => rfl
  | _ :: _ :: _ => rfl

theorem car_apply {v first : Value} {rest : List Value} (inside : v.children = first :: rest) :
    car.apply [v] = pure first := by
  simp only [apply, inside]
  rfl

theorem cdr_apply (v : Value) : cdr.apply [v] = pure (tailOf v.children) := rfl

theorem cons_apply (head tail : Value) :
    cons.apply [head, tail] = pure (.list (head :: tail.children)) := rfl

theorem append_apply (front back : Value) :
    append.apply [front, back] = pure (.list (front.children ++ back.children)) := rfl

theorem length_apply (v : Value) : length.apply [v] = pure (.ofInt v.children.length) := rfl

theorem null_apply (v : Value) : null.apply [v] = pure (.truth v.children.isEmpty) := rfl

end Builtin

open Builtin

/-! ## 3. Going down a list -/

/-- Goes down a list: until `null?` holds, visits what `car` gives and goes on with what `cdr`
leaves. Gives up where more steps than the limit are needed. -/
def walk (limit : Nat) (v : Value) : Except Error (Option (List Value)) := do
  let ended ← null.apply [v]
  if ended.isFalse then
    match limit with
    | 0 => return none
    | limit + 1 =>
      let first ← car.apply [v]
      let left ← cdr.apply [v]
      let visited ← walk limit left
      return visited.map (first :: ·)
  else
    return some []

section Walk

variable {limit : Nat} {v first : Value} {rest : List Value}

theorem isFalse_truth (b : Bool) : (Value.truth b).isFalse = !b := by
  cases b with
  | true => decide
  | false => decide

theorem walk_of_childless (inside : v.children = []) : walk limit v = pure (some []) := by
  rw [walk.eq_def, null_apply, inside]
  simp [isFalse_truth]

theorem walk_zero (inside : v.children = first :: rest) : walk 0 v = pure none := by
  rw [walk, null_apply, inside]
  simp [isFalse_truth]

/-- A step visits the first child and goes on with the others. -/
theorem walk_succ (inside : v.children = first :: rest) :
    walk (limit + 1) v = Option.map (first :: ·) <$> walk limit (tailOf v.children) := by
  rw [walk, null_apply, car_apply inside, cdr_apply, inside]
  simp [isFalse_truth]

/-- Going down a list takes one step for each child and visits the children in order. -/
theorem walk_eq (limit : Nat) (v : Value) :
    walk limit v = pure (if v.children.length ≤ limit then some v.children else none) := by
  induction limit generalizing v with
  | zero =>
    cases inside : v.children with
    | nil => exact walk_of_childless inside
    | cons first rest => exact walk_zero inside
  | succ limit ih =>
    cases inside : v.children with
    | nil => exact walk_of_childless inside
    | cons first rest =>
      rw [walk_succ inside, ih, children_tailOf, inside, List.tail_cons, map_pure]
      by_cases enough : rest.length ≤ limit
      · simp [enough]
      · simp [enough]

end Walk

/-! ## 4. The laws of lists -/

/-- A list is put together again from what it is taken apart into, and both spellings of the empty
list serve everywhere. The first child in front of what `cdr` leaves is the list. Going down a list
visits its children in order, takes as many steps as `length` says and never fails. Appending lists
is associative, both empty lists are neutral on either side, and lengths add up whatever is
appended. In place of an argument without children, either empty list gives the same result. -/
theorem list_laws :
    (∀ first rest,
      (do cons.apply [← car.apply [.list (first :: rest)], ← cdr.apply [.list (first :: rest)]]) =
        .ok (.list (first :: rest))) ∧
    (∀ items, length.apply [.list items] = .ok (.ofInt items.length) ∧ ∀ limit,
      walk limit (.list items) = .ok (if items.length ≤ limit then some items else none)) ∧
    (∀ a b c,
      (do append.apply [← append.apply [a, b], c]) = (do append.apply [a, ← append.apply [b, c]])) ∧
    (∀ empty ∈ emptyLists, ∀ items,
      append.apply [.list items, empty] = .ok (.list items) ∧
        append.apply [empty, .list items] = .ok (.list items)) ∧
    (∀ a b, ∃ m n : Nat, length.apply [a] = .ok (.ofInt m) ∧ length.apply [b] = .ok (.ofInt n) ∧
      (do length.apply [← append.apply [a, b]]) = .ok (.ofInt (m + n))) ∧
    ∀ v, v.children = [] → ∀ empty ∈ emptyLists,
      (∀ op, looksAtChildren op = true → ∀ before after,
        op.apply (before ++ v :: after) = op.apply (before ++ empty :: after)) ∧
      ∀ head after, cons.apply (head :: v :: after) = cons.apply (head :: empty :: after) := by
  refine ⟨?_, ?_, ?_, ?_, ?_, ?_⟩
  · intro first rest
    rw [car_apply rfl, cdr_apply, pure_bind, pure_bind, cons_apply, children_tailOf]
    rfl
  · exact fun items => ⟨rfl, fun limit => walk_eq limit (.list items)⟩
  · intro a b c
    simp [append_apply, Value.children]
  · intro empty mem items
    have childless := children_of_mem_emptyLists mem
    constructor
    · rw [append_apply, childless, List.append_nil]
      rfl
    · rw [append_apply, childless, List.nil_append]
      rfl
  · intro a b
    refine ⟨a.children.length, b.children.length, rfl, rfl, ?_⟩
    rw [append_apply, pure_bind, length_apply, Value.children, List.length_append, Int.natCast_add]
    rfl
  · intro v childless empty mem
    have same : v.children = empty.children := by rw [childless, children_of_mem_emptyLists mem]
    constructor
    · intro op looks before after
      exact apply_eq_of_children looks (by simp [same])
    · intro head after
      exact apply_cons_eq_of_children (by simp [same])

/-- After the last element `cdr` leaves the symbol, and `cons` puts the list together from it. -/
example : cdr.apply [.list [.symbol "a"]] = .ok .nil ∧
    cons.apply [.symbol "a", .nil] = .ok (.list [.symbol "a"]) :=
  ⟨rfl, rfl⟩

end ListScript
