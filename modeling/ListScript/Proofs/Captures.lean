import ListScript.Builtin
import ListScript.Reading
import ListScript.Scope

/-!
# Captured frames

A value refers to frames through the lambdas in it: it may be one, hold one as a child, or stand as
a body inside one. Reading makes no lambda, and builtins make no lambda that their arguments do not
hold. So what holds of the atoms that they make and looks through lists holds of all that is read,
and of what a builtin gives if it holds of the arguments.

Results:
1. `Generated.of_readAll`, `Generated.of_apply`: what is read and what builtins give.
2. `within_of_readAll`: a form that was read refers to no frame.
3. `within_of_apply`: what a builtin gives refers to frames that its arguments refer to.
4. `within_of_find?_ofCall`: so does what a call binds.
-/

namespace ListScript

namespace Value

/-- The value refers to a frame that a lambda in it captured. -/
inductive Captures (id : FrameId) : Value → Prop
  | lambda (params : List String) (body : Value) : Captures id (.lambda params body id)
  | body {params : List String} {body : Value} {captured : FrameId} (inner : Captures id body) :
      Captures id (.lambda params body captured)
  | item {items : List Value} {v : Value} (mem : v ∈ items) (inner : Captures id v) :
      Captures id (.list items)

/-- Every frame that the value refers to is one of these. -/
def Within (inside : FrameId → Prop) (v : Value) : Prop :=
  ∀ id, v.Captures id → inside id

/-- Every frame that one of the values refers to is one of these. -/
def AllWithin (inside : FrameId → Prop) (vs : List Value) : Prop :=
  ∀ v ∈ vs, v.Within inside

variable {inside inside' : FrameId → Prop}

theorem Within.mono {v : Value} (h : v.Within inside) (le : ∀ id, inside id → inside' id) :
    v.Within inside' :=
  fun id captures => le id (h id captures)

theorem within_atom (kind : AtomKind) (text : String) : (atom kind text).Within inside :=
  fun _ captures => nomatch captures

theorem within_native (name : String) (action : Action) : (native name action).Within inside :=
  fun _ captures => nomatch captures

theorem within_list {items : List Value} : (list items).Within inside ↔ AllWithin inside items := by
  constructor
  · intro h v mem id captures
    exact h id (.item mem captures)
  · rintro h id (_ | _ | ⟨mem, captures⟩)
    exact h _ mem id captures

theorem within_lambda {params : List String} {body : Value} {captured : FrameId} :
    (lambda params body captured).Within inside ↔ inside captured ∧ body.Within inside := by
  constructor
  · intro h
    exact ⟨h captured (.lambda params body), fun id captures => h id (.body captures)⟩
  · rintro ⟨here, inner⟩ id (_ | captures | _)
    · exact here
    · exact inner id captures

end Value

open Value

/-! ## 1. What looks through lists -/

/-- What holds of the atoms that reading and builtins make, and of a list if it holds of the
children. -/
structure Value.Generated (P : Value → Prop) : Prop where
  word (word : String) : P (classify word)
  ofInt (n : Int) : P (.ofInt n)
  ofFloat (x : Float) : P (.ofFloat x)
  symbol (name : String) : P (.symbol name)
  string (text : String) : P (.string text)
  list {items : List Value} : P (.list items) ↔ ∀ v ∈ items, P v

/-- What holds of every atom, and of a list if it holds of the children. -/
structure Value.Hereditary (P : Value → Prop) : Prop where
  atom (kind : AtomKind) (text : String) : P (.atom kind text)
  list {items : List Value} : P (.list items) ↔ ∀ v ∈ items, P v

/-- A word is read as an atom. -/
theorem Value.Hereditary.generated {P : Value → Prop} (hereditary : Hereditary P) :
    Generated P where
  word word := by
    unfold classify
    dsimp only
    split
    · split <;> exact hereditary.atom _ _
    · split <;> exact hereditary.atom _ _
  ofInt _ := hereditary.atom _ _
  ofFloat _ := hereditary.atom _ _
  symbol _ := hereditary.atom _ _
  string _ := hereditary.atom _ _
  list := hereditary.list

namespace Value.Generated

variable {P : Value → Prop} (generated : Generated P)

include generated

theorem children {v : Value} (h : P v) : ∀ child ∈ v.children, P child := by
  cases v with
  | list items => exact generated.list.mp h
  | atom kind text => simp [Value.children]
  | native name action => simp [Value.children]
  | lambda params body captured => simp [Value.children]

/-! ### Reading -/

theorem of_readOpen {opened : List (List Value)} {tokens rest : List Token} {v : Value}
    (h : readOpen opened tokens = (.ok v, rest))
    (hopened : ∀ items ∈ opened, ∀ item ∈ items, P item) : P v := by
  fun_induction readOpen opened tokens with
  | case4 items =>
    cases h
    exact generated.list.mpr fun item mem =>
      hopened items List.mem_cons_self item (List.mem_reverse.mp mem)
  -- The list that is closed becomes the latest item of the one around it.
  | case5 items outer opened rest ih =>
    refine ih h ?_
    obtain ⟨hitems, hinner⟩ := List.forall_mem_cons.mp hopened
    obtain ⟨houter, hrest⟩ := List.forall_mem_cons.mp hinner
    refine List.forall_mem_cons.mpr ⟨List.forall_mem_cons.mpr ⟨?_, houter⟩, hrest⟩
    exact generated.list.mpr fun item mem => hitems item (List.mem_reverse.mp mem)
  | case7 opened rest _ ih => exact ih h (List.forall_mem_cons.mpr ⟨by simp, hopened⟩)
  | case8 text =>
    cases h
    exact generated.word text
  | case10 items opened text rest _ ih =>
    refine ih h ?_
    obtain ⟨hitems, hrest⟩ := List.forall_mem_cons.mp hopened
    exact List.forall_mem_cons.mpr
      ⟨List.forall_mem_cons.mpr ⟨generated.word text, hitems⟩, hrest⟩
  | _ => cases h

theorem of_parseAll {tokens : List Token} {forms : List Value}
    (h : parseAll tokens = .ok forms) : ∀ form ∈ forms, P form := by
  fun_induction parseAll tokens generalizing forms with
  | case1 =>
    cases h
    simp
  | case2 => cases h
  | case3 token following v rest taken ih =>
    obtain ⟨vs, parsed, h⟩ := exists_of_bind_eq_ok h
    cases h
    exact List.forall_mem_cons.mpr ⟨generated.of_readOpen taken (by simp), ih parsed⟩

theorem of_readAll {text : String} {forms : List Value} (h : readAll text = .ok forms) :
    ∀ form ∈ forms, P form :=
  generated.of_parseAll h

/-! ### Builtins -/

theorem of_toIntegerValue {op : Arithmetic} {x : Float} {v : Value}
    (h : op.toIntegerValue x = .ok v) : P v := by
  unfold Arithmetic.toIntegerValue at h
  dsimp only at h
  split at h
  · split at h
    · cases h
      exact generated.ofInt _
    · cases h
  · cases h

theorem of_fold {op : Arithmetic} {doubled : Bool} {numbers : List Number} {v : Value}
    (h : op.fold doubled numbers = .ok v) : P v := by
  unfold Arithmetic.fold at h
  split at h
  · cases h
  · split at h
    · obtain ⟨total, -, h⟩ := exists_of_bind_eq_ok h
      cases h
      exact generated.ofInt total
    · split at h
      · cases h
        exact generated.ofFloat _
      · exact generated.of_toIntegerValue h

theorem of_arithmetic {op : Arithmetic} {args : List Value} {v : Value}
    (h : op.apply args = .ok v) : P v := by
  obtain ⟨numbers, -, h⟩ := exists_of_bind_eq_ok h
  exact generated.of_fold h

theorem of_comparison {op : Comparison} {args : List Value} {v : Value}
    (h : op.apply args = .ok v) : P v := by
  cases args with
  | nil => cases h
  | cons first rest =>
    obtain ⟨n, -, h⟩ := exists_of_bind_eq_ok h
    obtain ⟨outcome, -, h⟩ := exists_of_bind_eq_ok h
    cases h
    exact generated.symbol _

/-- Builtins give atoms, and lists of what their arguments hold. -/
theorem of_apply {op : Builtin} {args : List Value} {v : Value} (h : op.apply args = .ok v)
    (hargs : ∀ arg ∈ args, P arg) : P v := by
  fun_cases Builtin.apply op args with
  | case1 | case2 | case3 | case4 => exact generated.of_arithmetic h
  | case5 | case6 | case7 | case8 => exact generated.of_comparison h
  | case9 | case10 =>
    cases h
    exact generated.symbol _
  | case11 arg rest first others children =>
    simp only [Builtin.apply, children] at h
    cases h
    have hchildren := generated.children (hargs arg List.mem_cons_self)
    rw [children] at hchildren
    exact hchildren v List.mem_cons_self
  | case13 v rest =>
    cases h
    have hchildren := generated.children (hargs v List.mem_cons_self)
    unfold Builtin.tailOf
    split
    · next first next others children =>
      rw [children] at hchildren
      exact generated.list.mpr fun item mem => hchildren item (List.mem_cons_of_mem first mem)
    · exact generated.symbol _
  | case14 head tail rest =>
    cases h
    obtain ⟨hhead, htail, -⟩ : _ ∧ _ ∧ _ := by simpa using hargs
    exact generated.list.mpr (List.forall_mem_cons.mpr ⟨hhead, generated.children htail⟩)
  | case16 front back rest =>
    cases h
    obtain ⟨hfront, hback, -⟩ : _ ∧ _ ∧ _ := by simpa using hargs
    refine generated.list.mpr fun item mem => ?_
    rcases List.mem_append.mp mem with inFront | inBack
    · exact generated.children hfront item inFront
    · exact generated.children hback item inBack
  | case18 =>
    cases h
    exact generated.list.mpr hargs
  | case19 =>
    cases h
    exact generated.ofInt _
  | case20 =>
    cases h
    exact generated.symbol _
  | case21 =>
    cases h
    refine generated.list.mpr fun item mem => ?_
    obtain ⟨v, -, rfl⟩ := List.mem_map.mp mem
    exact generated.string _
  | case12 | case23 | case24 =>
    simp only [Builtin.apply, *] at h
    cases h
  | case15 | case17 | case22 => cases h
  | case25 op => cases op <;> contradiction

end Value.Generated

/-! ## 2. Frames of what is read, computed and bound -/

section Frames

variable {inside : FrameId → Prop}

theorem hereditary_within (inside : FrameId → Prop) : Hereditary (Within inside) where
  atom := within_atom
  list := within_list

/-- A form that was read refers to no frame. -/
theorem within_of_readAll {text : String} {forms : List Value} (h : readAll text = .ok forms) :
    AllWithin inside forms :=
  (hereditary_within inside).generated.of_readAll h

/-- What a builtin gives refers to frames that its arguments refer to. -/
theorem within_of_apply {op : Builtin} {args : List Value} {v : Value} (h : op.apply args = .ok v)
    (hargs : AllWithin inside args) : v.Within inside :=
  (hereditary_within inside).generated.of_apply h hargs

/-- What a call binds refers to frames that the arguments refer to. -/
theorem within_of_find?_ofCall {params : List String} {args : List Value} {name : String}
    {v : Value} (h : (Bindings.ofCall params args).find? name = some v) : v ∈ args := by
  -- Over whatever the frame binds so far, since a later parameter may repeat an earlier one.
  have bound (pairs : List (String × Value)) (b : Bindings)
      (h : (pairs.foldl (fun b pair => b.insert pair.1 pair.2) b).find? name = some v) :
      b.find? name = some v ∨ ∃ pair ∈ pairs, pair.2 = v := by
    induction pairs generalizing b with
    | nil => exact .inl h
    | cons pair pairs ih =>
      rcases ih (b.insert pair.1 pair.2) h with found | ⟨other, mem, same⟩
      · rw [Bindings.find?_insert] at found
        split at found
        · exact .inr ⟨pair, List.mem_cons_self, Option.some.inj found⟩
        · exact .inl found
      · exact .inr ⟨other, List.mem_cons_of_mem pair mem, same⟩
  rcases bound (params.zip args) .empty h with found | ⟨⟨param, arg⟩, mem, rfl⟩
  · simp at found
  · exact (List.of_mem_zip mem).2

end Frames

end ListScript
