import ListScript.Proofs.Spelling
import ListScript.Session
import Mathlib.Data.List.Forall2

/-!
# Promotion

Arithmetic computes with what the texts of its operands say and tags its result by their kinds. So
the kind of a nested calculation can be read off its leaves: it is a double exactly if a double
literal is among them. A string never makes a double, whatever its text, and neither does a quotient
of integers.

Results:
1. `Arithmetic.tag_apply`: the kind of a result, by the kinds of the operands.
2. `Calculation.evaluates`: evaluating a calculation changes nothing, and keeps its kind.
3. `promotion_follows_leaves`: the kind of a calculation, by its leaves.
-/

namespace ListScript

/-! ## 1. The kind of a result -/

namespace Builtin

/-- The builtins that fold their operands. -/
def isArithmetic : Builtin → Bool
  | .add | .sub | .mul | .div => true
  | _ => false

end Builtin

/-- The kind of a number. -/
def numberTag (doubled : Bool) : Tag :=
  .atom (if doubled then .double else .integer)

theorem numberTag_eq_double_iff {doubled : Bool} :
    numberTag doubled = .atom .double ↔ doubled = true := by
  cases doubled <;> decide

theorem numberTag_eq_integer_iff {doubled : Bool} :
    numberTag doubled = .atom .integer ↔ ¬ doubled = true := by
  cases doubled <;> decide

namespace Arithmetic

variable {arith : Arithmetic} {v : Value}

theorem tag_toIntegerValue {x : Float} (given : arith.toIntegerValue x = .ok v) :
    v.tag = numberTag false := by
  unfold toIntegerValue at given
  dsimp only at given
  split at given
  · split at given <;> cases given
    rfl
  · cases given

/-- A fold gives a double exactly if it is asked for one, whichever way it computes. -/
theorem tag_fold {doubled : Bool} {numbers : List Number}
    (given : arith.fold doubled numbers = .ok v) : v.tag = numberTag doubled := by
  unfold fold at given
  split at given
  · cases given
  · split at given
    · obtain ⟨total, -, same⟩ := exists_of_bind_eq_ok given
      cases same
      rfl
    · dsimp only at given
      split at given
      · next isDoubled =>
        cases given
        rw [isDoubled]
        rfl
      · next notDoubled =>
        rw [eq_false_of_ne_true notDoubled]
        exact tag_toIntegerValue given

/-- An operation gives a double exactly if some operand is one. -/
theorem tag_apply {operands : List Value} (given : arith.apply operands = .ok v) :
    v.tag = numberTag (operands.any fun operand => operand.tag = .atom .double) := by
  obtain ⟨numbers, -, folded⟩ := exists_of_bind_eq_ok given
  exact tag_fold folded

end Arithmetic

theorem Builtin.tag_apply {op : Builtin} (arithmetic : op.isArithmetic = true)
    {operands : List Value} {v : Value} (given : op.apply operands = .ok v) :
    v.tag = numberTag (operands.any fun operand => operand.tag = .atom .double) := by
  cases op with
  | add | sub | mul | div => exact Arithmetic.tag_apply given
  | _ => cases arithmetic

/-! ## 2. Calculations -/

/-- A number or string literal, or a call of arithmetic on such and on further calls. -/
inductive Calculation : Value → Prop
  | integer (text : String) : Calculation (.integer text)
  | double (text : String) : Calculation (.double text)
  | string (text : String) : Calculation (.string text)
  | call {op : Builtin} {args : List Value} (arithmetic : op.isArithmetic = true)
      (each : ∀ arg ∈ args, Calculation arg) : Calculation (.list (.symbol op.name :: args))

/-- A double literal is among the leaves of the value. -/
def Value.HoldsDouble (v : Value) : Prop :=
  ∃ text, v.Holds .double text

/-- What a native procedure does. -/
def Value.action? : Value → Option Action
  | .native _ action => some action
  | _ => none

/-- The names of arithmetic are bound to it, as seen from the frame. -/
def Scopes.BindsArithmetic (s : Scopes) (scope : FrameId) : Prop :=
  ∀ op : Builtin, op.isArithmetic = true →
    (s.get? scope op.name).bind Value.action? = some (.builtin op)

namespace PromotionLemmas

theorem holdsDouble_atom {kind : AtomKind} {text : String} :
    (Value.atom kind text).HoldsDouble ↔ kind = .double := by
  constructor
  · rintro ⟨_, holds⟩
    cases holds
    rfl
  · rintro rfl
    exact ⟨text, .atom⟩

theorem holdsDouble_list {items : List Value} :
    (Value.list items).HoldsDouble ↔ ∃ v ∈ items, v.HoldsDouble := by
  constructor
  · rintro ⟨text, holds⟩
    cases holds with
    | item mem inner => exact ⟨_, mem, text, inner⟩
  · rintro ⟨v, mem, text, inner⟩
    exact ⟨text, .item mem inner⟩

/-- The name of a procedure is no leaf. -/
theorem holdsDouble_call {name : String} {args : List Value} :
    (Value.list (.symbol name :: args)).HoldsDouble ↔ ∃ arg ∈ args, arg.HoldsDouble := by
  simp [holdsDouble_list, holdsDouble_atom]

theorem exists_of_action? {v : Value} {action : Action} (does : v.action? = some action) :
    ∃ shown, v = .native shown action := by
  cases v with
  | native shown action =>
    cases does
    exact ⟨shown, rfl⟩
  | _ => cases does

/-- No name of arithmetic starts a special form. -/
theorem ofHead?_arithmetic {op : Builtin} (arithmetic : op.isArithmetic = true) :
    SpecialForm.ofHead? (.symbol op.name) = none := by
  cases op with
  | add | sub | mul | div => decide +kernel
  | _ => cases arithmetic

end PromotionLemmas

/-- Two actions in sequence give a value only if both do. -/
theorem Eval.exists_of_bind_eq_ok {α β : Type} {act : Eval α} {next : α → Eval β} {b : β}
    {store last : Store} (h : (act >>= next) store = .ok b last) :
    ∃ a mid, act store = .ok a mid ∧ next a mid = .ok b last := by
  rw [Eval.bind_apply] at h
  cases ran : act store with
  | ok a mid =>
    rw [ran] at h
    exact ⟨a, mid, rfl, h⟩
  | error e mid =>
    rw [ran] at h
    cases h

/-- Values that are made one after another without changing the store. -/
theorem Eval.forall₂_of_mapM_eq_ok {α β : Type} {related : α → β → Prop} {act : α → Eval β}
    {as : List α} {bs : List β} {store last : Store}
    (each : ∀ a ∈ as, ∀ b mid, act a store = .ok b mid → mid = store ∧ related a b)
    (ran : as.mapM act store = .ok bs last) : last = store ∧ List.Forall₂ related as bs := by
  induction as generalizing bs last with
  | nil =>
    cases ran
    exact ⟨rfl, .nil⟩
  | cons a rest ih =>
    obtain ⟨first, later⟩ := List.forall_mem_cons.mp each
    rw [List.mapM_cons] at ran
    obtain ⟨b, mid, here, rest⟩ := Eval.exists_of_bind_eq_ok ran
    obtain ⟨bs, mid', there, ends⟩ := Eval.exists_of_bind_eq_ok rest
    obtain ⟨rfl, relatedHere⟩ := first b mid here
    obtain ⟨rfl, relatedThere⟩ := ih later there
    cases ends
    exact ⟨rfl, .cons relatedHere relatedThere⟩

open PromotionLemmas

/-- An action that gives a value with this text. -/
theorem Eval.exists_of_text {act : Eval Value} {store : Store} {text : String}
    (shown : (act.run' store).map Value.text = some text) :
    ∃ v last, act store = .ok v last ∧ v.text = text := by
  unfold EStateM.run' EStateM.run at shown
  cases ran : act store with
  | ok v last =>
    rw [ran] at shown
    exact ⟨v, last, rfl, Option.some.inj shown⟩
  | error e last =>
    rw [ran] at shown
    cases shown

section Evaluation

variable {setting : Setting} {imports : Import} {left : Nat} {scope : FrameId} {store last : Store}
  {form v : Value}

/-- Calling arithmetic on operands whose evaluation changes nothing changes nothing, and applies it
to their values. -/
theorem apply_of_eval_call {op : Builtin} {args : List Value} {related : Value → Value → Prop}
    (bound : store.scopes.BindsArithmetic scope) (arithmetic : op.isArithmetic = true)
    (each : ∀ left, ∀ arg ∈ args, ∀ operand mid,
      Evaluation.eval setting imports left scope arg store = .ok operand mid →
        mid = store ∧ related arg operand)
    (ran : Evaluation.eval setting imports left scope (.list (.symbol op.name :: args)) store =
      .ok v last) :
    last = store ∧ ∃ operands, List.Forall₂ related args operands ∧ op.apply operands = .ok v := by
  obtain ⟨procedure, found, does⟩ := Option.bind_eq_some_iff.mp (bound op arithmetic)
  obtain ⟨shown, rfl⟩ := exists_of_action? does
  cases left with
  | zero => cases ran
  | succ left =>
    rw [Evaluation.eval, Evaluation.form, ofHead?_arithmetic arithmetic] at ran
    obtain ⟨procedure, mid, head, ran⟩ := Eval.exists_of_bind_eq_ok ran
    obtain ⟨operands, mid', evaluated, applied⟩ := Eval.exists_of_bind_eq_ok ran
    cases left with
    | zero => cases head
    | succ left =>
      rw [Evaluation.eval, Evaluation.form, Eval.lookup, found] at head
      cases head
      obtain ⟨rfl, pairs⟩ := Eval.forall₂_of_mapM_eq_ok (each (left + 1)) evaluated
      change Eval.ofExcept (op.apply operands) mid' = .ok v last at applied
      cases given : op.apply operands with
      | error e =>
        rw [given] at applied
        cases applied
      | ok result =>
        rw [given] at applied
        cases applied
        exact ⟨rfl, operands, pairs, given⟩

/-- Some operand is a double exactly if some argument has a double among its leaves. -/
theorem any_double_iff {args operands : List Value}
    (pairs : List.Forall₂ (fun arg operand => operand.tag = .atom .double ↔ arg.HoldsDouble) args
      operands) :
    (operands.any fun operand => operand.tag = .atom .double) = true ↔
      ∃ arg ∈ args, arg.HoldsDouble := by
  induction pairs with
  | nil => simp
  | cons here _ ih => simp [here, ← ih]

/-- Number and string literals are their own values. -/
theorem eval_literal {kind : AtomKind} {text : String} (literal : kind ≠ .symbol)
    (ran : Evaluation.eval setting imports left scope (.atom kind text) store = .ok v last) :
    v = .atom kind text ∧ last = store := by
  cases left with
  | zero => cases ran
  | succ left =>
    cases kind with
    | symbol => exact absurd rfl literal
    | integer | double | string =>
      cases ran
      exact ⟨rfl, rfl⟩

/-- Evaluating a calculation changes nothing, and its value is a double exactly if it has one among
its leaves. -/
theorem Calculation.evaluates (calculation : Calculation form)
    (bound : store.scopes.BindsArithmetic scope)
    (ran : Evaluation.eval setting imports left scope form store = .ok v last) :
    last = store ∧ (v.tag = .atom .double ↔ form.HoldsDouble) := by
  induction calculation generalizing left v last with
  | integer text | double text | string text =>
    obtain ⟨rfl, rfl⟩ := eval_literal (by decide) ran
    exact ⟨rfl, by simp [holdsDouble_atom, Value.tag]⟩
  | @call op args arithmetic each ih =>
    obtain ⟨same, operands, pairs, given⟩ :=
      apply_of_eval_call bound arithmetic (fun _ arg mem _ _ => ih arg mem) ran
    refine ⟨same, ?_⟩
    rw [Builtin.tag_apply arithmetic given, numberTag_eq_double_iff, any_double_iff pairs,
      holdsDouble_call]

/-- The kind of a calculation follows its leaves. Take a call of addition, subtraction,
multiplication or division whose arguments are number and string literals and further such calls,
however many and however deep, and evaluate it where the four names have their meaning. If that
gives a value, it is a double exactly if some leaf is a double literal, and an integer if none is.
The texts of the leaves make no difference, and nothing is changed. -/
theorem promotion_follows_leaves {op : Builtin} {args : List Value}
    (arithmetic : op.isArithmetic = true) (each : ∀ arg ∈ args, Calculation arg)
    (bound : store.scopes.BindsArithmetic scope)
    (ran : Evaluation.eval setting imports left scope (.list (.symbol op.name :: args)) store =
      .ok v last) :
    (v.tag = .atom .double ↔ ∃ arg ∈ args, ∃ text, arg.Holds .double text) ∧
    (v.tag = .atom .integer ↔ ¬ ∃ arg ∈ args, ∃ text, arg.Holds .double text) ∧
    last = store := by
  obtain ⟨same, operands, pairs, given⟩ :=
    apply_of_eval_call bound arithmetic (fun _ arg mem _ _ => (each arg mem).evaluates bound) ran
  have leaves := any_double_iff pairs
  rw [Builtin.tag_apply arithmetic given, numberTag_eq_double_iff, numberTag_eq_integer_iff, leaves]
  exact ⟨.rfl, .rfl, same⟩

end Evaluation

/-- In a new session the names of arithmetic have their meaning. -/
theorem Session.new_bindsArithmetic (setting : Setting) :
    (Session.new setting).store.scopes.BindsArithmetic rootFrame := by
  have same : (Session.new setting).store.scopes = (Session.new {}).store.scopes := rfl
  intro op arithmetic
  rw [same]
  cases op with
  | add | sub | mul | div => decide +kernel
  | _ => cases arithmetic

/-- A quotient that was rounded, a string that says a double, and then a double. -/
theorem promotion_follows_leaves_quotient :
    let s := Session.new {}
    let quotient := Value.list [.symbol "/", .integer "7", .integer "2"]
    let product := Value.list [.symbol "*", .integer "1", .double ".5"]
    let evaluate := Evaluation.eval s.setting s.imports 4 rootFrame
    (Builtin.add.isArithmetic = true ∧ s.store.scopes.BindsArithmetic rootFrame ∧
      ∀ v ∈ [quotient, .string "2.5", product], Calculation v) ∧
    (∃ v, evaluate (.list [.symbol "+", quotient, .string "2.5"]) s.store = .ok v s.store ∧
      v.tag = .atom .integer ∧ v.text = "5") ∧
    ∃ v, evaluate (.list [.symbol "+", quotient, .string "2.5", product]) s.store = .ok v s.store ∧
      v.tag = .atom .double ∧ v.text = "6.000000" := by
  intro s quotient product evaluate
  have bound : s.store.scopes.BindsArithmetic rootFrame := Session.new_bindsArithmetic {}
  have divided : Calculation quotient := @Calculation.call .div _ rfl (by
    simp only [List.forall_mem_cons]
    exact ⟨.integer "7", .integer "2", nofun⟩)
  have multiplied : Calculation product := @Calculation.call .mul _ rfl (by
    simp only [List.forall_mem_cons]
    exact ⟨.integer "1", .double ".5", nofun⟩)
  have each : ∀ v ∈ [quotient, .string "2.5", product], Calculation v := by
    simp only [List.forall_mem_cons]
    exact ⟨divided, .string "2.5", multiplied, nofun⟩
  have eachOfTwo : ∀ v ∈ [quotient, .string "2.5"], Calculation v := by
    simp only [List.forall_mem_cons]
    exact ⟨divided, .string "2.5", nofun⟩
  refine ⟨⟨rfl, bound, each⟩, ?_, ?_⟩
  · have shown : ((evaluate (.list [.symbol "+", quotient, .string "2.5"])).run' s.store).map
        Value.text = some "5" := by
      decide +kernel
    have noDouble : ¬ ∃ arg ∈ [quotient, .string "2.5"], arg.HoldsDouble := by
      simp [quotient, holdsDouble_call, holdsDouble_atom]
    obtain ⟨v, last, ran, text⟩ := Eval.exists_of_text shown
    have follows := @promotion_follows_leaves _ _ _ _ _ _ _ .add _ rfl eachOfTwo bound ran
    obtain ⟨-, kind, rfl⟩ := follows
    exact ⟨v, ran, kind.mpr noDouble, text⟩
  · have shown : ((evaluate (.list [.symbol "+", quotient, .string "2.5", product])).run'
        s.store).map Value.text = some "6.000000" := by
      decide +kernel
    have aDouble : ∃ arg ∈ [quotient, .string "2.5", product], arg.HoldsDouble := by
      simp [product, holdsDouble_call, holdsDouble_atom]
    obtain ⟨v, last, ran, text⟩ := Eval.exists_of_text shown
    have follows := @promotion_follows_leaves _ _ _ _ _ _ _ .add _ rfl each bound ran
    obtain ⟨kind, -, rfl⟩ := follows
    exact ⟨v, ran, kind.mpr aDouble, text⟩

end ListScript
