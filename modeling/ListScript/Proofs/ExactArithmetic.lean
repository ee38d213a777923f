import ListScript.Proofs.Operands

/-!
# Exact arithmetic

Without a double among its operands, and if all of them are written as integers in range, an
arithmetic procedure folds integers. What it gives is compared here with the fold over all integers:
it is the exact total, as long as every total on the way is defined and in range, and a refusal at
the first one that is not. The cause of a refusal is guessed from the operand. The guess is right,
because a step with zero is a division by zero or stays in range.

Results:
1. `Arithmetic.Realizes.step_eq`: a step is the exact one, or it is refused with the right cause.
2. `Arithmetic.Realizes.folds`: so is a fold, up to the first bad total.
3. `exact_or_refused`: so is the application of a procedure.
-/

namespace ListScript

/-! ## 1. Exact totals -/

namespace Builtin

/-- The step of an operation over all integers. Only a division by zero is undefined. -/
def exactly? : Builtin → Int → Int → Option Int
  | .add, a, b => some (a + b)
  | .sub, a, b => some (a - b)
  | .mul, a, b => some (a * b)
  | .div, a, b => if b = 0 then none else some (a.tdiv b)
  | _, _, _ => none

/-- What a fold starts with, and the operands of its steps. A difference and a quotient start with
their first operand. -/
def start? : Builtin → List Int → Option (Int × List Int)
  | .add, numbers => some (0, numbers)
  | .mul, numbers => some (1, numbers)
  | .sub, first :: rest | .div, first :: rest => some (first, rest)
  | _, _ => none

/-- The total after `k` steps over all integers. -/
def total? (op : Builtin) (seed : Int) (steps : List Int) (k : Nat) : Option Int :=
  (steps.take k).foldlM op.exactly? seed

/-- The total after `k` steps is defined and in the range of an integer. -/
def FitsAt (op : Builtin) (seed : Int) (steps : List Int) (k : Nat) : Prop :=
  ∃ total, op.total? seed steps k = some total ∧ fitsInteger total = true

instance (op : Builtin) (seed : Int) (steps : List Int) (k : Nat) :
    Decidable (op.FitsAt seed steps k) :=
  decidable_of_iff ((op.total? seed steps k).any fitsInteger = true) (Option.any_eq_true _ _)

/-- The refusal of a step whose total is undefined or out of range. -/
def refusal (op : Builtin) (divisor : Int) : Error :=
  if op = .div ∧ divisor = 0 then .divisionByZero op.name else .overflow op.name

section Totals

variable {op : Builtin} {seed n : Int} {steps : List Int} {k : Nat}

theorem total?_zero : op.total? seed steps 0 = some seed := rfl

theorem total?_succ :
    op.total? seed (n :: steps) (k + 1) =
      (op.exactly? seed n).bind fun next => op.total? next steps k := by
  rw [total?, List.take_succ_cons, List.foldlM_cons]
  rfl

theorem fitsAt_zero : op.FitsAt seed steps 0 ↔ fitsInteger seed = true :=
  ⟨fun ⟨_, same, fits⟩ => Option.some.inj same ▸ fits, fun fits => ⟨seed, total?_zero, fits⟩⟩

/-- The totals behind a step are those that start with its result. -/
theorem fitsAt_succ {next : Int} (step : op.exactly? seed n = some next) :
    op.FitsAt seed (n :: steps) (k + 1) ↔ op.FitsAt next steps k := by
  rw [FitsAt, total?_succ, step]
  rfl

end Totals

end Builtin

/-! ## 2. Steps -/

namespace Arithmetic

/-- An operation is what a builtin applies, and on integers its steps are the exact ones that stay
in range. -/
structure Realizes (arith : Arithmetic) (op : Builtin) : Prop where
  name : arith.name = op.name
  apply : op.apply = arith.apply
  checked : ∀ a b, arith.checked a b = (op.exactly? a b).bind inRange?
  undefined : ∀ a b, op.exactly? a b = none ↔ op = .div ∧ b = 0
  /-- A step with zero never leaves the range. -/
  zero : ∀ a c, fitsInteger a = true → op.exactly? a 0 = some c → fitsInteger c = true
  /-- The fold starts with the identity, if there is one. -/
  start : ∀ numbers seed steps, op.start? numbers = some (seed, steps) →
    arith.identity?.toList ++ numbers = seed :: steps

end Arithmetic

namespace ExactArithmeticLemmas

open Arithmetic

theorem realizes_addition : addition.Realizes .add where
  name := rfl
  apply := rfl
  checked _ _ := rfl
  undefined _ _ := by simp [Builtin.exactly?]
  zero a c fits step := by
    obtain rfl : a + 0 = c := Option.some.inj step
    rwa [Int.add_zero]
  start numbers seed steps given := by
    cases given
    rfl

theorem realizes_subtraction : subtraction.Realizes .sub where
  name := rfl
  apply := rfl
  checked _ _ := rfl
  undefined _ _ := by simp [Builtin.exactly?]
  zero a c fits step := by
    obtain rfl : a - 0 = c := Option.some.inj step
    rwa [Int.sub_zero]
  start numbers seed steps given := by
    cases numbers <;> cases given
    rfl

theorem realizes_multiplication : multiplication.Realizes .mul where
  name := rfl
  apply := rfl
  checked _ _ := rfl
  undefined _ _ := by simp [Builtin.exactly?]
  zero a c _ step := by
    obtain rfl : a * 0 = c := Option.some.inj step
    rw [Int.mul_zero]
    decide +kernel
  start numbers seed steps given := by
    cases given
    rfl

theorem realizes_division : division.Realizes .div where
  name := rfl
  apply := rfl
  checked a b := by
    simp only [division, Builtin.exactly?]
    split <;> rfl
  undefined _ _ := by simp [Builtin.exactly?]
  zero a c _ step := by
    rw [Builtin.exactly?, if_pos rfl] at step
    cases step
  start numbers seed steps given := by
    cases numbers <;> cases given
    rfl

/-- Every builtin that folds its operands applies one of the four operations. -/
theorem exists_realizes {op : Builtin} {numbers steps : List Int} {seed : Int}
    (start : op.start? numbers = some (seed, steps)) : ∃ arith : Arithmetic, arith.Realizes op := by
  cases op with
  | add => exact ⟨_, realizes_addition⟩
  | sub => exact ⟨_, realizes_subtraction⟩
  | mul => exact ⟨_, realizes_multiplication⟩
  | div => exact ⟨_, realizes_division⟩
  | _ => cases start

end ExactArithmeticLemmas

open ExactArithmeticLemmas

namespace Arithmetic

variable {arith : Arithmetic} {op : Builtin}

/-- A step from a total in range is the exact one if that is defined and in range, and it is refused
otherwise. -/
theorem Realizes.step_eq (h : arith.Realizes op) {a b : Int} (fits : fitsInteger a = true) :
    arith.step a b =
      match (op.exactly? a b).bind inRange? with
      | some next => .ok next
      | none => .error (op.refusal b) := by
  rw [step, h.checked, h.name]
  cases inside : (op.exactly? a b).bind inRange? with
  | some next => rfl
  | none =>
    -- The operand is zero exactly if the step is undefined.
    have cause : b = 0 ↔ op = .div ∧ b = 0 := by
      refine ⟨fun isZero => ?_, And.right⟩
      subst isZero
      rw [← h.undefined a 0, Option.eq_none_iff_forall_ne_some]
      intro c step
      rw [step, Option.bind_some, inRange?, if_pos (h.zero a c fits step)] at inside
      cases inside
    dsimp only
    rw [Builtin.refusal, ← apply_ite Except.error]
    congr 2
    exact propext cause

/-! ## 3. Folds -/

/-- What a fold over the steps gives: the exact total if all of them are defined and in range, and
otherwise the refusal of the first step whose total is not. -/
inductive Folds (op : Builtin) (seed : Int) (steps : List Int) : Except Error Int → Prop
  | exact {total : Int} : (∀ k ≤ steps.length, op.FitsAt seed steps k) →
      op.total? seed steps steps.length = some total → Folds op seed steps (.ok total)
  | refused {k : Nat} {n : Int} : steps[k]? = some n → (∀ j ≤ k, op.FitsAt seed steps j) →
      ¬ op.FitsAt seed steps (k + 1) → Folds op seed steps (.error (op.refusal n))

/-- A step in front of a fold. -/
theorem Folds.cons {seed n next : Int} {steps : List Int} {outcome : Except Error Int}
    (fits : fitsInteger seed = true) (step : op.exactly? seed n = some next)
    (h : Folds op next steps outcome) : Folds op seed (n :: steps) outcome := by
  have upTo {k : Nat} (inner : ∀ j ≤ k, op.FitsAt next steps j) :
      ∀ j ≤ k + 1, op.FitsAt seed (n :: steps) j := by
    intro j bound
    cases j with
    | zero => exact Builtin.fitsAt_zero.mpr fits
    | succ j => exact (Builtin.fitsAt_succ step).mpr (inner j (Nat.le_of_succ_le_succ bound))
  cases h with
  | exact inner last =>
    refine .exact (upTo inner) ?_
    rw [List.length_cons, Builtin.total?_succ, step]
    exact last
  | @refused k n' found inner beyond =>
    refine .refused (k := k + 1) ?_ (upTo inner) ?_
    · rwa [List.getElem?_cons_succ]
    · rwa [Builtin.fitsAt_succ step]

/-- Folding integers is exact up to the first bad total. -/
theorem Realizes.folds (h : arith.Realizes op) {seed : Int} (steps : List Int)
    (fits : fitsInteger seed = true) : Folds op seed steps (steps.foldlM arith.step seed) := by
  induction steps generalizing seed with
  | nil =>
    refine .exact (fun k bound => ?_) Builtin.total?_zero
    obtain rfl := Nat.le_zero.mp bound
    exact Builtin.fitsAt_zero.mpr fits
  | cons n rest ih =>
    rw [List.foldlM_cons, h.step_eq fits]
    cases inside : (op.exactly? seed n).bind inRange? with
    | some next =>
      obtain ⟨exact, step, found⟩ := Option.bind_eq_some_iff.mp inside
      obtain ⟨within, same⟩ := Option.ite_none_right_eq_some.mp found
      obtain rfl : exact = next := Option.some.inj same
      exact .cons fits step (ih within)
    | none =>
      refine .refused (k := 0) rfl (fun j bound => ?_) ?_
      · obtain rfl := Nat.le_zero.mp bound
        exact Builtin.fitsAt_zero.mpr fits
      · rintro ⟨total, reached, within⟩
        rw [Builtin.total?_succ] at reached
        obtain ⟨next, step, same⟩ := Option.bind_eq_some_iff.mp reached
        obtain rfl : next = total := Option.some.inj same
        rw [step, Option.bind_some, inRange?, if_pos within] at inside
        cases inside

end Arithmetic

/-! ## 4. Operands -/

/-- The values are written as these integers, which are in range. -/
def WrittenAs (operands : List Value) (numbers : List Int) : Prop :=
  List.Forall₂ (fun v n => Word.Denotes v.text.toList n ∧ fitsInteger n = true) operands numbers

namespace ExactArithmeticLemmas

variable {operands : List Value} {numbers : List Int}

/-- An integer is written in base ten. -/
theorem integerText_eq_toString (n : Int) : integerText n = toString n := by
  cases n with
  | ofNat n =>
    have sign : ¬ (n : Int) < 0 := Int.not_lt.mpr (Int.natCast_nonneg n)
    simp [integerText, signText, toString, Int.repr, sign]
  | negSucc n => simp [integerText, signText, toString, Int.repr]

theorem mapM_ofValue (noDouble : ∀ v ∈ operands, v.tag ≠ .atom .double)
    (written : WrittenAs operands numbers) (op : String) :
    operands.mapM (Number.ofValue op) = .ok (numbers.map .integer) := by
  induction written with
  | nil => rfl
  | cons first _ ih =>
    obtain ⟨this, others⟩ := List.forall_mem_cons.mp noDouble
    rw [List.mapM_cons, ofValue_of_denotes this first.1 first.2, ih others]
    rfl

theorem mapM_toInteger? (numbers : List Int) :
    (numbers.map Number.integer).mapM Number.toInteger? = some numbers := by
  induction numbers with
  | nil => rfl
  | cons n rest ih =>
    rw [List.map_cons, List.mapM_cons, ih]
    rfl

/-- Integers are folded as integers. -/
theorem fold_integers (arith : Arithmetic) (seed : Int) (steps : List Int) :
    arith.fold false ((seed :: steps).map .integer) =
      (steps.foldlM arith.step seed).map Value.ofInt := by
  have integers := mapM_toInteger? (seed :: steps)
  unfold Arithmetic.fold
  rw [List.map_cons] at integers ⊢
  dsimp only
  rw [integers]
  dsimp only
  cases steps.foldlM arith.step seed <;> rfl

/-- A fold starts in range. -/
theorem fits_seed {op : Builtin} {seed : Int} {steps : List Int}
    (written : WrittenAs operands numbers) (start : op.start? numbers = some (seed, steps)) :
    fitsInteger seed = true := by
  cases op with
  | add =>
    cases start
    decide +kernel
  | mul =>
    cases start
    decide +kernel
  | sub | div =>
    cases written with
    | nil => cases start
    | cons first _ =>
      cases start
      exact first.2
  | _ => cases start

/-- A procedure folds operands that are written as integers. -/
theorem apply_eq {arith : Arithmetic} {op : Builtin} (realizes : arith.Realizes op) {seed : Int}
    {steps : List Int} (noDouble : ∀ v ∈ operands, v.tag ≠ .atom .double)
    (written : WrittenAs operands numbers) (start : op.start? numbers = some (seed, steps)) :
    op.apply operands = (steps.foldlM arith.step seed).map Value.ofInt := by
  have seeded : (arith.identity?.map Number.integer).toList ++ numbers.map .integer =
      (seed :: steps).map .integer := by
    rw [← realizes.start _ _ _ start, List.map_append]
    cases arith.identity? <;> rfl
  have single : operands.any (fun v => v.tag = .atom .double) = false := by
    simpa using noDouble
  rw [realizes.apply, Arithmetic.apply, mapM_ofValue noDouble written]
  change arith.fold _ ((arith.identity?.map Number.integer).toList ++ numbers.map .integer) = _
  rw [seeded, single, fold_integers]

end ExactArithmeticLemmas

/-! ## 5. Procedures -/

/-- Without a double, operands that are written as integers in range are added, subtracted,
multiplied and divided exactly, from left to right. If every total is defined and in range, the
result is the last one, in base ten. Otherwise the first step whose total is not is refused: as a
division by zero if it is one, and as an overflow in all other cases. -/
theorem exact_or_refused {op : Builtin} {operands : List Value} {numbers steps : List Int}
    {seed : Int} (noDouble : ∀ v ∈ operands, v.tag ≠ .atom .double)
    (written : WrittenAs operands numbers) (start : op.start? numbers = some (seed, steps)) :
    (∃ total, (∀ k ≤ steps.length, op.FitsAt seed steps k) ∧
      op.total? seed steps steps.length = some total ∧
      op.apply operands = .ok (.integer (toString total))) ∨
    ∃ k n, steps[k]? = some n ∧ (∀ j ≤ k, op.FitsAt seed steps j) ∧
      ¬ op.FitsAt seed steps (k + 1) ∧
      op.apply operands =
        .error (if op = .div ∧ n = 0 then .divisionByZero op.name else .overflow op.name) := by
  obtain ⟨arith, realizes⟩ := exists_realizes start
  have folds := realizes.folds steps (fits_seed written start)
  rw [apply_eq realizes noDouble written start]
  generalize steps.foldlM arith.step seed = outcome at folds
  cases folds with
  | @exact total inside last =>
    refine .inl ⟨total, inside, last, ?_⟩
    rw [← integerText_eq_toString]
    rfl
  | @refused k n found inside beyond => exact .inr ⟨k, n, found, inside, beyond, rfl⟩

/-- The smallest integer divided by one and by minus one, seven divided by zero, and a quotient that
is rounded toward zero. -/
theorem exact_or_refused_quotients :
    let smallest := [Value.integer "-9223372036854775808", .string "+1", .symbol "-1"]
    let undefined := [Value.integer "7", .integer "-0"]
    let rounded := [Value.integer "-7", .string "002"]
    ((∀ operands ∈ [smallest, undefined, rounded], ∀ v ∈ operands, v.tag ≠ .atom .double) ∧
      WrittenAs smallest [-9223372036854775808, 1, -1] ∧ WrittenAs undefined [7, 0] ∧
      WrittenAs rounded [-7, 2]) ∧
    Builtin.div.apply smallest = .error (.overflow "/") ∧
    Builtin.div.apply undefined = .error (.divisionByZero "/") ∧
    Builtin.div.apply rounded = .ok (.integer "-3") := by
  intro smallest undefined rounded
  have read {v : Value} {n : Int} (found : readInteger v.text = .value n) :=
    readInteger_eq_value_iff.mp found
  have start (first : Int) (rest : List Int) :
      Builtin.div.start? (first :: rest) = some (first, rest) := rfl
  have noDouble : ∀ operands ∈ [smallest, undefined, rounded],
      ∀ v ∈ operands, v.tag ≠ .atom .double := by decide
  have writtenSmallest : WrittenAs smallest [-9223372036854775808, 1, -1] :=
    .cons (read (by decide +kernel)) <| .cons (read (by decide +kernel)) <|
      .cons (read (by decide +kernel)) .nil
  have writtenUndefined : WrittenAs undefined [7, 0] :=
    .cons (read (by decide +kernel)) <| .cons (read (by decide +kernel)) .nil
  have writtenRounded : WrittenAs rounded [-7, 2] :=
    .cons (read (by decide +kernel)) <| .cons (read (by decide +kernel)) .nil
  refine ⟨⟨noDouble, writtenSmallest, writtenUndefined, writtenRounded⟩, ?_, ?_, ?_⟩
  · rcases exact_or_refused (noDouble smallest (by simp)) writtenSmallest (start _ _) with
      ⟨total, fits, -⟩ | ⟨k, n, found, -, -, given⟩
    · exact absurd (fits 2 (by decide)) (by decide +kernel)
    · rw [given, if_neg]
      · rfl
      · rintro ⟨-, rfl⟩
        exact absurd (List.mem_of_getElem? found) (by decide)
  · rcases exact_or_refused (noDouble undefined (by simp)) writtenUndefined (start _ _) with
      ⟨total, fits, -⟩ | ⟨k, n, found, -, -, given⟩
    · exact absurd (fits 1 (by decide)) (by decide +kernel)
    · rw [given, if_pos ⟨rfl, List.mem_singleton.mp (List.mem_of_getElem? found)⟩]
      rfl
  · rcases exact_or_refused (noDouble rounded (by simp)) writtenRounded (start _ _) with
      ⟨total, -, last, given⟩ | ⟨k, n, found, -, beyond, -⟩
    · have quotient : Builtin.div.total? (-7) [2] 1 = some (-3) := by decide +kernel
      obtain rfl : -3 = total := Option.some.inj (quotient.symm.trans last)
      exact given
    · obtain ⟨bound, -⟩ := List.getElem?_eq_some_iff.mp found
      obtain rfl := Nat.lt_one_iff.mp bound
      exact absurd (by decide +kernel) beyond

end ListScript
