import ListScript.Proofs.Operands

/-!
# How comparisons end

A comparison reads its first operand. Then it reads the others one by one, and compares each with
the first as soon as it is read. The first one that is read and does not stand in the relation ends
the work with false, and the first one that cannot be read ends it with an error. So an operand that
cannot be read is refused unless one that is not related stands before it and masks it. Only there
the order of the operands makes a difference.

Results:
1. `Comparison.Realizes.compares`: what a comparison finds, going from operand to operand.
2. `comparison_outcome`: what it gives, by what can be read and what is related.
3. `comparison_outcome_masked`: an operand that is not even read.
-/

namespace ListScript

/-! ## 1. Relations between numbers -/

namespace Number

/-- The first number is less than the second. Two integers are compared exactly and all others as
doubles. -/
def Less : Number → Number → Prop
  | .integer a, .integer b => a < b
  | a, b => a.toFloat < b.toFloat

/-- The first number is less than the second or equal to it. -/
def AtMost : Number → Number → Prop
  | .integer a, .integer b => a ≤ b
  | a, b => a.toFloat ≤ b.toFloat

end Number

namespace Builtin

/-- The builtins that compare their first operand with the others. -/
def isComparison : Builtin → Bool
  | .gt | .lt | .le | .ge => true
  | _ => false

/-- The relation in which the first operand of a comparison should stand to another. -/
def Relates : Builtin → Number → Number → Prop
  | .gt, a, b => b.Less a
  | .lt, a, b => a.Less b
  | .le, a, b => a.AtMost b
  | .ge, a, b => b.AtMost a
  | _, _, _ => False

end Builtin

/-- A comparison is what a builtin applies, and it accepts what stands in the builtin's relation. -/
structure Comparison.Realizes (comp : Comparison) (op : Builtin) : Prop where
  name : comp.name = op.name
  apply : op.apply = comp.apply
  holds : ∀ a b, comp.holds a b = true ↔ op.Relates a b

namespace ComparisonLemmas

open Float.Model

/-- How two doubles compare. Nothing compares with what is not a number. -/
def floatOrder (x y : Float) : Option Ordering :=
  x.toModel.unpack.compare y.toModel.unpack

theorem compare_unpacked (a b : UnpackedFloat) :
    b.compare a = (a.compare b).map Ordering.swap := by
  have signs (s t : UnpackedFloat.Sign) : compare t s = (compare s t).swap := by
    cases s <;> cases t <;> rfl
  have integers (m n : Int) : compare n m = (compare m n).swap := Std.OrientedCmp.eq_swap
  have naturals (m n : Nat) : compare n m = (compare m n).swap := Std.OrientedCmp.eq_swap
  cases a with
  | notANumber => cases b <;> rfl
  | infinity s =>
    cases b with
    | infinity t => exact congrArg some (signs s t)
    | _ => cases s <;> rfl
  | zero s =>
    cases b with
    | infinity t => cases t <;> rfl
    | finite t => cases t <;> rfl
    | _ => rfl
  | finite s m e =>
    cases b with
    | infinity t => cases t <;> rfl
    | finite t n f =>
      have sizes : (compare f e).then (compare n m) =
          ((compare e f).then (compare m n)).swap := by
        rw [integers e f, naturals m n, Ordering.swap_then]
      cases s with
      | positive =>
        cases t with
        | positive => exact congrArg some sizes
        | negative => rfl
      | negative =>
        cases t with
        | positive => rfl
        | negative => exact congrArg (fun order => some order.swap) sizes
    | notANumber => rfl
    | zero => cases s <;> rfl

theorem floatOrder_swap (x y : Float) :
    floatOrder y x = (floatOrder x y).map Ordering.swap :=
  compare_unpacked _ _

theorem less_iff (x y : Float) : x < y ↔ floatOrder x y = some .lt := by
  change x.lt y = true ↔ _
  rw [Float.lt, decide_eq_true_iff]
  exact beq_iff_eq

theorem equal_iff (x y : Float) : (x == y) = true ↔ floatOrder x y = some .eq := by
  change (floatOrder x y == some .eq) = true ↔ _
  exact beq_iff_eq

theorem atMost_iff (x y : Float) :
    x ≤ y ↔ floatOrder x y = some .lt ∨ floatOrder x y = some .eq := by
  change x.le y = true ↔ _
  rw [Float.le, decide_eq_true_iff]
  change Option.any _ (floatOrder x y) = true ↔ _
  rcases floatOrder x y with _ | _ | _ | _ <;> decide

/-- Asking for less, equal and greater one after another finds how two doubles compare. -/
theorem compare?_doubles (x y : Float) :
    (if x < y then some Ordering.lt
      else if x == y then some .eq
      else if y < x then some .gt
      else none) = floatOrder x y := by
  simp only [less_iff, equal_iff, floatOrder_swap x y]
  rcases floatOrder x y with _ | _ | _ | _ <;> rfl

/-- Two integers compare as integers, and other numbers as doubles. -/
theorem compare?_cases (a b : Number) :
    (∃ m n, a = .integer m ∧ b = .integer n) ∨
    a.compare? b = floatOrder a.toFloat b.toFloat ∧ (a.Less b ↔ a.toFloat < b.toFloat) ∧
      (a.AtMost b ↔ a.toFloat ≤ b.toFloat) := by
  cases a with
  | integer m =>
    cases b with
    | integer n => exact .inl ⟨m, n, rfl, rfl⟩
    | double y => exact .inr ⟨compare?_doubles _ _, .rfl, .rfl⟩
  | double x => exact .inr ⟨by cases b <;> exact compare?_doubles _ _, .rfl, .rfl⟩

theorem compare?_swap (a b : Number) : b.compare? a = (a.compare? b).map Ordering.swap := by
  rcases compare?_cases a b with ⟨m, n, rfl, rfl⟩ | ⟨same, -⟩
  · exact congrArg some Std.OrientedCmp.eq_swap
  · rcases compare?_cases b a with ⟨m, n, rfl, rfl⟩ | ⟨same', -⟩
    · exact congrArg some Std.OrientedCmp.eq_swap
    · rw [same, same', floatOrder_swap]

theorem compare?_eq_lt_iff (a b : Number) : a.compare? b = some .lt ↔ a.Less b := by
  rcases compare?_cases a b with ⟨m, n, rfl, rfl⟩ | ⟨same, less, -⟩
  · simp [Number.compare?, Number.Less, Int.compare_eq_lt]
  · rw [same, less, less_iff]

theorem compare?_isLE_iff (a b : Number) :
    a.compare? b = some .lt ∨ a.compare? b = some .eq ↔ a.AtMost b := by
  rcases compare?_cases a b with ⟨m, n, rfl, rfl⟩ | ⟨same, -, atMost⟩
  · simp [Number.compare?, Number.AtMost, Int.compare_eq_lt, Int.le_iff_lt_or_eq]
  · rw [same, atMost, atMost_iff]

theorem holds_iff {comp : Comparison} {a b : Number} :
    comp.holds a b = true ↔ ∃ order, a.compare? b = some order ∧ comp.accepts order = true := by
  unfold Comparison.holds
  cases a.compare? b <;> simp

open Comparison

theorem realizes_less : less.Realizes .lt where
  name := rfl
  apply := rfl
  holds a b := by
    rw [holds_iff, Builtin.Relates, ← compare?_eq_lt_iff]
    simp [less]

theorem realizes_greater : greater.Realizes .gt where
  name := rfl
  apply := rfl
  holds a b := by
    rw [holds_iff, Builtin.Relates, ← compare?_eq_lt_iff, compare?_swap a b]
    rcases a.compare? b with _ | _ | _ | _ <;> decide

theorem realizes_atMost : atMost.Realizes .le where
  name := rfl
  apply := rfl
  holds a b := by
    rw [holds_iff, Builtin.Relates, ← compare?_isLE_iff]
    rcases a.compare? b with _ | _ | _ | _ <;> decide

theorem realizes_atLeast : atLeast.Realizes .ge where
  name := rfl
  apply := rfl
  holds a b := by
    rw [holds_iff, Builtin.Relates, ← compare?_isLE_iff, compare?_swap a b]
    rcases a.compare? b with _ | _ | _ | _ <;> decide

/-- Every builtin that compares applies one of the four comparisons. -/
theorem exists_realizes_comparison {op : Builtin} (compares : op.isComparison = true) :
    ∃ comp : Comparison, comp.Realizes op := by
  cases op with
  | gt => exact ⟨_, realizes_greater⟩
  | lt => exact ⟨_, realizes_less⟩
  | le => exact ⟨_, realizes_atMost⟩
  | ge => exact ⟨_, realizes_atLeast⟩
  | _ => cases compares

end ComparisonLemmas

open ComparisonLemmas

/-! ## 2. From operand to operand -/

namespace Builtin

/-- The operand can be read. -/
def Reads (op : Builtin) (v : Value) : Prop :=
  ∃ n, Number.ofValue op.name v = .ok n

/-- The operand is read, and the first one stands in the relation to it. -/
def Accepts (op : Builtin) (first : Number) (v : Value) : Prop :=
  ∃ n, Number.ofValue op.name v = .ok n ∧ op.Relates first n

/-- The operand is read, and the first one does not stand in the relation to it. -/
def Declines (op : Builtin) (first : Number) (v : Value) : Prop :=
  ∃ n, Number.ofValue op.name v = .ok n ∧ ¬ op.Relates first n

/-- An operand that cannot be read stands behind one that is read and not related, and none stands
before that one. -/
def Masked (op : Builtin) (first : Value) (rest : List Value) : Prop :=
  ∃ n before v after, Number.ofValue op.name first = .ok n ∧ rest = before ++ v :: after ∧
    (∀ u ∈ before, op.Reads u) ∧ op.Declines n v ∧ ∃ u ∈ after, ¬ op.Reads u

/-- What comparing finds: all operands are related, or the first one that is not is read and
declined, or it cannot be read. -/
inductive Compares (op : Builtin) (first : Number) : List Value → Except Error Bool → Prop
  | holds {rest : List Value} (all : ∀ u ∈ rest, op.Accepts first u) :
      Compares op first rest (.ok true)
  | fails {before after : List Value} {v : Value} (earlier : ∀ u ∈ before, op.Accepts first u)
      (declined : op.Declines first v) : Compares op first (before ++ v :: after) (.ok false)
  | refused {before after : List Value} {v : Value} {e : Error}
      (earlier : ∀ u ∈ before, op.Accepts first u) (unread : Number.ofValue op.name v = .error e) :
      Compares op first (before ++ v :: after) (.error e)

section Operands

variable {op : Builtin} {first : Number} {v : Value} {rest : List Value}

theorem Accepts.reads (h : op.Accepts first v) : op.Reads v :=
  h.imp fun _ => And.left

theorem Declines.reads (h : op.Declines first v) : op.Reads v :=
  h.imp fun _ => And.left

theorem not_reads_of_error {e : Error} (unread : Number.ofValue op.name v = .error e) :
    ¬ op.Reads v := by
  rintro ⟨n, read⟩
  cases unread.symm.trans read

/-- One more operand in front that is accepted. -/
theorem Compares.cons {outcome : Except Error Bool} (accepted : op.Accepts first v)
    (h : Compares op first rest outcome) : Compares op first (v :: rest) outcome := by
  cases h with
  | holds all => exact .holds (List.forall_mem_cons.mpr ⟨accepted, all⟩)
  | @fails before after u earlier declined =>
    exact @fails op first (v :: before) after u (List.forall_mem_cons.mpr ⟨accepted, earlier⟩)
      declined
  | @refused before after u e earlier unread =>
    exact @refused op first (v :: before) after u e
      (List.forall_mem_cons.mpr ⟨accepted, earlier⟩) unread

end Operands

end Builtin

namespace Comparison.Realizes

variable {comp : Comparison} {op : Builtin}

/-- One more operand. -/
theorem against_cons (h : comp.Realizes op) {first n : Number} {v : Value} {rest : List Value}
    (read : Number.ofValue op.name v = .ok n) :
    (op.Relates first n → comp.against first (v :: rest) = comp.against first rest) ∧
    (¬ op.Relates first n → comp.against first (v :: rest) = .ok false) := by
  rw [against, h.name, read, ← h.holds]
  exact ⟨fun holds => if_pos holds, fun fails => if_neg fails⟩

/-- A comparison goes on as long as operands are read and related. -/
theorem compares (h : comp.Realizes op) (first : Number) (rest : List Value) :
    op.Compares first rest (comp.against first rest) := by
  induction rest with
  | nil => exact .holds fun _ mem => absurd mem List.not_mem_nil
  | cons v rest ih =>
    have none : ∀ u ∈ ([] : List Value), op.Accepts first u :=
      fun _ mem => absurd mem List.not_mem_nil
    cases read : Number.ofValue op.name v with
    | error e =>
      have refused : comp.against first (v :: rest) = .error e := by
        rw [against, h.name, read]
        rfl
      rw [refused]
      exact .refused none read
    | ok n =>
      obtain ⟨goesOn, ends⟩ := h.against_cons read
      by_cases related : op.Relates first n
      · rw [goesOn related]
        exact ih.cons ⟨n, read, related⟩
      · rw [ends related]
        exact .fails none ⟨n, read, related⟩

/-- An operand that is declined ends a comparison with false, unless one before it did already. -/
theorem against_of_declines (h : comp.Realizes op) {first : Number} {before after : List Value}
    {v : Value} (earlier : ∀ u ∈ before, op.Reads u) (declined : op.Declines first v) :
    comp.against first (before ++ v :: after) = .ok false := by
  induction before with
  | nil =>
    obtain ⟨n, read, unrelated⟩ := declined
    exact (h.against_cons read).2 unrelated
  | cons u before ih =>
    obtain ⟨⟨n, read⟩, earlier⟩ := List.forall_mem_cons.mp earlier
    obtain ⟨goesOn, ends⟩ := h.against_cons read
    by_cases related : op.Relates first n
    · exact (goesOn related).trans (ih earlier)
    · exact ends related

/-- A comparison whose first operand is read gives what comparing finds. -/
theorem apply_cons (h : comp.Realizes op) {first : Value} {n : Number} {rest : List Value}
    (read : Number.ofValue op.name first = .ok n) :
    op.apply (first :: rest) = (comp.against n rest).map Value.truth := by
  rw [h.apply, Comparison.apply, h.name, read]
  change comp.against n rest >>= _ = _
  cases comp.against n rest <;> rfl

end Comparison.Realizes

/-! ## 3. What a comparison gives -/

/-- An operand that cannot be read is no number, or it is out of range. -/
theorem error_of_ofValue {op : String} {v : Value} {e : Error}
    (unread : Number.ofValue op v = .error e) :
    e = .notNumber op v.render ∨ e = .operandRange op v.text := by
  unfold Number.ofValue at unread
  dsimp only at unread
  repeat' split at unread
  all_goals cases unread
  · exact .inl rfl
  · exact .inr rfl
  · exact .inl rfl

section Outcome

variable {op : Builtin} {first : Value} {rest : List Value}

/-- A masked operand is not even read. -/
theorem apply_of_masked (compares : op.isComparison = true) (masked : op.Masked first rest) :
    op.apply (first :: rest) = .ok (.truth false) := by
  obtain ⟨comp, realizes⟩ := exists_realizes_comparison compares
  obtain ⟨n, before, v, after, read, rfl, earlier, declined, -⟩ := masked
  rw [realizes.apply_cons read, realizes.against_of_declines earlier declined]
  rfl

/-- An operand that cannot be read and is not masked is refused. -/
theorem apply_of_not_masked (compares : op.isComparison = true) (clear : ¬ op.Masked first rest)
    (unread : ∃ v ∈ first :: rest, ¬ op.Reads v) :
    ∃ v ∈ first :: rest, ∃ e, Number.ofValue op.name v = .error e ∧
      op.apply (first :: rest) = .error e := by
  obtain ⟨comp, realizes⟩ := exists_realizes_comparison compares
  cases read : Number.ofValue op.name first with
  | error e =>
    refine ⟨first, List.mem_cons_self, e, read, ?_⟩
    rw [realizes.apply, Comparison.apply, realizes.name, read]
    rfl
  | ok n =>
    obtain ⟨u, mem, unread⟩ := unread
    have mem : u ∈ rest := by
      rcases List.mem_cons.mp mem with rfl | mem
      · exact absurd ⟨n, read⟩ unread
      · exact mem
    have found := realizes.compares n rest
    rw [realizes.apply_cons read]
    generalize comp.against n rest = outcome at found
    cases found with
    | holds all => exact absurd (all u mem).reads unread
    | @fails before after v earlier declined =>
      refine absurd ⟨n, before, v, after, read, rfl, fun u mem => (earlier u mem).reads, declined,
        u, ?_, unread⟩ clear
      rcases List.mem_append.mp mem with mem | mem
      · exact absurd (earlier u mem).reads unread
      · rcases List.mem_cons.mp mem with rfl | mem
        · exact absurd declined.reads unread
        · exact mem
    | @refused before after v e earlier refused =>
      exact ⟨v, by simp, e, refused, rfl⟩

/-- If all operands are read, the truth is given about their relation to the first. -/
theorem apply_of_reads (compares : op.isComparison = true)
    (read : ∀ v ∈ first :: rest, op.Reads v) :
    ∃ holds : Bool, op.apply (first :: rest) = .ok (.truth holds) ∧
      (holds = true ↔
        ∃ n, Number.ofValue op.name first = .ok n ∧ ∀ v ∈ rest, op.Accepts n v) := by
  obtain ⟨comp, realizes⟩ := exists_realizes_comparison compares
  obtain ⟨⟨n, readFirst⟩, readRest⟩ := List.forall_mem_cons.mp read
  have found := realizes.compares n rest
  rw [realizes.apply_cons readFirst]
  generalize comp.against n rest = outcome at found
  cases found with
  | holds all => exact ⟨true, rfl, fun _ => ⟨n, readFirst, all⟩, fun _ => rfl⟩
  | @fails before after v earlier declined =>
    refine ⟨false, rfl, nofun, ?_⟩
    rintro ⟨n', same, all⟩
    cases readFirst.symm.trans same
    obtain ⟨m, readV, unrelated⟩ := declined
    obtain ⟨m', same', related⟩ := all v (by simp)
    cases readV.symm.trans same'
    exact absurd related unrelated
  | @refused before after v e earlier unread =>
    exact absurd (readRest v (by simp)) (Builtin.not_reads_of_error unread)

end Outcome

/-- What a comparison gives. If no operand is masked, it refuses whatever it cannot read: with such
an operand at any place it gives the error of one, which says that it is no number or out of range.
Without any it gives the truth about whether the first operand stands in the relation to every other
one. Both do not depend on the order of the others, up to the operand that the error is about. If
an operand is masked, the comparison gives false and does not read it. -/
theorem comparison_outcome {op : Builtin} (compares : op.isComparison = true) (first : Value)
    (rest : List Value) :
    let args := first :: rest
    (¬ op.Masked first rest →
      ((∃ v ∈ args, ¬ op.Reads v) → ∃ v ∈ args, ∃ e, Number.ofValue op.name v = .error e ∧
        (e = .notNumber op.name v.render ∨ e = .operandRange op.name v.text) ∧
        op.apply args = .error e) ∧
      ((∀ v ∈ args, op.Reads v) → ∃ holds : Bool, op.apply args = .ok (.truth holds) ∧
        (holds = true ↔
          ∃ n, Number.ofValue op.name first = .ok n ∧ ∀ v ∈ rest, op.Accepts n v)) ∧
      ∀ others, rest.Perm others → ¬ op.Masked first others →
        op.apply (first :: others) = op.apply args ∨
        ∃ e e', op.apply args = .error e ∧ op.apply (first :: others) = .error e') ∧
    (op.Masked first rest → op.apply args = .ok (.truth false)) := by
  intro args
  refine ⟨fun clear => ⟨fun unread => ?_, apply_of_reads compares, fun others perm clear' => ?_⟩,
    apply_of_masked compares⟩
  · obtain ⟨v, mem, e, refused, given⟩ := apply_of_not_masked compares clear unread
    exact ⟨v, mem, e, refused, error_of_ofValue refused, given⟩
  · have same : ∀ v, v ∈ first :: others ↔ v ∈ args := fun v => (perm.symm.cons first).mem_iff
    by_cases read : ∀ v ∈ args, op.Reads v
    · obtain ⟨holds, given, truth⟩ := apply_of_reads compares read
      obtain ⟨holds', given', truth'⟩ :=
        apply_of_reads compares fun v mem => read v ((same v).mp mem)
      have agree : holds' = true ↔ holds = true := by
        rw [truth, truth']
        simp only [perm.mem_iff]
      rw [given, given', Bool.eq_iff_iff.mpr agree]
      exact .inl rfl
    · obtain ⟨u, mem, unread⟩ : ∃ u ∈ args, ¬ op.Reads u := by
        simpa only [not_forall, exists_prop] using read
      obtain ⟨-, -, e, -, given⟩ := apply_of_not_masked compares clear ⟨u, mem, unread⟩
      obtain ⟨-, -, e', -, given'⟩ :=
        apply_of_not_masked compares clear' ⟨u, (same u).mpr mem, unread⟩
      exact .inr ⟨e, e', given, given'⟩

/-- The symbol stands between an operand that is related and one that is not. In another order it is
masked. -/
theorem comparison_outcome_reached :
    let first := Value.integer "2"
    let rest := [Value.string "2", .symbol "x", .integer "1"]
    let others := [Value.string "2", .integer "1", .symbol "x"]
    (Builtin.le.isComparison = true ∧ ¬ Builtin.le.Masked first rest ∧
      Builtin.le.Masked first others) ∧
    (∃ e, Builtin.le.apply (first :: rest) = .error e) ∧
    Builtin.le.apply (first :: others) = .ok (.truth false) := by
  intro first rest others
  have compares : Builtin.le.isComparison = true := rfl
  have readFirst : Number.ofValue Builtin.le.name (.integer "2") = .ok (.integer 2) := rfl
  have two : Builtin.le.Accepts (.integer 2) (.string "2") := ⟨.integer 2, rfl, Int.le_refl 2⟩
  have one : Builtin.le.Declines (.integer 2) (.integer "1") :=
    ⟨.integer 1, rfl, Int.not_le.mpr (Int.lt_succ 1)⟩
  have unread : ¬ Builtin.le.Reads (.symbol "x") := Builtin.not_reads_of_error rfl
  have clear : ¬ Builtin.le.Masked first rest := by
    rintro ⟨n, before, v, after, read, split, earlier, declined, -⟩
    have split : [Value.string "2", .symbol "x", .integer "1"] = before ++ v :: after := split
    cases readFirst.symm.trans read
    match before with
    | [] =>
      cases split
      obtain ⟨m, readTwo, related⟩ := two
      obtain ⟨m', readTwo', unrelated⟩ := declined
      cases readTwo.symm.trans readTwo'
      exact unrelated related
    | [_] =>
      cases split
      exact unread declined.reads
    | _ :: _ :: _ =>
      simp only [List.cons_append, List.cons.injEq] at split
      obtain ⟨-, rfl, -⟩ := split
      exact unread (earlier _ (by simp))
  have masked : Builtin.le.Masked first others :=
    ⟨.integer 2, [.string "2"], .integer "1", [.symbol "x"], readFirst, rfl,
      by simpa using two.reads, one, .symbol "x", by simp, unread⟩
  obtain ⟨-, -, e, -, -, given⟩ :=
    ((comparison_outcome compares first rest).1 clear).1 ⟨.symbol "x", by simp [rest], unread⟩
  exact ⟨⟨compares, clear, masked⟩, ⟨e, given⟩, (comparison_outcome compares first others).2 masked⟩

/-- A string that is no number is refused in the second place, and behind a number that is not
related it is not read. -/
theorem comparison_outcome_masked :
    let x := Value.string "x"
    Number.ofValue ">" x = .error (.notNumber ">" "x") ∧
    Builtin.gt.apply [.integer "1", x, .integer "2"] = .error (.notNumber ">" "x") ∧
    Builtin.gt.apply [.integer "1", .integer "2", x] = .ok (.truth false) :=
  ⟨rfl, rfl, rfl⟩

end ListScript
