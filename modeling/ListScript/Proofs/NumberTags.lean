import ListScript.Proofs.Observance
import ListScript.Proofs.Spelling

/-!
# Number tags

A number is a text that is read again by everyone who needs it. Reading it is safe because its kind
can be trusted: what is read from a source is spelled as its kind says, so is what builtins write,
and evaluation only passes values on. So this holds of every value in a session, wherever it is
bound and in whatever list or body it stands, unless the host hands over something else.

Results:
1. `generated_spelled`, `spelling_lawful`: what is read and computed is spelled as its kind says.
2. `after_spelled`: so is every value in a session, at the end of every run.
3. `converts_apply`: what is tagged as a number and so spelled is read as a number.
4. `tags_trusted`: all of this, at every moment.
-/

namespace ListScript

/-! ## 1. Values -/

namespace Value

/-- Every atom in the value is spelled as its kind says. -/
def Spelled (v : Value) : Prop :=
  ∀ kind text, v.Holds kind text → kind.Spells text

theorem spelled_atom {kind : AtomKind} {text : String} :
    (atom kind text).Spelled ↔ kind.Spells text := by
  constructor
  · intro h
    exact h kind text .atom
  · intro h _ _ holds
    cases holds
    exact h

theorem spelled_list {items : List Value} : (list items).Spelled ↔ ∀ v ∈ items, v.Spelled := by
  constructor
  · intro h v mem kind text holds
    exact h kind text (.item mem holds)
  · intro h kind text holds
    cases holds with
    | item mem inner => exact h _ mem kind text inner

theorem spelled_native (name : String) (action : Action) : (native name action).Spelled := by
  intro kind text holds
  cases holds

theorem spelled_lambda {params : List String} {body : Value} {captured : FrameId} :
    (lambda params body captured).Spelled ↔ body.Spelled := by
  constructor
  · intro h kind text holds
    exact h kind text (.body holds)
  · intro h kind text holds
    cases holds with
    | body inner => exact h kind text inner

/-- What is read and what builtins make is spelled as its kind says. -/
theorem generated_spelled : Generated Spelled where
  word word := by
    obtain ⟨kind, text, same⟩ := classify_eq_atom word
    rw [same]
    exact spelled_atom.mpr (spells_of_classify same)
  ofInt n := spelled_atom.mpr (spells_integerText n)
  ofFloat x := spelled_atom.mpr (spells_toPlaces _)
  symbol name := spelled_atom.mpr trivial
  string text := spelled_atom.mpr trivial
  list := spelled_list

end Value

open Value

/-- Every value is spelled as its kind says. -/
def spelling : Contract where
  name _ := True
  form := Value.Spelled
  value := Value.Spelled
  text _ := True

/-- The procedure binds and gives what is spelled as its kind says, if its arguments and the values
that it finds are. -/
def KeepsSpelling (procedure : HostProcedure) : Prop :=
  ∀ args, (∀ arg ∈ args, arg.Spelled) → (procedure args).Observes spelling

/-- All procedures of the host do. -/
def Setting.KeepsSpelling (setting : Setting) : Prop :=
  ∀ procedure ∈ setting.procedures, ListScript.KeepsSpelling procedure

theorem spelling_lawful {setting : Setting} : spelling.Lawful setting where
  nil := generated_spelled.symbol "nil"
  truth b := generated_spelled.symbol _
  items := spelled_list.mp
  lambda := spelled_lambda
  data := id
  symbol _ := trivial
  call _ := spelled_list.mp
  special _ _ _ h v mem := spelled_list.mp h v (.tail _ mem)
  body _ h := spelled_list.mp h _ (by simp)
  builtin := generated_spelled.of_apply
  read _ := generated_spelled.of_readAll
  file _ _ _ := trivial

/-! ## 2. Sessions -/

/-- What a host hands to an operation is spelled as its kind says. -/
def Operation.Spelled : Operation → Prop
  | .eval _ form => form.Spelled
  | .apply procedure args => procedure.Spelled ∧ ∀ arg ∈ args, arg.Spelled
  | _ => True

/-- What a host hands to a session is spelled as its kind says. A source text is never at fault. -/
def Step.Spelled : Step → Prop
  | .operation op => op.Spelled
  | .arrange change => ∀ setting : Setting, setting.KeepsSpelling → (change setting).KeepsSpelling
  | .register _ procedure => KeepsSpelling procedure
  | .newFrame _ _ args => ∀ arg ∈ args, arg.Spelled
  | .define _ _ v => v.Spelled
  | .assign _ _ v => v.Spelled
  | _ => True

/-- Every value that a frame binds is spelled as its kind says. -/
def Scopes.Spelled (s : Scopes) : Prop :=
  ∀ id name v, (s.bindings id).find? name = some v → v.Spelled

/-- The values that the session holds are spelled as their kinds say, and its host keeps them so. -/
structure Session.Spelled (s : Session) : Prop where
  bound : s.store.scopes.Spelled
  hosts : s.setting.KeepsSpelling

namespace NumberTagsLemmas

theorem bound_spelling {s : Scopes} : spelling.Bound s ↔ s.Spelled :=
  ⟨fun h id name v => h id name v trivial, fun h id name v _ => h id name v⟩

theorem spelled_define {s : Scopes} (h : s.Spelled) {scope : FrameId} {name : String} {v : Value}
    (hv : v.Spelled) : (s.define scope name v).Spelled :=
  bound_spelling.mp ((bound_spelling.mpr h).define fun _ => hv)

theorem admits_spelling {s : Session} {op : Operation} (h : op.Spelled) :
    spelling.Admits (fun _ => True) s op := by
  refine ⟨fun _ _ => trivial, ?_⟩
  cases op with
  | eval scope form => exact ⟨trivial, h⟩
  | apply procedure args => exact h
  | _ => trivial

end NumberTagsLemmas

open NumberTagsLemmas

theorem step_spelled {s : Session} (h : s.Spelled) {step : Step} (handed : step.Spelled) :
    (s.step step).Spelled := by
  obtain ⟨bound, hosts⟩ := h
  cases step with
  | operation op =>
    obtain ⟨trace, outcome, run⟩ := s.exists_performs op
    obtain ⟨kept, -⟩ :=
      run.observes spelling_lawful (Contract.hosts_of_observes hosts) (bound_spelling.mpr bound)
        (admits_spelling handed)
    refine ⟨bound_spelling.mp kept, ?_⟩
    rw [Session.step, Session.setting_perform]
    exact hosts
  | reset => exact ⟨bound, hosts⟩
  | listen reporting => exact ⟨bound, hosts⟩
  | arrange change => exact ⟨bound, handed _ hosts⟩
  | redirect sink => exact ⟨bound, hosts⟩
  | register name procedure =>
    refine ⟨spelled_define bound (spelled_native _ _), fun other mem => ?_⟩
    rcases Array.mem_push.mp mem with old | rfl
    · exact hosts other old
    · exact handed
  | newRoot => exact ⟨bound_spelling.mp (bound_spelling.mpr bound).newRoot, hosts⟩
  | newFrame parent params args =>
    refine ⟨bound_spelling.mp ((bound_spelling.mpr bound).newFrame ?_), hosts⟩
    exact fun name v found => handed v (within_of_find?_ofCall found)
  | define scope name v => exact ⟨spelled_define bound handed, hosts⟩
  | assign scope name v =>
    simp only [Session.step, Scopes.set?]
    cases s.store.scopes.owner? scope name with
    | none => exact ⟨bound, hosts⟩
    | some owner => exact ⟨spelled_define bound handed, hosts⟩
  | clear scope => exact ⟨bound_spelling.mp ((bound_spelling.mpr bound).clear scope), hosts⟩

/-- In every run in which the host hands over what is spelled as its kind says, every value is. -/
theorem after_spelled {s : Session} (h : s.Spelled) {steps : List Step}
    (handed : ∀ step ∈ steps, step.Spelled) : (s.after steps).Spelled := by
  induction steps generalizing s with
  | nil => exact h
  | cons step rest ih =>
    obtain ⟨first, later⟩ := List.forall_mem_cons.mp handed
    exact ih (step_spelled h first) later

theorem new_spelled {setting : Setting} (hosts : setting.KeepsSpelling) :
    (Session.new setting).Spelled := by
  refine Session.new_induction ⟨fun id name v found => ?_, hosts⟩ ?_ ?_
  · rw [Session.bare, Store.initial, Scopes.bindings_newRoot_empty] at found
    cases found
  · intro s name text h
    exact ⟨spelled_define h.bound (generated_spelled.symbol text), h.hosts⟩
  · intro s name shown action h
    exact ⟨spelled_define h.bound (spelled_native shown action), h.hosts⟩

/-! ## 3. Reading numbers -/

/-- The value is tagged as a number. -/
def Value.IsNumber (v : Value) : Prop :=
  v.tag = .atom .integer ∨ v.tag = .atom .double

instance (v : Value) : Decidable v.IsNumber :=
  inferInstanceAs (Decidable (_ ∨ _))

/-- The builtins that read all their operands as numbers. -/
def Builtin.isNumeric : Builtin → Bool
  | .add | .sub | .mul | .div | .gt | .lt | .le | .ge => true
  | _ => false

/-- Something that should be a number cannot be read as one. -/
def Error.isConversion : Error → Bool
  | .notNumber _ _ | .notExitCode _ | .conversion _ => true
  | _ => false

/-- Nothing was found not to be a number. -/
def Converts {α : Type} (outcome : Except Error α) : Prop :=
  ∀ e, outcome = .error e → e.isConversion = false

namespace NumberTagsLemmas

variable {α β : Type}

theorem converts_ok (a : α) : Converts (.ok a) := by
  intro e failed
  cases failed

theorem converts_error {e : Error} (other : e.isConversion = false) :
    Converts (.error e : Except Error α) := by
  intro e' failed
  cases failed
  exact other

theorem converts_bind {first : Except Error α} {next : α → Except Error β}
    (hfirst : Converts first) (hnext : ∀ a, Converts (next a)) : Converts (first >>= next) := by
  intro e failed
  cases first with
  | ok a => exact hnext a e failed
  | error e' =>
    cases failed
    exact hfirst e rfl

theorem converts_mapM {f : α → Except Error β} {as : List α} (each : ∀ a ∈ as, Converts (f a)) :
    Converts (as.mapM f) := by
  induction as with
  | nil => exact converts_ok []
  | cons a rest ih =>
    obtain ⟨first, later⟩ := List.forall_mem_cons.mp each
    rw [List.mapM_cons]
    exact converts_bind first fun b => converts_bind (ih later) fun bs => converts_ok (b :: bs)

theorem converts_foldlM {f : β → α → Except Error β} (each : ∀ b a, Converts (f b a)) (start : β)
    (as : List α) : Converts (as.foldlM f start) := by
  induction as generalizing start with
  | nil => exact converts_ok start
  | cons a rest ih =>
    rw [List.foldlM_cons]
    exact converts_bind (each start a) ih

end NumberTagsLemmas

open NumberTagsLemmas

/-- A number that is spelled as its kind says is read. -/
theorem converts_ofValue (op : String) {v : Value} (spelled : v.Spelled) (number : v.IsNumber) :
    Converts (Number.ofValue op v) := by
  cases v with
  | atom kind text =>
    have spells : kind.Spells text := spelled_atom.mp spelled
    cases kind with
    | integer =>
      have notDouble : (integer text).tag ≠ .atom .double := by simp [tag]
      rw [Number.ofValue, if_neg notDouble]
      cases read : readInteger (integer text).text with
      | value n => exact converts_ok _
      | outOfRange => exact converts_error rfl
      | notInteger => exact absurd read (readInteger_ne_notInteger spells)
    | double =>
      obtain ⟨x, read⟩ := Option.isSome_iff_exists.mp (isSome_readDecimal spells)
      have isDouble : (double text).tag = .atom .double := rfl
      have read : readDecimal (double text).text = some x := read
      rw [Number.ofValue, if_pos isDouble, read]
      exact converts_ok _
    | symbol => rcases number with same | same <;> cases same
    | string => rcases number with same | same <;> cases same
  | list items => rcases number with same | same <;> cases same
  | native name action => rcases number with same | same <;> cases same
  | lambda params body captured => rcases number with same | same <;> cases same

/-- What numbers are folded to may leave a range, but it is never a text that has to be read. -/
theorem converts_fold (op : Arithmetic) (doubled : Bool) (numbers : List Number) :
    Converts (op.fold doubled numbers) := by
  have step (total n : Int) : Converts (op.step total n) := by
    unfold Arithmetic.step
    split
    · exact converts_ok _
    · split <;> exact converts_error rfl
  have rounded (x : Float) : Converts (op.toIntegerValue x) := by
    unfold Arithmetic.toIntegerValue
    dsimp only
    split
    · split
      · exact converts_ok _
      · exact converts_error rfl
    · exact converts_error rfl
  unfold Arithmetic.fold
  split
  · exact converts_error rfl
  · split
    · exact converts_bind (converts_foldlM step _ _) fun total => converts_ok _
    · split
      · exact converts_ok _
      · exact rounded _

section Operands

variable {args : List Value} (each : ∀ arg ∈ args, arg.Spelled ∧ arg.IsNumber)

include each

theorem converts_arithmetic (op : Arithmetic) : Converts (op.apply args) :=
  converts_bind
    (converts_mapM fun arg mem => converts_ofValue op.name (each arg mem).1 (each arg mem).2)
    fun _ => converts_fold op _ _

theorem converts_against (op : Comparison) (first : Number) : Converts (op.against first args) := by
  induction args with
  | nil => exact converts_ok true
  | cons v rest ih =>
    obtain ⟨⟨spelled, number⟩, later⟩ := List.forall_mem_cons.mp each
    refine converts_bind (converts_ofValue op.name spelled number) fun other => ?_
    split
    · exact ih later
    · exact converts_ok false

theorem converts_comparison (op : Comparison) : Converts (op.apply args) := by
  cases args with
  | nil => exact converts_error rfl
  | cons v rest =>
    obtain ⟨⟨spelled, number⟩, later⟩ := List.forall_mem_cons.mp each
    refine converts_bind (converts_ofValue op.name spelled number) fun first => ?_
    exact converts_bind (converts_against later op first) fun _ => converts_ok _

/-- Arithmetic and comparisons read all their operands, if these are tagged as numbers and spelled
as such. -/
theorem converts_apply {op : Builtin} (numeric : op.isNumeric = true) :
    Converts (op.apply args) := by
  cases op with
  | add | sub | mul | div => exact converts_arithmetic each _
  | gt | lt | le | ge => exact converts_comparison each _
  | _ => cases numeric

end Operands

/-! ## 4. Every moment -/

/-- What can be seen of values at a moment: what frames bind, what is evaluated, what procedures are
called with, and what evaluations give. -/
structure Moment.Trusts (setting : Setting) (base : Nat) (trace : List Moment) (m : Moment) :
    Prop where
  bound : m.store.scopes.Spelled
  form : ∀ scope form, m.event = .begins (.eval scope form) → form.Spelled
  args : ∀ action args, m.event = .begins (.native action args) → ∀ arg ∈ args, arg.Spelled
  value : ∀ scope form, m.event = .ends (.eval scope form) → ∃ v,
    m.Concludes setting base trace (.eval scope form) (.ok v m.store) ∧ v.Spelled
  /-- Arithmetic and comparisons do not fail to read what is tagged as a number. -/
  converts : ∀ (op : Builtin) args e, m.event = .fails (.native (.builtin op) args) e →
    op.isNumeric = true → (∀ arg ∈ args, arg.IsNumber) → e.isConversion = false

theorem trusts_of_observed {s : Session} {op : Operation} {trace : List Moment}
    {outcome : Outcome Answer} (run : s.Performs op trace outcome)
    (observed : ∀ m ∈ trace, spelling.Observed s.setting (Session.depthOf op) trace m) {m : Moment}
    (mem : m ∈ trace) : m.Trusts s.setting (Session.depthOf op) trace := by
  have here := observed m mem
  refine ⟨bound_spelling.mp here.bound, ?_, ?_, ?_, ?_⟩
  · intro scope form begins
    exact (here.begins _ begins).2
  · intro action args begins
    exact here.begins _ begins
  · intro scope form ends
    exact here.ends _ ends
  · intro op' args e fails numeric numbers
    obtain ⟨start, occurs, begins, -, concludes⟩ := (run.explained mem).fails _ e fails
    have spelled : ∀ arg ∈ args, arg.Spelled := (observed start occurs).begins _ begins
    have acted : Eval.ofExcept (op'.apply args) start.store = .error e m.store :=
      concludes (fun _ => throw .moduleNesting) _ (Nat.lt_succ_self _)
    cases given : op'.apply args with
    | ok v =>
      rw [given] at acted
      cases acted
    | error e' =>
      rw [given] at acted
      obtain ⟨rfl, -⟩ := EStateM.Result.error.inj acted
      have each : ∀ arg ∈ args, arg.Spelled ∧ arg.IsNumber :=
        fun arg mem => ⟨spelled arg mem, numbers arg mem⟩
      exact converts_apply each numeric _ given

/-- Number tags can be trusted. Take a new session and any run in which the host hands over nothing
but what is spelled as its kind says. A host that only has the session read texts hands over nothing
at all. Every integer atom and every double atom, at any depth of a value, is then spelled as its
kind says: in what frames bind after the run, in what a further operation gives, and at every moment
of it in what frames bind, what is evaluated, what procedures are called with and what evaluations
give. So arithmetic and comparisons never fail to read arguments that are all tagged as numbers. -/
theorem tags_trusted (setting : Setting) (hosts : setting.KeepsSpelling) (steps : List Step)
    (handed : ∀ step ∈ steps, step.Spelled) :
    let s := (Session.new setting).after steps
    s.store.scopes.Spelled ∧
    (∀ op : Operation, op.Spelled →
      (∀ v, (s.perform op).1 = .ok (.value v) → v.Spelled) ∧
      ∀ trace outcome, s.Performs op trace outcome →
        ∀ m ∈ trace, m.Trusts s.setting (Session.depthOf op) trace) ∧
    ∀ (op : Builtin) args, op.isNumeric = true → (∀ arg ∈ args, arg.Spelled ∧ arg.IsNumber) →
      ∀ e, op.apply args = .error e → e.isConversion = false := by
  intro s
  obtain ⟨bound, hosts⟩ := after_spelled (new_spelled hosts) handed
  refine ⟨bound, ?_, ?_⟩
  · intro op spelled
    have observes {trace : List Moment} {outcome : Outcome Answer}
        (run : s.Performs op trace outcome) :=
      run.observes spelling_lawful (Contract.hosts_of_observes hosts) (bound_spelling.mpr bound)
        (admits_spelling spelled)
    constructor
    · intro v given
      obtain ⟨trace, outcome, run⟩ := s.exists_performs op
      obtain ⟨-, gives, -⟩ := observes run
      exact gives _ given
    · intro trace outcome run m mem
      obtain ⟨-, -, observed⟩ := observes run
      exact trusts_of_observed run observed mem
  · intro op args numeric each
    exact converts_apply each numeric

/-- A module that binds a double. -/
def doubleModule : Setting where
  files := FileTree.write {} "m" (.file (some "(define d -1.50)"))

/-- The module is imported. Then a lambda is bound whose body has numbers, and a quotient that is
passed through it and a list. -/
def quotients : List Step :=
  [.operation (.feed "(import \"m\")" false),
    .operation (.feed "(define f (lambda (x) (list x .5 +07)))" false),
    .operation (.feed "(define k (car (f (/ -7 2))))" true)]

/-- The quotient is bound as an integer and the double as it was read, and their tags can be
trusted. -/
theorem tags_trusted_quotients :
    (doubleModule.KeepsSpelling ∧ ∀ step ∈ quotients, step.Spelled) ∧
      (((Session.new doubleModule).after quotients).bindings.filterMap fun (name, v) =>
        if v.IsNumber then some (name, v.tag.name, v.text) else none) =
        [("d", "double", "-1.50"), ("k", "integer", "-3")] ∧
      ((Session.new doubleModule).after quotients).store.scopes.Spelled ∧
      ∀ e, Builtin.lt.apply [.integer "-3", .double "-1.50"] = .error e →
        e.isConversion = false := by
  have hosts : doubleModule.KeepsSpelling := by simp [Setting.KeepsSpelling, doubleModule]
  have handed : ∀ step ∈ quotients, step.Spelled := by
    simp [quotients, Step.Spelled, Operation.Spelled]
  obtain ⟨bound, -, converts⟩ := tags_trusted doubleModule hosts quotients handed
  refine ⟨⟨hosts, handed⟩, by decide +kernel, bound, converts .lt _ rfl ?_⟩
  simp only [List.forall_mem_cons, List.not_mem_nil, false_implies, implies_true, and_true]
  refine ⟨⟨spelled_atom.mpr ?_, .inl rfl⟩, spelled_atom.mpr (.inl ?_), .inr rfl⟩
  · exact ⟨['-'], ['3'], rfl, .minus, by decide, by decide⟩
  · exact ⟨['-'], ['1'], ['5', '0'], rfl, .minus, by decide, by decide, by decide⟩

end ListScript
