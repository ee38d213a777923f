import ListScript.Proofs.Observance

/-!
# Names that are not used

A form uses a name where its evaluation may look the name up or write to it. Quoted data uses no
name, and neither does the head of a special form. A lambda uses what its body uses, wherever the
lambda stands.

What a name is bound to makes no difference to an evaluation that does not use it. The plan of the
evaluation is the same either way, and everything that it asks for has the same answer. So there is
no way to override a special form: its name is never looked up.

Results:
1. `sparing_lawful`: not using a name is a lawful contract.
2. `Runs.transfer`: a run in which a name is not used is a run whatever the name is bound to.
3. `perform_ignores_unused`: the same for operations.
-/

namespace ListScript

open Plan Value

/-! ## 1. Uses -/

/-- Where a value stands: where it would be evaluated, or where it is only handed on. -/
inductive Place where
  | code
  | data

/-- The value, standing in a place, uses the name. -/
inductive Value.Uses (x : String) : Place → Value → Prop
  | symbol : Uses x .code (.symbol x)
  | body {place : Place} {params : List String} {body : Value} {captured : FrameId}
    (inner : Uses x .code body) : Uses x place (.lambda params body captured)
  | item {items : List Value} {v : Value} (mem : v ∈ items) (inner : Uses x .data v) :
    Uses x .data (.list items)
  | quoted {head v : Value} {args : List Value} (quote : SpecialForm.ofHead? head = some .quote)
    (mem : v ∈ args) (inner : Uses x .data v) : Uses x .code (.list (head :: args))
  /-- The parameters of a lambda are names that it binds, and does not use. -/
  | params {head params : Value} {rest : List Value}
    (lambda : SpecialForm.ofHead? head = some .lambda) (inner : Uses x .data params) :
    Uses x .code (.list (head :: params :: rest))
  | lambda {head params v : Value} {rest : List Value}
    (lambda : SpecialForm.ofHead? head = some .lambda) (mem : v ∈ rest)
    (inner : Uses x .code v) : Uses x .code (.list (head :: params :: rest))
  | special {head v : Value} {specialForm : SpecialForm} {args : List Value}
    (isSpecial : SpecialForm.ofHead? head = some specialForm) (notQuote : specialForm ≠ .quote)
    (notLambda : specialForm ≠ .lambda) (mem : v ∈ args) (inner : Uses x .code v) :
    Uses x .code (.list (head :: args))
  | call {head v : Value} {args : List Value} (notSpecial : SpecialForm.ofHead? head = none)
    (mem : v ∈ head :: args) (inner : Uses x .code v) : Uses x .code (.list (head :: args))

section Uses

variable {x : String}

@[simp] theorem not_uses_data_atom (kind : AtomKind) (text : String) :
    ¬ (atom kind text).Uses x .data :=
  nofun

@[simp] theorem uses_code_atom {kind : AtomKind} {text : String} :
    (atom kind text).Uses x .code ↔ kind = .symbol ∧ text = x := by
  constructor
  · rintro ⟨⟩
    exact ⟨rfl, rfl⟩
  · rintro ⟨rfl, rfl⟩
    exact .symbol

@[simp] theorem uses_lambda {place : Place} {params : List String} {body : Value}
    {captured : FrameId} : (lambda params body captured).Uses x place ↔ body.Uses x .code := by
  constructor
  · rintro ⟨inner⟩
    assumption
  · exact .body

@[simp] theorem uses_data_list {items : List Value} :
    (list items).Uses x .data ↔ ∃ v ∈ items, v.Uses x .data := by
  constructor
  · intro h
    cases h with
    | item mem inner => exact ⟨_, mem, inner⟩
  · rintro ⟨v, mem, inner⟩
    exact .item mem inner

/-- What a list uses that is evaluated, by its head. -/
theorem uses_code_list {head : Value} {args : List Value} :
    (list (head :: args)).Uses x .code ↔
      match SpecialForm.ofHead? head, args with
      | none, args => ∃ v ∈ head :: args, v.Uses x .code
      | some .quote, args => ∃ v ∈ args, v.Uses x .data
      | some .lambda, [] => False
      | some .lambda, params :: rest => params.Uses x .data ∨ ∃ v ∈ rest, v.Uses x .code
      | some _, args => ∃ v ∈ args, v.Uses x .code := by
  constructor
  · intro h
    cases h with
    | quoted quote mem inner => simpa only [quote] using ⟨_, mem, inner⟩
    | params lambda inner => simpa only [lambda] using .inl inner
    | lambda lambda mem inner => simpa only [lambda] using .inr ⟨_, mem, inner⟩
    | @special _ _ specialForm _ isSpecial notQuote notLambda mem inner =>
      rw [isSpecial]
      cases specialForm <;> first | contradiction | exact ⟨_, mem, inner⟩
    | call notSpecial mem inner => simpa only [notSpecial] using ⟨_, mem, inner⟩
  · intro h
    split at h
    · next notSpecial =>
      obtain ⟨v, mem, inner⟩ := h
      exact .call notSpecial mem inner
    · next quote =>
      obtain ⟨v, mem, inner⟩ := h
      exact .quoted quote mem inner
    · exact h.elim
    · next lambda =>
      rcases h with inner | ⟨v, mem, inner⟩
      · exact .params lambda inner
      · exact .lambda lambda mem inner
    · next args _ _ specialForm notQuote isSpecial notEmpty notMore =>
      obtain ⟨v, mem, inner⟩ := h
      have notLambda (lambda : specialForm = .lambda) : False := by
        cases args with
        | nil => exact notEmpty rfl lambda
        | cons params rest => exact notMore params rest rfl lambda
      exact .special isSpecial notQuote notLambda mem inner

/-- What a value uses that is only handed on, it also uses as a form. -/
theorem Value.Uses.code {place : Place} {v : Value} (h : v.Uses x place) : v.Uses x .code := by
  induction h with
  | body inner _ => exact .body inner
  | @item items v mem inner ih =>
    cases items with
    | nil => cases mem
    | cons head args =>
      cases isSpecial : SpecialForm.ofHead? head with
      | none => exact .call isSpecial mem ih
      | some specialForm =>
        -- The head is a symbol, so the use is further on.
        have later : v ∈ args := by
          rcases List.mem_cons.mp mem with rfl | later
          · cases inner <;> cases isSpecial
          · exact later
        by_cases quote : specialForm = .quote
        · exact .quoted (quote ▸ isSpecial) later inner
        by_cases lambda : specialForm = .lambda
        · subst lambda
          cases args with
          | nil => cases later
          | cons params rest =>
            rcases List.mem_cons.mp later with rfl | later
            · exact .params isSpecial inner
            · exact .lambda isSpecial later ih
        · exact .special isSpecial quote lambda later ih
  | symbol => exact .symbol
  | quoted quote mem inner _ => exact .quoted quote mem inner
  | params lambda inner _ => exact .params lambda inner
  | lambda lambda mem inner _ => exact .lambda lambda mem inner
  | special isSpecial notQuote notLambda mem inner _ =>
    exact .special isSpecial notQuote notLambda mem inner
  | call notSpecial mem inner _ => exact .call notSpecial mem inner

theorem hereditary_not_uses (x : String) : Hereditary fun v => ¬ v.Uses x .data where
  atom := not_uses_data_atom
  list := by simp

end Uses

/-- What does not use the name is allowed. -/
def sparing (x : String) : Contract where
  name other := other ≠ x
  form v := ¬ v.Uses x .code
  value v := ¬ v.Uses x .data
  text text := ∀ forms, readAll text = .ok forms → ∀ form ∈ forms, ¬ form.Uses x .code

/-- Values that are bound to other names do not use the name. -/
def Scopes.Spares (x : String) (s : Scopes) : Prop :=
  ∀ id other v, other ≠ x → (s.bindings id).find? other = some v → ¬ v.Uses x .data

/-- Apart from what the name itself is bound to, nothing in the session uses it: no value, no module
and no procedure of the host, whatever it does and gives for arguments that do not use it. -/
structure Session.Spares (x : String) (s : Session) : Prop where
  bound : s.store.scopes.Spares x
  files : ∀ path text, s.setting.files.readPath path = .ok text →
    ∀ statement ∈ Draft.empty.statements (lines text), (sparing x).text statement
  hosts : ∀ procedure ∈ s.setting.procedures, ∀ args, (∀ arg ∈ args, ¬ arg.Uses x .data) →
    (procedure args).Observes (sparing x)

/-- Not using a name is a lawful contract where nothing that is handed over uses it. -/
theorem sparing_lawful {x : String} {s : Session} (spares : s.Spares x) :
    (sparing x).Lawful s.setting where
  nil := not_uses_data_atom _ _
  truth _ := not_uses_data_atom _ _
  items := (hereditary_not_uses x).list.mp
  lambda := not_congr uses_lambda
  data h inner := h inner.code
  symbol h same := h (same ▸ .symbol)
  call notSpecial h v mem inner := h (.call notSpecial mem inner)
  special isSpecial notQuote notLambda h v mem inner :=
    h (.special isSpecial notQuote notLambda mem inner)
  body isSpecial h inner := h (.lambda isSpecial (by simp) inner)
  builtin := (hereditary_not_uses x).generated.of_apply
  read h taken := h _ taken
  file taken := spares.files _ _ taken

/-! ## 2. Frames that differ in one name -/

/-- The frames are the same and bind the same, except for one name. -/
structure Scopes.AgreeExcept (x : String) (s s' : Scopes) : Prop where
  size : s'.size = s.size
  parents : ∀ id, s'.parent? id = s.parent? id
  bindings : ∀ id other, other ≠ x → (s'.bindings id).find? other = (s.bindings id).find? other

/-- Every other name has the same value and the same owner. -/
theorem Scopes.AgreeExcept.get?_eq {x : String} {s s' : Scopes} (agree : s.AgreeExcept x s')
    (scope : FrameId) {other : String} (differs : other ≠ x) :
    s'.get? scope other = s.get? scope other :=
  get?_congr (fun above _ => agree.parents above) fun above _ =>
    agree.bindings above other differs

theorem Scopes.AgreeExcept.owner?_eq {x : String} {s s' : Scopes} (agree : s.AgreeExcept x s')
    (scope : FrameId) {other : String} (differs : other ≠ x) :
    s'.owner? scope other = s.owner? scope other :=
  owner?_congr (fun above _ => agree.parents above) fun above _ =>
    agree.bindings above other differs

namespace UnusedLemmas

variable {x : String} {s s' : Scopes}

theorem agree_define (agree : s.AgreeExcept x s') (scope : FrameId) (name : String) (v : Value) :
    (s.define scope name v).AgreeExcept x (s'.define scope name v) where
  size := by rw [Scopes.size_define, Scopes.size_define, agree.size]
  parents id := by rw [Scopes.parent?_define, Scopes.parent?_define, agree.parents]
  bindings id other differs := by
    rw [Scopes.bindings_define, Scopes.bindings_define, agree.size]
    split
    · rw [Bindings.find?_insert, Bindings.find?_insert, agree.bindings scope other differs]
    · exact agree.bindings id other differs

/-- Frames agree except for a name with those in which the name is bound anew. -/
theorem agree_override (s : Scopes) (scope : FrameId) (x : String) (v : Value) :
    s.AgreeExcept x (s.define scope x v) where
  size := Scopes.size_define
  parents _ := Scopes.parent?_define
  bindings id other differs := by
    rw [Scopes.bindings_define]
    split
    · next written => rw [Bindings.find?_insert, if_neg (Ne.symm differs), written.1]
    · rfl

theorem agree_newFrame (agree : s.AgreeExcept x s') (parent : FrameId) (b : Bindings) :
    (s.newFrame parent b).AgreeExcept x (s'.newFrame parent b) where
  size := by rw [Scopes.size_newFrame, Scopes.size_newFrame, agree.size]
  parents id := by rw [Scopes.parent?_newFrame, Scopes.parent?_newFrame, agree.size, agree.parents]
  bindings id other differs := by
    rw [Scopes.bindings_newFrame, Scopes.bindings_newFrame, agree.size]
    split
    · rfl
    · exact agree.bindings id other differs

theorem spares_define (spares : s.Spares x) {scope : FrameId} {name : String} {v : Value}
    (hv : ¬ v.Uses x .data) : (s.define scope name v).Spares x :=
  Contract.Bound.define (C := sparing x) spares fun _ => hv

theorem spares_newFrame (spares : s.Spares x) {parent : FrameId} {b : Bindings}
    (hb : ∀ name v, b.find? name = some v → ¬ v.Uses x .data) :
    (s.newFrame parent b).Spares x :=
  Contract.Bound.newFrame (C := sparing x) spares hb

end UnusedLemmas

open UnusedLemmas

/-! ## 3. Runs -/

/-- The same outcome with other frames. -/
def Outcome.withScopes {α : Type} (scopes : Scopes) : Outcome α → Outcome α
  | .ok a store => .ok a { store with scopes }
  | .error e store => .error e { store with scopes }

/-- The same call with other frames. -/
def Call.withScopes {α : Type} (scopes : Scopes) (call : Call α) : Call α :=
  { call with store := { call.store with scopes } }

/-- The frames differ in one name only, and nothing else uses it. -/
structure Scopes.Twin (x : String) (s s' : Scopes) : Prop where
  agree : s.AgreeExcept x s'
  spares : s.Spares x

section Runs

variable {x : String} {setting : Setting} {base : Nat} {inside : List Request} {store : Store}
  {scopes' : Scopes} {opened : FrameId → Prop}

/-- An effect that does not use the name gives the same, whatever the name is bound to. -/
theorem act_withScopes (setting : Setting) {fx : Effect} (twin : store.scopes.Twin x scopes')
    (allowed : (sparing x).Allows opened (.effect fx)) :
    ∃ after', fx.act setting { store with scopes := scopes' } =
        Outcome.withScopes after' (fx.act setting store) ∧
      (storeOf (fx.act setting store)).scopes.Twin x after' := by
  obtain ⟨agree, spares⟩ := twin
  cases fx with
  | lookup scope name =>
    refine ⟨scopes', ?_⟩
    simp only [Effect.act, Eval.lookup, agree.get?_eq scope allowed]
    cases store.scopes.get? scope name <;> exact ⟨rfl, agree, spares⟩
  | define scope name v =>
    exact ⟨_, rfl, agree_define agree scope name v, spares_define spares allowed.2.2⟩
  | assign scope name v =>
    simp only [Effect.act, Eval.assign, agree.owner?_eq scope allowed.1]
    cases store.scopes.owner? scope name with
    | none => exact ⟨scopes', rfl, agree, spares⟩
    | some owner =>
      exact ⟨_, rfl, agree_define agree owner name v, spares_define spares allowed.2⟩
  | newFrame parent bindings =>
    refine ⟨scopes'.newFrame parent bindings, ?_, agree_newFrame agree parent bindings,
      spares_newFrame spares allowed⟩
    simp only [Effect.act, Eval.newFrame, agree.size, Outcome.withScopes]
  | writeLine line =>
    refine ⟨scopes', ?_⟩
    simp only [Effect.act, Eval.writeLine]
    rcases store.sink.writeLine line with ⟨_ | e, sink⟩ <;> exact ⟨rfl, agree, spares⟩
  | readForms text =>
    refine ⟨scopes', ?_⟩
    simp only [Effect.act, Eval.ofExcept]
    cases readAll text <;> exact ⟨rfl, agree, spares⟩
  | readFile path =>
    refine ⟨scopes', ?_⟩
    simp only [Effect.act]
    cases setting.files.readPath path <;> exact ⟨rfl, agree, spares⟩

/-- What a request leads to is the same, whatever the name is bound to. -/
theorem call_withScopes (setting : Setting) (base : Nat) (inside : List Request)
    {request : Request} (twin : store.scopes.Twin x scopes')
    (allowed : (sparing x).Allows opened request) :
    ∃ called', request.call setting base inside { store with scopes := scopes' } =
        (request.call setting base inside store).withScopes called' ∧
      (request.call setting base inside store).store.scopes.Twin x called' := by
  cases request with
  | effect fx =>
    obtain ⟨after', same, twin⟩ := act_withScopes setting twin allowed
    refine ⟨after', ?_⟩
    simp only [Request.call, Effect.call, Eval.outcome, Eval.after, same]
    cases acted : fx.act setting store <;> rw [acted] at twin <;> exact ⟨rfl, twin⟩
  | eval scope form =>
    refine ⟨scopes', ?_⟩
    simp only [Request.call]
    split <;> exact ⟨rfl, twin⟩
  | native action args => exact ⟨scopes', rfl, twin⟩
  | importModule name =>
    refine ⟨scopes', ?_⟩
    simp only [Request.call, importCall]
    cases setting.resolve name with
    | error e => exact ⟨rfl, twin⟩
    | ok path =>
      by_cases imported : store.isImported path
      · have imported' : Store.isImported { store with scopes := scopes' } path := imported
        simp only [if_pos imported, if_pos imported']
        exact ⟨rfl, twin⟩
      · have absent' : ¬ Store.isImported { store with scopes := scopes' } path := imported
        simp only [if_neg imported, if_neg absent']
        exact ⟨rfl, twin⟩

theorem closeModule_withScopes {α : Type} (module? : Option Path) (left : Outcome α)
    (after' : Scopes) :
    closeModule module? (Outcome.withScopes after' left) =
        Outcome.withScopes after' (closeModule module? left) ∧
      (storeOf (closeModule module? left)).scopes = (storeOf left).scopes := by
  cases module? <;> cases left <;> exact ⟨rfl, rfl⟩

/-- What a request leads to ends in the same way, whatever the name is bound to, if it can be run in
the same way. -/
theorem transfer_request {request : Request} {left closed : Outcome request.Answer}
    (lawful : (sparing x).Lawful setting) (hosts : (sparing x).Hosts opened setting)
    (root : opened rootFrame) (twin : store.scopes.Twin x scopes')
    (allowed : (sparing x).Allows opened request)
    (close : closeModule (request.call setting base inside store).module? left = closed)
    (ih : ∀ {scopes' : Scopes} {opened : FrameId → Prop} {good : request.Answer → Prop},
      (sparing x).Hosts opened setting → opened rootFrame →
      (request.call setting base inside store).plan.Meets (sparing x) good opened →
      (request.call setting base inside store).store.scopes.Twin x scopes' →
      ∃ trace' after', Runs setting base (request :: inside)
          (request.call setting base inside store).plan
          { (request.call setting base inside store).store with scopes := scopes' } trace'
          (Outcome.withScopes after' left) ∧
        (storeOf left).scopes.Twin x after' ∧ ∀ a mid, left = .ok a mid → good a) :
    ∃ inner' left',
      request.Ran setting base inside { store with scopes := scopes' } inner'
        (Outcome.withScopes left' left) ∧
      closeModule (request.call setting base inside { store with scopes := scopes' }).module?
        (Outcome.withScopes left' left) = Outcome.withScopes left' closed ∧
      (storeOf closed).scopes.Twin x left' ∧
      ∀ a mid, closed = .ok a mid → (sparing x).Grants request a := by
  obtain ⟨called', same, called⟩ := call_withScopes setting base inside twin allowed
  have asked : (request.call setting base inside store).plan.Meets (sparing x)
      ((sparing x).Grants request) opened :=
    lawful.meets_call hosts root allowed fun _ _ _ =>
      Contract.Bound.get? (C := sparing x) twin.spares
  obtain ⟨inner', left', ran', leftTwin, granted⟩ := ih hosts root asked called
  obtain ⟨closed', kept⟩ := closeModule_withScopes
    (request.call setting base inside store).module? left left'
  rw [close] at closed' kept
  refine ⟨inner', left', ?_, ?_, kept ▸ leftTwin, fun a mid answered => ?_⟩
  · rw [Request.Ran, same]
    exact ran'
  · rw [same]
    exact closed'
  · obtain ⟨_, ended⟩ := eq_ok_of_closeModule (close.trans answered)
    exact granted a _ ended

/-- A run in which the name is not used is a run whatever the name is bound to. It asks for the same
and ends in the same way. -/
theorem Runs.transfer (lawful : (sparing x).Lawful setting) {α : Type} {plan : Plan α}
    {trace : List Moment} {outcome : Outcome α}
    (h : Runs setting base inside plan store trace outcome) {good : α → Prop}
    (hosts : (sparing x).Hosts opened setting) (root : opened rootFrame)
    (meets : plan.Meets (sparing x) good opened) (twin : store.scopes.Twin x scopes') :
    ∃ trace' after', Runs setting base inside plan { store with scopes := scopes' } trace'
        (Outcome.withScopes after' outcome) ∧
      (storeOf outcome).scopes.Twin x after' ∧ ∀ a left, outcome = .ok a left → good a := by
  induction h generalizing scopes' opened with
  | done => exact ⟨[], scopes', .done, twin, fun a left same => by cases same; exact meets⟩
  | fail => exact ⟨[], scopes', .fail, twin, nofun⟩
  | @answered _ inside request next store mid inner later left answer outcome ran closed went ih
      more =>
    obtain ⟨inner', left', ran', closed', midTwin, granted⟩ :=
      transfer_request lawful hosts root twin meets.1 closed ih
    obtain ⟨later', after', went', twin', given⟩ :=
      more (hosts.mono fun _ => .inl) (.inl root) (meets.2 answer (granted answer mid rfl)) midTwin
    exact ⟨_, after', .answered ran' closed' went', twin', given⟩
  | failed ran closed ih =>
    obtain ⟨inner', left', ran', closed', midTwin, -⟩ :=
      transfer_request lawful hosts root twin meets.1 closed ih
    exact ⟨_, left', .failed ran' closed', midTwin, nofun⟩

end Runs

/-! ## 4. Operations -/

theorem report_withScopes (s : Session) (scopes : Scopes) (e : Error) :
    (s.withScopes scopes).report e = (s.report e).withScopes scopes := by
  by_cases reporting : s.reporting
  · rw [Session.report, Session.report, if_pos reporting, Session.withScopes, if_pos reporting]
    rfl
  · rw [Session.report, Session.report, if_neg reporting, Session.withScopes, if_neg reporting]

theorem conclude_withScopes (s : Session) (scopes' after' : Scopes) (op : Operation)
    (outcome : Outcome Answer) :
    (s.withScopes scopes').conclude op (Outcome.withScopes after' outcome) =
      ((s.conclude op outcome).1, (s.conclude op outcome).2.withScopes after') := by
  cases outcome with
  | ok answer store => cases op <;> rfl
  | error e store =>
    cases op with
    | feed line echo =>
      exact congrArg (Prod.mk _) (report_withScopes { s with store, draft := .empty } after' e)
    | _ => rfl

/-- Names that are not used do not matter, and the names of special forms cannot be overridden. In
two sessions that differ only in what one name is bound to, in any frames, an operation that does
not use the name gives the same value or the same error and writes the same, at every limit. The two
sessions differ only in what the name is bound to afterwards. The rest of the session must not use
the name either: not the values bound to other names, not the modules, and not what procedures of
the host give. Quoting the name is no use of it, and neither is the name of a special form at the
head of that form. -/
theorem perform_ignores_unused (x : String) (s : Session) (scopes' : Scopes) (op : Operation)
    (agree : s.store.scopes.AgreeExcept x scopes') (spares : s.Spares x)
    (handed : (sparing x).Admits (fun _ => True) s op) :
    ∃ after', (s.withScopes scopes').perform op =
        ((s.perform op).1, (s.perform op).2.withScopes after') ∧
      (s.perform op).2.store.scopes.AgreeExcept x after' ∧ (s.perform op).2.Spares x := by
  obtain ⟨trace, outcome, run⟩ := s.exists_performs op
  have lawful := sparing_lawful spares
  obtain ⟨trace', after', run', twin, -⟩ :=
    run.transfer lawful (Contract.hosts_of_observes spares.hosts) trivial
      (lawful.meets_plan trivial handed) ⟨agree, spares.bound⟩
  have performs :
      (s.withScopes scopes').Performs op trace' (Outcome.withScopes after' outcome) := by
    have same : (s.withScopes scopes').plan op = s.plan op := by cases op <;> rfl
    rw [Session.Performs, same]
    exact run'
  have left := run.store_eq
  refine ⟨after', ?_, left ▸ twin.agree, left ▸ twin.spares, ?_, ?_⟩
  · rw [performs.perform_eq, run.perform_eq, conclude_withScopes]
  · rw [Session.setting_perform]
    exact spares.files
  · rw [Session.setting_perform]
    exact spares.hosts

theorem Session.Spares.define {x : String} {s : Session} (spares : s.Spares x) (name : String)
    {v : Value} (hv : ¬ v.Uses x .data) : (s.define name v).Spares x :=
  ⟨spares_define spares.bound hv, spares.files, spares.hosts⟩

/-- A new session uses no name, if its modules and the procedures of its host do not. -/
theorem spares_new {x : String} {setting : Setting}
    (files : ∀ path text, setting.files.readPath path = .ok text →
      ∀ statement ∈ Draft.empty.statements (lines text), (sparing x).text statement)
    (hosts : ∀ procedure ∈ setting.procedures, ∀ args, (∀ arg ∈ args, ¬ arg.Uses x .data) →
      (procedure args).Observes (sparing x)) :
    (Session.new setting).Spares x := by
  refine Session.new_induction ⟨fun id other v _ found => ?_, files, hosts⟩ ?_ ?_
  · rw [Session.bare, Store.initial, Scopes.bindings_newRoot_empty] at found
    cases found
  · exact fun s name text spares => spares.define name (not_uses_data_atom _ _)
  · exact fun s name shown action spares => spares.define name nofun

/-- A procedure that branches, and may give the name of its branch. -/
def chooser : Value :=
  .lambda ["y"] (.list [.symbol "if", .symbol "y", .list [.symbol "quote", .symbol "if"],
    .symbol "y"]) rootFrame

/-- A session with that procedure. -/
def choosing : Session :=
  (Session.new {}).define "choose" chooser

/-- A form that branches itself and calls the procedure. -/
def choice : Value :=
  .list [.symbol "list", .list [.symbol "choose", .symbol "#t"],
    .list [.symbol "if", .symbol "#f", .integer "1", .integer "2"]]

/-- Branching goes on as it did where the name of the branch is bound to a number. -/
theorem perform_ignores_unused_if :
    let op := Operation.eval rootFrame choice
    let scopes' := choosing.store.scopes.define rootFrame "if" (.integer "7")
    (choosing.store.scopes.AgreeExcept "if" scopes' ∧ choosing.Spares "if" ∧
      (sparing "if").Admits (fun _ => True) choosing op) ∧
    ((choosing.withScopes scopes').get? "if").map Value.render = some "7" ∧
    ((choosing.withScopes scopes').perform op).1 = (choosing.perform op).1 ∧
    (choosing.eval rootFrame choice).1.map Value.render = .ok "(if 2)" := by
  intro op scopes'
  have agree : choosing.store.scopes.AgreeExcept "if" scopes' := agree_override _ _ _ _
  have isIf : SpecialForm.ofHead? (symbol "if") = some .branch := by decide +kernel
  have isQuote : SpecialForm.ofHead? (symbol "quote") = some .quote := by decide +kernel
  have isList : SpecialForm.ofHead? (symbol "list") = none := by decide +kernel
  have isChoose : SpecialForm.ofHead? (symbol "choose") = none := by decide +kernel
  have quiet : ¬ chooser.Uses "if" .data := by
    simp [chooser, uses_code_list, isIf, isQuote]
  have noFile (path : Path) (text : String) : ({} : FileTree).readPath path ≠ .ok text := by
    unfold FileTree.readPath FileTree.entry?
    by_cases above : path.isPrefixOf ({} : FileTree).workingDirectory
    · rw [if_pos above]
      exact nofun
    · rw [if_neg above]
      exact nofun
  have new : (Session.new {}).Spares "if" :=
    spares_new (fun path text read => absurd read (noFile path text)) (by simp)
  have spares : choosing.Spares "if" := new.define "choose" quiet
  have handed : (sparing "if").Admits (fun _ => True) choosing op := by
    refine ⟨nofun, trivial, ?_⟩
    simp [choice, sparing, uses_code_list, isIf, isList, isChoose]
  obtain ⟨after', same, -⟩ := perform_ignores_unused "if" choosing scopes' op agree spares handed
  exact ⟨⟨agree, spares, handed⟩, by decide +kernel, (Prod.ext_iff.mp same).1, by decide +kernel⟩

end ListScript
