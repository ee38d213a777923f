import ListScript.Proofs.Contract
import ListScript.Proofs.History

/-!
# Calls are isolated

All calls of a lambda are made below one frame, the frame that the lambda captured. It was made
empty and only for that, so nobody works in it: evaluations work in frames that operations name, in
the root and in the frames of calls. Nothing is bound there, and assigning goes where a name is
bound already. So the captured frame stays empty, and a call sees its arguments and, apart from
them, what the frame sees in which the lambda was made.

Results:
1. `Scopes.Sealed.isolates`: what a call sees if the captured frame is empty.
2. `Runs.isolated`: in a run, captured frames stay empty and no evaluation works in them.
3. `calls_isolated`: the same for sessions.
-/

namespace ListScript

open Plan Bindings

/-! ## 1. Captured frames that stay empty -/

/-- Frames that are held by lambdas are empty, and stand below the frames in which the lambdas were
made. -/
structure Scopes.Sealed (held : FrameId → FrameId → Prop) (s : Scopes) : Prop where
  empty : ∀ scope captured, held scope captured → s.bindings captured = .empty
  parent : ∀ scope captured, held scope captured → s.parent? captured = some scope

/-- Calls of the lambda do not see each other. The captured frame is empty, and a call evaluates the
body in a new frame. There a name is the argument of the last parameter that has the name and is
supplied. Every other name is what it is in the frame in which the lambda was made. -/
structure Store.Isolates (store : Store) (scope : FrameId) (params : List String) (body : Value)
    (captured : FrameId) : Prop where
  empty : store.scopes.bindings captured = .empty
  enters (setting : Setting) (imports : Import) (evaluator : Evaluator) (args : List Value) :
    Evaluation.apply setting imports evaluator (.lambda params body captured) args store =
      evaluator store.scopes.size body
        { store with scopes := store.scopes.newFrame captured (.ofCall params args) }
  supplied (args : List Value) (name : String) (i : Nat) :
    Supplies params args name i → (∀ j, i < j → ¬ Supplies params args name j) →
      let entered := store.scopes.newFrame captured (.ofCall params args)
      entered.get? store.scopes.size name = args[i]? ∧
        entered.owner? store.scopes.size name = some store.scopes.size
  free (args : List Value) (name : String) :
    (∀ i, ¬ Supplies params args name i) →
      let entered := store.scopes.newFrame captured (.ofCall params args)
      entered.get? store.scopes.size name = store.scopes.get? scope name ∧
        entered.owner? store.scopes.size name = store.scopes.owner? scope name

namespace IsolationLemmas

variable {held : FrameId → FrameId → Prop} {s : Scopes}

theorem sealed_define (sealed : s.Sealed held) {id : FrameId} (free : ∀ scope, ¬ held scope id)
    (name : String) (v : Value) : (s.define id name v).Sealed held where
  empty scope captured holds := by
    rw [Scopes.bindings_define, if_neg]
    · exact sealed.empty scope captured holds
    · rintro ⟨rfl, -⟩
      exact free scope holds
  parent scope captured holds := Scopes.parent?_define.trans (sealed.parent scope captured holds)

theorem sealed_push (sealed : s.Sealed held) (parent : Option FrameId) (b : Bindings)
    (older : ∀ p, parent = some p → p < s.size) : (s.push parent b older).Sealed held where
  empty scope captured holds := by
    have old := Scopes.lt_size_of_parent? (sealed.parent scope captured holds)
    rw [Scopes.bindings_push, if_neg (Nat.ne_of_lt old)]
    exact sealed.empty scope captured holds
  parent scope captured holds := by
    have old := Scopes.lt_size_of_parent? (sealed.parent scope captured holds)
    rw [Scopes.parent?_push, if_neg (Nat.ne_of_lt old)]
    exact sealed.parent scope captured holds

theorem sealed_newFrame (sealed : s.Sealed held) (parent : FrameId) (b : Bindings) :
    (s.newFrame parent b).Sealed held := by
  unfold Scopes.newFrame
  split <;> exact sealed_push sealed _ b _

theorem sealed_clear (sealed : s.Sealed held) (id : FrameId) : (s.clear id).Sealed held where
  empty scope captured holds := by
    rw [Scopes.bindings_clear]
    split
    · rfl
    · exact sealed.empty scope captured holds
  parent scope captured holds := Scopes.parent?_modify.trans (sealed.parent scope captured holds)

/-- Who owns a name binds it, so no captured frame owns one. -/
theorem not_held_of_owner? (sealed : s.Sealed held) {id owner : FrameId} {name : String}
    (owns : s.owner? id name = some owner) (scope : FrameId) : ¬ held scope owner := by
  intro holds
  have binds := (Scopes.owner?_spec owns).2
  rw [Scopes.bindsLocally, sealed.empty scope owner holds] at binds
  cases binds

end IsolationLemmas

open IsolationLemmas

/-- What a call sees if the captured frame is empty and stands below the frame in which the lambda
was made. -/
theorem Scopes.Sealed.isolates {held : FrameId → FrameId → Prop} {store : Store}
    (sealed : store.scopes.Sealed held) {scope captured : FrameId} (holds : held scope captured)
    (params : List String) (body : Value) : store.Isolates scope params body captured := by
  have empty := sealed.empty scope captured holds
  have above := sealed.parent scope captured holds
  have old := Scopes.lt_size_of_parent? above
  -- The captured frame itself adds nothing to what its parent sees.
  have through (name : String) :
      store.scopes.get? captured name = store.scopes.get? scope name ∧
        store.scopes.owner? captured name = store.scopes.owner? scope name := by
    rw [Scopes.get?_eq, Scopes.owner?_eq, Scopes.bindsLocally, empty, above]
    exact ⟨rfl, rfl⟩
  refine ⟨empty, fun _ _ _ _ => rfl, fun args name i supplied last => ?_, fun args name none => ?_⟩
  · have inRange := supplied.2
    have there : args[i]? = some args[i] := List.getElem?_eq_getElem inRange
    have found := (find?_ofCall_of_last supplied last).trans there
    intro entered
    rw [Scopes.get?_newFrame old, Scopes.owner?_newFrame old, found, there]
    exact ⟨rfl, rfl⟩
  · intro entered
    rw [Scopes.get?_newFrame old, Scopes.owner?_newFrame old, find?_ofCall_of_none none]
    exact through name

/-! ## 2. Runs -/

/-- The request that the event is about. -/
def Event.request : Event → Request
  | .begins request => request
  | .ends request => request
  | .fails request _ => request

/-- At the moment, the frames that are held by lambdas are empty, and no evaluation works in
them. -/
structure Moment.Isolates (held : FrameId → FrameId → Prop) (m : Moment) : Prop where
  frames : m.store.scopes.Sealed held
  apart : ∀ scope captured, held scope captured → ∀ form,
    .eval captured form ∉ m.event.request :: m.inside

/-- At each moment, the frames that were captured until then are empty and apart. -/
def Isolated (held : FrameId → FrameId → Prop) : List Moment → Prop
  | [] => True
  | m :: later => m.Isolates (Captured held [m]) ∧ Isolated (Captured held [m]) later

theorem isolated_append {held : FrameId → FrameId → Prop} {trace later : List Moment} :
    Isolated held (trace ++ later) ↔
      Isolated held trace ∧ Isolated (Captured held trace) later := by
  induction trace generalizing held with
  | nil => simp [Isolated, captured_nil]
  | cons m trace ih =>
    rw [List.cons_append, Isolated, Isolated, ih, captured_cons held m trace, and_assoc]

/-- Where a request begins, nothing was captured yet. -/
theorem captured_begins (held : FrameId → FrameId → Prop) (inside : List Request)
    (request : Request) (store : Store) (later : List Moment) :
    Captured held (⟨inside, .begins request, store⟩ :: later) = Captured held later := by
  rw [captured_cons, captured_of_event held (by simp)]

theorem isolated_begins {held : FrameId → FrameId → Prop} {inside : List Request}
    {request : Request} {store : Store} {later : List Moment} :
    Isolated held (⟨inside, .begins request, store⟩ :: later) ↔
      (⟨inside, .begins request, store⟩ : Moment).Isolates held ∧ Isolated held later := by
  rw [Isolated, captured_begins, captured_nil]

/-- Frames that are captured later leave what is known of the others. -/
theorem Isolated.isolates {held : FrameId → FrameId → Prop} {trace : List Moment}
    (h : Isolated held trace) {m : Moment} (mem : m ∈ trace) : m.Isolates held := by
  induction trace generalizing held with
  | nil => cases mem
  | cons first later ih =>
    have kept : ∀ {m : Moment}, m.Isolates (Captured held [first]) → m.Isolates held := fun h =>
      ⟨⟨fun scope captured holds => h.frames.empty scope captured (.inl holds),
        fun scope captured holds => h.frames.parent scope captured (.inl holds)⟩,
        fun scope captured holds => h.apart scope captured (.inl holds)⟩
    rcases List.mem_cons.mp mem with rfl | mem
    · exact kept h.1
    · exact kept (ih h.2 mem)

/-- An evaluation may work in these frames: they exist, and no lambda holds one of them. -/
structure Scopes.Apart (held : FrameId → FrameId → Prop) (opened : FrameId → Prop) (s : Scopes) :
    Prop where
  frames : s.Sealed held
  old : ∀ id, opened id → id < s.size
  free : ∀ id, opened id → ∀ scope, ¬ held scope id

namespace IsolationLemmas

variable {held : FrameId → FrameId → Prop} {opened : FrameId → Prop} {setting : Setting}
  {base : Nat} {inside : List Request} {store : Store}

/-- An effect binds nothing in a frame that a lambda holds. -/
theorem apart_effect (apart : store.scopes.Apart held opened) {fx : Effect}
    (allowed : anything.Allows opened (.effect fx)) :
    ((fx.act setting).after store).scopes.Apart held opened := by
  have bind (id : FrameId) (free : ∀ scope, ¬ held scope id) (name : String) (v : Value) :
      (store.scopes.define id name v).Apart held opened :=
    ⟨sealed_define apart.frames free name v,
      fun id hid => Nat.lt_of_lt_of_eq (apart.old id hid) Scopes.size_define.symm, apart.free⟩
  cases fx with
  | lookup scope name =>
    rw [Effect.act, Eval.after_lookup]
    exact apart
  | define scope name v => exact bind scope (apart.free scope allowed.1) name v
  | assign scope name v =>
    rw [Effect.act, Eval.after_assign]
    cases owns : store.scopes.owner? scope name with
    | none => exact apart
    | some owner => exact bind owner (not_held_of_owner? apart.frames owns) name v
  | newFrame parent bindings =>
    refine ⟨sealed_newFrame apart.frames parent bindings, fun id hid => ?_, apart.free⟩
    exact Scopes.size_newFrame ▸ Nat.lt_succ_of_lt (apart.old id hid)
  | writeLine line =>
    rw [Effect.act, Eval.after_writeLine]
    exact apart
  | readForms text =>
    simp only [Effect.act, Eval.ofExcept, Eval.after]
    cases readAll text <;> exact apart
  | readFile path =>
    simp only [Effect.act]
    cases setting.files.readPath path <;> exact apart

theorem apart_call (apart : store.scopes.Apart held opened) {request : Request}
    (allowed : anything.Allows opened request) :
    (request.call setting base inside store).store.scopes.Apart held opened := by
  cases request with
  | effect fx => exact apart_effect apart allowed
  | eval scope form =>
    simp only [Request.call]
    split <;> exact apart
  | native action args => exact apart
  | importModule name =>
    simp only [Request.call, importCall]
    split
    · exact apart
    · split <;> exact apart

theorem apart_mono {held : FrameId → FrameId → Prop} {opened opened' : FrameId → Prop} {s : Scopes}
    (apart : s.Apart held opened) (le : ∀ id, opened' id → opened id) : s.Apart held opened' :=
  ⟨apart.frames, fun id hid => apart.old id (le id hid), fun id hid => apart.free id (le id hid)⟩

/-- What is asked for while an effect is carried out. -/
theorem eq_nil_of_effect {fx : Effect} {inner : List Moment} {left : Outcome fx.Answer}
    (ran : (Request.effect fx).Ran setting base inside store inner left) : inner = [] := by
  simp only [Request.Ran, Request.call, Effect.call] at ran
  cases given : (fx.act setting).outcome store with
  | ok answer =>
    rw [given] at ran
    cases ran
    rfl
  | error e =>
    rw [given] at ran
    cases ran
    rfl

section Answered

variable {request : Request} {inner : List Moment} {left : Outcome request.Answer}
  {answer : request.Answer} {mid : Store}
  (ran : request.Ran setting base inside store inner left)
  (closed : closeModule (request.call setting base inside store).module? left = .ok answer mid)

include ran closed

/-- The frame that a lambda captured is the one that the evaluation of its form made. -/
theorem makes_answered {scope captured : FrameId} {params : List String} {body : Value}
    (makes : (⟨inside, .ends request, mid⟩ : Moment).Makes scope params body captured) :
    (∃ form, request = .eval scope form) ∧ captured = store.scopes.size ∧
      mid.scopes = store.scopes.newFrame scope .empty := by
  have size := makes.spec.2
  obtain ⟨head, names, before, ends, isLambda, -⟩ := makes
  cases ends
  obtain ⟨_, _, _, -, -, -, rfl⟩ := actWithin_lambda isLambda
    (ran.actWithin_call closed (fun _ => throw .moduleNesting)
      (Nat.lt_succ_self (missing setting store)))
  refine ⟨⟨_, rfl⟩, ?_, rfl⟩
  exact (Nat.succ.inj (Scopes.size_newFrame.symm.trans size)).symm

/-- When a lambda was made, the frame that it captured is empty and apart like the others. -/
theorem apart_answered (allowed : anything.Allows opened request)
    (before : ∀ id, opened id → id < store.scopes.size)
    (apart : mid.scopes.Apart held opened) :
    mid.scopes.Apart (Captured held [⟨inside, .ends request, mid⟩]) opened := by
  have made (scope captured : FrameId)
      (h : Captured held [⟨inside, .ends request, mid⟩] scope captured) :
      held scope captured ∨ opened scope ∧ captured = store.scopes.size ∧
        mid.scopes = store.scopes.newFrame scope .empty := by
    rcases h with holds | ⟨m, mem, params, body, makes⟩
    · exact .inl holds
    · cases List.mem_singleton.mp mem
      obtain ⟨⟨form, rfl⟩, latest, scopes⟩ := makes_answered ran closed makes
      exact .inr ⟨allowed.1, latest, scopes⟩
  refine ⟨⟨fun scope captured h => ?_, fun scope captured h => ?_⟩, apart.old, ?_⟩
  · rcases made scope captured h with holds | ⟨-, rfl, scopes⟩
    · exact apart.frames.empty scope captured holds
    · rw [scopes, Scopes.bindings_newFrame, if_pos rfl]
  · rcases made scope captured h with holds | ⟨hscope, rfl, scopes⟩
    · exact apart.frames.parent scope captured holds
    · rw [scopes, Scopes.parent?_newFrame, if_pos rfl, if_pos (before scope hscope)]
  · intro id hid scope h
    rcases made scope id h with holds | ⟨-, rfl, -⟩
    · exact apart.free id hid scope holds
    · exact Nat.lt_irrefl _ (before _ hid)

/-- A frame that was made to be entered is held by no lambda. -/
theorem apart_entered (before : store.scopes.Apart held opened)
    (apart : mid.scopes.Apart (Captured (Captured held inner) [⟨inside, .ends request, mid⟩])
      opened) :
    mid.scopes.Apart (Captured (Captured held inner) [⟨inside, .ends request, mid⟩])
      fun id => opened id ∨ request.Enters answer id := by
  have entered (id : FrameId) (enters : request.Enters answer id) :
      id < mid.scopes.size ∧
        ∀ scope, ¬ Captured (Captured held inner) [⟨inside, .ends request, mid⟩] scope id := by
    cases request with
    | effect fx =>
      rw [captured_of_event _ (by simp), eq_nil_of_effect ran, captured_nil]
      have acted : fx.act setting store = .ok answer mid :=
        ran.actWithin_call closed (fun _ => throw .moduleNesting)
          (Nat.lt_succ_self (missing setting store))
      cases fx with
      | newFrame parent bindings =>
        cases enters
        cases acted
        refine ⟨Nat.lt_of_lt_of_eq (Nat.lt_succ_self _) Scopes.size_newFrame.symm, ?_⟩
        intro scope holds
        exact Nat.lt_irrefl _ (Scopes.lt_size_of_parent? (before.frames.parent scope _ holds))
      | _ => exact enters.elim
    | _ => exact enters.elim
  exact ⟨apart.frames, fun id hid => hid.elim (apart.old id) fun enters => (entered id enters).1,
    fun id hid => hid.elim (apart.free id) fun enters => (entered id enters).2⟩

end Answered

theorem around_cons {request : Request} {inside : List Request}
    (allowed : anything.Allows opened request)
    (around : ∀ scope form, .eval scope form ∈ inside → opened scope) :
    ∀ scope form, .eval scope form ∈ request :: inside → opened scope := by
  intro scope form mem
  rcases List.mem_cons.mp mem with rfl | mem
  · exact allowed.1
  · exact around scope form mem

theorem isolates_of_apart {inside : List Request} {event : Event} {store : Store}
    (apart : store.scopes.Apart held opened)
    (around : ∀ scope form, .eval scope form ∈ event.request :: inside → opened scope) :
    (⟨inside, event, store⟩ : Moment).Isolates held :=
  ⟨apart.frames, fun scope captured holds form mem =>
    apart.free captured (around captured form mem) scope holds⟩

end IsolationLemmas

open IsolationLemmas

/-- In a run that works in frames that exist and that no lambda holds, the frames that lambdas hold
stay empty, and no evaluation works in them. The same goes for frames that are captured on the
way. -/
theorem Runs.isolated {setting : Setting} {base : Nat} {inside : List Request} {store : Store}
    {held : FrameId → FrameId → Prop} {opened : FrameId → Prop} {α : Type} {plan : Plan α}
    {trace : List Moment} {outcome : Outcome α}
    (h : Runs setting base inside plan store trace outcome) {good : α → Prop}
    (meets : plan.Meets anything good opened) (hosts : anything.Hosts opened setting)
    (root : opened rootFrame)
    (around : ∀ scope form, .eval scope form ∈ inside → opened scope)
    (apart : store.scopes.Apart held opened) :
    Isolated held trace ∧ (storeOf outcome).scopes.Apart (Captured held trace) opened := by
  induction h generalizing held opened with
  | done => exact ⟨trivial, (captured_nil held).symm ▸ apart⟩
  | fail => exact ⟨trivial, (captured_nil held).symm ▸ apart⟩
  | @answered _ inside request next store mid inner later left answer outcome ran closed went ih
      more =>
    obtain ⟨asked, goes_on⟩ := meets
    have within := around_cons asked around
    obtain ⟨isolated, ended⟩ :=
      ih (anything_lawful.meets_call hosts root asked fun _ _ _ _ _ => trivial) hosts root within
        (apart_call apart asked)
    rw [← scopes_closeModule closed] at ended
    have answered := apart_answered ran closed asked apart.old ended
    obtain ⟨isolated', last⟩ := more (goes_on answer (anything_grants answer))
      (hosts.mono fun _ => .inl) (.inl root) (fun scope form mem => .inl (around scope form mem))
      (apart_entered ran closed apart answered)
    rw [isolated_begins, isolated_append, captured_begins, captured_append, captured_cons]
    exact ⟨⟨isolates_of_apart apart within, isolated, isolates_of_apart answered within, isolated'⟩,
      apart_mono last fun _ => .inl⟩
  | @failed _ inside request next store mid inner left e ran closed ih =>
    obtain ⟨asked, -⟩ := meets
    have within := around_cons asked around
    obtain ⟨isolated, ended⟩ :=
      ih (anything_lawful.meets_call hosts root asked fun _ _ _ _ _ => trivial) hosts root within
        (apart_call apart asked)
    rw [← scopes_closeModule closed] at ended
    have failed : Captured (Captured held inner) [⟨inside, .fails request e, mid⟩] =
        Captured held inner :=
      captured_of_event _ (by simp)
    rw [isolated_begins, isolated_append, captured_begins, captured_append, failed]
    exact ⟨⟨isolates_of_apart apart within, isolated, failed.symm ▸ isolates_of_apart ended within,
      trivial⟩, ended⟩

/-! ## 3. Sessions -/

/-- The frame exists, and no lambda holds it. -/
def Scopes.Unheld (held : FrameId → FrameId → Prop) (s : Scopes) (id : FrameId) : Prop :=
  id < s.size ∧ ∀ scope, ¬ held scope id

/-- The host leaves the frames alone that lambdas hold: it evaluates nothing and binds nothing in
them. Where it evaluates something, there is a frame. Its procedures bind names in frames of their
own and in others that no lambda holds. -/
def Step.SparesHeld (held : FrameId → FrameId → Prop) (s : Session) : Step → Prop
  | .operation op =>
    (∀ scope form, op = .eval scope form → s.store.scopes.Unheld held scope) ∧
      ∀ procedure ∈ s.setting.procedures, ∀ args,
        (procedure args).BindsIn (s.store.scopes.Unheld held)
  | .define scope _ _ => ∀ made, ¬ held made scope
  | _ => True

/-- Each step of a run leaves the frames alone that lambdas hold then. -/
def Session.SparesHeld (s : Session) (held : FrameId → FrameId → Prop) : List Step → Prop
  | [] => True
  | step :: steps => step.SparesHeld held s ∧
    ∀ trace, s.Passes step trace → (s.step step).SparesHeld (Captured held trace) steps

section Sessions

variable {s : Session} {held : FrameId → FrameId → Prop}

/-- The root is below nothing, so no lambda holds it. -/
theorem not_held_rootFrame {scopes : Scopes} (sealed : scopes.Sealed held) (scope : FrameId) :
    ¬ held scope rootFrame := fun holds =>
  Nat.not_lt_zero _ (Scopes.parent?_lt (sealed.parent scope rootFrame holds))

theorem perform_isolated (sealed : s.store.scopes.Sealed held)
    (root : rootFrame < s.store.scopes.size) {op : Operation}
    (spares : (Step.operation op).SparesHeld held s) {trace : List Moment}
    {outcome : Outcome Answer} (run : s.Performs op trace outcome) :
    Isolated held trace ∧ (s.perform op).2.store.scopes.Sealed (Captured held trace) ∧
      rootFrame < (s.perform op).2.store.scopes.size := by
  have unheld_root : s.store.scopes.Unheld held rootFrame := ⟨root, not_held_rootFrame sealed⟩
  have admitted : anything.Admits (s.store.scopes.Unheld held) s op := by
    refine ⟨fun _ _ => trivial, ?_⟩
    cases op with
    | eval scope form => exact ⟨spares.1 scope form rfl, trivial⟩
    | apply procedure args => exact ⟨trivial, fun _ _ => trivial⟩
    | _ => trivial
  have apart : s.store.scopes.Apart held (s.store.scopes.Unheld held) :=
    ⟨sealed, fun _ hid => hid.1, fun _ hid => hid.2⟩
  obtain ⟨isolated, last⟩ := run.isolated (anything_lawful.meets_plan unheld_root admitted)
    (anything_hosts spares.2) unheld_root (by simp) apart
  rw [run.store_eq]
  exact ⟨isolated, last.frames, last.old rootFrame unheld_root⟩

/-- What a host does between operations captures nothing and leaves captured frames alone. -/
theorem step_isolated (sealed : s.store.scopes.Sealed held)
    (root : rootFrame < s.store.scopes.size) {step : Step} (spares : step.SparesHeld held s)
    {trace : List Moment} (passes : s.Passes step trace) :
    Isolated held trace ∧ (s.step step).store.scopes.Sealed (Captured held trace) ∧
      rootFrame < (s.step step).store.scopes.size := by
  have bind (id : FrameId) (free : ∀ scope, ¬ held scope id) (name : String) (v : Value) :
      (s.store.scopes.define id name v).Sealed held ∧
        rootFrame < (s.store.scopes.define id name v).size :=
    ⟨sealed_define sealed free name v, Nat.lt_of_lt_of_eq root Scopes.size_define.symm⟩
  have quiet (scopes : Scopes) (same : (s.step step).store.scopes = scopes) (none : trace = [])
      (kept : scopes.Sealed held ∧ rootFrame < scopes.size) :
      Isolated held trace ∧ (s.step step).store.scopes.Sealed (Captured held trace) ∧
        rootFrame < (s.step step).store.scopes.size := by
    rw [none, captured_nil, same]
    exact ⟨trivial, kept⟩
  cases step with
  | operation op =>
    obtain ⟨outcome, run⟩ := passes
    exact perform_isolated sealed root spares run
  | register name procedure =>
    exact quiet _ rfl passes (bind rootFrame (not_held_rootFrame sealed) name _)
  | newRoot =>
    have size : s.store.scopes.newRoot.size = s.store.scopes.size + 1 := Scopes.size_push
    exact quiet _ rfl passes ⟨sealed_push sealed none .empty (by simp),
      Nat.lt_of_lt_of_eq (Nat.lt_succ_of_lt root) size.symm⟩
  | newFrame parent params args =>
    exact quiet _ rfl passes ⟨sealed_newFrame sealed parent _,
      Nat.lt_of_lt_of_eq (Nat.lt_succ_of_lt root) Scopes.size_newFrame.symm⟩
  | define scope name v => exact quiet _ rfl passes (bind scope spares name v)
  | assign scope name v =>
    cases owns : s.store.scopes.owner? scope name with
    | none =>
      refine quiet s.store.scopes ?_ passes ⟨sealed, root⟩
      simp only [Session.step, Scopes.set?, owns]
      rfl
    | some owner =>
      refine quiet (s.store.scopes.define owner name v) ?_ passes
        (bind owner (not_held_of_owner? sealed owns) name v)
      simp only [Session.step, Scopes.set?, owns]
      rfl
  | clear scope =>
    exact quiet _ rfl passes ⟨sealed_clear sealed scope, Nat.lt_of_lt_of_eq root
      Scopes.size_modify.symm⟩
  | reset => exact quiet _ rfl passes ⟨sealed, root⟩
  | listen reporting => exact quiet _ rfl passes ⟨sealed, root⟩
  | arrange change => exact quiet _ rfl passes ⟨sealed, root⟩
  | redirect sink => exact quiet _ rfl passes ⟨sealed, root⟩

/-- In a run, captured frames stay empty and apart. -/
theorem history_isolated (sealed : s.store.scopes.Sealed held)
    (root : rootFrame < s.store.scopes.size) {steps : List Step}
    (spares : s.SparesHeld held steps) {history : List Moment}
    (happens : s.History steps history) :
    Isolated held history ∧ (s.after steps).store.scopes.Sealed (Captured held history) := by
  induction steps generalizing s held history with
  | nil =>
    cases happens
    exact ⟨trivial, (captured_nil held).symm ▸ sealed⟩
  | cons step steps ih =>
    obtain ⟨trace, later, passes, follows, rfl⟩ := happens
    obtain ⟨isolated, sealed, root⟩ := step_isolated sealed root spares.1 passes
    obtain ⟨isolated', last⟩ := ih sealed root (spares.2 trace passes) follows
    rw [isolated_append, captured_append]
    exact ⟨⟨isolated, isolated'⟩, last⟩

end Sessions

/-- Calls are isolated. Every run of a session has one history. Where the evaluation of a lambda
form ends in it, a lambda is made. From that moment on, at every moment of the history and in the
session at the end, the frame that the lambda captured is empty, no evaluation works in it, and
calls of the lambda do not see each other: a call binds its arguments in a new frame, and every
other name is what it is, at the time of the call, in the frame in which the lambda was made. It
does not matter who calls, and what other calls of the lambda defined or assigned, earlier or around
this one. The host and its procedures are assumed to leave captured frames alone. -/
theorem calls_isolated (s : Session) (steps : List Step) (root : rootFrame < s.store.scopes.size)
    (spares : s.SparesHeld (fun _ _ => False) steps) :
    ∃ history, s.History steps history ∧
      (∀ other, s.History steps other → other = history) ∧
      (∀ m ∈ history, ∀ scope head args, m.event = .ends (.eval scope (.list (head :: args))) →
        SpecialForm.ofHead? head = some .lambda →
        ∃ params body captured, m.Makes scope params body captured) ∧
      ∀ earlier made later scope params body captured, history = earlier ++ made :: later →
        made.Makes scope params body captured →
        (s.after steps).store.Isolates scope params body captured ∧
        ∀ m ∈ made :: later, m.store.Isolates scope params body captured ∧
          ∀ form, .eval captured form ∉ m.event.request :: m.inside := by
  obtain ⟨history, happens⟩ := s.exists_history steps
  obtain ⟨isolated, last⟩ := history_isolated ⟨nofun, nofun⟩ root spares happens
  refine ⟨history, happens, fun _ other => Session.history_unique other happens, ?_, ?_⟩
  · exact fun m mem _ _ _ ended isLambda => happens.makes mem ended isLambda
  · rintro earlier made later scope params body captured rfl makes
    have whole : Captured (fun _ _ => False) (earlier ++ made :: later) scope captured :=
      .inr ⟨made, by simp, params, body, makes⟩
    have holds : Captured (Captured (fun _ _ => False) earlier) [made] scope captured :=
      .inr ⟨made, List.mem_singleton.mpr rfl, params, body, makes⟩
    obtain ⟨-, here, on⟩ := isolated_append.mp isolated
    refine ⟨last.isolates whole params body, fun m mem => ?_⟩
    have now : m.Isolates (Captured (Captured (fun _ _ => False) earlier) [made]) := by
      rcases List.mem_cons.mp mem with rfl | mem
      · exact here
      · exact on.isolates mem
    exact ⟨now.frames.isolates holds params body, now.apart scope captured holds⟩

/-- The body of a lambda that binds a local. -/
def localizing : Value :=
  .list [.symbol "begin",
    .list [.symbol "define", .symbol "t", .list [.symbol "+", .symbol "a", .integer "1"]],
    .list [.symbol "print", .symbol "t"]]

/-- A lambda form with two parameters of one name. -/
def localizer : Value :=
  .list [.symbol "lambda", .list [.symbol "a", .symbol "a"], localizing]

/-- The lambda is made, and called with too many arguments and with too few. -/
def localizerCalls : List Step :=
  let made : Value := .lambda ["a", "a"] localizing 1
  [.operation (.eval rootFrame localizer),
    .operation (.apply made [.integer "1", .integer "2", .integer "3"]),
    .operation (.apply made [.integer "5"])]

/-- The second call sees its own argument, and the frame that the lambda captured stays empty. -/
theorem calls_isolated_localizer :
    let s := Session.new {}
    (rootFrame < s.store.scopes.size ∧ s.SparesHeld (fun _ _ => False) localizerCalls) ∧
    (s.after localizerCalls).store.sink.text = "3\n6\n" ∧
    ∃ history earlier made later params body captured, s.History localizerCalls history ∧
      history = earlier ++ made :: later ∧ made.event = .ends (.eval rootFrame localizer) ∧
      made.Makes rootFrame params body captured ∧
      (s.after localizerCalls).store.Isolates rootFrame params body captured := by
  intro s
  have root : rootFrame < s.store.scopes.size := by decide +kernel
  -- There is no procedure of the host, now or later.
  have kept {t : Session} (op : Operation) (none : t.setting.procedures = #[]) :
      (t.step (.operation op)).setting.procedures = #[] := by
    rw [Session.step, Session.setting_perform, none]
  have noHosts {t : Session} (none : t.setting.procedures = #[]) (frames : FrameId → Prop) :
      ∀ procedure ∈ t.setting.procedures, ∀ args, (procedure args).BindsIn frames := by
    simp [none]
  have applies {t : Session} (none : t.setting.procedures = #[]) (held : FrameId → FrameId → Prop)
      (procedure : Value) (args : List Value) :
      (Step.operation (.apply procedure args)).SparesHeld held t :=
    ⟨by simp, noHosts none _⟩
  have spares : s.SparesHeld (fun _ _ => False) localizerCalls := by
    have none : s.setting.procedures = #[] := rfl
    refine ⟨⟨?_, noHosts none _⟩, fun _ _ => ⟨applies (kept _ none) _ _ _, fun _ _ => ?_⟩⟩
    · rintro scope form ⟨⟩
      exact ⟨root, fun _ => id⟩
    · exact ⟨applies (kept _ (kept _ none)) _ _ _, fun _ _ => trivial⟩
  refine ⟨⟨root, spares⟩, by decide +kernel, ?_⟩
  obtain ⟨history, happens, -, lambdas, isolated⟩ := calls_isolated s localizerCalls root spares
  obtain ⟨trace, later, ⟨outcome, run⟩, -, rfl⟩ := id happens
  have worked : (s.perform (.eval rootFrame localizer)).1.isOk := by decide +kernel
  rw [run.perform_eq] at worked
  cases outcome with
  | error e store => cases worked
  | ok answer store =>
    obtain ⟨inner, rfl⟩ := run.eq_of_eval
    obtain ⟨params, body, captured, makes⟩ := lambdas ⟨[], .ends (.eval rootFrame localizer), store⟩
      (by simp) rootFrame _ _ rfl (by decide +kernel)
    have split : ⟨[], .begins (.eval rootFrame localizer), s.store⟩ ::
        (inner ++ [⟨[], .ends (.eval rootFrame localizer), store⟩]) ++ later =
        ⟨[], .begins (.eval rootFrame localizer), s.store⟩ :: inner ++
          ⟨[], .ends (.eval rootFrame localizer), store⟩ :: later := by simp
    exact ⟨_, _, _, later, params, body, captured, happens, split, rfl, makes,
      (isolated _ _ later rootFrame params body captured split makes).1⟩

end ListScript
