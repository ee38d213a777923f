import ListScript.Proofs.Contract
import ListScript.Proofs.Frames

/-!
# Runs that observe a contract

If the names that a contract allows are bound to values that it allows, a plan that meets the
contract leaves it so. Looking a name up then grants what the contract says, so the plans of what it
asks for meet the contract too. So the whole run observes the contract, however deep it goes.

Results:
1. `Bound.define`, `Bound.push`, `Bound.clear`: what changes frames keeps bindings allowed.
2. `Runs.observes`: a run of a plan that meets a lawful contract.
3. `Session.Performs.observes`: an operation.
-/

namespace ListScript

namespace Contract

/-! ## 1. Bindings -/

/-- The names that may be used are bound to values that may be met. -/
def Bound (C : Contract) (s : Scopes) : Prop :=
  ∀ id name v, C.name name → (s.bindings id).find? name = some v → C.value v

variable {C : Contract} {s : Scopes}

theorem Bound.define (bound : C.Bound s) {scope : FrameId} {name : String} {v : Value}
    (hv : C.name name → C.value v) : C.Bound (s.define scope name v) := by
  intro id other u allowed found
  rw [Scopes.bindings_define] at found
  split at found
  · rw [Bindings.find?_insert] at found
    split at found
    · next same =>
      cases found
      exact hv (same ▸ allowed)
    · exact bound scope other u allowed found
  · exact bound id other u allowed found

theorem Bound.push (bound : C.Bound s) {parent : Option FrameId} {b : Bindings}
    {older : ∀ p, parent = some p → p < s.size} (hb : ∀ name v, b.find? name = some v → C.value v) :
    C.Bound (s.push parent b older) := by
  intro id name v allowed found
  rw [Scopes.bindings_push] at found
  split at found
  · exact hb name v found
  · exact bound id name v allowed found

theorem Bound.newFrame (bound : C.Bound s) {parent : FrameId} {b : Bindings}
    (hb : ∀ name v, b.find? name = some v → C.value v) : C.Bound (s.newFrame parent b) := by
  unfold Scopes.newFrame
  split <;> exact bound.push hb

theorem Bound.newRoot (bound : C.Bound s) : C.Bound s.newRoot :=
  bound.push fun name v found => absurd found (by simp)

theorem Bound.clear (bound : C.Bound s) (id : FrameId) : C.Bound (s.clear id) := by
  intro other name v allowed found
  rw [Scopes.bindings_clear] at found
  split at found
  · simp at found
  · exact bound other name v allowed found

/-- What is found for a name is bound somewhere. -/
theorem Bound.get? (bound : C.Bound s) {scope : FrameId} {name : String} {v : Value}
    (allowed : C.name name) (found : s.get? scope name = some v) : C.value v := by
  obtain ⟨above, -, here⟩ := Scopes.get?_spec found
  exact bound above name v allowed here

/-! ## 2. Runs -/

/-- Frames bind what the contract allows. What is asked for at the moment is allowed, and what is
given is what may be counted on. -/
structure Observed (C : Contract) (setting : Setting) (base : Nat) (trace : List Moment)
    (m : Moment) : Prop where
  bound : C.Bound m.store.scopes
  begins : ∀ request, m.event = .begins request → C.Allows (fun _ => True) request
  ends : ∀ request, m.event = .ends request → ∃ answer,
    m.Concludes setting base trace request (.ok answer m.store) ∧ C.Grants request answer

theorem Observed.mono {setting : Setting} {base : Nat} {trace trace' : List Moment} {m : Moment}
    (h : C.Observed setting base trace m) (sub : trace ⊆ trace') :
    C.Observed setting base trace' m where
  bound := h.bound
  begins := h.begins
  ends request ended := by
    obtain ⟨answer, ⟨start, occurs, found⟩, granted⟩ := h.ends request ended
    exact ⟨answer, ⟨start, sub occurs, found⟩, granted⟩

section Runs

variable {setting : Setting} {base : Nat} {inside : List Request} {store : Store}

/-- What is allowed keeps bindings allowed. -/
theorem bound_effect (bound : C.Bound store.scopes) {fx : Effect}
    (allowed : C.Allows (fun _ => True) (.effect fx)) :
    C.Bound ((fx.act setting).after store).scopes := by
  cases fx with
  | lookup scope name => rwa [Effect.act, Eval.after_lookup]
  | define scope name v => exact bound.define fun _ => allowed.2.2
  | assign scope name v =>
    rw [Effect.act, Eval.after_assign]
    cases store.scopes.owner? scope name with
    | none => exact bound
    | some owner => exact bound.define fun _ => allowed.2
  | newFrame parent bindings => exact bound.newFrame allowed
  | writeLine line => rwa [Effect.act, Eval.after_writeLine]
  | readForms text =>
    simp only [Effect.act, Eval.ofExcept, Eval.after]
    cases readAll text <;> exact bound
  | readFile path =>
    simp only [Effect.act]
    cases setting.files.readPath path <;> exact bound

theorem bound_call (bound : C.Bound store.scopes) {request : Request}
    (allowed : C.Allows (fun _ => True) request) :
    C.Bound (request.call setting base inside store).store.scopes := by
  cases request with
  | effect fx => exact bound_effect bound allowed
  | eval scope form =>
    simp only [Request.call]
    split <;> exact bound
  | native action args => exact bound
  | importModule name =>
    simp only [Request.call, importCall]
    split
    · exact bound
    · split <;> exact bound

/-- Where something begins that is allowed, nothing was given yet. -/
theorem observed_begins {request : Request} {trace : List Moment} (bound : C.Bound store.scopes)
    (allowed : C.Allows (fun _ => True) request) :
    C.Observed setting base trace ⟨inside, .begins request, store⟩ where
  bound := bound
  begins other same := by
    cases same
    exact allowed
  ends _ same := nomatch same

end Runs

end Contract

open Contract Plan

section Runs

variable {C : Contract} {setting : Setting} {base : Nat} {inside : List Request} {store : Store}

/-- The run of a plan that meets a lawful contract observes it, keeps bindings allowed and gives
something good. -/
theorem Runs.observes (lawful : C.Lawful setting) (hosts : C.Hosts (fun _ => True) setting)
    {α : Type} {plan : Plan α}
    {trace : List Moment} {outcome : Outcome α}
    (h : Runs setting base inside plan store trace outcome) {good : α → Prop}
    (meets : plan.Meets C good fun _ => True) (bound : C.Bound store.scopes) :
    C.Bound (storeOf outcome).scopes ∧ (∀ a left, outcome = .ok a left → good a) ∧
      ∀ m ∈ trace, C.Observed setting base trace m := by
  induction h with
  | done =>
    refine ⟨bound, fun a left same => ?_, by simp⟩
    cases same
    exact meets
  | fail =>
    refine ⟨bound, fun a left same => ?_, by simp⟩
    cases same
  | @answered _ inside request _ store mid inner later left answer _ ran closed went ih more =>
    obtain ⟨allowed, goesOn⟩ := meets
    obtain ⟨ended, granted, within⟩ :=
      ih (lawful.meets_call hosts trivial allowed fun _ _ _ => bound.get?)
        (bound_call bound allowed)
    obtain ⟨_, gave⟩ := eq_ok_of_closeModule closed
    have boundThen : C.Bound mid.scopes := by
      rw [← scopes_closeModule closed] at ended
      exact ended
    have good := granted answer _ gave
    obtain ⟨last, given, after⟩ :=
      more (meets_mono (goesOn answer good) fun _ _ => trivial) boundThen
    refine ⟨last, given, fun m mem => ?_⟩
    rcases List.mem_cons.mp mem with rfl | mem
    · exact observed_begins bound allowed
    rcases List.mem_append.mp mem with mem | mem
    · exact (within m mem).mono fun _ mem => .tail _ (List.mem_append_left _ mem)
    rcases List.mem_cons.mp mem with rfl | mem
    · refine ⟨boundThen, (fun _ same => nomatch same), fun other ends => ?_⟩
      cases ends
      refine ⟨answer, ⟨⟨inside, .begins request, store⟩, .head _, rfl, rfl, ?_⟩, good⟩
      exact fun exhausted _ => ran.actWithin_call closed exhausted
    · exact (after m mem).mono fun _ mem => .tail _ (List.mem_append_right _ (.tail _ mem))
  | @failed _ inside request _ store mid inner left e ran closed ih =>
    obtain ⟨allowed, -⟩ := meets
    obtain ⟨ended, -, within⟩ :=
      ih (lawful.meets_call hosts trivial allowed fun _ _ _ => bound.get?)
        (bound_call bound allowed)
    have boundThen : C.Bound mid.scopes := by
      rw [← scopes_closeModule closed] at ended
      exact ended
    refine ⟨boundThen, ?_, fun m mem => ?_⟩
    · intro a left same
      cases same
    rcases List.mem_cons.mp mem with rfl | mem
    · exact observed_begins bound allowed
    rcases List.mem_append.mp mem with mem | mem
    · exact (within m mem).mono fun _ mem => .tail _ (List.mem_append_left _ mem)
    · cases List.mem_singleton.mp mem
      exact ⟨boundThen, (fun _ same => nomatch same), fun _ same => nomatch same⟩

end Runs

/-! ## 3. Operations -/

/-- An operation that is handed what is allowed observes a lawful contract, keeps bindings allowed
and gives what may be met. -/
theorem Session.Performs.observes {C : Contract} {s : Session} {op : Operation}
    {trace : List Moment} {outcome : Outcome Answer} (run : s.Performs op trace outcome)
    (lawful : C.Lawful s.setting) (hosts : C.Hosts (fun _ => True) s.setting)
    (bound : C.Bound s.store.scopes)
    (admitted : C.Admits (fun _ => True) s op) :
    C.Bound (s.perform op).2.store.scopes ∧
      (∀ answer, (s.perform op).1 = .ok answer → C.Gives answer) ∧
      ∀ m ∈ trace, C.Observed s.setting (depthOf op) trace m := by
  obtain ⟨kept, gives, observed⟩ :=
    Runs.observes lawful hosts run (lawful.meets_plan trivial admitted) bound
  refine ⟨run.store_eq ▸ kept, fun answer given => ?_, observed⟩
  rw [run.perform_eq] at given
  cases outcome with
  | ok answer left =>
    cases given
    exact gives answer left rfl
  | error e left => cases given

end ListScript
