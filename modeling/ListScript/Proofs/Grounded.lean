import ListScript.Proofs.Framing
import ListScript.Proofs.Region

/-!
# Grounded sessions

A host only has frames and values that the session gave to it, so whatever it hands over refers to
frames that exist. In a grounded session everything does, and it stays so in every run. The region
of all frames then says that each frame is made below another.

Results:
1. `act_grounded`: an operation keeps a session grounded and makes frames below others.
2. `grounded_after`: so does every run in which the host hands over what refers to existing frames.
3. `eval_keeps_frames`: what an evaluation does to the frames of a session.
-/

namespace ListScript

open RegionLemmas

/-! ## 1. References to existing frames -/

/-- The value refers to the first frames only, as many as there are. -/
def Value.Below (size : Nat) (v : Value) : Prop :=
  v.Within (· < size)

/-- Every value that a frame binds refers to frames that exist. -/
structure Scopes.Grounded (s : Scopes) : Prop where
  root : rootFrame < s.size
  values : ∀ id name v, (s.bindings id).find? name = some v → v.Below s.size

/-- Everything in the session refers to frames that exist, or to frames that it will be given. -/
structure Session.Grounded (s : Session) : Prop where
  scopes : s.store.scopes.Grounded
  hosts : ∀ procedure ∈ s.setting.procedures, Refers (· < s.store.scopes.size) procedure

/-- What a host hands to an operation refers to frames that exist. -/
def Operation.Below (size : Nat) : Operation → Prop
  | .eval scope form => scope < size ∧ form.Below size
  | .apply procedure args => procedure.Below size ∧ ∀ arg ∈ args, arg.Below size
  | _ => True

/-- What a host hands to a session refers to frames that exist. -/
def Step.Below (s : Session) : Step → Prop
  | .operation op => op.Below s.store.scopes.size
  | .arrange change =>
    ∀ procedure ∈ (change s.setting).procedures, Refers (· < s.store.scopes.size) procedure
  | .register _ procedure => Refers (· < s.store.scopes.size) procedure
  | .newFrame _ _ args => ∀ arg ∈ args, arg.Below s.store.scopes.size
  | .define _ _ v => v.Below s.store.scopes.size
  | .assign _ _ v => v.Below s.store.scopes.size
  | _ => True

/-- Each step of a run hands over what refers to frames that exist then. -/
def Session.AllBelow (s : Session) : List Step → Prop
  | [] => True
  | step :: steps => step.Below s ∧ (s.step step).AllBelow steps

/-! ## 2. Operations and steps -/

namespace GroundedLemmas

theorem below_of_within {size : Nat} {v : Value}
    (h : v.Within fun captured => captured < size ∧ True) : v.Below size :=
  h.mono fun _ h => h.1

theorem within_of_below {size : Nat} {v : Value} (h : v.Below size) :
    v.Within fun captured => captured < size ∧ True :=
  h.mono fun _ h => ⟨h, trivial⟩

theorem refers_mono {known known' : FrameId → Prop} {procedure : HostProcedure}
    (h : Refers known procedure) (le : ∀ id, known id → known' id) : Refers known' procedure :=
  fun frames args all => h frames args fun id old => all id (le id old)

/-- Grounded frames are enclosed in the region of all frames. -/
theorem grounded_iff {s : Scopes} : s.Grounded ↔ s.Enclosed (fun _ => True) s.size := by
  constructor
  · intro h
    exact ⟨rfl, h.root, fun _ _ _ _ => trivial,
      fun id name v _ found => within_of_below (h.values id name v found)⟩
  · intro h
    exact ⟨h.root, fun id name v found => below_of_within (h.values id name v trivial found)⟩

theorem grounded_of_enclosed {s : Scopes} {size : Nat} (h : s.Enclosed (fun _ => True) size) :
    s.Grounded := by
  have same := h.size_eq
  subst same
  exact grounded_iff.mpr h

/-- After an operation on a grounded session the frames are grounded, and each frame that was made
has a parent. -/
theorem act_grounded {s : Session} (h : s.Grounded) {op : Operation}
    (below : op.Below s.store.scopes.size) :
    s.store.scopes.size ≤ ((s.act op).after s.store).scopes.size ∧
      ((s.act op).after s.store).scopes.Grounded ∧
      ((s.act op).after s.store).scopes.LinkedFrom s.store.scopes.size := by
  have lawful : (region (fun _ => True) s.store.scopes.size).Lawful :=
    region_lawful trivial fun _ _ => trivial
  have hosts : (region (fun _ => True) s.store.scopes.size).Hosts s.setting :=
    region_hosts trivial (fun _ _ => trivial) fun procedure mem =>
      refers_mono (h.hosts procedure mem) fun _ old => ⟨old, trivial⟩
  have admitted : (region (fun _ => True) s.store.scopes.size).Admits s.store.scopes.size op := by
    cases op with
    | eval scope form => exact ⟨⟨below.1, trivial⟩, within_of_below below.2⟩
    | apply procedure args =>
      exact ⟨within_of_below below.1, fun arg mem => within_of_below (below.2 arg mem)⟩
    | _ => trivial
  -- There is no frame yet from which on each one has a parent.
  have linked : s.store.scopes.LinkedFrom s.store.scopes.size :=
    fun id later old => absurd old (Nat.not_lt.mpr later)
  obtain ⟨size, -, ⟨later, enclosed, linked⟩, -, -⟩ :=
    lawful.act hosts admitted s.store ⟨Nat.le_refl _, grounded_iff.mp h.scopes, linked⟩
  exact ⟨enclosed.size_eq ▸ later, grounded_of_enclosed enclosed, linked⟩

theorem scopes_grounded_step {s : Session} (h : s.Grounded) {step : Step} (below : step.Below s) :
    s.store.scopes.size ≤ (s.step step).store.scopes.size ∧
      (s.step step).store.scopes.Grounded := by
  have enclosed := grounded_iff.mp h.scopes
  have define (scope : FrameId) (name : String) {v : Value} (hv : v.Below s.store.scopes.size) :
      s.store.scopes.size ≤ (s.store.scopes.define scope name v).size ∧
        (s.store.scopes.define scope name v).Grounded :=
    ⟨Nat.le_of_eq Scopes.size_define.symm,
      grounded_of_enclosed (enclosed_define enclosed (within_of_below hv))⟩
  cases step with
  | operation op =>
    rw [Session.step, Session.store_perform]
    obtain ⟨le, grounded, -⟩ := act_grounded h below
    exact ⟨le, grounded⟩
  | reset => exact ⟨Nat.le_refl _, h.scopes⟩
  | listen reporting => exact ⟨Nat.le_refl _, h.scopes⟩
  | arrange change => exact ⟨Nat.le_refl _, h.scopes⟩
  | redirect sink => exact ⟨Nat.le_refl _, h.scopes⟩
  | register name procedure => exact define rootFrame name (Value.within_native _ _)
  | newRoot =>
    have made : s.store.scopes.newRoot.Enclosed (fun _ => True) (s.store.scopes.size + 1) :=
      enclosed_push enclosed (by simp) (by simp)
    exact ⟨made.size_eq ▸ Nat.le_succ _, grounded_of_enclosed made⟩
  | newFrame parent params args =>
    have made : (s.store.scopes.newFrame parent (.ofCall params args)).Enclosed (fun _ => True)
        (s.store.scopes.size + 1) :=
      enclosed_newFrame enclosed trivial fun name v found =>
        within_of_below (below v (within_of_find?_ofCall found))
    exact ⟨made.size_eq ▸ Nat.le_succ _, grounded_of_enclosed made⟩
  | define scope name v => exact define scope name below
  | assign scope name v =>
    simp only [Session.step, Scopes.set?]
    cases s.store.scopes.owner? scope name with
    | none => exact ⟨Nat.le_refl _, h.scopes⟩
    | some owner => exact define owner name below
  | clear scope =>
    exact ⟨Nat.le_of_eq Scopes.size_modify.symm,
      grounded_of_enclosed (enclosed_clear enclosed scope)⟩

end GroundedLemmas

open GroundedLemmas

/-! ## 3. Runs -/

theorem step_grounded {s : Session} (h : s.Grounded) {step : Step} (below : step.Below s) :
    (s.step step).Grounded := by
  obtain ⟨le, scopes⟩ := scopes_grounded_step h below
  have later {procedure : HostProcedure} (known : Refers (· < s.store.scopes.size) procedure) :
      Refers (· < (s.step step).store.scopes.size) procedure :=
    refers_mono known fun _ old => Nat.lt_of_lt_of_le old le
  have same (setting : (s.step step).setting.procedures = s.setting.procedures) :
      ∀ procedure ∈ (s.step step).setting.procedures,
        Refers (· < (s.step step).store.scopes.size) procedure :=
    fun procedure mem => later (h.hosts procedure (setting ▸ mem))
  refine ⟨scopes, ?_⟩
  cases step with
  | operation op => exact same (congrArg Setting.procedures (Session.setting_perform s op))
  | arrange change => exact fun procedure mem => later (below procedure mem)
  | register name procedure =>
    intro other mem
    rcases Array.mem_push.mp mem with old | rfl
    · exact later (h.hosts other old)
    · exact later below
  | assign scope name v =>
    refine same ?_
    simp only [Session.step]
    cases s.store.scopes.set? scope name v <;> rfl
  | _ => exact same rfl

/-- In every run in which the host only hands over what the session gave to it, values refer to
frames that exist. -/
theorem grounded_after {s : Session} (h : s.Grounded) {steps : List Step}
    (below : s.AllBelow steps) :
    (s.after steps).Grounded := by
  induction steps generalizing s with
  | nil => exact h
  | cons step steps ih => exact ih (step_grounded h below.1) below.2

/-- A new session is grounded if its host knows no frame yet. -/
theorem grounded_new {setting : Setting}
    (hosts : ∀ procedure ∈ setting.procedures, Refers (fun _ => False) procedure) :
    (Session.new setting).Grounded := by
  have root : Scopes.empty.newRoot.size = 1 := Scopes.size_push
  refine Session.new_induction ⟨⟨root ▸ Nat.zero_lt_one, ?_⟩, ?_⟩ ?_ ?_
  · intro id name v found
    rw [Session.bare, Store.initial, Scopes.bindings_newRoot_empty] at found
    cases found
  · intro procedure mem
    exact refers_mono (hosts procedure mem) nofun
  · intro s name text h
    show (s.step (.define rootFrame name (.symbol text))).Grounded
    exact step_grounded h (Value.within_atom _ _)
  · intro s name shown action h
    show (s.step (.define rootFrame name (.native shown action))).Grounded
    exact step_grounded h (Value.within_native _ _)

/-! ## 4. Evaluations -/

/-- What the evaluation of a form in a frame does to the frames of a session, whatever its outcome.
Parents stay. Names stay, and appear only in that frame, in new frames and, if a module was
evaluated, in the root. Each new frame is made below an older one, where everything refers to
existing frames. Chains of parents are finite and have no cycle, and all ways to look a name up walk
along them. The procedures of the host are assumed to bind names in frames of their own only. -/
theorem eval_keeps_frames (s : Session) (scope : FrameId) (form : Value)
    (hosts : s.setting.HostsBindOwnFrames) :
    let left := (s.eval scope form).2.store
    let before := s.store.scopes
    let after := left.scopes
    before.size ≤ after.size ∧
    (∀ id < before.size, after.parent? id = before.parent? id) ∧
    (∀ id < before.size, id ≠ scope → (id = rootFrame → left.journal = s.store.journal) →
      ∀ name, after.bindsLocally id name = before.bindsLocally id name) ∧
    (∀ id name, before.bindsLocally id name → after.bindsLocally id name) ∧
    (s.Grounded → scope < before.size → form.Below before.size →
      ∀ id, before.size ≤ id → id < after.size → ∃ p < id, after.parent? id = some p) ∧
    ∀ id, (after.chain id).Nodup ∧ (after.chain id).length ≤ id + 1 ∧ ∀ name,
      after.owner? id name = (after.chain id).find? (after.bindsLocally · name) ∧
      after.get? id name =
        (after.chain id).findSome? (fun above => (after.bindings above).find? name) ∧
      (after.visible id).find? name = after.get? id name := by
  intro left before after
  have same : left = (s.act (.eval scope form)).after s.store :=
    Session.store_perform s (.eval scope form)
  have framed : s.store.Framed scope left := same ▸ act_framed s (.eval scope form) hosts
  refine ⟨framed.size, framed.parents, framed.names, framed.keeps, ?_, fun id => ?_⟩
  · intro grounded old below id later made
    have handed : (Operation.eval scope form).Below s.store.scopes.size := ⟨old, below⟩
    obtain ⟨-, -, linked⟩ := act_grounded grounded handed
    rw [← same] at linked
    obtain ⟨p, above⟩ := linked id later made
    exact ⟨p, Scopes.parent?_lt above, above⟩
  · refine ⟨Scopes.nodup_chain id, Scopes.length_chain_le id, fun name => ⟨?_, ?_, ?_⟩⟩
    · exact Scopes.owner?_eq_find? id name
    · exact Scopes.get?_eq_findSome? id name
    · exact Scopes.find?_visible id name

/-- A procedure of the host that writes its first argument to a log in the root, and gives it. -/
def recording : HostProcedure := fun args =>
  .lookup rootFrame "log" fun log =>
    .assign rootFrame "log" (.list (log.children ++ args.take 1)) (.ok (args.headD .nil))

/-- The procedure knows the root, and no other frame but those of its arguments. -/
theorem refers_recording {known : FrameId → Prop} (root : known rootFrame) :
    Refers known recording := by
  intro frames args all given
  have children {log : Value} (h : log.Within frames) : Value.AllWithin frames log.children :=
    (hereditary_within frames).generated.children h
  refine ⟨all _ root, fun log hlog => ⟨all _ root, Value.within_list.mpr fun v mem => ?_, ?_⟩⟩
  · rcases List.mem_append.mp mem with mem | mem
    · exact children hlog v mem
    · exact given v (List.mem_of_mem_take mem)
  · cases args with
    | nil => exact Value.within_atom _ _
    | cons arg args => exact given arg List.mem_cons_self

/-- A session with that procedure. -/
def hosting : Session :=
  (Session.new {}).after [.define rootFrame "log" (.list []), .register "record" recording]

theorem grounded_hosting : hosting.Grounded := by
  refine grounded_after (grounded_new (by simp)) ⟨?_, ?_, trivial⟩
  · exact Value.within_list.mpr fun v mem => absurd mem List.not_mem_nil
  · exact refers_recording (show 0 < _ by decide +kernel)

/-- A call whose body binds a name and makes a lambda. -/
def definingCall : Value :=
  .list [.list [.symbol "lambda", .list [.symbol "x"],
    .list [.symbol "begin",
      .list [.symbol "define", .symbol "y", .list [.symbol "record", .symbol "x"]],
      .list [.symbol "lambda", .list [.symbol "z"], .symbol "y"]]], .integer "1"]

/-- Evaluated in a frame below the root, the call makes three frames, each below an older one. It
leaves the names of the root alone, though one of them has another value then. -/
theorem eval_keeps_frames_definingCall :
    let s := hosting.after [.newFrame rootFrame [] []]
    let after := (s.eval 1 definingCall).2.store.scopes
    (s.setting.HostsBindOwnFrames ∧ s.Grounded ∧ 1 < s.store.scopes.size ∧
      definingCall.Below s.store.scopes.size) ∧
    s.store.scopes.size = 2 ∧ after.size = 5 ∧
    (∀ id, 2 ≤ id → id < after.size → ∃ p < id, after.parent? id = some p) ∧
    (∀ name, after.bindsLocally rootFrame name = s.store.scopes.bindsLocally rootFrame name) ∧
    (after.get? rootFrame "log").map Value.render = some "(1)" := by
  intro s after
  have hosts : s.setting.HostsBindOwnFrames := by
    intro procedure mem args
    have only : s.setting.procedures = #[recording] := rfl
    rw [only] at mem
    cases Array.mem_singleton.mp mem
    exact fun _ => trivial
  have grounded : s.Grounded := grounded_after grounded_hosting ⟨by simp [Step.Below], trivial⟩
  have size : s.store.scopes.size = 2 := by decide +kernel
  have below : definingCall.Below s.store.scopes.size := by
    simp [definingCall, Value.Below, Value.within_list, Value.AllWithin, Value.within_atom]
  obtain ⟨-, -, names, -, made, -⟩ := eval_keeps_frames s 1 definingCall hosts
  refine ⟨⟨hosts, grounded, size ▸ Nat.one_lt_two, below⟩, size, by decide +kernel, ?_, ?_,
    by decide +kernel⟩
  · exact size ▸ made grounded (size ▸ Nat.one_lt_two) below
  · exact names rootFrame (size ▸ Nat.zero_lt_two) (by decide) fun _ => by decide +kernel

end ListScript
