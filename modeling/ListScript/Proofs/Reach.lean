import ListScript.Proofs.Grounded

/-!
# Private frames

A frame is reached from some others by going to parents and to the frames that lambdas captured,
where the lambdas stand anywhere in the values that a reached frame binds. Who holds a form and a
frame to evaluate it in can only get at what is reached from there and from the root, where modules
are evaluated. Every other frame stays as it is, and what comes out reaches nothing else either.

Results:
1. `territory_lawful`: staying in what is reached at the start, and in new frames, is a discipline.
2. `territory_hosts`: procedures of the host keep to it that know the root and their arguments only.
3. `perform_keeps_private`: an operation changes no frame that it does not reach, and gives a value
   that reaches no more.
-/

namespace ListScript

open Discipline RegionLemmas

/-! ## 1. Reached frames -/

/-- The frame is reached from those where the search starts. -/
inductive Scopes.Reaches (s : Scopes) (start : FrameId → Prop) : FrameId → Prop
  | start {id : FrameId} (here : start id) : s.Reaches start id
  | parent {id p : FrameId} (below : s.Reaches start id) (above : s.parent? id = some p) :
      s.Reaches start p
  | bound {id captured : FrameId} {name : String} {v : Value} (holder : s.Reaches start id)
      (binds : (s.bindings id).find? name = some v) (captures : v.Captures captured) :
      s.Reaches start captured

/-- The frames that an operation starts from: those that it is handed, directly or in a value, and
the root. -/
def Operation.Roots : Operation → FrameId → Prop
  | .eval scope form => fun id => id = scope ∨ form.Captures id ∨ id = rootFrame
  | .apply procedure args =>
    fun id => procedure.Captures id ∨ (∃ arg ∈ args, arg.Captures id) ∨ id = rootFrame
  | _ => fun id => id = rootFrame

/-- Every operation starts from the root. -/
theorem Operation.roots_rootFrame (op : Operation) : op.Roots rootFrame := by
  cases op with
  | eval scope form => exact .inr (.inr rfl)
  | apply procedure args => exact .inr (.inr rfl)
  | _ => rfl

/-- What is reached is all that nothing leads out of. -/
theorem Scopes.Closed.reaches {s : Scopes} {inside start : FrameId → Prop} (h : s.Closed inside)
    (within : ∀ id, start id → inside id) {id : FrameId} (reached : s.Reaches start id) :
    inside id := by
  induction reached with
  | start here => exact within _ here
  | parent _ above ih => exact h.parents _ _ ih above
  | bound _ binds captures ih => exact h.values _ _ _ ih binds _ captures

/-! ## 2. The discipline -/

/-- The frames of a territory, as many as there are: those that were reached at first, and those
that were made from `first` on. -/
def Territory (reached : FrameId → Prop) (first size : Nat) (id : FrameId) : Prop :=
  reached id ∨ first ≤ id ∧ id < size

/-- An evaluation stays in its territory. The world is the number of frames. -/
def territory (reached : FrameId → Prop) (first : Nat) : Discipline where
  World := Nat
  le := (· ≤ ·)
  holds size store :=
    first ≤ size ∧ store.scopes.size = size ∧ store.scopes.Closed (Territory reached first size)
  inside := Territory reached first
  sound size v := v.Within (Territory reached first size)
  kept _ before after :=
    before.scopes.SameOutside (fun id => reached id ∨ first ≤ id) after.scopes
  le_refl := Nat.le_refl
  le_trans := Nat.le_trans
  inside_mono le h := h.imp_right fun h => ⟨h.1, Nat.lt_of_lt_of_le h.2 le⟩
  sound_mono le h := h.mono fun _ h => h.imp_right fun h => ⟨h.1, Nat.lt_of_lt_of_le h.2 le⟩
  kept_refl _ _ _ _ := ⟨rfl, rfl⟩
  kept_trans := sameOutside_trans

namespace ReachLemmas

section Territory

variable {reached : FrameId → Prop} {first size : Nat} {s : Scopes}

theorem territory_succ {id : FrameId} (h : Territory reached first size id) :
    Territory reached first (size + 1) id :=
  h.imp_right fun h => ⟨h.1, Nat.lt_succ_of_lt h.2⟩

theorem territory_new (later : first ≤ size) : Territory reached first (size + 1) size :=
  .inr ⟨later, Nat.lt_succ_self size⟩

/-- Only the new frame is added to a territory. -/
theorem territory_of_ne {id : FrameId} (h : Territory reached first (size + 1) id)
    (other : id ≠ size) : Territory reached first size id :=
  h.imp_right fun h => ⟨h.1, Nat.lt_of_le_of_ne (Nat.le_of_lt_succ h.2) other⟩

theorem outer_of_territory {id : FrameId} (h : Territory reached first size id) :
    reached id ∨ first ≤ id :=
  h.imp_right And.left

theorem closed_newFrame_territory (h : s.Closed (Territory reached first s.size))
    {parent : FrameId} {b : Bindings} (hparent : Territory reached first s.size parent)
    (hb : ∀ name v, b.find? name = some v → v.Within (Territory reached first s.size)) :
    (s.newFrame parent b).Closed (Territory reached first (s.size + 1)) :=
  closed_newFrame h (fun _ => territory_succ) (fun _ => territory_of_ne)
    (fun _ => territory_succ hparent) fun name v found => (hb name v found).mono fun _ =>
      territory_succ

end Territory

end ReachLemmas

open ReachLemmas

/-- A frame that is made below a territory belongs to it. -/
theorem territory_newFrame {reached : FrameId → Prop} {first size : Nat} {scope parent : FrameId}
    {b : Bindings} (hparent : (territory reached first).inside size parent)
    (hb : ∀ name v, b.find? name = some v → (territory reached first).sound size v) :
    (territory reached first).Keeps size scope (Eval.newFrame parent b)
      (territory reached first).inside := by
  rintro store ⟨later, rfl, closed⟩
  refine ⟨Nat.succ _, Nat.le_succ _, ⟨Nat.le_succ_of_le later, Scopes.size_newFrame, ?_⟩,
    sameOutside_newFrame (.inr later) parent b, ?_⟩
  · exact closed_newFrame_territory closed hparent hb
  · rintro made _ ⟨⟩
    exact territory_new later

/-- An evaluation stays in a territory that holds the root. -/
theorem territory_lawful {reached : FrameId → Prop} {first : Nat} (root : reached rootFrame) :
    (territory reached first).Lawful where
  root _ := .inl root
  truth _ _ := Value.within_atom _ _
  nil _ := Value.within_atom _ _
  items h := Value.within_list.mp h
  read h := within_of_readAll h
  builtin h hargs := within_of_apply h hargs
  lookup h hscope found := by
    obtain ⟨above, mem, bound⟩ := Scopes.get?_spec found
    exact h.2.2.values above _ _ (Scopes.forall_mem_chain hscope h.2.2.parents above mem) bound
  define {size scope name v} hscope hv store h :=
    ⟨size, Nat.le_refl size, ⟨h.1, Scopes.size_define.trans h.2.1, closed_define h.2.2 hv⟩,
      sameOutside_define (outer_of_territory hscope) name v, fun _ _ _ => trivial⟩
  assign {size scope name v} hscope hv store h := by
    rw [Eval.after_assign]
    cases found : store.scopes.owner? scope name with
    | none => exact ⟨size, Nat.le_refl size, h, fun _ _ => ⟨rfl, rfl⟩, fun _ _ _ => trivial⟩
    | some owner =>
      -- The owner may be far away, but chains of parents stay in the territory.
      have howner := Scopes.forall_mem_chain hscope h.2.2.parents owner (Scopes.owner?_spec found).1
      exact ⟨size, Nat.le_refl size,
        ⟨h.1, Scopes.size_define.trans h.2.1, closed_define h.2.2 hv⟩,
        sameOutside_define (outer_of_territory howner) name v, fun _ _ _ => trivial⟩
  capture hscope hbody :=
    keeps_imp (territory_newFrame hscope (by simp)) fun _ _ le made =>
      Value.within_lambda.mpr ⟨made, (territory reached first).sound_mono le hbody⟩
  enter {size store params body captured args} h hprocedure hargs := by
    obtain ⟨later, rfl, closed⟩ := h
    obtain ⟨hcaptured, hbody⟩ := Value.within_lambda.mp hprocedure
    refine ⟨Nat.succ _, Nat.le_succ _, ⟨Nat.le_succ_of_le later, Scopes.size_newFrame, ?_⟩,
      territory_new later, hbody.mono fun _ => territory_succ, fun _ left kept => ?_⟩
    · exact closed_newFrame_territory closed hcaptured fun name v found =>
        hargs v (within_of_find?_ofCall found)
    · exact sameOutside_trans (sameOutside_newFrame (.inr later) captured _) kept
  write h := h
  write_kept _ _ _ _ _ := ⟨rfl, rfl⟩
  enterModule h := h
  leaveModule h := h

/-- So do procedures of the host that know no frame but the root and those of their arguments. -/
theorem territory_hosts {reached : FrameId → Prop} {first : Nat} {setting : Setting}
    (root : reached rootFrame)
    (hosts : ∀ procedure ∈ setting.procedures, Refers (· = rootFrame) procedure) :
    (territory reached first).Hosts setting := by
  intro size scope procedure args mem hargs
  refine keeps_program (territory_lawful root) (fun _ _ => .rfl) (fun kept => kept)
    territory_newFrame fun frames all => ?_
  have known (id : FrameId) (isRoot : id = rootFrame) : frames id := all id (.inl (isRoot ▸ root))
  exact hosts procedure mem frames args known fun arg harg => (hargs arg harg).mono all

/-! ## 3. Operations -/

/-- What is reached at first is a territory. -/
theorem Scopes.closed_reaches (s : Scopes) (start : FrameId → Prop) :
    s.Closed (Territory (s.Reaches start) s.size s.size) where
  parents id p hid above := by
    rcases hid with reached | absent
    · exact .inl (.parent reached above)
    · exact absurd absent.2 (Nat.not_lt_of_le absent.1)
  values id name v hid found captured captures := by
    rcases hid with reached | absent
    · exact .inl (.bound reached found captures)
    · exact absurd absent.2 (Nat.not_lt_of_le absent.1)

/-- An operation works in what it starts from and meets what it is handed. -/
theorem territory_admits (s : Scopes) (op : Operation) :
    (territory (s.Reaches op.Roots) s.size).Admits s.size op := by
  cases op with
  | eval scope form =>
    exact ⟨.inl (.start (.inl rfl)), fun _ captures => .inl (.start (.inr (.inl captures)))⟩
  | apply procedure args =>
    exact ⟨fun _ captures => .inl (.start (.inl captures)),
      fun arg mem _ captures => .inl (.start (.inr (.inl ⟨arg, mem, captures⟩)))⟩
  | _ => trivial

/-- Private frames stay private. Whatever its outcome, an operation leaves every frame as it is that
is not reached from where it starts: from the frame that it evaluates in, from the values that it is
handed, and from the root. A value that it gives reaches frames that were reached from there before
or were made meanwhile, and no others. The procedures of the host are assumed to know no frame but
the root and those that their arguments refer to: they work in these and in frames of their own, and
give values built from what they find there. -/
theorem perform_keeps_private (s : Session) (op : Operation)
    (hosts : ∀ procedure ∈ s.setting.procedures, Refers (· = rootFrame) procedure) :
    let before := s.store.scopes
    let after := (s.perform op).2.store.scopes
    (∀ id < before.size, ¬ before.Reaches op.Roots id →
      after.bindings id = before.bindings id ∧ after.parent? id = before.parent? id) ∧
    ∀ v, (s.perform op).1 = .ok (.value v) → ∀ id, after.Reaches (fun id => v.Captures id) id →
      before.Reaches op.Roots id ∨ before.size ≤ id ∧ id < after.size := by
  intro before after
  have same : after = ((s.act op).after s.store).scopes :=
    congrArg Store.scopes (Session.store_perform s op)
  have root : before.Reaches op.Roots rootFrame := .start op.roots_rootFrame
  have keeps :=
    (territory_lawful root).act (territory_hosts root hosts) (territory_admits before op)
  obtain ⟨size, -, ⟨-, rfl, closed⟩, kept, given⟩ :=
    keeps s.store ⟨Nat.le_refl _, rfl, before.closed_reaches op.Roots⟩
  rw [← same] at closed given
  constructor
  · intro id old unreached
    rw [same]
    exact kept id fun inside => inside.elim unreached (Nat.not_le_of_lt old)
  · intro v answered id reached
    have sound : v.Within (Territory (before.Reaches op.Roots) before.size after.size) := by
      rw [Session.perform_eq] at answered
      cases acted : s.act op s.store with
      | ok answer store =>
        rw [acted] at answered
        cases answered
        exact given (.value v) store acted
      | error e store =>
        rw [acted] at answered
        cases answered
    exact closed.reaches sound reached

/-- A session with a frame apart that binds a name. -/
def secretive : Session :=
  hosting.after [.newRoot, .define 1 "secret" (.integer "7")]

/-- A form that binds the name of the secret where it may, and gives a lambda. -/
def lambdaMaker : Value :=
  .list [.symbol "begin", .list [.symbol "define", .symbol "secret", .integer "8"],
    .list [.symbol "record", .list [.symbol "lambda", .list [], .symbol "secret"]]]

/-- Nothing leads from the root to the frame apart. -/
theorem unreached_secret :
    ¬ secretive.store.scopes.Reaches (Operation.eval rootFrame lambdaMaker).Roots 1 := by
  have rooted : secretive.store.scopes.Closed fun id => id = rootFrame := by
    constructor
    · rintro _ p rfl above
      have noParent : secretive.store.scopes.parent? rootFrame = none := by decide +kernel
      rw [noParent] at above
      cases above
    · rintro _ name v rfl found captured captures
      have size : hosting.store.scopes.size = 1 := by decide +kernel
      have made : secretive.store.scopes =
        hosting.store.scopes.newRoot.define 1 "secret" (.integer "7") := rfl
      rw [made, Scopes.bindings_define, if_neg (by decide), Scopes.newRoot, Scopes.bindings_push,
        if_neg (by rw [size]; decide)] at found
      have old := grounded_hosting.scopes.values _ name v found captured captures
      exact Nat.lt_one_iff.mp (size ▸ old)
  have plain : lambdaMaker.Within fun _ => False := by
    simp [lambdaMaker, Value.within_list, Value.AllWithin, Value.within_atom]
  intro reached
  refine absurd (rooted.reaches ?_ reached) (by decide)
  rintro id (rfl | captures | rfl)
  · rfl
  · exact (plain id captures).elim
  · rfl

/-- The frame apart stays as it is, and is not reached from the lambda. -/
theorem perform_keeps_private_secret :
    let op := Operation.eval rootFrame lambdaMaker
    let after := (secretive.perform op).2.store.scopes
    (∀ procedure ∈ secretive.setting.procedures, Refers (· = rootFrame) procedure) ∧
    (secretive.perform op).1.isOk ∧
    after.bindings 1 = secretive.store.scopes.bindings 1 ∧
    ∀ v, (secretive.perform op).1 = .ok (.value v) →
      ¬ after.Reaches (fun id => v.Captures id) 1 := by
  intro op after
  have hosts : ∀ procedure ∈ secretive.setting.procedures, Refers (· = rootFrame) procedure := by
    intro procedure mem
    have only : secretive.setting.procedures = #[recording] := rfl
    rw [only] at mem
    cases Array.mem_singleton.mp mem
    exact refers_recording rfl
  have size : secretive.store.scopes.size = 2 := by decide +kernel
  obtain ⟨kept, given⟩ := perform_keeps_private secretive op hosts
  refine ⟨hosts, by decide +kernel, (kept 1 (size ▸ Nat.one_lt_two) unreached_secret).1, ?_⟩
  intro v answered reached
  rcases given v answered 1 reached with before | new
  · exact unreached_secret before
  · exact absurd (size ▸ new.1) (by decide)

end ListScript
