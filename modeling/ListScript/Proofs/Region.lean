import ListScript.Proofs.Captures
import ListScript.Proofs.Discipline
import ListScript.Proofs.Frames

/-!
# Regions

A region is a set of frames that nothing in it leads out of: not a parent, and not a frame that a
value in it refers to. An evaluation that starts inside a region stays there and leaves every other
frame alone. What it makes belongs to the region too, and each new frame has a parent.

Results:
1. `enclosed_define`, `enclosed_push`: what is written inside a region does not lead out of it.
2. `keeps_program`: a program of the host keeps to a discipline like this one if it works in the
   frames that may be worked in.
3. `region_lawful`, `region_hosts`: staying in a region is a discipline, and procedures of the host
   keep to it that know no old frame outside.
-/

namespace ListScript

open Discipline

/-! ## 1. Regions -/

/-- The program works in these frames and in those that it makes. As long as it finds values that
refer to such frames, it looks names up, binds and assigns there only, makes frames below them, and
binds and gives values that refer to them. -/
def HostProgram.Within : HostProgram → (FrameId → Prop) → Prop
  | .ok v, frames => v.Within frames
  | .error _, _ => True
  | .lookup scope _ next, frames =>
    frames scope ∧ ∀ v : Value, v.Within frames → (next v).Within frames
  | .define scope _ v next, frames => frames scope ∧ v.Within frames ∧ next.Within frames
  | .assign scope _ v next, frames => frames scope ∧ v.Within frames ∧ next.Within frames
  | .newFrame parent bindings next, frames =>
    frames parent ∧ (∀ name v, bindings.find? name = some v → v.Within frames) ∧
      ∀ made, (next made).Within fun id => frames id ∨ id = made
  | .writeLine _ next, frames => next.Within frames

/-- A procedure of the host works in the frames that its arguments refer to, and in some that it
knows. -/
def Refers (known : FrameId → Prop) (procedure : HostProcedure) : Prop :=
  ∀ frames args, (∀ id, known id → frames id) → (∀ arg ∈ args, arg.Within frames) →
    (procedure args).Within frames

/-- There are so many frames, and nothing leads out of those that are inside. -/
structure Scopes.Enclosed (inside : FrameId → Prop) (size : Nat) (s : Scopes) : Prop where
  size_eq : s.size = size
  root : rootFrame < size
  parents : ∀ id p, inside id → s.parent? id = some p → inside p
  values : ∀ id name v, inside id → (s.bindings id).find? name = some v →
    v.Within fun captured => captured < size ∧ inside captured

/-- Every frame from `start` on was made below another. -/
def Scopes.LinkedFrom (start : Nat) (s : Scopes) : Prop :=
  ∀ id, start ≤ id → id < s.size → ∃ p, s.parent? id = some p

/-- The frames outside are the same. -/
def Scopes.SameOutside (inside : FrameId → Prop) (before after : Scopes) : Prop :=
  ∀ id, ¬ inside id → after.bindings id = before.bindings id ∧
    after.parent? id = before.parent? id

theorem sameOutside_trans {inside : FrameId → Prop} {first second third : Scopes}
    (h : first.SameOutside inside second) (h' : second.SameOutside inside third) :
    first.SameOutside inside third :=
  fun id outside =>
    ⟨(h' id outside).1.trans (h id outside).1, (h' id outside).2.trans (h id outside).2⟩

/-- An evaluation inside a region stays there. The world is the number of frames. -/
def region (inside : FrameId → Prop) (start : Nat) : Discipline where
  World := Nat
  le := (· ≤ ·)
  holds size store :=
    start ≤ size ∧ store.scopes.Enclosed inside size ∧ store.scopes.LinkedFrom start
  inside size scope := scope < size ∧ inside scope
  sound size v := v.Within fun captured => captured < size ∧ inside captured
  kept _ before after := before.scopes.SameOutside inside after.scopes
  le_refl := Nat.le_refl
  le_trans := Nat.le_trans
  inside_mono le h := ⟨Nat.lt_of_lt_of_le h.1 le, h.2⟩
  sound_mono le h := h.mono fun _ h => ⟨Nat.lt_of_lt_of_le h.1 le, h.2⟩
  kept_refl _ _ _ _ := ⟨rfl, rfl⟩
  kept_trans := sameOutside_trans

/-- Nothing leads out of some frames: not a parent, and not a value that one of them binds. -/
structure Scopes.Closed (inside : FrameId → Prop) (s : Scopes) : Prop where
  parents : ∀ id p, inside id → s.parent? id = some p → inside p
  values : ∀ id name v, inside id → (s.bindings id).find? name = some v → v.Within inside

/-! ## 2. Writing inside a region -/

namespace RegionLemmas

section Region

variable {inside : FrameId → Prop} {size : Nat} {s : Scopes}

theorem closed_define (h : s.Closed inside) {scope : FrameId} {name : String} {v : Value}
    (hv : v.Within inside) : (s.define scope name v).Closed inside where
  parents id p hid above := h.parents id p hid (Scopes.parent?_define ▸ above)
  values id bound u hid found := by
    rw [Scopes.bindings_define] at found
    split at found
    · next written =>
      rw [Bindings.find?_insert, written.1] at found
      split at found
      · exact Option.some.inj found ▸ hv
      · exact h.values id bound u hid found
    · exact h.values id bound u hid found

section Grown

variable {inside' : FrameId → Prop} {b : Bindings}

/-- A new frame may be added to those that nothing leads out of. -/
theorem closed_push (h : s.Closed inside) {parent : Option FrameId}
    {older : ∀ p, parent = some p → p < s.size} (grow : ∀ id, inside id → inside' id)
    (only : ∀ id, inside' id → id ≠ s.size → inside id)
    (hparent : ∀ p, parent = some p → inside' p)
    (hb : ∀ name v, b.find? name = some v → v.Within inside') :
    (s.push parent b older).Closed inside' where
  parents id p hid above := by
    rw [Scopes.parent?_push] at above
    split at above
    · exact hparent p above
    · next other => exact grow p (h.parents id p (only id hid other) above)
  values id name v hid found := by
    rw [Scopes.bindings_push] at found
    split at found
    · exact hb name v found
    · next other => exact (h.values id name v (only id hid other) found).mono grow

theorem closed_newFrame (h : s.Closed inside) {parent : FrameId}
    (grow : ∀ id, inside id → inside' id) (only : ∀ id, inside' id → id ≠ s.size → inside id)
    (hparent : parent < s.size → inside' parent)
    (hb : ∀ name v, b.find? name = some v → v.Within inside') :
    (s.newFrame parent b).Closed inside' := by
  unfold Scopes.newFrame
  split
  · next old =>
    refine closed_push h grow only ?_ hb
    rintro _ ⟨⟩
    exact hparent old
  · exact closed_push h grow only (by simp) hb

end Grown

theorem within_succ {v : Value}
    (h : v.Within fun captured => captured < size ∧ inside captured) :
    v.Within fun captured => captured < size + 1 ∧ inside captured :=
  h.mono fun _ h => ⟨Nat.lt_succ_of_lt h.1, h.2⟩

/-- A frame that has a parent or binds something exists, so only frames that exist matter. -/
theorem enclosed_iff_closed : s.Enclosed inside size ↔
    s.size = size ∧ rootFrame < size ∧ s.Closed fun id => id < size ∧ inside id := by
  constructor
  · intro h
    exact ⟨h.size_eq, h.root, fun id p hid above =>
      ⟨Nat.lt_trans (Scopes.parent?_lt above) hid.1, h.parents id p hid.2 above⟩,
      fun id name v hid => h.values id name v hid.2⟩
  · rintro ⟨rfl, root, closed⟩
    refine ⟨rfl, root, fun id p hid above => ?_, fun id name v hid found => ?_⟩
    · exact (closed.parents id p ⟨Scopes.lt_size_of_parent? above, hid⟩ above).2
    · exact closed.values id name v ⟨Scopes.lt_size_of_find? found, hid⟩ found

theorem enclosed_define (h : s.Enclosed inside size) {scope : FrameId} {name : String} {v : Value}
    (hv : v.Within fun captured => captured < size ∧ inside captured) :
    (s.define scope name v).Enclosed inside size := by
  obtain ⟨size_eq, root, closed⟩ := enclosed_iff_closed.mp h
  exact enclosed_iff_closed.mpr ⟨Scopes.size_define.trans size_eq, root, closed_define closed hv⟩

section Grown

variable {b : Bindings}

/-- The only frame that more frames of a region have is the new one. -/
theorem old_of_ne {id : FrameId} (hid : id < s.size + 1 ∧ inside id) (other : id ≠ s.size) :
    id < s.size ∧ inside id :=
  ⟨Nat.lt_of_le_of_ne (Nat.le_of_lt_succ hid.1) other, hid.2⟩

theorem enclosed_push (h : s.Enclosed inside size) {parent : Option FrameId}
    {older : ∀ p, parent = some p → p < s.size} (hparent : ∀ p, parent = some p → inside p)
    (hb : ∀ name v, b.find? name = some v →
      v.Within fun captured => captured < size ∧ inside captured) :
    (s.push parent b older).Enclosed inside (size + 1) := by
  obtain ⟨rfl, root, closed⟩ := enclosed_iff_closed.mp h
  refine enclosed_iff_closed.mpr ⟨Scopes.size_push, Nat.lt_succ_of_lt root, ?_⟩
  refine closed_push closed (fun _ h => ⟨Nat.lt_succ_of_lt h.1, h.2⟩) (fun _ => old_of_ne) ?_ ?_
  · exact fun p same => ⟨Nat.lt_succ_of_lt (older p same), hparent p same⟩
  · exact fun name v found => within_succ (hb name v found)

theorem enclosed_newFrame (h : s.Enclosed inside size) {parent : FrameId} (hparent : inside parent)
    (hb : ∀ name v, b.find? name = some v →
      v.Within fun captured => captured < size ∧ inside captured) :
    (s.newFrame parent b).Enclosed inside (size + 1) := by
  obtain ⟨rfl, root, closed⟩ := enclosed_iff_closed.mp h
  refine enclosed_iff_closed.mpr ⟨Scopes.size_newFrame, Nat.lt_succ_of_lt root, ?_⟩
  refine closed_newFrame closed (fun _ h => ⟨Nat.lt_succ_of_lt h.1, h.2⟩) (fun _ => old_of_ne) ?_ ?_
  · exact fun old => ⟨Nat.lt_succ_of_lt old, hparent⟩
  · exact fun name v found => within_succ (hb name v found)

end Grown

theorem enclosed_clear (h : s.Enclosed inside size) (scope : FrameId) :
    (s.clear scope).Enclosed inside size where
  size_eq := Scopes.size_modify.trans h.size_eq
  root := h.root
  parents id p hid above := h.parents id p hid (Scopes.parent?_modify ▸ above)
  values id bound u hid found := by
    rw [Scopes.bindings_clear] at found
    split at found
    · simp at found
    · exact h.values id bound u hid found

theorem linkedFrom_define {start : Nat} (h : s.LinkedFrom start) (scope : FrameId) (name : String)
    (v : Value) : (s.define scope name v).LinkedFrom start := by
  intro id later old
  rw [Scopes.parent?_define]
  exact h id later (Scopes.size_define ▸ old)

theorem linkedFrom_newFrame {start : Nat} (h : s.LinkedFrom start) {parent : FrameId} (b : Bindings)
    (old : parent < s.size) : (s.newFrame parent b).LinkedFrom start := by
  intro id later old'
  rw [Scopes.parent?_newFrame, if_pos old]
  split
  · exact ⟨parent, rfl⟩
  · next other =>
    rw [Scopes.size_newFrame] at old'
    exact h id later (Nat.lt_of_le_of_ne (Nat.le_of_lt_succ old') other)

theorem sameOutside_define {scope : FrameId} (hscope : inside scope) (name : String) (v : Value) :
    s.SameOutside inside (s.define scope name v) := by
  intro id outside
  refine ⟨?_, Scopes.parent?_define⟩
  rw [Scopes.bindings_define, if_neg]
  rintro ⟨rfl, -⟩
  exact outside hscope

theorem sameOutside_newFrame (hnew : inside s.size) (parent : FrameId) (b : Bindings) :
    s.SameOutside inside (s.newFrame parent b) := by
  intro id outside
  have old : id ≠ s.size := by
    rintro rfl
    exact outside hnew
  rw [Scopes.bindings_newFrame, if_neg old, Scopes.parent?_newFrame, if_neg old]
  exact ⟨rfl, rfl⟩

end Region

end RegionLemmas

open RegionLemmas

/-! ## 3. The discipline -/

section Hosts

variable {D : Discipline} (lawful : D.Lawful)
  (sound : ∀ w v, D.sound w v ↔ v.Within (D.inside w))
  (anywhere : ∀ {scope scope' before after}, D.kept scope before after → D.kept scope' before after)
  (makes : ∀ {w scope parent bindings}, D.inside w parent →
    (∀ name v, bindings.find? name = some v → D.sound w v) →
      D.Keeps w scope (Eval.newFrame parent bindings) D.inside)

include lawful sound anywhere makes

/-- A program of the host keeps to a discipline if it works in the frames that may be worked in,
where the discipline treats all of them alike. -/
theorem keeps_program {program : HostProgram} {w : D.World} {scope : FrameId}
    (within : ∀ frames, (∀ id, D.inside w id → frames id) → program.Within frames) :
    D.Keeps w scope program.act D.sound := by
  have elsewhere {α : Type} {act : Eval α} {good : D.World → α → Prop} {w : D.World}
      {target : FrameId} (keeps : D.Keeps w target act good) : D.Keeps w scope act good := by
    intro store holds
    obtain ⟨w', le, holds', kept, given⟩ := keeps store holds
    exact ⟨w', le, holds', anywhere kept, given⟩
  have later {w w' : D.World} (le : D.le w w') {frames : FrameId → Prop}
      (all : ∀ id, D.inside w' id → frames id) (id : FrameId) (here : D.inside w id) : frames id :=
    all id (D.inside_mono le here)
  induction program generalizing w with
  | ok v => exact keeps_pure ((sound w v).mpr (within _ fun _ => id))
  | error e => exact keeps_throw
  | lookup target name next ih =>
    have here := within _ fun _ => id
    refine keeps_bind (elsewhere (lawful.find here.1 name)) fun w' v le hv => ih v ?_
    intro frames all
    exact (within frames (later le all)).2 v (((sound w' v).mp hv).mono all)
  | define target name v next ih =>
    have here := within _ fun _ => id
    refine keeps_bind (elsewhere (lawful.define here.1 ((sound w v).mpr here.2.1)))
      fun w' _ le _ => ih ?_
    exact fun frames all => (within frames (later le all)).2.2
  | assign target name v next ih =>
    have here := within _ fun _ => id
    refine keeps_bind (elsewhere (lawful.assign here.1 ((sound w v).mpr here.2.1)))
      fun w' _ le _ => ih ?_
    exact fun frames all => (within frames (later le all)).2.2
  | newFrame parent bindings next ih =>
    have here := within _ fun _ => id
    refine keeps_bind (makes here.1 fun name v found => (sound w v).mpr (here.2.1 name v found))
      fun w' made le hmade => ih made ?_
    intro frames all
    have within := (within frames (later le all)).2.2 made
    -- To be within more frames asks for more, since what is found may refer to all of them.
    have same : (fun id => frames id ∨ id = made) = frames := by
      funext id
      exact propext ⟨fun h => h.elim (fun h => h) fun same => same ▸ all made hmade, .inl⟩
    rwa [same] at within
  | writeLine line next ih =>
    refine keeps_bind (lawful.writeLine line) fun w' _ le _ => ih ?_
    exact fun frames all => within frames (later le all)

end Hosts

/-- A frame that is made inside a region belongs to it. -/
theorem region_newFrame {inside : FrameId → Prop} {start size : Nat}
    (fresh : ∀ id, start ≤ id → inside id) {scope parent : FrameId} {b : Bindings}
    (hparent : (region inside start).inside size parent)
    (hb : ∀ name v, b.find? name = some v → (region inside start).sound size v) :
    (region inside start).Keeps size scope (Eval.newFrame parent b)
      (region inside start).inside := by
  rintro store ⟨later, enclosed, linked⟩
  have hsize := enclosed.size_eq
  have hnew : inside store.scopes.size := fresh _ (hsize ▸ later)
  refine ⟨Nat.succ size, Nat.le_succ size, ⟨Nat.le_succ_of_le later, ?_, ?_⟩,
    sameOutside_newFrame hnew parent b, ?_⟩
  · exact enclosed_newFrame enclosed hparent.2 hb
  · exact linkedFrom_newFrame linked b (hsize ▸ hparent.1)
  · rintro made _ ⟨⟩
    exact ⟨hsize ▸ Nat.lt_succ_self size, hnew⟩

/-- An evaluation that starts in a region stays there: the root and all new frames belong to the
region. -/
theorem region_lawful {inside : FrameId → Prop} {start : Nat} (root : inside rootFrame)
    (fresh : ∀ id, start ≤ id → inside id) : (region inside start).Lawful where
  root h := ⟨h.2.1.root, root⟩
  truth _ _ := Value.within_atom _ _
  nil _ := Value.within_atom _ _
  items h := Value.within_list.mp h
  read h := within_of_readAll h
  builtin h hargs := within_of_apply h hargs
  lookup h hscope found := by
    obtain ⟨above, mem, bound⟩ := Scopes.get?_spec found
    exact h.2.1.values above _ _ (Scopes.forall_mem_chain hscope.2 h.2.1.parents above mem) bound
  define {size scope name v} hscope hv store h :=
    ⟨size, Nat.le_refl size, ⟨h.1, enclosed_define h.2.1 hv, linkedFrom_define h.2.2 scope name v⟩,
      sameOutside_define hscope.2 name v, fun _ _ _ => trivial⟩
  assign {size scope name v} hscope hv store h := by
    rw [Eval.after_assign]
    cases found : store.scopes.owner? scope name with
    | none => exact ⟨size, Nat.le_refl size, h, fun _ _ => ⟨rfl, rfl⟩, fun _ _ _ => trivial⟩
    | some owner =>
      -- The owner may be far away, but chains of parents stay in the region.
      have howner := Scopes.forall_mem_chain hscope.2 h.2.1.parents owner
        (Scopes.owner?_spec found).1
      exact ⟨size, Nat.le_refl size,
        ⟨h.1, enclosed_define h.2.1 hv, linkedFrom_define h.2.2 owner name v⟩,
        sameOutside_define howner name v, fun _ _ _ => trivial⟩
  capture hscope hbody :=
    keeps_imp (region_newFrame fresh hscope (by simp)) fun _ _ le made =>
      Value.within_lambda.mpr ⟨made, (region inside start).sound_mono le hbody⟩
  enter {size store params body captured args} h hprocedure hargs := by
    obtain ⟨later, enclosed, linked⟩ := h
    obtain ⟨⟨old, hcaptured⟩, hbody⟩ := Value.within_lambda.mp hprocedure
    have hsize := enclosed.size_eq
    have hnew : inside store.scopes.size := fresh _ (hsize ▸ later)
    refine ⟨Nat.succ size, Nat.le_succ size, ⟨Nat.le_succ_of_le later, ?_, ?_⟩,
      ⟨hsize ▸ Nat.lt_succ_self size, hnew⟩, within_succ hbody, fun _ left kept => ?_⟩
    · exact enclosed_newFrame enclosed hcaptured fun name v found =>
        hargs v (within_of_find?_ofCall found)
    · exact linkedFrom_newFrame linked _ (hsize ▸ old)
    · exact sameOutside_trans (sameOutside_newFrame hnew captured _) kept
  write h := h
  write_kept _ _ _ _ _ := ⟨rfl, rfl⟩
  enterModule h := h
  leaveModule h := h

/-- Procedures of the host stay in a region, if they know no old frame outside. -/
theorem region_hosts {inside : FrameId → Prop} {start : Nat} {setting : Setting}
    (root : inside rootFrame) (fresh : ∀ id, start ≤ id → inside id)
    (hosts : ∀ procedure ∈ setting.procedures,
      Refers (fun id => id < start ∧ inside id) procedure) :
    (region inside start).Hosts setting := by
  intro size scope procedure args mem hargs
  have began (store : Store) (holds : (region inside start).holds size store) : start ≤ size :=
    holds.1
  refine keeps_of_holds began fun later => ?_
  refine keeps_program (region_lawful root fresh) (fun _ _ => .rfl) (fun kept => kept)
    (region_newFrame fresh) fun frames all => ?_
  have known (id : FrameId) (old : id < start ∧ inside id) : frames id :=
    all id ⟨Nat.lt_of_lt_of_le old.1 later, old.2⟩
  exact hosts procedure mem frames args known fun arg harg => (hargs arg harg).mono all

end ListScript
