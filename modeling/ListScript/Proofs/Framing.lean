import ListScript.Proofs.Discipline
import ListScript.Proofs.Frames

/-!
# Names and parents

Frames are shared by lambdas and evaluations, and any of them may be written to from far away. What
an evaluation that works in a frame does to the others is a discipline: it binds new names only in
its own frame and, by evaluating modules, in the root. A lambda's body works in a frame that its
caller did not have, so it binds no name in a frame of the caller. A procedure of the host is
assumed to bind names only in frames that it makes.

Results:
1. `framed_of_entered`: what a lambda's body does in its own frame means nothing to the caller.
2. `framing_lawful`: binding names in the own frame and the root only is a discipline.
3. `framed_host`: what a procedure of the host binds in frames of its own means nothing to the
   caller.
4. `act_framed`: parents stay and names are never lost in any operation.
-/

namespace ListScript

open Discipline

/-! ## 1. What may be done to names and parents -/

/-- What an action that works in a frame may do: parents stay, names stay, and names appear in the
frame itself and in new frames, and in the root if a module was evaluated. -/
structure Store.Framed (scope : FrameId) (before after : Store) : Prop where
  size : before.scopes.size ≤ after.scopes.size
  parents : ∀ id < before.scopes.size, after.scopes.parent? id = before.scopes.parent? id
  names : ∀ id < before.scopes.size, id ≠ scope →
    (id = rootFrame → after.journal = before.journal) →
      ∀ name, after.scopes.bindsLocally id name = before.scopes.bindsLocally id name
  keeps : ∀ id name, before.scopes.bindsLocally id name → after.scopes.bindsLocally id name
  journal : before.journal <:+ after.journal

namespace FramingLemmas

theorem framed_refl (scope : FrameId) (store : Store) : store.Framed scope store :=
  ⟨Nat.le_refl _, fun _ _ => rfl, fun _ _ _ _ _ => rfl, fun _ _ binds => binds,
    List.suffix_refl _⟩

theorem framed_trans {scope : FrameId} {first second third : Store} (h : first.Framed scope second)
    (h' : second.Framed scope third) : first.Framed scope third where
  size := Nat.le_trans h.size h'.size
  parents id old := by
    rw [h'.parents id (Nat.lt_of_lt_of_le old h.size), h.parents id old]
  names id old other root name := by
    -- If no module was evaluated in all, none was in either part.
    have quiet : id = rootFrame →
        second.journal = first.journal ∧ third.journal = second.journal := by
      intro isRoot
      have whole := root isRoot
      have mid : first.journal = second.journal :=
        h.journal.eq_of_length_le (whole ▸ h'.journal.length_le)
      exact ⟨mid.symm, whole.trans mid⟩
    rw [h'.names id (Nat.lt_of_lt_of_le old h.size) other (fun isRoot => (quiet isRoot).2),
      h.names id old other fun isRoot => (quiet isRoot).1]
  keeps id name binds := h'.keeps id name (h.keeps id name binds)
  journal := h.journal.trans h'.journal

/-- Where frames and journal stay, everything does. -/
theorem framed_of_eq {scope : FrameId} {before after : Store}
    (scopes : after.scopes = before.scopes) (journal : before.journal <:+ after.journal) :
    before.Framed scope after :=
  ⟨Nat.le_of_eq (by rw [scopes]), fun _ _ => by rw [scopes], fun _ _ _ _ _ => by rw [scopes],
    fun _ _ => by rw [scopes]; exact id, journal⟩

theorem framed_define (scope : FrameId) (name : String) (v : Value) (store : Store) :
    store.Framed scope { store with scopes := store.scopes.define scope name v } where
  size := Nat.le_of_eq Scopes.size_define.symm
  parents _ _ := Scopes.parent?_define
  names id _ other _ bound := by
    simp [Scopes.bindsLocally_define, Ne.symm other]
  keeps id bound binds := by
    simp [Scopes.bindsLocally_define, binds]
  journal := List.suffix_refl _

/-- A frame that was made meanwhile may be written to. -/
theorem framed_define_new {scope target : FrameId} {first store : Store}
    (before : first.Framed scope store) (new : first.scopes.size ≤ target) (name : String)
    (v : Value) :
    first.Framed scope { store with scopes := store.scopes.define target name v } where
  size := Nat.le_trans before.size (Nat.le_of_eq Scopes.size_define.symm)
  parents id old := Scopes.parent?_define.trans (before.parents id old)
  names id old other root bound := by
    have apart : target ≠ id := Nat.ne_of_gt (Nat.lt_of_lt_of_le old new)
    simp [Scopes.bindsLocally_define, apart, before.names id old other root bound]
  keeps id bound binds := by
    simp [Scopes.bindsLocally_define, before.keeps id bound binds]
  journal := before.journal

/-- Assigning binds a name where it was bound. -/
theorem framed_assign (scope target : FrameId) (name : String) (v : Value) (store : Store) :
    store.Framed scope ((Eval.assign target name v).after store) := by
  rw [Eval.after_assign]
  cases found : store.scopes.owner? target name with
  | none => exact framed_refl scope store
  | some owner =>
    have binds := (Scopes.owner?_spec found).2
    have same (id : FrameId) (bound : String) :
        (store.scopes.define owner name v).bindsLocally id bound =
          store.scopes.bindsLocally id bound := by
      rw [Scopes.bindsLocally_define]
      by_cases written : owner = id ∧ name = bound
      · obtain ⟨rfl, rfl⟩ := written
        simp [binds]
      · rw [not_and] at written
        by_cases here : owner = id
        · simp [written here]
        · simp [here]
    exact ⟨Nat.le_of_eq Scopes.size_define.symm, fun _ _ => Scopes.parent?_define,
      fun id _ _ _ bound => same id bound, fun id bound binds => (same id bound).trans binds,
      List.suffix_refl _⟩

/-- A new frame is none of those that were there. -/
theorem framed_newFrame (scope parent : FrameId) (b : Bindings) (store : Store) :
    store.Framed scope { store with scopes := store.scopes.newFrame parent b } where
  size := by simp
  parents id old := by
    rw [Scopes.parent?_newFrame, if_neg (Nat.ne_of_lt old)]
  names id old _ _ name := Scopes.bindsLocally_newFrame (Nat.ne_of_lt old)
  keeps id name binds := by
    by_cases new : id = store.scopes.size
    · have absent := Scopes.bindings_of_size_le (Nat.le_of_eq new.symm)
      simp [Scopes.bindsLocally, absent] at binds
    · rwa [Scopes.bindsLocally_newFrame new]
  journal := List.suffix_refl _

/-- What an evaluation does in a new frame, it does not do in a frame that was there. -/
theorem framed_of_entered {scope parent : FrameId} {b : Bindings} {store left : Store}
    (h : Store.Framed store.scopes.size
      { store with scopes := store.scopes.newFrame parent b } left) :
    store.Framed scope left := by
  have made := framed_newFrame scope parent b store
  refine ⟨Nat.le_trans made.size h.size, ?_, ?_, ?_, h.journal⟩
  · intro id old
    rw [h.parents id (Nat.lt_of_lt_of_le old made.size), made.parents id old]
  · intro id old other root name
    rw [h.names id (Nat.lt_of_lt_of_le old made.size) (Nat.ne_of_lt old) root,
      made.names id old other fun _ => rfl]
  · exact fun id name binds => h.keeps id name (made.keeps id name binds)

/-- What the evaluation of a module does in the root is written in the journal. -/
theorem framed_of_module {scope : FrameId} {store left : Store} {path : Path} {phase : ModulePhase}
    {imported : List Path} (h : Store.Framed rootFrame (store.startModule path) left) :
    store.Framed scope (left.enter phase path imported) := by
  have longer : store.journal.length < (left.enter phase path imported).journal.length := by
    have started := h.journal.length_le
    simp only [Store.startModule, Store.enter, List.length_cons] at started ⊢
    omega
  refine ⟨h.size, h.parents, ?_, h.keeps, ?_⟩
  · intro id old _ root name
    have notRoot : id ≠ rootFrame := fun isRoot => by
      rw [root isRoot] at longer
      exact absurd longer (Nat.lt_irrefl _)
    exact h.names id old notRoot (fun isRoot => absurd isRoot notRoot) name
  · exact (List.suffix_cons _ _).trans (h.journal.trans (List.suffix_cons _ _))

end FramingLemmas

open FramingLemmas

/-! ## 2. The discipline -/

/-- The program binds new names in these frames only, and in frames that it made. -/
def HostProgram.BindsIn : HostProgram → (FrameId → Prop) → Prop
  | .ok _, _ => True
  | .error _, _ => True
  | .lookup _ _ next, frames => ∀ v, (next v).BindsIn frames
  | .define scope _ _ next, frames => frames scope ∧ next.BindsIn frames
  | .assign _ _ _ next, frames => next.BindsIn frames
  | .newFrame _ _ next, frames => ∀ made, (next made).BindsIn fun id => frames id ∨ id = made
  | .writeLine _ next, frames => next.BindsIn frames

theorem HostProgram.BindsIn.mono {program : HostProgram} {frames frames' : FrameId → Prop}
    (h : program.BindsIn frames) (le : ∀ id, frames id → frames' id) : program.BindsIn frames' := by
  induction program generalizing frames frames' with
  | ok v => exact trivial
  | error e => exact trivial
  | lookup scope name next ih => exact fun v => ih v (h v) le
  | define scope name v next ih => exact ⟨le scope h.1, ih h.2 le⟩
  | assign scope name v next ih => exact ih h le
  | newFrame parent bindings next ih =>
    exact fun made => ih made (h made) fun id => .imp_left (le id)
  | writeLine line next ih => exact ih h le

theorem HostProgram.bindsIn_true (program : HostProgram) : program.BindsIn fun _ => True := by
  induction program with
  | ok v => exact trivial
  | error e => exact trivial
  | lookup scope name next ih => exact ih
  | define scope name v next ih => exact ⟨trivial, ih⟩
  | assign scope name v next ih => exact ih
  | newFrame parent bindings next ih => exact fun made => (ih made).mono fun _ => .inl
  | writeLine line next ih => exact ih

/-- The procedures of the host bind names in frames that they make, and in no others. -/
def Setting.HostsBindOwnFrames (setting : Setting) : Prop :=
  ∀ procedure ∈ setting.procedures, ∀ args, (procedure args).BindsIn fun _ => False

/-- An action that works in a frame binds new names there only. -/
def framing : Discipline where
  World := Unit
  le _ _ := True
  holds _ _ := True
  inside _ _ := True
  sound _ _ := True
  kept := Store.Framed
  le_refl _ := trivial
  le_trans _ _ := trivial
  inside_mono _ _ := trivial
  sound_mono _ _ := trivial
  kept_refl := framed_refl
  kept_trans := framed_trans

theorem framing_lawful : framing.Lawful where
  root _ := trivial
  truth _ _ := trivial
  nil _ := trivial
  items _ _ _ := trivial
  read _ _ _ := trivial
  builtin _ _ := trivial
  lookup _ _ _ := trivial
  define {_ scope name v} _ _ store _ :=
    ⟨(), trivial, trivial, framed_define scope name v store, fun _ _ _ => trivial⟩
  assign {_ scope name v} _ _ store _ :=
    ⟨(), trivial, trivial, framed_assign scope scope name v store, fun _ _ _ => trivial⟩
  capture {_ scope _ _} _ _ store _ :=
    ⟨(), trivial, trivial, framed_newFrame scope scope .empty store, fun _ _ _ => trivial⟩
  enter _ _ _ := ⟨(), trivial, trivial, trivial, trivial, fun _ _ => framed_of_entered⟩
  write _ := trivial
  write_kept _ _ _ := framed_of_eq rfl (List.suffix_refl _)
  enterModule _ := trivial
  leaveModule := framed_of_module

/-- What a program of the host binds in frames that were not there means nothing to its caller. -/
theorem framed_host {scope : FrameId} {first store : Store} {program : HostProgram}
    {frames : FrameId → Prop} (binds : program.BindsIn frames)
    (new : ∀ id, frames id → first.scopes.size ≤ id) (before : first.Framed scope store) :
    first.Framed scope (program.act.after store) := by
  induction program generalizing frames store with
  | ok v => exact before
  | error e => exact before
  | lookup target name next ih =>
    have looked := (Eval.after_lookup target name store).symm ▸ before
    exact Eval.after_bind looked fun v _ _ later => ih v (binds v) new later
  | define target name v next ih =>
    have defined : first.Framed scope ((Eval.define target name v).after store) :=
      framed_define_new before (new target binds.1) name v
    exact Eval.after_bind defined fun _ _ _ later => ih binds.2 new later
  | assign target name v next ih =>
    have assigned := framed_trans before (framed_assign scope target name v store)
    exact Eval.after_bind assigned fun _ _ _ later => ih binds new later
  | newFrame parent bindings next ih =>
    have made : first.Framed scope ((Eval.newFrame parent bindings).after store) :=
      framed_trans before (framed_newFrame scope parent bindings store)
    refine Eval.after_bind made fun id mid acted later => ih id (binds id) ?_ later
    cases acted
    rintro id (known | rfl)
    · exact new id known
    · exact before.size
  | writeLine line next ih =>
    have written : first.Framed scope ((Eval.writeLine line).after store) := by
      rw [Eval.after_writeLine]
      exact framed_trans before (framed_of_eq rfl (List.suffix_refl _))
    exact Eval.after_bind written fun _ _ _ later => ih binds new later

theorem framing_hosts {setting : Setting} (hosts : setting.HostsBindOwnFrames) :
    framing.Hosts setting := by
  intro w scope procedure args mem _ store _
  have framed := framed_host (hosts procedure mem args) nofun (framed_refl scope store)
  exact ⟨w, trivial, trivial, framed, fun _ _ _ => trivial⟩

/-- An operation binds new names only in the frame that it works in and, by evaluating modules, in
the root. -/
theorem act_framed (s : Session) (op : Operation) (hosts : s.setting.HostsBindOwnFrames) :
    s.store.Framed (scopeOf op) ((s.act op).after s.store) := by
  have admitted : framing.Admits () op := by
    cases op <;> first | trivial | exact ⟨trivial, fun _ _ => trivial⟩
  obtain ⟨-, -, -, kept, -⟩ := framing_lawful.act (framing_hosts hosts) admitted s.store trivial
  exact kept

end ListScript
