import ListScript.Proofs.Lookups

/-!
# Rebinding

Defining a name and assigning to it write one binding of one frame, and frames are shared. So the
new value is seen from every frame whose chain meets the frame that was written before it meets
another one that binds the name. All else is seen as before: other names everywhere, and the name
itself from frames above, from unrelated frames, and from where a nearer frame hides it.

Results:
1. `Scopes.get?_of_unhidden`: what is seen of a frame that nothing hides.
2. `Scopes.get?_define_of_hidden`: a write is not seen from where the frame is hidden.
3. `Scopes.EvolvesAround.find?`: what is left alone stays, whatever else happens to the frames.
4. `rebinding_seen`: who sees a definition or an assignment, and who does not.
-/

namespace ListScript

namespace Scopes

variable {s : Scopes} {id owner : FrameId} {name : String} {v : Value}

/-! ## 1. Frames that nothing hides -/

/-- Of the frames on the chain from `id` that bind the name, `owner` is the first, if it counts as
one of them. -/
def Unhidden (s : Scopes) (id : FrameId) (name : String) (owner : FrameId) : Prop :=
  (s.chain id).find? (fun other => other == owner || s.bindsLocally other name) = some owner

instance : Decidable (s.Unhidden id name owner) :=
  inferInstanceAs (Decidable (_ = _))

/-- A frame that binds the name is unhidden exactly where it is the owner. -/
theorem unhidden_iff_owner? (binds : s.bindsLocally owner name = true) :
    s.Unhidden id name owner ↔ s.owner? id name = some owner := by
  have same (other : FrameId) :
      (other == owner || s.bindsLocally other name) = s.bindsLocally other name := by
    by_cases h : other = owner
    · rw [h, binds, Bool.or_true]
    · simp [h]
  simp only [Unhidden, same, owner?_eq_find?]

/-- What a frame binds a name to is seen from wherever nothing hides it. -/
theorem get?_of_unhidden (found : (s.bindings owner).find? name = some v)
    (unhidden : s.Unhidden id name owner) : s.get? id name = some v := by
  have binds : s.bindsLocally owner name = true := by rw [bindsLocally, found, Option.isSome_some]
  have owned : s.owner? id name = some owner := (unhidden_iff_owner? binds).mp unhidden
  rw [get?_eq_bind_owner?, owned, Option.bind_some, found]

/-! ## 2. Writing one binding -/

theorem chain_define (id : FrameId) : (s.define owner name v).chain id = s.chain id := by
  induction id using Nat.strongRecOn with
  | ind id ih =>
    cases above : s.parent? id with
    | none => rw [chain_of_root above, chain_of_root (parent?_define.trans above)]
    | some p =>
      rw [chain_of_parent above, chain_of_parent (parent?_define.trans above),
        ih p (parent?_lt above)]

section Define

variable (present : owner < s.size)

include present

theorem find?_define : ((s.define owner name v).bindings owner).find? name = some v := by
  rw [bindings_define, if_pos ⟨rfl, present⟩, Bindings.find?_insert, if_pos rfl]

theorem bindsLocally_define_self (other : FrameId) :
    (s.define owner name v).bindsLocally other name =
      (other == owner || s.bindsLocally other name) := by
  rw [bindsLocally_define, Bool.or_comm, Bool.beq_comm]
  simp [present]

/-- A frame is hidden by others, so binding the name in it hides it from nowhere. -/
theorem unhidden_define :
    (s.define owner name v).Unhidden id name owner ↔ s.Unhidden id name owner := by
  simp only [Unhidden, chain_define, bindsLocally_define_self present, ← Bool.or_assoc,
    Bool.or_self]

/-- Where the frame that is written is hidden, the owner of the name stays. -/
theorem owner?_define_of_hidden (hidden : ¬ s.Unhidden id name owner) :
    (s.define owner name v).owner? id name = s.owner? id name := by
  simp only [owner?_eq_find?, chain_define, bindsLocally_define_self present]
  rw [Unhidden] at hidden
  generalize s.chain id = frames at hidden ⊢
  induction frames with
  | nil => rfl
  | cons first rest ih =>
    by_cases same : first = owner
    · simp [same] at hidden
    · have step (found : Bool) : (first == owner || found) = found := by simp [same]
      rw [List.find?_cons, step] at hidden ⊢
      rw [List.find?_cons]
      cases binds : s.bindsLocally first name with
      | true => rfl
      | false =>
        rw [binds] at hidden
        exact ih hidden

/-- Where the frame that is written is hidden, the value of the name stays. -/
theorem get?_define_of_hidden (hidden : ¬ s.Unhidden id name owner) :
    (s.define owner name v).get? id name = s.get? id name := by
  have owners := @owner?_define_of_hidden s id owner name v present hidden
  rw [get?_eq_bind_owner?, get?_eq_bind_owner?, owners]
  refine Option.bind_congr fun first owned => ?_
  have other : owner ≠ first := by
    rintro rfl
    exact hidden ((unhidden_iff_owner? (owner?_spec owned).2).mpr owned)
  rw [bindings_define, if_neg fun written => other written.1]

end Define

/-- The values of other names stay everywhere. -/
theorem get?_define_of_ne {other : String} (distinct : other ≠ name) :
    (s.define owner name v).get? id other = s.get? id other := by
  refine get?_congr (fun _ _ => parent?_define) fun above _ => ?_
  rw [bindings_define]
  split
  · next written => rw [Bindings.find?_insert, if_neg (Ne.symm distinct), written.1]
  · rfl

/-! ## 3. What happens later -/

/-- Frames are made, written and cleared, but the binding of the name in `owner` is left alone. -/
inductive EvolvesAround (owner : FrameId) (name : String) (s : Scopes) : Scopes → Prop
  | refl : EvolvesAround owner name s s
  | newRoot {later : Scopes} (before : EvolvesAround owner name s later) :
      EvolvesAround owner name s later.newRoot
  | newFrame {later : Scopes} (parent : FrameId) (b : Bindings)
      (before : EvolvesAround owner name s later) :
      EvolvesAround owner name s (later.newFrame parent b)
  | define {later : Scopes} {id : FrameId} {other : String} (v : Value)
      (apart : ¬ (id = owner ∧ other = name)) (before : EvolvesAround owner name s later) :
      EvolvesAround owner name s (later.define id other v)
  | clear {later : Scopes} {id : FrameId} (apart : id ≠ owner)
      (before : EvolvesAround owner name s later) :
      EvolvesAround owner name s (later.clear id)

/-- A binding that is left alone stays. -/
theorem EvolvesAround.find? {later : Scopes} (evolves : s.EvolvesAround owner name later)
    (found : (s.bindings owner).find? name = some v) :
    (later.bindings owner).find? name = some v := by
  induction evolves with
  | refl => exact found
  | newRoot _ ih => rwa [Scopes.newRoot, bindings_push, if_neg (Nat.ne_of_lt (lt_size_of_find? ih))]
  | newFrame parent b _ ih => rwa [bindings_newFrame_of_lt (lt_size_of_find? ih)]
  | @define later id other w apart _ ih =>
    rw [bindings_define]
    split
    · next written =>
      rw [Bindings.find?_insert, if_neg fun same => apart ⟨written.1, same⟩, written.1]
      exact ih
    · exact ih
  | clear apart _ ih => rwa [bindings_clear, if_neg apart]

/-! ## 4. What a write changes -/

/-- What changes when the binding of a name in a frame gets a new value. -/
structure Rebinds (before after : Scopes) (owner : FrameId) (name : String) (v : Value) : Prop where
  /-- The new value is seen from where nothing hides the frame. -/
  seen : ∀ id, before.Unhidden id name owner → after.get? id name = some v
  /-- Everything else is seen as before. -/
  unchanged : ∀ id other, ¬ (other = name ∧ before.Unhidden id name owner) →
    after.get? id other = before.get? id other
  /-- This goes on until the binding is written again. Frames that are made later see it too, those
  that lambdas capture and those of their calls among them. -/
  later : ∀ later, after.EvolvesAround owner name later →
    ∀ id, later.Unhidden id name owner → later.get? id name = some v

theorem rebinds_define (present : owner < s.size) (name : String) (v : Value) :
    s.Rebinds (s.define owner name v) owner name v where
  seen := by
    intro id unhidden
    exact get?_of_unhidden (find?_define present) ((unhidden_define present).mpr unhidden)
  unchanged := by
    intro id other elsewhere
    by_cases same : other = name
    · subst same
      exact get?_define_of_hidden present fun unhidden => elsewhere ⟨rfl, unhidden⟩
    · exact get?_define_of_ne same
  later := by
    intro later evolves id unhidden
    exact get?_of_unhidden (evolves.find? (find?_define present)) unhidden

end Scopes

open Scopes

/-- Defining a name and assigning to it change one binding, as it is seen from everywhere. A
definition rebinds the name in the frame itself, and an assignment in the owner that it finds
there. From where nothing hides that frame the name has the new value, also in frames that are made
later and until that binding is written again. All else is seen as before. An assignment without an
owner fails and changes nothing. -/
theorem rebinding_seen (store : Store) {scope : FrameId} (present : scope < store.scopes.size)
    (name : String) (v : Value) :
    (Eval.define scope name v store =
        .ok () { store with scopes := store.scopes.define scope name v } ∧
      store.scopes.Rebinds (store.scopes.define scope name v) scope name v) ∧
    (∀ owner, store.scopes.owner? scope name = some owner →
      ∃ scopes, Eval.assign scope name v store = .ok () { store with scopes } ∧
        store.scopes.set? scope name v = some scopes ∧
        store.scopes.Rebinds scopes owner name v) ∧
    (store.scopes.owner? scope name = none →
      Eval.assign scope name v store = .error (.unbound name) store ∧
        store.scopes.set? scope name v = none) := by
  refine ⟨⟨rfl, rebinds_define present name v⟩, ?_, ?_⟩
  · intro owner owned
    obtain ⟨old, found, -⟩ := exists_get?_of_owner? owned
    refine ⟨store.scopes.define owner name v, ?_, ?_, ?_⟩
    · simp [Eval.assign, Eval.define, owned]
    · rw [set?, owned, Option.map_some]
    · exact rebinds_define (lt_size_of_find? found) name v
  · intro unowned
    constructor
    · simp [Eval.assign, unowned]
    · rw [set?, unowned, Option.map_none]

/-- A root that binds a name, a frame below it that does not, and two frames below that one, of
which the first binds the name. -/
def familyStore : Store where
  scopes := (((Scopes.empty.newRoot.define 0 "x" (.integer "1")).newFrame 0 .empty).newFrame 1
    (.ofCall ["x"] [.integer "2"])).newFrame 1 .empty

/-- Defined in the middle, the name is seen there, in the second frame below and in a frame that is
made below later. The first one and the root keep their own values. Assigned from there, the root's
binding is the one that changes. -/
theorem rebinding_seen_family :
    let defined := familyStore.scopes.define 1 "x" (.integer "5")
    1 < familyStore.scopes.size ∧
    (Eval.define 1 "x" (.integer "5") familyStore = .ok () { familyStore with scopes := defined } ∧
      defined.get? 1 "x" = some (.integer "5") ∧ defined.get? 3 "x" = some (.integer "5") ∧
      defined.get? 2 "x" = some (.integer "2") ∧ defined.get? 0 "x" = some (.integer "1") ∧
      (defined.newFrame 1 .empty).get? 4 "x" = some (.integer "5")) ∧
    ∃ assigned,
      Eval.assign 1 "x" (.integer "6") familyStore =
          .ok () { familyStore with scopes := assigned } ∧
        assigned.get? 0 "x" = some (.integer "6") ∧ assigned.get? 3 "x" = some (.integer "6") ∧
        assigned.get? 2 "x" = some (.integer "2") := by
  intro defined
  have present : 1 < familyStore.scopes.size := by decide +kernel
  have inRoot : familyStore.scopes.get? 0 "x" = some (.integer "1") :=
    @get?_of_unhidden _ 0 0 "x" _ rfl (by decide +kernel)
  have inFirst : familyStore.scopes.get? 2 "x" = some (.integer "2") :=
    @get?_of_unhidden _ 2 2 "x" _ rfl (by decide +kernel)
  obtain ⟨⟨defines, rebound⟩, -, -⟩ := rebinding_seen familyStore present "x" (.integer "5")
  obtain ⟨-, assigning, -⟩ := rebinding_seen familyStore present "x" (.integer "6")
  obtain ⟨assigned, assigns, -, changed⟩ := assigning 0 (by decide +kernel)
  refine ⟨present, ⟨defines, ?_, ?_, ?_, ?_, ?_⟩, assigned, assigns, ?_, ?_, ?_⟩
  · exact rebound.seen 1 (by decide +kernel)
  · exact rebound.seen 3 (by decide +kernel)
  · exact (rebound.unchanged 2 "x" (by decide +kernel)).trans inFirst
  · exact (rebound.unchanged 0 "x" (by decide +kernel)).trans inRoot
  · exact rebound.later _ (.newFrame 1 .empty .refl) 4 (by decide +kernel)
  · exact changed.seen 0 (by decide +kernel)
  · exact changed.seen 3 (by decide +kernel)
  · exact (changed.unchanged 2 "x" (by decide +kernel)).trans inFirst

end ListScript
