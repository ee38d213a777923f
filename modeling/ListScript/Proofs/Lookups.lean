import ListScript.Proofs.Frames
import ListScript.Store
import ListScript.Text.Bytes

/-!
# Lookups

The chain of parents is walked in three ways: to find the owner of a name, to find its value, and to
list every name that is seen. Each walk has its own recursion, and all of them follow the same rule:
the first frame on the chain that binds a name decides.

Results:
1. `Bindings.mem_entries_iff`: the entries of a frame are what is found in it.
2. `Scopes.owner?_eq_some_iff`: the owner is the first frame on the chain that binds the name.
3. `Scopes.get?_eq_bind_owner?`: the value of a name is the one that its owner has for it.
4. `lookups_agree`: the walks agree, and the names that are listed increase byte by byte.
-/

namespace ListScript

namespace Bindings

theorem mem_of_find? {name : String} {v : Value} {entries : List (String × Value)}
    (found : Entries.find? name entries = some v) : (name, v) ∈ entries := by
  induction entries with
  | nil => cases found
  | cons entry rest ih =>
    obtain ⟨other, old⟩ := entry
    rw [Entries.find?] at found
    split at found
    · next same =>
      cases found
      subst same
      exact List.mem_cons_self
    · exact List.mem_cons_of_mem _ (ih found)

theorem find?_of_mem {name : String} {v : Value} {entries : List (String × Value)}
    (sorted : Entries.Sorted entries) (mem : (name, v) ∈ entries) :
    Entries.find? name entries = some v := by
  induction entries with
  | nil => cases mem
  | cons entry rest ih =>
    obtain ⟨below, tail⟩ := List.pairwise_cons.mp sorted
    rw [Entries.find?]
    rcases List.mem_cons.mp mem with rfl | later
    · exact if_pos rfl
    · have other : entry.1 ≠ name := String.ne_of_lt (below _ later)
      rw [if_neg other]
      exact ih tail later

/-- Of each name there is at most one entry, the one that is found. -/
theorem mem_entries_iff {b : Bindings} {name : String} {v : Value} :
    (name, v) ∈ b.entries ↔ b.find? name = some v :=
  ⟨find?_of_mem b.sorted, mem_of_find?⟩

/-- The names of the entries increase byte by byte. -/
theorem names_increasing (b : Bindings) :
    (b.entries.map fun entry => utf8Bytes entry.1).Pairwise (· < ·) :=
  List.pairwise_map.mpr (b.sorted.imp utf8Bytes_lt_iff.mpr)

end Bindings

namespace Scopes

variable {s : Scopes} {id owner : FrameId} {name : String}

/-- The frame binds the name, and no frame before it on the chain from `id` does. -/
def FirstBinds (s : Scopes) (id : FrameId) (name : String) (owner : FrameId) : Prop :=
  s.bindsLocally owner name = true ∧ ∃ nearer further,
    s.chain id = nearer ++ owner :: further ∧ ∀ other ∈ nearer, s.bindsLocally other name = false

theorem owner?_eq_some_iff : s.owner? id name = some owner ↔ s.FirstBinds id name owner := by
  rw [owner?_eq_find?, List.find?_eq_some_iff_append]
  simp only [FirstBinds, Bool.not_eq_true']

/-- The value of a name is the one that its owner binds it to, and without an owner it has none. -/
theorem get?_eq_bind_owner? (id : FrameId) (name : String) :
    s.get? id name = (s.owner? id name).bind fun owner => (s.bindings owner).find? name := by
  induction id using Nat.strongRecOn with
  | ind id ih =>
    rw [get?_eq, owner?_eq, bindsLocally]
    cases found : (s.bindings id).find? name with
    | some v => simp [found]
    | none =>
      cases above : s.parent? id with
      | none => rfl
      | some p => exact ih p (parent?_lt above)

/-- An owner has a value for the name, and that is what is seen. -/
theorem exists_get?_of_owner? (owned : s.owner? id name = some owner) :
    ∃ v, (s.bindings owner).find? name = some v ∧ s.get? id name = some v := by
  obtain ⟨v, found⟩ := Option.isSome_iff_exists.mp (owner?_spec owned).2
  exact ⟨v, found, by rw [get?_eq_bind_owner?, owned, Option.bind_some, found]⟩

end Scopes

/-- The walks along a chain agree. A frame is the owner of a name exactly if it is the first on the
chain that binds the name. Then looking the name up gives the owner's value of it, and where no
frame owns the name, looking it up fails. The listing has a name with a value exactly if looking the
name up gives that value, and its names strictly increase in the order of their bytes. -/
theorem lookups_agree (store : Store) (id : FrameId) (name : String) :
    (∀ owner, store.scopes.owner? id name = some owner ↔
      store.scopes.FirstBinds id name owner) ∧
    (∀ owner, store.scopes.owner? id name = some owner →
      ∃ v, (store.scopes.bindings owner).find? name = some v ∧
        store.scopes.get? id name = some v ∧ Eval.lookup id name store = .ok v store) ∧
    (store.scopes.owner? id name = none →
      store.scopes.get? id name = none ∧
        Eval.lookup id name store = .error (.unbound name) store) ∧
    (∀ v, (name, v) ∈ (store.scopes.visible id).entries ↔ store.scopes.get? id name = some v) ∧
    ((store.scopes.visible id).entries.map fun entry => utf8Bytes entry.1).Pairwise (· < ·) := by
  refine ⟨fun owner => Scopes.owner?_eq_some_iff, ?_, ?_, ?_, Bindings.names_increasing _⟩
  · intro owner owned
    obtain ⟨v, found, seen⟩ := Scopes.exists_get?_of_owner? owned
    exact ⟨v, found, seen, by simp [Eval.lookup, seen]⟩
  · intro unowned
    have unseen : store.scopes.get? id name = none := by
      rw [Scopes.get?_eq_bind_owner?, unowned, Option.bind_none]
    exact ⟨unseen, by simp [Eval.lookup, unseen]⟩
  · intro v
    rw [Bindings.mem_entries_iff, Scopes.find?_visible]

end ListScript
