import ListScript.Scope

/-!
# Frames

What making a frame and binding a name do to all frames, and how names are looked up. The frames
that a name is looked up in are those on the chain of parents. The chain is a list of frames,
strictly decreasing and therefore finite and without a cycle, and the three ways to look names up
all walk along it.

Results:
1. `find?_ofCall_of_last`, `find?_ofCall_of_none`: of the parameters with one name, the last that is
   supplied counts.
2. `bindings_newFrame`, `bindings_define`: making a frame and binding a name change one frame.
3. `chain_decreasing`, `length_chain_le`: a chain is finite and meets no frame twice.
4. `owner?_eq_find?`, `get?_eq_findSome?`: the first frame on the chain counts.
5. `find?_visible`: listing shows what looking up gives.
6. `get?_newFrame`, `owner?_newFrame`: what a new frame sees.
-/

namespace ListScript

namespace Bindings

/-- A name below all names of some entries is not among them. -/
theorem find?_eq_none_of_lt {name : String} {entries : List (String × Value)}
    (below : ∀ entry ∈ entries, name < entry.1) : Entries.find? name entries = none := by
  induction entries with
  | nil => rfl
  | cons entry rest ih =>
    obtain ⟨first, tail⟩ := List.forall_mem_cons.mp below
    rw [Entries.find?, if_neg (Ne.symm (String.ne_of_lt first))]
    exact ih tail

/-- Inserting entries one after another leaves those that stood there under other names. -/
theorem find?_foldl_insert {name : String} {entries : List (String × Value)} {outer : Bindings}
    (sorted : Entries.Sorted entries) :
    (entries.foldl (fun b entry => b.insert entry.1 entry.2) outer).find? name =
      (Entries.find? name entries).or (outer.find? name) := by
  induction entries generalizing outer with
  | nil => rfl
  | cons entry rest ih =>
    obtain ⟨first, v⟩ := entry
    obtain ⟨below, tail⟩ := List.pairwise_cons.mp sorted
    rw [List.foldl_cons, ih tail, find?_insert, Entries.find?]
    by_cases same : first = name
    · -- The entries are sorted, so no later one stands under the same name and covers this one.
      subst same
      simp [find?_eq_none_of_lt below]
    · simp [same]

/-- Of two bindings of a name the inner one counts. -/
theorem find?_onto {inner outer : Bindings} {name : String} :
    (inner.onto outer).find? name = (inner.find? name).or (outer.find? name) :=
  find?_foldl_insert inner.sorted

/-- The parameter at a place has the name, and an argument is there for it. -/
def Supplies (params : List String) (args : List Value) (name : String) (i : Nat) : Prop :=
  params[i]? = some name ∧ i < args.length

section Calls

variable {params : List String} {args : List Value} {name : String}

theorem find?_foldl_zip_of_none (b : Bindings) (none : ∀ i, ¬ Supplies params args name i) :
    ((params.zip args).foldl (fun b pair => b.insert pair.1 pair.2) b).find? name =
      b.find? name := by
  induction params generalizing args b with
  | nil => rfl
  | cons param params ih =>
    cases args with
    | nil => rfl
    | cons arg args =>
      have other : param ≠ name := fun same => none 0 (by simp [Supplies, same])
      rw [List.zip_cons_cons, List.foldl_cons,
        ih (b.insert param arg) fun i supplied => none (i + 1) (by simpa [Supplies] using supplied),
        find?_insert, if_neg other]

theorem find?_foldl_zip_of_last (b : Bindings) {i : Nat} (supplied : Supplies params args name i)
    (last : ∀ j, i < j → ¬ Supplies params args name j) :
    ((params.zip args).foldl (fun b pair => b.insert pair.1 pair.2) b).find? name = args[i]? := by
  induction params generalizing args b i with
  | nil => simp [Supplies] at supplied
  | cons param params ih =>
    cases args with
    | nil => simp [Supplies] at supplied
    | cons arg args =>
      rw [List.zip_cons_cons, List.foldl_cons]
      cases i with
      | zero =>
        -- No later parameter has the name, so the first one is not covered.
        have same : param = name := by simpa [Supplies] using supplied
        rw [find?_foldl_zip_of_none _ fun j later =>
          last (j + 1) (Nat.succ_pos j) (by simpa [Supplies] using later), find?_insert,
          if_pos same]
        rfl
      | succ i =>
        have supplied' : Supplies params args name i := by simpa [Supplies] using supplied
        rw [ih (b.insert param arg) supplied' fun j later supplies =>
          last (j + 1) (Nat.succ_lt_succ later) (by simpa [Supplies] using supplies)]
        rfl

/-- A call binds a name to the argument of the last parameter that has the name and is supplied. -/
theorem find?_ofCall_of_last {i : Nat} (supplied : Supplies params args name i)
    (last : ∀ j, i < j → ¬ Supplies params args name j) :
    (ofCall params args).find? name = args[i]? :=
  find?_foldl_zip_of_last .empty supplied last

/-- A call does not bind a name that no supplied parameter has. -/
theorem find?_ofCall_of_none (none : ∀ i, ¬ Supplies params args name i) :
    (ofCall params args).find? name = .none :=
  find?_foldl_zip_of_none .empty none

end Calls

end Bindings

namespace Scopes

variable {s : Scopes}

/-! ## 1. One frame at a time -/

@[simp] theorem size_newFrame {parent : FrameId} {b : Bindings} :
    (s.newFrame parent b).size = s.size + 1 := by
  unfold newFrame
  split <;> exact size_push

theorem bindings_newFrame {parent id : FrameId} {b : Bindings} :
    (s.newFrame parent b).bindings id = if id = s.size then b else s.bindings id := by
  unfold newFrame
  split <;> exact bindings_push

theorem parent?_newFrame {parent id : FrameId} {b : Bindings} :
    (s.newFrame parent b).parent? id =
      if id = s.size then if parent < s.size then some parent else none else s.parent? id := by
  unfold newFrame
  split <;> exact parent?_push

/-- A frame that does not exist binds nothing. -/
theorem bindings_of_size_le {id : FrameId} (absent : s.size ≤ id) : s.bindings id = .empty := by
  simp [bindings, Array.getElem?_eq_none absent]

/-- The first frame binds nothing at first. -/
theorem bindings_newRoot_empty {id : FrameId} : empty.newRoot.bindings id = .empty := by
  rw [newRoot, bindings_push]
  split
  · rfl
  · exact bindings_of_size_le (Nat.zero_le id)

/-- A frame that binds something exists. -/
theorem lt_size_of_find? {id : FrameId} {name : String} {v : Value}
    (found : (s.bindings id).find? name = some v) : id < s.size := by
  refine Nat.lt_of_not_le fun absent => ?_
  rw [bindings_of_size_le absent] at found
  cases found

/-- A frame that has a parent exists. -/
theorem lt_size_of_parent? {id p : FrameId} (above : s.parent? id = some p) : id < s.size := by
  obtain ⟨frame, found, -⟩ := Option.bind_eq_some_iff.mp above
  exact (Array.getElem?_eq_some_iff.mp found).1

theorem size_define {id : FrameId} {name : String} {v : Value} :
    (s.define id name v).size = s.size :=
  size_modify

theorem parent?_define {id other : FrameId} {name : String} {v : Value} :
    (s.define id name v).parent? other = s.parent? other :=
  parent?_modify

/-- Changing a frame that does not exist does nothing. -/
theorem bindings_modify_of_size_le {id other : FrameId} {f : Bindings → Bindings}
    (absent : s.size ≤ id) : (s.modify id f).bindings other = s.bindings other := by
  by_cases same : id = other
  · subst same
    have absent' : (s.modify id f).size ≤ id := by rwa [size_modify]
    rw [bindings_of_size_le absent, bindings_of_size_le absent']
  · simp [same, modify, bindings, Array.getElem?_modify]

theorem bindings_define {id other : FrameId} {name : String} {v : Value} :
    (s.define id name v).bindings other =
      if id = other ∧ id < s.size then (s.bindings id).insert name v else s.bindings other := by
  by_cases present : id < s.size
  · simp [define, bindings_modify present, present]
  · simp [define, bindings_modify_of_size_le (Nat.le_of_not_lt present), present]

theorem bindings_clear {id other : FrameId} :
    (s.clear id).bindings other = if id = other then .empty else s.bindings other := by
  by_cases present : id < s.size
  · exact bindings_modify present
  · have absent := Nat.le_of_not_lt present
    rw [clear, bindings_modify_of_size_le absent]
    split
    · next same => exact same ▸ bindings_of_size_le absent
    · rfl

theorem bindsLocally_define {id other : FrameId} {name bound : String} {v : Value} :
    (s.define id name v).bindsLocally other bound =
      (s.bindsLocally other bound || (id == other && decide (id < s.size) && name == bound)) := by
  unfold bindsLocally
  rw [bindings_define]
  by_cases written : id = other ∧ id < s.size
  · obtain ⟨rfl, present⟩ := written
    rw [if_pos ⟨rfl, present⟩, Bindings.find?_insert]
    by_cases named : name = bound <;> simp [present, named]
  · rw [if_neg written]
    rw [not_and] at written
    by_cases same : id = other
    · simp [same, same ▸ written same]
    · simp [same]

theorem bindsLocally_newFrame {parent id : FrameId} {b : Bindings} {name : String}
    (old : id ≠ s.size) : (s.newFrame parent b).bindsLocally id name = s.bindsLocally id name := by
  rw [bindsLocally, bindings_newFrame, if_neg old, bindsLocally]

/-! ## 2. The chain -/

/-- The frame and everything above it. -/
def chain (s : Scopes) (id : FrameId) : List FrameId :=
  match _above : s.parent? id with
  | some p => id :: s.chain p
  | none => [id]
termination_by id
decreasing_by exact parent?_lt _above

theorem chain_of_parent {id p : FrameId} (h : s.parent? id = some p) :
    s.chain id = id :: s.chain p := by
  rw [chain]
  split
  · next q above =>
    rw [h] at above
    cases above
    rfl
  · next above =>
    rw [h] at above
    cases above

theorem chain_of_root {id : FrameId} (h : s.parent? id = none) : s.chain id = [id] := by
  rw [chain]
  split
  · next q above =>
    rw [h] at above
    cases above
  · rfl

/-- What holds of a frame and passes from each frame to its parent holds all along the chain. -/
theorem forall_mem_chain {inside : FrameId → Prop} {id : FrameId} (start : inside id)
    (parents : ∀ id p, inside id → s.parent? id = some p → inside p) :
    ∀ above ∈ s.chain id, inside above := by
  induction id using Nat.strongRecOn with
  | ind id ih =>
    cases h : s.parent? id with
    | none => simpa [chain_of_root h] using start
    | some p =>
      rw [chain_of_parent h]
      exact List.forall_mem_cons.mpr ⟨start, ih p (parent?_lt h) (parents id p start h)⟩

theorem le_of_mem_chain {id above : FrameId} (mem : above ∈ s.chain id) : above ≤ id := by
  have below : ∀ above ∈ s.chain id, above ≤ id :=
    forall_mem_chain (Nat.le_refl id) fun _ _ le h => Nat.le_trans (Nat.le_of_lt (parent?_lt h)) le
  exact below above mem

/-- Places only become smaller along a chain. -/
theorem chain_decreasing (id : FrameId) : (s.chain id).Pairwise (· > ·) := by
  induction id using Nat.strongRecOn with
  | ind id ih =>
    cases h : s.parent? id with
    | none => simp [chain_of_root h]
    | some p =>
      rw [chain_of_parent h]
      refine List.pairwise_cons.mpr ⟨fun above mem => ?_, ih p (parent?_lt h)⟩
      exact Nat.lt_of_le_of_lt (le_of_mem_chain mem) (parent?_lt h)

theorem nodup_chain (id : FrameId) : (s.chain id).Nodup :=
  (chain_decreasing id).imp Nat.ne_of_gt

theorem length_chain_le (id : FrameId) : (s.chain id).length ≤ id + 1 := by
  induction id using Nat.strongRecOn with
  | ind id ih =>
    cases h : s.parent? id with
    | none => simp [chain_of_root h]
    | some p =>
      have shorter := ih p (parent?_lt h)
      rw [chain_of_parent h, List.length_cons]
      exact Nat.succ_le_succ (Nat.le_trans shorter (parent?_lt h))

/-! ## 3. Looking up along the chain -/

/-- The owner of a name is the first frame on the chain that binds it. -/
theorem owner?_eq_find? (id : FrameId) (name : String) :
    s.owner? id name = (s.chain id).find? (s.bindsLocally · name) := by
  induction id using Nat.strongRecOn with
  | ind id ih =>
    rw [owner?]
    split
    · next binds =>
      cases h : s.parent? id with
      | none => simp [chain_of_root h, binds]
      | some p => simp [chain_of_parent h, binds]
    · next binds =>
      split
      · next p above => simp [chain_of_parent above, binds, ih p (parent?_lt above)]
      · next above => simp [chain_of_root above, binds]

theorem owner?_spec {id owner : FrameId} {name : String} (h : s.owner? id name = some owner) :
    owner ∈ s.chain id ∧ s.bindsLocally owner name := by
  rw [owner?_eq_find?] at h
  refine ⟨List.mem_of_find?_eq_some h, ?_⟩
  simpa using (List.find?_eq_some_iff_append.mp h).1

/-- The value of a name is its value in the first frame on the chain that binds it. -/
theorem get?_eq_findSome? (id : FrameId) (name : String) :
    s.get? id name = (s.chain id).findSome? fun above => (s.bindings above).find? name := by
  induction id using Nat.strongRecOn with
  | ind id ih =>
    rw [get?]
    split
    · next v found =>
      cases h : s.parent? id with
      | none => simp [chain_of_root h, found]
      | some p => simp [chain_of_parent h, found]
    · next found =>
      split
      · next p above =>
        rw [chain_of_parent above, List.findSome?_cons, found, ih p (parent?_lt above)]
      · next above => simp [chain_of_root above, found]

theorem get?_spec {id : FrameId} {name : String} {v : Value} (h : s.get? id name = some v) :
    ∃ above ∈ s.chain id, (s.bindings above).find? name = some v := by
  rw [get?_eq_findSome?] at h
  exact List.exists_of_findSome?_eq_some h

/-- Listing shows a name with the value that looking it up gives. -/
theorem find?_visible (id : FrameId) (name : String) :
    (s.visible id).find? name = s.get? id name := by
  induction id using Nat.strongRecOn with
  | ind id ih =>
    rw [visible, get?_eq_findSome?]
    split
    · next p above =>
      rw [Bindings.find?_onto, ih p (parent?_lt above), chain_of_parent above,
        List.findSome?_cons, get?_eq_findSome?]
      cases (s.bindings id).find? name <;> rfl
    · next above =>
      rw [chain_of_root above, List.findSome?_singleton]

/-! ## 4. Looking up one frame at a time -/

/-- A name is looked up in the frame, and then in its parent. -/
theorem get?_eq (id : FrameId) (name : String) :
    s.get? id name =
      ((s.bindings id).find? name).or ((s.parent? id).bind fun p => s.get? p name) := by
  rw [get?]
  split
  · next v found => simp [found]
  · next found => split <;> simp [*]

theorem owner?_eq (id : FrameId) (name : String) :
    s.owner? id name =
      if s.bindsLocally id name then some id
      else (s.parent? id).bind fun p => s.owner? p name := by
  rw [owner?]
  split
  · rfl
  · split <;> simp [*]

section Congr

variable {s' : Scopes} {id : FrameId} {name : String}
  (parents : ∀ above ≤ id, s'.parent? above = s.parent? above)
  (bound : ∀ above ≤ id, (s'.bindings above).find? name = (s.bindings above).find? name)

include parents bound

/-- The value of a name depends on what it is bound to in older frames. -/
theorem get?_congr : s'.get? id name = s.get? id name := by
  induction id using Nat.strongRecOn with
  | ind id ih =>
    rw [get?_eq, get?_eq id, parents id (Nat.le_refl id), bound id (Nat.le_refl id)]
    congr 1
    refine Option.bind_congr fun p above => ?_
    have older := Nat.le_of_lt (parent?_lt above)
    exact ih p (parent?_lt above) (fun above le => parents above (Nat.le_trans le older))
      fun above le => bound above (Nat.le_trans le older)

/-- So does its owner. -/
theorem owner?_congr : s'.owner? id name = s.owner? id name := by
  induction id using Nat.strongRecOn with
  | ind id ih =>
    rw [owner?_eq, owner?_eq id, bindsLocally, bindsLocally, parents id (Nat.le_refl id),
      bound id (Nat.le_refl id)]
    congr 1
    refine Option.bind_congr fun p above => ?_
    have older := Nat.le_of_lt (parent?_lt above)
    exact ih p (parent?_lt above) (fun above le => parents above (Nat.le_trans le older))
      fun above le => bound above (Nat.le_trans le older)

end Congr

section NewFrame

variable {parent id : FrameId} {b : Bindings} (old : id < s.size)

include old

theorem parent?_newFrame_of_lt : (s.newFrame parent b).parent? id = s.parent? id := by
  rw [parent?_newFrame, if_neg (Nat.ne_of_lt old)]

theorem bindings_newFrame_of_lt : (s.newFrame parent b).bindings id = s.bindings id := by
  rw [bindings_newFrame, if_neg (Nat.ne_of_lt old)]

/-- What an older frame sees stays when a frame is made. -/
theorem get?_newFrame_of_lt (name : String) :
    (s.newFrame parent b).get? id name = s.get? id name :=
  get?_congr (fun _ le => parent?_newFrame_of_lt (Nat.lt_of_le_of_lt le old)) fun _ le =>
    congrArg (·.find? name) (bindings_newFrame_of_lt (Nat.lt_of_le_of_lt le old))

theorem owner?_newFrame_of_lt (name : String) :
    (s.newFrame parent b).owner? id name = s.owner? id name :=
  owner?_congr (fun _ le => parent?_newFrame_of_lt (Nat.lt_of_le_of_lt le old)) fun _ le =>
    congrArg (·.find? name) (bindings_newFrame_of_lt (Nat.lt_of_le_of_lt le old))

end NewFrame

section Below

variable {parent : FrameId} {b : Bindings} (old : parent < s.size) (name : String)

include old

/-- A new frame sees what is bound in it, and then what its parent saw. -/
theorem get?_newFrame :
    (s.newFrame parent b).get? s.size name = (b.find? name).or (s.get? parent name) := by
  rw [get?_eq, bindings_newFrame, if_pos rfl, parent?_newFrame, if_pos rfl, if_pos old]
  exact congrArg _ (get?_newFrame_of_lt old name)

theorem owner?_newFrame :
    (s.newFrame parent b).owner? s.size name =
      if (b.find? name).isSome then some s.size else s.owner? parent name := by
  rw [owner?_eq, bindsLocally, bindings_newFrame, if_pos rfl, parent?_newFrame, if_pos rfl,
    if_pos old]
  exact congrArg _ (owner?_newFrame_of_lt old name)

end Below

end Scopes

end ListScript
