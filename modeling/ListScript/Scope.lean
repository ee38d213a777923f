import ListScript.Value

/-!
# Scopes

A frame binds names to values and may have a parent. All frames of a session stand in one sequence
and are named by their place in it. A frame is made after its parent, so the parent's place is
smaller and every chain of parents ends at a root.

Rules:
* A name belongs to the first frame on the chain that binds it. That frame is its owner.
* Defining writes into the frame itself. Assigning writes into the owner and fails where there is
  none.
* Frames are shared: every lambda that captured a frame sees what is written into it later.
* Listing shows every visible name once, in increasing order, with the value of its owner.
-/

namespace ListScript

/-! ## 1. Bindings of one frame -/

namespace Entries

/-- The value of a name in a list of entries. -/
def find? (name : String) : List (String × Value) → Option Value
  | [] => none
  | (other, v) :: rest => if other = name then some v else find? name rest

/-- Puts an entry into its place, replacing an older one of the same name. -/
def insert (name : String) (v : Value) : List (String × Value) → List (String × Value)
  | [] => [(name, v)]
  | (other, old) :: rest =>
    if name < other then (name, v) :: (other, old) :: rest
    else if name = other then (name, v) :: rest
    else (other, old) :: insert name v rest

/-- The names of a list of entries increase from each to the next. -/
def Sorted (entries : List (String × Value)) : Prop :=
  entries.Pairwise fun a b => a.1 < b.1

theorem name_of_mem_insert {name : String} {v : Value} {entries : List (String × Value)}
    {entry : String × Value} (h : entry ∈ insert name v entries) :
    entry.1 = name ∨ entry ∈ entries := by
  fun_induction insert name v entries <;> grind

theorem sorted_insert {name : String} {v : Value} {entries : List (String × Value)}
    (h : Sorted entries) : Sorted (insert name v entries) := by
  fun_induction insert name v entries with
  | case1 => simp [Sorted]
  | case2 other old rest before =>
    refine List.pairwise_cons.mpr ⟨fun entry mem => ?_, h⟩
    rcases List.mem_cons.mp mem with rfl | mem
    · exact before
    · exact String.lt_trans before ((List.pairwise_cons.mp h).1 entry mem)
  | case3 old rest before =>
    exact List.pairwise_cons.mpr (List.pairwise_cons.mp h)
  | case4 other old rest before distinct ih =>
    have ⟨first, tail⟩ := List.pairwise_cons.mp h
    refine List.pairwise_cons.mpr ⟨fun entry mem => ?_, ih tail⟩
    rcases name_of_mem_insert mem with named | mem
    · rw [named]
      exact Std.lt_of_le_of_ne (String.not_lt.mp before) (Ne.symm distinct)
    · exact first entry mem

theorem find?_insert {name other : String} {v : Value} {entries : List (String × Value)} :
    find? other (insert name v entries) = if name = other then some v else find? other entries := by
  induction entries with
  | nil => simp [insert, find?]
  | cons entry rest ih =>
    obtain ⟨first, old⟩ := entry
    unfold insert
    split
    · simp [find?]
    · split
      · next same => subst same; by_cases h : name = other <;> simp [find?, h]
      · next distinct => by_cases h : first = other <;> simp_all [find?]

end Entries

/-- The bindings of one frame: names and values in strictly increasing order of the names. -/
structure Bindings where
  entries : List (String × Value)
  sorted : Entries.Sorted entries

namespace Bindings

/-- Nothing bound. -/
def empty : Bindings := ⟨[], .nil⟩

instance : Inhabited Bindings := ⟨empty⟩

/-- The number of names. -/
def size (b : Bindings) : Nat := b.entries.length

/-- The value bound to a name. -/
def find? (b : Bindings) (name : String) : Option Value :=
  Entries.find? name b.entries

/-- Binds a name, replacing an older value. -/
def insert (b : Bindings) (name : String) (v : Value) : Bindings :=
  ⟨Entries.insert name v b.entries, Entries.sorted_insert b.sorted⟩

/-- The bindings of both, where an inner one hides an outer one of the same name. -/
def onto (inner outer : Bindings) : Bindings :=
  inner.entries.foldl (fun b entry => b.insert entry.1 entry.2) outer

/-- Parameters bound to arguments by position. Surplus ones on either side are left out, and of two
parameters with one name the later counts. -/
def ofCall (params : List String) (args : List Value) : Bindings :=
  (params.zip args).foldl (fun b pair => b.insert pair.1 pair.2) empty

@[simp] theorem find?_empty {name : String} : empty.find? name = none := rfl

/-- Binding a name changes what is found under that name and nothing else. -/
theorem find?_insert {b : Bindings} {name other : String} {v : Value} :
    (b.insert name v).find? other = if name = other then some v else b.find? other :=
  Entries.find?_insert

end Bindings

/-! ## 2. Frames -/

/-- One lexical scope. -/
structure Frame where
  bindings : Bindings
  parent : Option FrameId
deriving Inhabited

/-- All frames, each made after its parent. -/
structure Scopes where
  frames : Array Frame
  parent_lt : ∀ (id : Nat) (frame : Frame) (p : FrameId),
    frames[id]? = some frame → frame.parent = some p → p < id

namespace Scopes

/-- No frame. -/
def empty : Scopes := ⟨#[], by simp⟩

/-- The number of frames, which names the next frame to be made. -/
def size (s : Scopes) : Nat := s.frames.size

/-- The parent of a frame. -/
def parent? (s : Scopes) (id : FrameId) : Option FrameId :=
  s.frames[id]?.bind Frame.parent

/-- The bindings of the frame itself. -/
def bindings (s : Scopes) (id : FrameId) : Bindings :=
  s.frames[id]?.elim .empty Frame.bindings

theorem parent?_lt {s : Scopes} {id p : FrameId} (h : s.parent? id = some p) : p < id := by
  obtain ⟨frame, found, hp⟩ := Option.bind_eq_some_iff.mp h
  exact s.parent_lt id frame p found hp

/-! ## 3. Making frames -/

/-- A new frame with these bindings. Its parent has to exist already. -/
def push (s : Scopes) (parent : Option FrameId) (bindings : Bindings)
    (older : ∀ p, parent = some p → p < s.size) : Scopes where
  frames := s.frames.push ⟨bindings, parent⟩
  parent_lt id frame p found hp := by
    rw [Array.getElem?_push] at found
    split at found
    · next h => cases found; exact h ▸ older p hp
    · exact s.parent_lt id frame p found hp

/-- A new frame without a parent. -/
def newRoot (s : Scopes) : Scopes :=
  s.push none .empty nofun

/-- A new frame below `parent` with these bindings. Below a frame that does not exist it is a
root. -/
def newFrame (s : Scopes) (parent : FrameId) (bindings : Bindings) : Scopes :=
  if h : parent < s.size then s.push (some parent) bindings (by rintro _ ⟨⟩; exact h)
  else s.push none bindings nofun

/-- Changes the bindings of one frame. -/
def modify (s : Scopes) (id : FrameId) (f : Bindings → Bindings) : Scopes where
  frames := s.frames.modify id fun frame => { frame with bindings := f frame.bindings }
  parent_lt i frame p found hp := by
    rw [Array.getElem?_modify] at found
    split at found
    · obtain ⟨old, hold, rfl⟩ := Option.map_eq_some_iff.mp found
      exact s.parent_lt i old p hold hp
    · exact s.parent_lt i frame p found hp

/-- Binds a name in the frame itself. -/
def define (s : Scopes) (id : FrameId) (name : String) (v : Value) : Scopes :=
  s.modify id (Bindings.insert · name v)

/-- Removes the bindings of the frame itself. -/
def clear (s : Scopes) (id : FrameId) : Scopes :=
  s.modify id fun _ => .empty

/-! What each of these operations does to the size, the parents and the bindings. -/

@[simp] theorem size_push {s : Scopes} {parent : Option FrameId} {b : Bindings}
    {older : ∀ p, parent = some p → p < s.size} : (s.push parent b older).size = s.size + 1 := by
  simp [push, size]

theorem parent?_push {s : Scopes} {parent : Option FrameId} {b : Bindings}
    {older : ∀ p, parent = some p → p < s.size} {id : FrameId} :
    (s.push parent b older).parent? id = if id = s.size then parent else s.parent? id := by
  by_cases h : id = s.frames.size <;> simp [push, parent?, size, Array.getElem?_push, h]

theorem bindings_push {s : Scopes} {parent : Option FrameId} {b : Bindings}
    {older : ∀ p, parent = some p → p < s.size} {id : FrameId} :
    (s.push parent b older).bindings id = if id = s.size then b else s.bindings id := by
  by_cases h : id = s.frames.size <;> simp [push, bindings, size, Array.getElem?_push, h]

@[simp] theorem size_modify {s : Scopes} {id : FrameId} {f : Bindings → Bindings} :
    (s.modify id f).size = s.size := by
  simp [modify, size]

@[simp] theorem parent?_modify {s : Scopes} {id other : FrameId} {f : Bindings → Bindings} :
    (s.modify id f).parent? other = s.parent? other := by
  by_cases h : id = other
  · cases found : s.frames[other]? <;> simp [modify, parent?, Array.getElem?_modify, h, found]
  · simp [modify, parent?, Array.getElem?_modify, h]

theorem bindings_modify {s : Scopes} {id other : FrameId} {f : Bindings → Bindings}
    (present : id < s.size) :
    (s.modify id f).bindings other =
      if id = other then f (s.bindings id) else s.bindings other := by
  by_cases h : id = other
  · subst h
    have found : s.frames[id]? = some s.frames[id] := Array.getElem?_eq_getElem present
    simp [modify, bindings, Array.getElem?_modify, found]
  · simp [modify, bindings, Array.getElem?_modify, h]

/-! ## 4. Names seen from a frame -/

/-- Whether the frame itself binds a name. -/
def bindsLocally (s : Scopes) (id : FrameId) (name : String) : Bool :=
  ((s.bindings id).find? name).isSome

/-- The first frame on the chain from `id` that binds a name. -/
def owner? (s : Scopes) (id : FrameId) (name : String) : Option FrameId :=
  if s.bindsLocally id name then some id
  else
    match _above : s.parent? id with
    | some p => s.owner? p name
    | none => none
termination_by id
decreasing_by exact parent?_lt _above

/-- The value of a name as seen from a frame. -/
def get? (s : Scopes) (id : FrameId) (name : String) : Option Value :=
  match (s.bindings id).find? name with
  | some v => some v
  | none =>
    match _above : s.parent? id with
    | some p => s.get? p name
    | none => none
termination_by id
decreasing_by exact parent?_lt _above

/-- Gives a name a new value in its owner. -/
def set? (s : Scopes) (id : FrameId) (name : String) (v : Value) : Option Scopes :=
  (s.owner? id name).map fun owner => s.define owner name v

/-- Every name seen from a frame with its value, in increasing order of the names. -/
def visible (s : Scopes) (id : FrameId) : Bindings :=
  match _above : s.parent? id with
  | some p => (s.bindings id).onto (s.visible p)
  | none => s.bindings id
termination_by id
decreasing_by exact parent?_lt _above

end Scopes

end ListScript
