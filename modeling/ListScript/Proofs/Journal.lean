import ListScript.Store

/-!
# The journal of modules

The journal tells what happened to modules, the latest event first. It says which modules are being
evaluated, how the latest evaluation of each stands, and which modules count as imported.

Rules of a legal journal:
* Only a module that does not count as imported is started. From then on it counts as imported.
* Only a module that is being evaluated ends. If it finished, nothing else changes. If it failed, it
  no longer counts as imported.

Results:
1. `nodup_openModules`: no module is evaluated inside itself.
2. `mem_imported`: a module counts as imported when its latest evaluation goes on or ended well.
3. `fate`: an evaluation that was started goes on, or failed, or is the last one of its module.
-/

namespace ListScript

namespace Journal

/-! ## 1. What a journal says -/

/-- The modules whose evaluation has started and not ended, the latest first. -/
def openModules : List ModuleEvent → List Path
  | [] => []
  | ⟨.started, path, _⟩ :: earlier => path :: openModules earlier
  | ⟨_, path, _⟩ :: earlier => (openModules earlier).erase path

/-- The modules that count as imported after the latest event. -/
def imported : List ModuleEvent → List Path
  | [] => []
  | event :: _ => event.imported

/-- The latest event of a module. A module that was never evaluated has none. -/
def latest? (path : Path) : List ModuleEvent → Option ModulePhase
  | [] => none
  | event :: earlier => if event.path = path then some event.phase else latest? path earlier

/-! ## 2. Legal journals -/

/-- A journal that was written by the rules. -/
inductive Legal : List ModuleEvent → Prop
  | empty : Legal []
  | started {path : Path} {now : List Path} {earlier : List ModuleEvent} (legal : Legal earlier)
      (absent : path ∉ imported earlier)
      (counts : ∀ other, other ∈ now ↔ other = path ∨ other ∈ imported earlier) :
      Legal (⟨.started, path, now⟩ :: earlier)
  | finished {path : Path} {earlier : List ModuleEvent} (legal : Legal earlier)
      (running : path ∈ openModules earlier) :
      Legal (⟨.finished, path, imported earlier⟩ :: earlier)
  | failed {path : Path} {now : List Path} {earlier : List ModuleEvent} (legal : Legal earlier)
      (running : path ∈ openModules earlier)
      (counts : ∀ other, other ∈ now ↔ other ≠ path ∧ other ∈ imported earlier) :
      Legal (⟨.failed, path, now⟩ :: earlier)

/-- What a legal journal says agrees. -/
structure Agrees (journal : List ModuleEvent) : Prop where
  nodup : (openModules journal).Nodup
  running (path : Path) : path ∈ openModules journal ↔ latest? path journal = some .started
  counts (path : Path) : path ∈ imported journal ↔
    latest? path journal = some .started ∨ latest? path journal = some .finished

namespace JournalLemmas

@[simp] theorem imported_cons {event : ModuleEvent} {earlier : List ModuleEvent} :
    imported (event :: earlier) = event.imported := rfl

theorem latest?_cons {path : Path} {event : ModuleEvent} {earlier : List ModuleEvent} :
    latest? path (event :: earlier) =
      if event.path = path then some event.phase else latest? path earlier := rfl

/-- Events of other modules say nothing about a module. -/
theorem latest?_of_quiet {path : Path} {since earlier : List ModuleEvent}
    (quiet : ∀ event ∈ since, event.path ≠ path) :
    latest? path (since ++ earlier) = latest? path earlier := by
  induction since with
  | nil => rfl
  | cons event since ih =>
    rw [List.cons_append, latest?_cons, if_neg (quiet event List.mem_cons_self)]
    exact ih fun other mem => quiet other (List.mem_cons_of_mem event mem)

theorem openModules_ended {phase : ModulePhase} {path : Path} {now : List Path}
    {earlier : List ModuleEvent} (ended : phase ≠ .started) :
    openModules (⟨phase, path, now⟩ :: earlier) = (openModules earlier).erase path := by
  cases phase with
  | started => exact absurd rfl ended
  | finished => rfl
  | failed => rfl

theorem agrees_started {path : Path} {now : List Path} {earlier : List ModuleEvent}
    (before : Agrees earlier) (absent : path ∉ imported earlier)
    (counts : ∀ other, other ∈ now ↔ other = path ∨ other ∈ imported earlier) :
    Agrees (⟨.started, path, now⟩ :: earlier) where
  nodup := by
    refine List.nodup_cons.mpr ⟨fun running => absent ?_, before.nodup⟩
    exact (before.counts path).mpr (.inl ((before.running path).mp running))
  running other := by
    simp only [openModules, latest?_cons, List.mem_cons, before.running other]
    by_cases same : path = other
    · simp [same]
    · simp [same, Ne.symm same]
  counts other := by
    rw [imported_cons, counts other, before.counts other, latest?_cons]
    by_cases same : path = other
    · simp [same]
    · simp [same, Ne.symm same]

/-- However the evaluation of a module ends, the module is not open any more. -/
theorem agrees_ended {phase : ModulePhase} {path : Path} {now : List Path}
    {earlier : List ModuleEvent} (before : Agrees earlier) (ended : phase ≠ .started)
    (counts : ∀ other, other ∈ now ↔
      if path = other then phase = .finished else other ∈ imported earlier) :
    Agrees (⟨phase, path, now⟩ :: earlier) where
  nodup := by
    rw [openModules_ended ended]
    exact before.nodup.erase path
  running other := by
    rw [openModules_ended ended, before.nodup.mem_erase_iff, before.running other, latest?_cons]
    by_cases same : path = other
    · simp [same, ended]
    · simp [same, Ne.symm same]
  counts other := by
    rw [imported_cons, counts other, before.counts other, latest?_cons]
    by_cases same : path = other
    · simp [same, ended]
    · simp [same]

end JournalLemmas

open JournalLemmas

theorem Legal.agrees {journal : List ModuleEvent} (h : Legal journal) : Agrees journal := by
  induction h with
  | empty => exact ⟨.nil, by simp [openModules, latest?], by simp [imported, latest?]⟩
  | started legal absent counts ih => exact agrees_started ih absent counts
  | @finished path earlier legal running ih =>
    refine agrees_ended ih nofun fun other => ?_
    by_cases same : path = other
    · have started := (ih.running path).mp running
      simp [← same, (ih.counts path).mpr (.inl started)]
    · simp [same]
  | @failed path now earlier legal running counts ih =>
    refine agrees_ended ih nofun fun other => ?_
    by_cases same : path = other
    · simp [same, counts]
    · simp [same, Ne.symm same, counts]

/-- A legal journal was legal at every moment. -/
theorem Legal.tail {event : ModuleEvent} {earlier : List ModuleEvent}
    (h : Legal (event :: earlier)) : Legal earlier := by
  cases h <;> assumption

theorem Legal.of_suffix {journal moment : List ModuleEvent} (h : Legal journal)
    (suffix : moment <:+ journal) : Legal moment := by
  obtain ⟨later, rfl⟩ := suffix
  induction later with
  | nil => exact h
  | cons event later ih => exact ih h.tail

theorem nodup_openModules {journal : List ModuleEvent} (h : Legal journal) :
    (openModules journal).Nodup :=
  h.agrees.nodup

theorem mem_imported {journal : List ModuleEvent} (h : Legal journal) {path : Path} :
    path ∈ imported journal ↔
      latest? path journal = some .started ∨ latest? path journal = some .finished :=
  h.agrees.counts path

/-- Where no module is being evaluated, the imported ones are those that ended well. -/
theorem mem_imported_of_idle {journal : List ModuleEvent} (h : Legal journal)
    (idle : openModules journal = []) {path : Path} :
    path ∈ imported journal ↔ latest? path journal = some .finished := by
  have notStarted : latest? path journal ≠ some .started := fun started => by
    have running := (h.agrees.running path).mpr started
    rw [idle] at running
    exact absurd running List.not_mem_nil
  rw [mem_imported h]
  exact or_iff_right notStarted

/-! ## 3. The fate of an evaluation -/

/-- What becomes of an evaluation of a module, by the events after its start. -/
inductive Fate (path : Path) (since : List ModuleEvent) : Prop
  /-- Nothing happened to the module since. -/
  | running (quiet : ∀ event ∈ since, event.path ≠ path)
  /-- The next thing that happened to the module was its failure. -/
  | failed (after during : List ModuleEvent) (left : List Path)
      (split : since = after ++ ⟨.failed, path, left⟩ :: during)
      (quiet : ∀ event ∈ during, event.path ≠ path)

/-- An event of a module that finished would start it again, or end what is not open. -/
theorem Legal.path_ne_of_finished {path : Path} {event : ModuleEvent} {earlier : List ModuleEvent}
    (h : Legal (event :: earlier)) (finished : latest? path earlier = some .finished) :
    event.path ≠ path := by
  rintro rfl
  have agrees := h.tail.agrees
  have notRunning : event.path ∉ openModules earlier := fun running => by
    have started := (agrees.running event.path).mp running
    rw [finished] at started
    cases started
  cases h with
  | started legal absent counts => exact absent ((agrees.counts _).mpr (.inr finished))
  | finished legal running => exact notRunning running
  | failed legal running counts => exact notRunning running

/-- An evaluation that was started goes on, or failed, or finished. Once it finished, nothing
happens to its module any more. -/
theorem fate {path : Path} {now : List Path} {since earlier : List ModuleEvent}
    (h : Legal (since ++ ⟨.started, path, now⟩ :: earlier)) :
    Fate path since ∨
      latest? path (since ++ ⟨.started, path, now⟩ :: earlier) = some .finished := by
  induction since with
  | nil => exact .inl (.running (by simp))
  | cons event since ih =>
    rcases ih h.tail with (quiet | ⟨after, during, left, split, quiet⟩) | finished
    · by_cases same : event.path = path
      · -- The event ends the evaluation: the module counts as imported, so it is not started again.
        have counts : path ∈ imported (since ++ ⟨.started, path, now⟩ :: earlier) := by
          refine (mem_imported h.tail).mpr (.inl ?_)
          simp [latest?_of_quiet quiet, latest?_cons]
        cases h with
        | started legal absent _ => exact absurd counts (same ▸ absent)
        | finished legal running =>
          exact .inr (by rw [List.cons_append, latest?_cons, if_pos same])
        | @failed _ left _ legal running _ =>
          cases same
          exact .inl (.failed [] since left rfl quiet)
      · exact .inl (.running (List.forall_mem_cons.mpr ⟨same, quiet⟩))
    · refine .inl (.failed (event :: after) during left ?_ quiet)
      rw [split, List.cons_append]
    · right
      rw [List.cons_append, latest?_cons, if_neg (h.path_ne_of_finished finished)]
      exact finished

/-- Between two starts of a module lies the failure of the first evaluation. -/
theorem failed_of_started_again {path : Path} {now now' : List Path}
    {between earlier : List ModuleEvent}
    (h : Legal (⟨.started, path, now'⟩ :: (between ++ ⟨.started, path, now⟩ :: earlier))) :
    ∃ after left during, between = after ++ ⟨.failed, path, left⟩ :: during ∧
      ∀ event ∈ during, event.path ≠ path := by
  have absent : path ∉ imported (between ++ ⟨.started, path, now⟩ :: earlier) := by
    cases h with
    | started legal absent _ => exact absent
  rw [mem_imported h.tail, not_or] at absent
  rcases fate h.tail with (quiet | ⟨after, during, left, split, quiet⟩) | finished
  · refine absurd ?_ absent.1
    simp [latest?_of_quiet quiet, latest?_cons]
  · exact ⟨after, left, during, split, quiet⟩
  · exact absurd finished absent.2

end Journal

end ListScript
