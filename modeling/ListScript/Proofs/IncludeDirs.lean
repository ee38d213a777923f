import ListScript.Proofs.ErrorPassing

/-!
# More include directories

A module's name is looked for as it is and then in the include directories, and the first regular
file counts. So a directory behind all others matters only where a name was not found. A run in
which every name was found, at every nesting, goes on in the same way with more directories behind
those that it has: each import leads to the same file, and what lies in the new directories is not
looked at.

Results:
1. `Setting.resolve_eq_ok_iff`: where a name leads.
2. `Runs.withMoreDirs`: a run that does not end with a name that was not found is a run with more
   directories, and it found every module that it asked for.
3. `perform_withMoreDirs`: so is an operation.
-/

namespace ListScript

/-! ## 1. Where names lead -/

namespace Setting

variable {setting : Setting} {dirs : List String} {name : String} {path : Path}

/-- The setting with more include directories behind those that it has. -/
def withMoreDirs (setting : Setting) (dirs : List String) : Setting :=
  { setting with includeDirs := setting.includeDirs ++ dirs }

theorem candidates_withMoreDirs :
    (setting.withMoreDirs dirs).candidates name =
      setting.candidates name ++ dirs.map fun dir => FileTree.join dir name := by
  simp [candidates, withMoreDirs]

/-- A name leads to the first candidate that is a regular file. -/
theorem resolve_eq_ok_iff :
    setting.resolve name = .ok path ↔
      ∃ before candidate after, setting.candidates name = before ++ candidate :: after ∧
        (∀ earlier ∈ before, setting.files.filePath? earlier = none) ∧
        setting.files.filePath? candidate = some path := by
  have search : setting.resolve name = .ok path ↔
      (setting.candidates name).findSome? setting.files.filePath? = some path := by
    unfold resolve
    split
    · next found same => rw [same, Except.ok.injEq, Option.some.injEq]
    · next missing => simp [missing]
  rw [search, List.findSome?_eq_some_iff]
  constructor
  · rintro ⟨before, candidate, after, split, leads, none⟩
    exact ⟨before, candidate, after, split, none, leads⟩
  · rintro ⟨before, candidate, after, split, none, leads⟩
    exact ⟨before, candidate, after, split, leads, none⟩

/-- Only a name that leads nowhere is not resolved. -/
theorem eq_moduleNotFound_of_resolve {e : Error} (failed : setting.resolve name = .error e) :
    e = .moduleNotFound name := by
  unfold resolve at failed
  split at failed <;> cases failed
  rfl

/-- A name that was found leads to the same file with more directories. -/
theorem resolve_withMoreDirs (found : setting.resolve name = .ok path) :
    (setting.withMoreDirs dirs).resolve name = .ok path := by
  obtain ⟨before, candidate, after, split, none, leads⟩ := resolve_eq_ok_iff.mp found
  refine resolve_eq_ok_iff.mpr
    ⟨before, candidate, after ++ dirs.map fun dir => FileTree.join dir name, ?_, none, leads⟩
  rw [candidates_withMoreDirs, split, List.append_assoc, List.cons_append]

end Setting

/-! ## 2. Runs -/

/-- The request finds its module, if it is an import. -/
def Request.Finds (setting : Setting) (request : Request) : Prop :=
  ∀ name, request = .importModule name → ∃ path, setting.resolve name = .ok path

/-- The outcome is not that the module of a name was not found. -/
def Outcome.Found {α : Type} (outcome : Outcome α) : Prop :=
  ∀ name store, outcome ≠ .error (.moduleNotFound name) store

section Runs

variable {setting : Setting} {base : Nat} {inside : List Request} {store : Store}

/-- A request that finds its module leads to the same with more directories. -/
theorem call_withMoreDirs (base : Nat) (inside : List Request) (store : Store)
    {request : Request} (finds : request.Finds setting) (dirs : List String) :
    request.call (setting.withMoreDirs dirs) base inside store =
      request.call setting base inside store := by
  cases request with
  | effect fx => cases fx <;> rfl
  | eval scope form => rfl
  | native action args => cases action <;> rfl
  | importModule name =>
    obtain ⟨path, found⟩ := finds name rfl
    simp only [Request.call, importCall, found, Setting.resolve_withMoreDirs found]

/-- What a request led to shows that it found its module. -/
theorem finds_of_ran {request : Request} {inner : List Moment} {left : Outcome request.Answer}
    (ran : request.Ran setting base inside store inner left) (found : left.Found) :
    request.Finds setting := by
  rintro name rfl
  cases resolved : setting.resolve name with
  | ok path => exact ⟨path, rfl⟩
  | error e =>
    obtain rfl := Setting.eq_moduleNotFound_of_resolve resolved
    simp only [Request.Ran, Request.call, importCall, resolved] at ran
    cases ran
    exact absurd rfl (found name store)

/-- Ending a module does not hide that a name was not found. -/
theorem found_of_closeModule {α : Type} {module? : Option Path} {left closed : Outcome α}
    (close : closeModule module? left = closed) (found : closed.Found) : left.Found := by
  rintro name store rfl
  rw [closeModule_error] at close
  exact found name _ close.symm

/-- A run that does not end with a name that was not found is a run with more directories, and it
finds every module that it asks for. -/
theorem Runs.withMoreDirs (dirs : List String) {α : Type} {plan : Plan α} {trace : List Moment}
    {outcome : Outcome α} (h : Runs setting base inside plan store trace outcome)
    (found : outcome.Found) :
    Runs (setting.withMoreDirs dirs) base inside plan store trace outcome ∧
      ∀ m ∈ trace, ∀ request, m.event = .begins request → request.Finds setting := by
  induction h with
  | done => exact ⟨.done, fun m mem => absurd mem List.not_mem_nil⟩
  | fail => exact ⟨.fail, fun m mem => absurd mem List.not_mem_nil⟩
  | @answered _ inside request next store mid inner later left answer outcome ran closed went ih
      more =>
    have inFound : left.Found := found_of_closeModule closed nofun
    have finds := finds_of_ran ran inFound
    obtain ⟨ran', inside'⟩ := ih inFound
    obtain ⟨went', later'⟩ := more found
    rw [← call_withMoreDirs base inside store finds dirs] at ran' closed
    refine ⟨.answered ran' closed went', fun m mem request' begun => ?_⟩
    rcases List.mem_cons.mp mem with rfl | mem
    · cases begun
      exact finds
    rcases List.mem_append.mp mem with mem | mem
    · exact inside' m mem request' begun
    rcases List.mem_cons.mp mem with rfl | mem
    · cases begun
    · exact later' m mem request' begun
  | @failed _ inside request next store mid inner left e ran closed ih =>
    have outFound : Outcome.Found (.error e mid : Outcome request.Answer) := by
      rintro name store' same
      cases same
      exact found name mid rfl
    have inFound : left.Found := found_of_closeModule closed outFound
    have finds := finds_of_ran ran inFound
    obtain ⟨ran', inside'⟩ := ih inFound
    rw [← call_withMoreDirs base inside store finds dirs] at ran' closed
    refine ⟨.failed ran' closed, fun m mem request' begun => ?_⟩
    rcases List.mem_cons.mp mem with rfl | mem
    · cases begun
      exact finds
    rcases List.mem_append.mp mem with mem | mem
    · exact inside' m mem request' begun
    · cases List.mem_singleton.mp mem
      cases begun

end Runs

/-! ## 3. Operations -/

/-- The session with more include directories behind those that it has. -/
def Session.withMoreDirs (s : Session) (dirs : List String) : Session :=
  s.arrange (Setting.withMoreDirs · dirs)

/-- Include directories behind all others change nothing but where a name was not found. An
operation that does not end with such a name gives the same and leaves the same session with more
directories, and everything happens in the same way. In the run, at every nesting, each name of a
module leads to the first of its candidates that is a regular file. The candidates behind that one,
and what lies there, make no difference to where the name leads. -/
theorem perform_withMoreDirs (s : Session) (dirs : List String) (op : Operation)
    (found : ∀ name, (s.perform op).1 ≠ .error (.moduleNotFound name)) :
    let longer := s.withMoreDirs dirs
    longer.perform op = ((s.perform op).1, (s.perform op).2.withMoreDirs dirs) ∧
    ∃ trace outcome, s.Performs op trace outcome ∧ longer.Performs op trace outcome ∧
      ∀ m ∈ trace, ∀ name, m.event = .begins (.importModule name) →
        ∃ before candidate after path, s.setting.candidates name = before ++ candidate :: after ∧
          (∀ earlier ∈ before, s.setting.files.filePath? earlier = none) ∧
          s.setting.files.filePath? candidate = some path ∧
          s.resolve name = .ok path ∧ longer.resolve name = .ok path ∧
          ∀ (other : Setting) more, other.candidates name = before ++ candidate :: more →
            (∀ tried ∈ before ++ [candidate],
              other.files.filePath? tried = s.setting.files.filePath? tried) →
            other.resolve name = .ok path := by
  intro longer
  obtain ⟨trace, outcome, run⟩ := s.exists_performs op
  have outFound : outcome.Found := by
    rintro name store rfl
    refine found name ?_
    rw [run.perform_eq]
    rfl
  obtain ⟨run', finds⟩ := Runs.withMoreDirs dirs run outFound
  have run' : longer.Performs op trace outcome := by
    have same : longer.plan op = s.plan op := by cases op <;> rfl
    rw [Session.Performs, same]
    exact run'
  refine ⟨?_, trace, outcome, run, run', ?_⟩
  · rw [run'.perform_eq, run.perform_eq]
    exact s.conclude_arrange (Setting.withMoreDirs · dirs) op outcome
  · intro m mem name begun
    obtain ⟨path, resolved⟩ := finds m mem _ begun name rfl
    obtain ⟨before, candidate, after, split, none, leads⟩ := Setting.resolve_eq_ok_iff.mp resolved
    refine ⟨before, candidate, after, path, split, none, leads, resolved,
      Setting.resolve_withMoreDirs resolved, fun other more candidates alike => ?_⟩
    refine Setting.resolve_eq_ok_iff.mpr ⟨before, candidate, more, candidates, ?_, ?_⟩
    · intro earlier mem
      rw [alike earlier (List.mem_append_left _ mem)]
      exact none earlier mem
    · rw [alike candidate (by simp)]
      exact leads

/-- Three directories with modules of the same names. The one in `b` imports the other one. -/
def layers : FileTree :=
  let put (name text : String) (tree : FileTree) := tree.write name (.file (some text))
  put "c/y" "(print 4)" <| put "c/x" "(print 3)" <|
    put "b/x" "(import \"y\") (print 1)" <| put "a/y" "(print 2)" {}

/-- With the first two directories the names are found, each in another one. Nothing changes with
the third one, which holds both. -/
theorem perform_withMoreDirs_layers :
    let s := Session.new { includeDirs := ["a", "b"], files := layers }
    let op := Operation.feed "(import \"x\")" true
    (∀ name, (s.perform op).1 ≠ .error (.moduleNotFound name)) ∧
      (s.withMoreDirs ["c"]).perform op =
        ((s.perform op).1, (s.perform op).2.withMoreDirs ["c"]) ∧
      (s.perform op).2.store.sink.text = "2\n1\n#t\n" := by
  intro s op
  have ends : errorOf? (s.perform op).1 = none := by decide +kernel
  have found (name : String) : (s.perform op).1 ≠ .error (.moduleNotFound name) := by
    intro missing
    rw [errorOf?_eq_some.mpr missing] at ends
    cases ends
  exact ⟨found, (perform_withMoreDirs s ["c"] op found).1, by decide +kernel⟩

end ListScript
