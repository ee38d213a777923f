import ListScript.Proofs.RunRelation

/-!
# Disciplines of evaluation

A discipline is something that evaluation keeps to: what it knows about the store, which frames it
may work in, which values it may meet, and what a piece of it that works in a frame may do to the
store. What is known is called a world. Worlds grow while the store does, and what may be worked in
or met in a world may be in every later one.

If the smallest actions keep to a discipline, and the procedures of the host do, everything does
that evaluation is made of. The only action that works in another frame than its caller is the
evaluation of a lambda's body or of a module, so a discipline says what such an evaluation means to
the caller. What a procedure of the host does is done on behalf of its caller, in whatever frame.

Results:
1. `Lawful.eval`: an evaluation keeps to a discipline.
2. `Lawful.importWithin`: so does an import.
3. `Lawful.act`: so does every operation of a host.
-/

namespace ListScript

/-- Something that evaluation may keep to. -/
structure Discipline where
  /-- What is known about a store. -/
  World : Type
  /-- The second world is later. -/
  le : World → World → Prop
  holds : World → Store → Prop
  /-- The frames that may be worked in. -/
  inside : World → FrameId → Prop
  /-- The values that may be met. -/
  sound : World → Value → Prop
  /-- What an action may do that works in a frame. -/
  kept : FrameId → Store → Store → Prop
  le_refl (w : World) : le w w
  le_trans {w w' w'' : World} : le w w' → le w' w'' → le w w''
  inside_mono {w w' : World} {scope : FrameId} : le w w' → inside w scope → inside w' scope
  sound_mono {w w' : World} {v : Value} : le w w' → sound w v → sound w' v
  kept_refl (scope : FrameId) (store : Store) : kept scope store store
  kept_trans {scope : FrameId} {first second third : Store} :
    kept scope first second → kept scope second third → kept scope first third

namespace Discipline

variable (D : Discipline)

/-- The action leads from the stores of a world to those of a later one, does no more than an action
may that works in the frame, and what it gives is good in the later world. -/
def Keeps {α : Type} (w : D.World) (scope : FrameId) (act : Eval α) (good : D.World → α → Prop) :
    Prop :=
  ∀ store, D.holds w store → ∃ w', D.le w w' ∧ D.holds w' (act.after store) ∧
    D.kept scope store (act.after store) ∧ ∀ a after, act store = .ok a after → good w' a

/-- Good is anything. -/
def anything {α : Type} : D.World → α → Prop :=
  fun _ _ => True

/-- Values that may all be met. -/
def soundAll (w : D.World) (vs : List Value) : Prop :=
  ∀ v ∈ vs, D.sound w v

/-- Every import keeps to the discipline, wherever it is asked for. -/
def Imports (imports : Import) : Prop :=
  ∀ w scope name, D.Keeps w scope (imports name) D.anything

/-- Every evaluation keeps to the discipline, of a form that may be met in a frame that may be
worked in. -/
def Evaluates (evaluator : Evaluator) : Prop :=
  ∀ {w scope v}, D.inside w scope → D.sound w v → D.Keeps w scope (evaluator scope v) D.sound

/-- Everything that procedures of the host do keeps to the discipline. -/
def Hosts (setting : Setting) : Prop :=
  ∀ {w scope procedure args}, procedure ∈ setting.procedures → D.soundAll w args →
    D.Keeps w scope (procedure args).act D.sound

/-- The smallest actions keep to the discipline. -/
structure Lawful : Prop where
  root {w : D.World} {store : Store} : D.holds w store → D.inside w rootFrame
  truth (w : D.World) (b : Bool) : D.sound w (.truth b)
  nil (w : D.World) : D.sound w .nil
  items {w : D.World} {items : List Value} : D.sound w (.list items) → D.soundAll w items
  read {w : D.World} {text : String} {forms : List Value} :
    readAll text = .ok forms → D.soundAll w forms
  builtin {w : D.World} {op : Builtin} {args : List Value} {v : Value} :
    op.apply args = .ok v → D.soundAll w args → D.sound w v
  lookup {w : D.World} {scope : FrameId} {store : Store} {name : String} {v : Value} :
    D.holds w store → D.inside w scope → store.scopes.get? scope name = some v → D.sound w v
  define {w : D.World} {scope : FrameId} {name : String} {v : Value} :
    D.inside w scope → D.sound w v → D.Keeps w scope (Eval.define scope name v) D.anything
  assign {w : D.World} {scope : FrameId} {name : String} {v : Value} :
    D.inside w scope → D.sound w v → D.Keeps w scope (Eval.assign scope name v) D.anything
  /-- A lambda captures a new frame. -/
  capture {w : D.World} {scope : FrameId} {params : List String} {body : Value} :
    D.inside w scope → D.sound w body → D.Keeps w scope (Eval.newFrame scope .empty)
      fun w' captured => D.sound w' (.lambda params body captured)
  /-- A lambda's body is evaluated in a new frame, and the caller keeps to the discipline then. -/
  enter {w : D.World} {store : Store} {params : List String} {body : Value} {captured : FrameId}
    {args : List Value} :
    D.holds w store → D.sound w (.lambda params body captured) → D.soundAll w args →
      let entered := (Eval.newFrame captured (.ofCall params args)).after store
      ∃ w', D.le w w' ∧ D.holds w' entered ∧ D.inside w' store.scopes.size ∧ D.sound w' body ∧
        ∀ scope left, D.kept store.scopes.size entered left → D.kept scope store left
  write {w : D.World} {store : Store} {sink : Sink} :
    D.holds w store → D.holds w { store with sink }
  write_kept (scope : FrameId) (store : Store) (sink : Sink) :
    D.kept scope store { store with sink }
  enterModule {w : D.World} {store : Store} {phase : ModulePhase} {path : Path}
    {imported : List Path} : D.holds w store → D.holds w (store.enter phase path imported)
  /-- A module is evaluated in the root frame, and who imports it keeps to the discipline then. -/
  leaveModule {scope : FrameId} {store left : Store} {path : Path} {phase : ModulePhase}
    {imported : List Path} :
    D.kept rootFrame (store.startModule path) left →
      D.kept scope store (left.enter phase path imported)

variable {D} {w : D.World} {scope : FrameId}

/-! ## 1. Sequences -/

theorem soundAll_mono {w' : D.World} {vs : List Value} (le : D.le w w') (h : D.soundAll w vs) :
    D.soundAll w' vs :=
  fun v mem => D.sound_mono le (h v mem)

theorem keeps_pure {α : Type} {a : α} {good : D.World → α → Prop} (h : good w a) :
    D.Keeps w scope (pure a) good := by
  intro store holds
  refine ⟨w, D.le_refl w, holds, D.kept_refl scope store, fun b after given => ?_⟩
  cases given
  exact h

theorem keeps_throw {α : Type} {e : Error} {good : D.World → α → Prop} :
    D.Keeps w scope (throw e) good := by
  intro store holds
  refine ⟨w, D.le_refl w, holds, D.kept_refl scope store, fun b after given => ?_⟩
  cases given

theorem keeps_ofExcept {α : Type} {outcome : Except Error α} {good : D.World → α → Prop}
    (h : ∀ a, outcome = .ok a → good w a) : D.Keeps w scope (Eval.ofExcept outcome) good := by
  cases outcome with
  | ok a => exact keeps_pure (h a rfl)
  | error e => exact keeps_throw

theorem keeps_checked {α : Type} {outcome : Except Error α} :
    D.Keeps w scope (Eval.ofExcept outcome) D.anything :=
  keeps_ofExcept fun _ _ => trivial

theorem keeps_bind {α β : Type} {act : Eval α} {next : α → Eval β} {good : D.World → α → Prop}
    {good' : D.World → β → Prop} (h : D.Keeps w scope act good)
    (hnext : ∀ w' a, D.le w w' → good w' a → D.Keeps w' scope (next a) good') :
    D.Keeps w scope (act >>= next) good' := by
  intro store holds
  obtain ⟨w', le, holds', kept, given⟩ := h store holds
  cases hact : act store with
  | error e mid =>
    rw [Eval.after_error hact] at holds' kept
    refine ⟨w', le, ?_, ?_, fun b after ok => ?_⟩
    · rwa [Eval.after_bind_error hact]
    · rwa [Eval.after_bind_error hact]
    · rw [Eval.bind_apply, hact] at ok
      cases ok
  | ok a mid =>
    rw [Eval.after_ok hact] at holds' kept
    obtain ⟨w'', le', holds'', kept', given'⟩ := hnext w' a le (given a mid hact) mid holds'
    refine ⟨w'', D.le_trans le le', ?_, ?_, fun b after ok => ?_⟩
    · rwa [Eval.after_bind_ok hact]
    · rw [Eval.after_bind_ok hact]
      exact D.kept_trans kept kept'
    · rw [Eval.bind_apply, hact] at ok
      exact given' b after ok

/-- What is given may be good for less. -/
theorem keeps_imp {α : Type} {act : Eval α} {good good' : D.World → α → Prop}
    (h : D.Keeps w scope act good) (less : ∀ w' a, D.le w w' → good w' a → good' w' a) :
    D.Keeps w scope act good' := by
  intro store holds
  obtain ⟨w', le, holds', kept, given⟩ := h store holds
  exact ⟨w', le, holds', kept, fun a after ok => less w' a le (given a after ok)⟩

/-- Where something follows from what is known about the store, it may be used. -/
theorem keeps_of_holds {α : Type} {act : Eval α} {good : D.World → α → Prop} {fact : Prop}
    (known : ∀ store, D.holds w store → fact) (h : fact → D.Keeps w scope act good) :
    D.Keeps w scope act good :=
  fun store holds => h (known store holds) store holds

theorem keeps_mapM {α : Type} {f : α → Eval Value} {as : List α}
    (h : ∀ w' a, D.le w w' → a ∈ as → D.Keeps w' scope (f a) D.sound) :
    D.Keeps w scope (as.mapM f) D.soundAll := by
  induction as generalizing w with
  | nil => exact keeps_pure (by simp [soundAll])
  | cons a rest ih =>
    rw [List.mapM_cons]
    refine keeps_bind (h w a (D.le_refl w) List.mem_cons_self) fun w' v le hv => ?_
    refine keeps_bind (ih fun w'' b le' mem => ?_) fun w'' vs le' hvs => ?_
    · exact h w'' b (D.le_trans le le') (List.mem_cons_of_mem a mem)
    · exact keeps_pure (List.forall_mem_cons.mpr ⟨D.sound_mono le' hv, hvs⟩)

theorem keeps_foldlM {α β : Type} {f : β → α → Eval β} {as : List α} {start : β}
    {good : D.World → β → Prop} (first : good w start)
    (h : ∀ w' b a, D.le w w' → a ∈ as → D.Keeps w' scope (f b a) good) :
    D.Keeps w scope (as.foldlM f start) good := by
  induction as generalizing w start with
  | nil => exact keeps_pure first
  | cons a rest ih =>
    rw [List.foldlM_cons]
    refine keeps_bind (h w start a (D.le_refl w) List.mem_cons_self) fun w' b le hb => ?_
    exact ih hb fun w'' b a' le' mem => h w'' b a' (D.le_trans le le') (List.mem_cons_of_mem a mem)

theorem keeps_forM {α : Type} {f : α → Eval Unit} {as : List α}
    (h : ∀ w' a, D.le w w' → a ∈ as → D.Keeps w' scope (f a) D.anything) :
    D.Keeps w scope (as.forM f) D.anything := by
  induction as generalizing w with
  | nil => exact keeps_pure trivial
  | cons a rest ih =>
    refine keeps_bind (h w a (D.le_refl w) List.mem_cons_self) fun w' _ le _ => ?_
    exact ih fun w'' b le' mem => h w'' b (D.le_trans le le') (List.mem_cons_of_mem a mem)

namespace Lawful

variable (lawful : D.Lawful) {setting : Setting} (hosts : D.Hosts setting) {imports : Import}
  {evaluator : Evaluator}

include lawful

theorem writeLine (line : String) : D.Keeps w scope (Eval.writeLine line) D.anything := by
  intro store holds
  rw [Eval.after_writeLine]
  exact ⟨w, D.le_refl w, lawful.write holds, lawful.write_kept scope store _, fun _ _ _ => trivial⟩

/-- Looking a name up changes nothing, and the value that it has may be met. -/
theorem find (hscope : D.inside w scope) (name : String) :
    D.Keeps w scope (Eval.lookup scope name) D.sound := by
  intro store holds
  rw [Eval.after_lookup]
  refine ⟨w, D.le_refl w, holds, D.kept_refl scope store, fun v after given => ?_⟩
  unfold Eval.lookup at given
  cases found : store.scopes.get? scope name with
  | none =>
    rw [found] at given
    cases given
  | some bound =>
    rw [found] at given
    cases given
    exact lawful.lookup holds hscope found

/-! ## 2. Procedures -/

include hosts

theorem perform (himports : D.Imports imports)
    (action : Action) {args : List Value} (hargs : D.soundAll w args) :
    D.Keeps w scope (Evaluation.perform setting imports action args) D.sound := by
  cases action with
  | builtin op => exact keeps_ofExcept fun v given => lawful.builtin given hargs
  | print =>
    exact keeps_bind (lawful.writeLine _) fun w' _ _ _ => keeps_pure (lawful.truth w' true)
  | importModules =>
    simp only [Evaluation.perform, Evaluation.importAll]
    split
    · exact keeps_throw
    · split
      · exact keeps_throw
      · refine keeps_bind (keeps_forM fun w' arg _ _ => himports w' scope arg.text)
          fun w' _ _ _ => ?_
        exact keeps_pure (lawful.truth w' true)
  | host index =>
    simp only [Evaluation.perform]
    cases found : setting.procedures[index]? with
    | none => exact keeps_throw
    | some procedure => exact hosts (Array.mem_of_getElem? found) hargs

theorem apply (himports : D.Imports imports)
    (heval : D.Evaluates evaluator)
    {procedure : Value} {args : List Value} (hprocedure : D.sound w procedure)
    (hargs : D.soundAll w args) :
    D.Keeps w scope (Evaluation.apply setting imports evaluator procedure args) D.sound := by
  cases procedure with
  | lambda params body captured =>
    intro store holds
    obtain ⟨w', le, entered, hinside, hbody, leave⟩ := lawful.enter holds hprocedure hargs
    obtain ⟨w'', le', holds', kept, given⟩ := heval hinside hbody _ entered
    exact ⟨w'', D.le_trans le le', holds', leave scope _ kept, given⟩
  | native name action => exact lawful.perform hosts himports action hargs
  | atom kind text => exact keeps_throw
  | list items => exact keeps_throw

/-! ## 3. Forms -/

omit hosts in
theorem special (heval : D.Evaluates evaluator)
    (hscope : D.inside w scope) (specialForm : SpecialForm) {args : List Value}
    (hargs : D.soundAll w args) :
    D.Keeps w scope (Evaluation.special evaluator scope specialForm args) D.sound := by
  fun_cases Evaluation.special evaluator scope specialForm args with
  | case1 form rest => exact keeps_pure (hargs form List.mem_cons_self)
  | case3 test consequent rest =>
    refine keeps_bind (heval hscope (hargs test (by simp))) fun w' outcome le _ => ?_
    have hscope' := D.inside_mono le hscope
    have hargs' := soundAll_mono le hargs
    split
    · split
      · exact heval hscope' (hargs' _ (by simp))
      · exact keeps_pure (lawful.nil w')
    · exact heval hscope' (hargs' consequent (by simp))
  | case5 name form =>
    refine keeps_bind (heval hscope (hargs form (by simp))) fun w' v le hv => ?_
    refine keeps_bind (lawful.assign (D.inside_mono le hscope) hv) fun w'' _ le' _ => ?_
    exact keeps_pure (D.sound_mono le' hv)
  | case8 name form =>
    refine keeps_bind (heval hscope (hargs form (by simp))) fun w' v le hv => ?_
    refine keeps_bind (lawful.define (D.inside_mono le hscope) hv) fun w'' _ le' _ => ?_
    exact keeps_pure (D.sound_mono le' hv)
  | case11 params body =>
    refine keeps_bind keeps_checked fun w' names le _ => ?_
    have hbody := D.sound_mono le (hargs body (by simp))
    exact keeps_bind (lawful.capture (D.inside_mono le hscope) hbody) fun _ _ _ => keeps_pure
  | case14 =>
    refine keeps_foldlM (lawful.nil w) fun w' _ form le mem => ?_
    exact heval (D.inside_mono le hscope) (D.sound_mono le (hargs form mem))
  | _ => exact keeps_throw

theorem form (himports : D.Imports imports)
    (heval : D.Evaluates evaluator)
    (hscope : D.inside w scope) {v : Value} (hv : D.sound w v) :
    D.Keeps w scope (Evaluation.form setting imports evaluator scope v) D.sound := by
  fun_cases Evaluation.form setting imports evaluator scope v with
  | case1 name => exact lawful.find hscope name
  | case2 => exact keeps_pure (lawful.nil w)
  | case3 head args specialForm isSpecial =>
    have hitems := List.forall_mem_cons.mp (lawful.items hv)
    exact lawful.special heval hscope specialForm hitems.2
  | case4 head args notSpecial =>
    obtain ⟨hhead, hargs⟩ := List.forall_mem_cons.mp (lawful.items hv)
    refine keeps_bind (heval hscope hhead) fun w' procedure le hprocedure => ?_
    refine keeps_bind (keeps_mapM fun w'' arg le' mem => ?_) fun w'' values le' hvalues => ?_
    · exact heval (D.inside_mono (D.le_trans le le') hscope)
        (D.sound_mono (D.le_trans le le') (hargs arg mem))
    · exact lawful.apply hosts himports heval (D.sound_mono le' hprocedure) hvalues
  | case5 => exact keeps_pure hv

/-- An evaluation keeps to a discipline if imports do. -/
theorem eval (himports : D.Imports imports) (left : Nat)
    (hscope : D.inside w scope) {v : Value} (hv : D.sound w v) :
    D.Keeps w scope (Evaluation.eval setting imports left scope v) D.sound := by
  induction left generalizing w scope v with
  | zero => exact keeps_throw
  | succ left ih => exact lawful.form hosts himports (fun hscope hv => ih hscope hv) hscope hv

/-! ## 4. Modules -/

theorem runStatement (himports : D.Imports imports)
    (echo : Bool) (statement : String) :
    D.Keeps w rootFrame (Module.runStatement setting imports echo statement) D.anything := by
  refine keeps_of_holds (fun _ => lawful.root) fun hroot => ?_
  refine keeps_bind (keeps_ofExcept fun _ => lawful.read) fun w' forms le hforms => ?_
  refine keeps_forM fun w'' form le' mem => ?_
  have hroot' := D.inside_mono (D.le_trans le le') hroot
  refine keeps_bind (lawful.eval hosts himports _ hroot' (D.sound_mono le' (hforms form mem)))
    fun _ _ _ _ => ?_
  split
  · exact lawful.writeLine _
  · exact keeps_pure trivial

theorem evaluate (himports : D.Imports imports)
    (path : Path) : D.Keeps w rootFrame (Module.evaluate setting imports path) D.anything := by
  unfold Module.evaluate
  split
  · exact keeps_throw
  · next text _ =>
    have drafts : D.Keeps w rootFrame ((lines text).foldlM
        (Module.feed (Module.runStatement setting imports false)) .empty) D.anything := by
      refine keeps_foldlM trivial fun w' draft line _ _ => ?_
      unfold Module.feed
      split
      · exact keeps_pure trivial
      · exact keeps_pure trivial
      · refine keeps_bind (lawful.runStatement hosts himports false _) fun _ _ _ _ => ?_
        exact keeps_pure trivial
    refine keeps_bind drafts fun _ draft _ _ => ?_
    split
    · exact keeps_pure trivial
    · exact keeps_throw

theorem once (himports : D.Imports imports)
    (path : Path) : D.Keeps w scope (Module.once setting imports path) D.anything := by
  intro store holds
  by_cases imported : store.isImported path
  · rw [Eval.after_ok (Module.once_of_imported imported)]
    exact ⟨w, D.le_refl w, holds, D.kept_refl scope store, fun _ _ _ => trivial⟩
  · obtain ⟨w', le, ran, kept, -⟩ :=
      lawful.evaluate hosts himports path _ (lawful.enterModule holds)
    refine ⟨w', le, ?_, ?_, fun _ _ _ => trivial⟩
    · obtain ⟨phase, now, left⟩ := Module.after_once setting imports imported
      rw [left]
      exact lawful.enterModule ran
    · obtain ⟨phase, now, left⟩ := Module.after_once setting imports imported
      rw [left]
      exact lawful.leaveModule kept

/-- An import keeps to a discipline. -/
theorem importWithin (nesting : Nat) (name : String) :
    D.Keeps w scope (Module.importWithin setting nesting name) D.anything := by
  induction nesting generalizing w scope name with
  | zero => exact keeps_throw
  | succ nesting ih =>
    refine keeps_bind keeps_checked fun w' path _ _ => ?_
    exact lawful.once hosts (fun _ _ name => ih name) path

end Lawful

/-! ## 5. Operations -/

/-- The frame that an operation works in: the one that it names, and otherwise the root. -/
def scopeOf : Operation → FrameId
  | .eval scope _ => scope
  | _ => rootFrame

variable (D) in
/-- What a host hands to an operation may be worked in and met. -/
def Admits (w : D.World) : Operation → Prop
  | .eval scope form => D.inside w scope ∧ D.sound w form
  | .apply procedure args => D.sound w procedure ∧ D.soundAll w args
  | _ => True

variable (D) in
/-- The value that an operation gives may be met. -/
def soundAnswer (w : D.World) : Answer → Prop
  | .value v => D.sound w v
  | _ => True

/-- An operation keeps to a discipline. -/
theorem Lawful.act (lawful : D.Lawful) {s : Session} (hosts : D.Hosts s.setting) {op : Operation}
    (admitted : D.Admits w op) : D.Keeps w (scopeOf op) (s.act op) D.soundAnswer := by
  have himports : D.Imports s.imports := fun _ _ name => lawful.importWithin hosts _ name
  cases op with
  | feed line echo =>
    simp only [Session.act]
    cases s.draft.add line with
    | blank => exact keeps_pure trivial
    | waiting draft => exact keeps_pure trivial
    | complete statement rest =>
      exact keeps_bind (lawful.runStatement hosts himports echo statement)
        fun _ _ _ _ => keeps_pure trivial
  | evalText text =>
    refine keeps_of_holds (fun _ => lawful.root) fun hroot => ?_
    refine keeps_bind (keeps_ofExcept fun _ => lawful.read) fun w' forms le hforms => ?_
    refine keeps_bind (keeps_foldlM (lawful.nil w') fun w'' _ form le' mem => ?_)
      fun _ v _ hv => keeps_pure hv
    exact lawful.eval hosts himports _ (D.inside_mono (D.le_trans le le') hroot)
      (D.sound_mono le' (hforms form mem))
  | importModule name =>
    exact keeps_bind (himports w rootFrame name) fun _ _ _ _ => keeps_pure trivial
  | eval scope form =>
    exact keeps_bind (lawful.eval hosts himports _ admitted.1 admitted.2) fun _ v _ hv =>
      keeps_pure hv
  | apply procedure args =>
    have evaluates : D.Evaluates
        (Evaluation.eval s.setting s.imports (s.setting.depthLimit - 1)) :=
      fun hscope hv => lawful.eval hosts himports _ hscope hv
    exact keeps_bind (lawful.apply hosts himports evaluates admitted.1 admitted.2) fun _ v _ hv =>
      keeps_pure hv

end Discipline

end ListScript
