import ListScript.Proofs.Operation

/-!
# Relations between runs

Two runs of the same program may differ in what surrounds it: the limit of the depth, the include
directories, the number of modules that may be open. A statement about two such runs, or about a
single one, is a relation between actions. If the relation holds of the smallest actions and goes
through sequences, it holds of everything that an evaluation is made of.

Results:
1. `RunRelation.form`: two evaluations of a form are related if the evaluations that they ask for
   and the imports are.
2. `RunRelation.eval_same_limit`: the same with equally many levels left.
3. `RunRelation.importWithin`: two imports are related if evaluating a module once is related
   whenever evaluating it is.
-/

namespace ListScript

/-- A relation between actions that goes through everything that evaluation does itself. Modules
are left out: what starting one does is not made of these actions. -/
structure RunRelation where
  rel {α : Type} : Eval α → Eval α → Prop
  pure {α : Type} (a : α) : rel (pure a) (pure a)
  throw {α : Type} (e : Error) : rel (throw e : Eval α) (throw e)
  bind {α β : Type} {act act' : Eval α} {next next' : α → Eval β} :
    rel act act' → (∀ a, rel (next a) (next' a)) → rel (act >>= next) (act' >>= next')
  lookup (scope : FrameId) (name : String) : rel (Eval.lookup scope name) (Eval.lookup scope name)
  define (scope : FrameId) (name : String) (v : Value) :
    rel (Eval.define scope name v) (Eval.define scope name v)
  assign (scope : FrameId) (name : String) (v : Value) :
    rel (Eval.assign scope name v) (Eval.assign scope name v)
  newFrame (parent : FrameId) (bindings : Bindings) :
    rel (Eval.newFrame parent bindings) (Eval.newFrame parent bindings)
  writeLine (line : String) : rel (Eval.writeLine line) (Eval.writeLine line)

/-- Two settings in which native procedures do the same and modules read the same. -/
structure Setting.Alike (setting setting' : Setting) : Prop where
  importing : setting.importing = setting'.importing
  procedures : setting.procedures = setting'.procedures
  files : setting.files = setting'.files

namespace RunRelation

variable (R : RunRelation) {setting setting' : Setting} {imports imports' : Import}
  {eval eval' : Evaluator}

/-! ## 1. Sequences -/

theorem ofExcept {α : Type} (outcome : Except Error α) :
    R.rel (Eval.ofExcept outcome) (Eval.ofExcept outcome) := by
  cases outcome with
  | ok a => exact R.pure a
  | error e => exact R.throw e

theorem mapM {α β : Type} {f f' : α → Eval β} (h : ∀ a, R.rel (f a) (f' a)) (as : List α) :
    R.rel (as.mapM f) (as.mapM f') := by
  induction as with
  | nil => exact R.pure []
  | cons a rest ih =>
    rw [List.mapM_cons, List.mapM_cons]
    exact R.bind (h a) fun b => R.bind ih fun bs => R.pure (b :: bs)

theorem foldlM {α β : Type} {f f' : β → α → Eval β} (h : ∀ b a, R.rel (f b a) (f' b a))
    (start : β) (as : List α) : R.rel (as.foldlM f start) (as.foldlM f' start) := by
  induction as generalizing start with
  | nil => exact R.pure start
  | cons a rest ih =>
    rw [List.foldlM_cons, List.foldlM_cons]
    exact R.bind (h start a) ih

theorem forM {α : Type} {f f' : α → Eval Unit} (h : ∀ a, R.rel (f a) (f' a)) (as : List α) :
    R.rel (as.forM f) (as.forM f') := by
  induction as with
  | nil => exact R.pure ()
  | cons a rest ih =>
    exact R.bind (h a) fun _ => ih

/-! ## 2. Procedures -/

theorem print (args : List Value) : R.rel (Evaluation.print args) (Evaluation.print args) :=
  R.bind (R.writeLine _) fun _ => R.pure (Value.truth true)

theorem importAll (alike : setting.Alike setting')
    (himports : ∀ name, R.rel (imports name) (imports' name)) (args : List Value) :
    R.rel (Evaluation.importAll setting imports args)
      (Evaluation.importAll setting' imports' args) := by
  unfold Evaluation.importAll
  rw [alike.importing]
  split
  · exact R.throw _
  · split
    · exact R.throw _
    · exact R.bind (R.forM (fun arg => himports arg.text) args) fun _ => R.pure _

/-- A program of the host is made of the smallest actions. -/
theorem host (program : HostProgram) : R.rel program.act program.act := by
  induction program with
  | ok v => exact R.pure v
  | error e => exact R.throw e
  | lookup scope name next ih => exact R.bind (R.lookup scope name) ih
  | define scope name v next ih => exact R.bind (R.define scope name v) fun _ => ih
  | assign scope name v next ih => exact R.bind (R.assign scope name v) fun _ => ih
  | newFrame parent bindings next ih => exact R.bind (R.newFrame parent bindings) ih
  | writeLine line next ih => exact R.bind (R.writeLine line) fun _ => ih

theorem perform (alike : setting.Alike setting')
    (himports : ∀ name, R.rel (imports name) (imports' name)) (action : Action)
    (args : List Value) :
    R.rel (Evaluation.perform setting imports action args)
      (Evaluation.perform setting' imports' action args) := by
  cases action with
  | builtin op => exact R.ofExcept (op.apply args)
  | print => exact R.print args
  | importModules => exact R.importAll alike himports args
  | host index =>
    simp only [Evaluation.perform, alike.procedures]
    cases setting'.procedures[index]? with
    | some procedure => exact R.host (procedure args)
    | none => exact R.throw _

theorem apply (alike : setting.Alike setting')
    (himports : ∀ name, R.rel (imports name) (imports' name))
    (heval : ∀ scope v, R.rel (eval scope v) (eval' scope v)) (procedure : Value)
    (args : List Value) :
    R.rel (Evaluation.apply setting imports eval procedure args)
      (Evaluation.apply setting' imports' eval' procedure args) := by
  cases procedure with
  | lambda params body captured =>
    exact R.bind (R.newFrame captured _) fun scope => heval scope body
  | native name action => exact R.perform alike himports action args
  | atom kind text => exact R.throw _
  | list items => exact R.throw _

/-! ## 3. Forms -/

theorem special (heval : ∀ scope v, R.rel (eval scope v) (eval' scope v)) (scope : FrameId)
    (specialForm : SpecialForm) (args : List Value) :
    R.rel (Evaluation.special eval scope specialForm args)
      (Evaluation.special eval' scope specialForm args) := by
  fun_cases Evaluation.special eval scope specialForm args with
  | case1 form rest => exact R.pure form
  | case3 test consequent rest =>
    refine R.bind (heval scope test) fun outcome => ?_
    split
    · split
      · exact heval scope _
      · exact R.pure _
    · exact heval scope consequent
  | case5 name form =>
    exact R.bind (heval scope form) fun v => R.bind (R.assign scope name v) fun _ => R.pure v
  | case8 name form =>
    exact R.bind (heval scope form) fun v => R.bind (R.define scope name v) fun _ => R.pure v
  | case11 params body =>
    refine R.bind (R.ofExcept _) fun names => ?_
    exact R.bind (R.newFrame scope .empty) fun captured => R.pure _
  | case14 => exact R.foldlM (fun _ form => heval scope form) _ _
  | _ =>
    -- A refusal does not depend on the evaluator.
    simp only [Evaluation.special, *]
    exact R.throw _

/-- Two evaluations of a form are related if the evaluations that they ask for and the imports
are. -/
theorem form (alike : setting.Alike setting')
    (himports : ∀ name, R.rel (imports name) (imports' name))
    (heval : ∀ scope v, R.rel (eval scope v) (eval' scope v)) (scope : FrameId) (v : Value) :
    R.rel (Evaluation.form setting imports eval scope v)
      (Evaluation.form setting' imports' eval' scope v) := by
  fun_cases Evaluation.form setting imports eval scope v with
  | case1 name => exact R.lookup scope name
  | case2 => exact R.pure _
  | case3 head args specialForm isSpecial =>
    simp only [Evaluation.form, isSpecial]
    exact R.special heval scope specialForm args
  | case4 head args notSpecial =>
    simp only [Evaluation.form, notSpecial]
    refine R.bind (heval scope head) fun procedure => ?_
    exact R.bind (R.mapM (heval scope) args) fun values =>
      R.apply alike himports heval procedure values
  | case5 =>
    simp only [Evaluation.form, *]
    exact R.pure v

/-- Two evaluations with equally many levels left are related if the imports are. -/
theorem eval_same_limit (alike : setting.Alike setting')
    (limit : setting.depthLimit = setting'.depthLimit)
    (himports : ∀ name, R.rel (imports name) (imports' name)) (left : Nat) (scope : FrameId)
    (v : Value) :
    R.rel (Evaluation.eval setting imports left scope v)
      (Evaluation.eval setting' imports' left scope v) := by
  induction left generalizing scope v with
  | zero =>
    simp only [Evaluation.eval, limit]
    exact R.throw _
  | succ left ih => exact R.form alike himports ih scope v

/-! ## 4. Modules -/

theorem runStatement
    (hrun : ∀ v, R.rel (Evaluation.run setting imports rootFrame v)
      (Evaluation.run setting' imports' rootFrame v)) (echo : Bool) (statement : String) :
    R.rel (Module.runStatement setting imports echo statement)
      (Module.runStatement setting' imports' echo statement) := by
  refine R.bind (R.ofExcept _) fun forms => R.forM (fun form => ?_) forms
  refine R.bind (hrun form) fun v => ?_
  split
  · exact R.writeLine _
  · exact R.pure ()

/-- Two evaluations of a module are related if those of its statements are. -/
theorem evaluate (alike : setting.Alike setting')
    (hrun : ∀ v, R.rel (Evaluation.run setting imports rootFrame v)
      (Evaluation.run setting' imports' rootFrame v)) (path : Path) :
    R.rel (Module.evaluate setting imports path) (Module.evaluate setting' imports' path) := by
  unfold Module.evaluate
  rw [alike.files]
  split
  · exact R.throw _
  · next text _ =>
    refine R.bind (R.foldlM (fun draft line => ?_) _ (lines text)) fun draft => ?_
    · unfold Module.feed
      split
      · exact R.pure _
      · exact R.pure _
      · next statement rest _ =>
        exact R.bind (R.runStatement hrun false statement) fun _ => R.pure rest
    · split
      · exact R.pure ()
      · exact R.throw _

/-- Two imports are related if names lead to the same modules, if related evaluations of forms
follow from related imports, and if evaluating a module once follows from evaluating it. -/
theorem importWithin (alike : setting.Alike setting')
    (resolves : ∀ name, setting.resolve name = setting'.resolve name)
    (hrun : ∀ {imports imports' : Import}, (∀ name, R.rel (imports name) (imports' name)) →
      ∀ v, R.rel (Evaluation.run setting imports rootFrame v)
        (Evaluation.run setting' imports' rootFrame v))
    (honce : ∀ {imports imports' : Import} {path : Path},
      R.rel (Module.evaluate setting imports path) (Module.evaluate setting' imports' path) →
        R.rel (Module.once setting imports path) (Module.once setting' imports' path))
    (nesting : Nat) (name : String) :
    R.rel (Module.importWithin setting nesting name)
      (Module.importWithin setting' nesting name) := by
  induction nesting generalizing name with
  | zero => exact R.throw .moduleNesting
  | succ nesting ih =>
    simp only [Module.importWithin, resolves name]
    exact R.bind (R.ofExcept _) fun path => honce (R.evaluate alike (hrun ih) path)

/-! ## 5. Operations -/

/-- Two operations are related if the evaluations, calls and imports of the two sessions are. -/
theorem act {s s' : Session} (drafts : s.draft = s'.draft)
    (himports : ∀ name, R.rel (s.imports name) (s'.imports name))
    (hrun : ∀ scope v, R.rel (Evaluation.run s.setting s.imports scope v)
      (Evaluation.run s'.setting s'.imports scope v))
    (hcall : ∀ procedure args, R.rel (Evaluation.call s.setting s.imports procedure args)
      (Evaluation.call s'.setting s'.imports procedure args)) (op : Operation) :
    R.rel (s.act op) (s'.act op) := by
  cases op with
  | feed line echo =>
    simp only [Session.act, drafts]
    cases s'.draft.add line with
    | blank => exact R.pure _
    | waiting draft => exact R.pure _
    | complete statement rest =>
      exact R.bind (R.runStatement (hrun rootFrame) echo statement) fun _ => R.pure _
  | evalText text =>
    refine R.bind (R.ofExcept _) fun forms => ?_
    exact R.bind (R.foldlM (fun _ form => hrun rootFrame form) _ forms) fun v => R.pure _
  | importModule name => exact R.bind (himports name) fun _ => R.pure _
  | eval scope form => exact R.bind (hrun scope form) fun v => R.pure _
  | apply procedure args => exact R.bind (hcall procedure args) fun v => R.pure _

/-- Every operation is related to itself if evaluating a module once is whenever evaluating it
is. -/
theorem act_self
    (honce : ∀ {setting : Setting} {imports imports' : Import} {path : Path},
      R.rel (Module.evaluate setting imports path) (Module.evaluate setting imports' path) →
        R.rel (Module.once setting imports path) (Module.once setting imports' path))
    (s : Session) (op : Operation) : R.rel (s.act op) (s.act op) := by
  have alike : s.setting.Alike s.setting := ⟨rfl, rfl, rfl⟩
  have heval {imports imports' : Import}
      (himports : ∀ name, R.rel (imports name) (imports' name)) :=
    R.eval_same_limit alike rfl himports
  have himports : ∀ name, R.rel (s.imports name) (s.imports name) :=
    R.importWithin alike (fun _ => rfl) (fun related => heval related _ rootFrame) honce _
  exact R.act rfl himports (heval himports _) (R.apply alike himports (heval himports _)) op

/-! ## 6. What actions do to the store -/

/-- A relation between the stores before and after an action goes through everything that evaluation
does itself if it is reflexive and transitive and holds of the actions that change something. -/
def ofStores (kept : Store → Store → Prop) (refl : ∀ store, kept store store)
    (trans : ∀ {first second third}, kept first second → kept second third → kept first third)
    (scopes : ∀ store scopes, kept store { store with scopes })
    (sink : ∀ store sink, kept store { store with sink }) : RunRelation where
  rel act _ := ∀ store, kept store (act.after store)
  pure _ := refl
  throw _ := refl
  bind {_ _ act _ next _} h hnext store := by
    cases hact : act store with
    | error e mid =>
      rw [Eval.after_bind_error hact, ← Eval.after_error hact]
      exact h store
    | ok a mid =>
      have first := h store
      rw [Eval.after_ok hact] at first
      rw [Eval.after_bind_ok hact]
      exact trans first (hnext a mid)
  lookup scope name store := by
    rw [Eval.after_lookup]
    exact refl store
  define _ _ _ store := scopes store _
  assign scope name v store := by
    rw [Eval.after_assign]
    cases store.scopes.owner? scope name with
    | none => exact refl store
    | some owner => exact scopes store _
  newFrame _ _ store := scopes store _
  writeLine line store := by
    rw [Eval.after_writeLine]
    exact sink store _

end RunRelation

end ListScript
