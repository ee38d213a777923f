import ListScript.Session

/-!
# What a host does with a session

A host asks a session to evaluate something, and between two such operations it may rearrange what
the session works with: files, include directories, limits, procedures, frames, the sink. A run is
any sequence of both.

Results:
1. `perform_eq`: an operation is an action on the store, and what happens around it.
2. `new_eq_after`: a session with the procedure library is reached from a bare one.
3. `new_induction`: what defining the library keeps holds of a new session.
-/

namespace ListScript

namespace Eval

/-- The store that an action leaves, whatever its outcome. -/
def after {α : Type} (act : Eval α) (store : Store) : Store :=
  match act store with
  | .ok _ after => after
  | .error _ after => after

theorem after_ok {α : Type} {act : Eval α} {store mid : Store} {a : α} (h : act store = .ok a mid) :
    act.after store = mid := by
  rw [after, h]

theorem after_error {α : Type} {act : Eval α} {store mid : Store} {e : Error}
    (h : act store = .error e mid) : act.after store = mid := by
  rw [after, h]

section Sequence

variable {α β : Type} {act : Eval α} {next : α → Eval β} {store mid : Store}

theorem after_bind_ok {a : α} (h : act store = .ok a mid) :
    (act >>= next).after store = (next a).after mid := by
  rw [after, bind_apply, h]
  rfl

theorem after_bind_error {e : Error} (h : act store = .error e mid) :
    (act >>= next).after store = mid := by
  rw [after, bind_apply, h]

/-- What holds after the first action, and stays so in the second, holds after both. -/
theorem after_bind {holds : Store → Prop} (first : holds (act.after store))
    (later : ∀ a mid, act store = .ok a mid → holds mid → holds ((next a).after mid)) :
    holds ((act >>= next).after store) := by
  cases acted : act store with
  | ok a mid =>
    rw [after_bind_ok acted]
    exact later a mid acted (after_ok acted ▸ first)
  | error e mid =>
    rw [after_bind_error acted]
    exact after_error acted ▸ first

end Sequence

/-! What the smallest actions leave. -/

theorem after_lookup (scope : FrameId) (name : String) (store : Store) :
    (lookup scope name).after store = store := by
  unfold after lookup
  cases store.scopes.get? scope name <;> rfl

/-- Assigning writes where the name belongs, and does nothing where it belongs nowhere. -/
theorem after_assign (scope : FrameId) (name : String) (v : Value) (store : Store) :
    (assign scope name v).after store =
      match store.scopes.owner? scope name with
      | some owner => { store with scopes := store.scopes.define owner name v }
      | none => store := by
  unfold after assign
  cases store.scopes.owner? scope name <;> rfl

theorem after_writeLine (line : String) (store : Store) :
    (writeLine line).after store = { store with sink := (store.sink.writeLine line).2 } := by
  unfold after writeLine
  rcases store.sink.writeLine line with ⟨_ | e, sink⟩ <;> rfl

/-- The value or the error that an action gives. -/
def outcome {α : Type} (act : Eval α) (store : Store) : Except Error α :=
  match act store with
  | .ok a _ => .ok a
  | .error e _ => .error e

end Eval

/-- Evaluating a module once leaves what evaluating it left, and one more entry in the journal. -/
theorem Module.after_once (setting : Setting) (imports : Import) {path : Path} {store : Store}
    (absent : ¬ store.isImported path) :
    ∃ phase now, (Module.once setting imports path).after store =
      ((Module.evaluate setting imports path).after (store.startModule path)).enter
        phase path now := by
  cases ran : Module.evaluate setting imports path (store.startModule path) with
  | ok _ mid =>
    have left : Module.once setting imports path store = .ok () (mid.finishModule path) := by
      rw [once_of_absent absent, ran]
    rw [Eval.after_ok left, Eval.after_ok ran]
    exact ⟨.finished, _, rfl⟩
  | error e mid =>
    have left : Module.once setting imports path store = .error e (mid.failModule path) := by
      rw [once_of_absent absent, ran]
    rw [Eval.after_error left, Eval.after_error ran]
    exact ⟨.failed, _, rfl⟩

/-! ## 1. Operations -/

/-- What a host asks a session to evaluate. -/
inductive Operation where
  /-- A line goes to the statement that is being fed. -/
  | feed (line : String) (echo : Bool)
  /-- All forms of a text are evaluated in the root frame. -/
  | evalText (text : String)
  /-- A module is imported by its name. -/
  | importModule (name : String)
  /-- A form is evaluated in a frame. -/
  | eval (scope : FrameId) (form : Value)
  /-- A procedure is applied to values. -/
  | apply (procedure : Value) (args : List Value)

/-- What an operation gives if it does not fail. -/
inductive Answer where
  | complete (isComplete : Bool)
  | value (v : Value)
  | imported

namespace Session

/-- Evaluates a form in a frame. -/
def eval (s : Session) (scope : FrameId) (form : Value) : Except Error Value × Session :=
  s.run (Evaluation.run s.setting s.imports scope form)

/-- Does what a host asks for. -/
def perform (s : Session) : Operation → Except Error Answer × Session
  | .feed line echo => (s.feed line echo).map (Except.map .complete) id
  | .evalText text => (s.evalText text).map (Except.map .value) id
  | .importModule name => (s.importModule name).map (Except.map fun _ => .imported) id
  | .eval scope form => (s.eval scope form).map (Except.map .value) id
  | .apply procedure args => (s.apply procedure args).map (Except.map .value) id

/-! ## 2. What operations do to the store

Every operation is one action on the store. Around it, feeding a line moves the draft on, and an
error in feeding discards the draft and is reported. -/

/-- What an operation does to the store, and its answer. -/
def act (s : Session) : Operation → Eval Answer
  | .feed line echo =>
    match s.draft.add line with
    | .blank => return .complete true
    | .waiting _ => return .complete false
    | .complete statement _ => do
      Module.runStatement s.setting s.imports echo statement
      return .complete true
  | .evalText text => do
    let forms ← Eval.ofExcept (readAll text)
    let v ← forms.foldlM (fun _ form => Evaluation.run s.setting s.imports rootFrame form) .nil
    return .value v
  | .importModule name => do
    s.imports name
    return .imported
  | .eval scope form => do
    let v ← Evaluation.run s.setting s.imports scope form
    return .value v
  | .apply procedure args => do
    let v ← Evaluation.call s.setting s.imports procedure args
    return .value v

/-- The draft that an operation leaves if it does not fail. -/
def draftAfter (s : Session) : Operation → Draft
  | .feed line _ =>
    match s.draft.add line with
    | .blank => s.draft
    | .waiting draft => draft
    | .complete _ rest => rest
  | _ => s.draft

/-- What an error does to a session apart from its store. -/
def fail (s : Session) (e : Error) : Operation → Session
  | .feed _ _ => s.reset.report e
  | _ => s

/-- The outcome of an operation and the session that it leaves, by what its action did. -/
def conclude (s : Session) (op : Operation) :
    EStateM.Result Error Store Answer → Except Error Answer × Session
  | .ok answer store => (.ok answer, { s with store, draft := s.draftAfter op })
  | .error e store => (.error e, Session.fail { s with store } e op)

/-- An operation is its action on the store, and what happens around it depends on the outcome
alone. -/
theorem perform_eq (s : Session) (op : Operation) :
    s.perform op = s.conclude op (s.act op s.store) := by
  cases op with
  | feed line echo =>
    simp only [perform, feed, act]
    cases added : s.draft.add line with
    | blank => simp [conclude, draftAfter, added, Except.map]
    | waiting draft => simp [conclude, draftAfter, added, Except.map]
    | complete statement rest =>
      simp only [run, Eval.bind_apply]
      cases Module.runStatement s.setting s.imports echo statement s.store with
      | ok _ store => simp [conclude, draftAfter, added, endStatement, Except.map]
      | error e store => rfl
  | evalText text =>
    simp only [perform, evalText, run, act, Eval.bind_apply]
    cases Eval.ofExcept (readAll text) s.store with
    | error e store => rfl
    | ok forms store =>
      dsimp only
      cases forms.foldlM (fun _ form => Evaluation.run s.setting s.imports rootFrame form)
        Value.nil store <;> rfl
  | importModule name =>
    simp only [perform, importModule, run, act, Eval.bind_apply]
    cases s.imports name s.store <;> rfl
  | eval scope form =>
    simp only [perform, eval, run, act, Eval.bind_apply]
    cases Evaluation.run s.setting s.imports scope form s.store <;> rfl
  | apply procedure args =>
    simp only [perform, apply, run, act, Eval.bind_apply]
    cases Evaluation.call s.setting s.imports procedure args s.store <;> rfl

theorem store_report (s : Session) (e : Error) : (s.report e).store = s.store := by
  unfold report
  split <;> rfl

theorem store_fail (s : Session) (e : Error) (op : Operation) : (s.fail e op).store = s.store := by
  cases op with
  | feed line echo => exact store_report s.reset e
  | _ => rfl

theorem store_perform (s : Session) (op : Operation) :
    (s.perform op).2.store = (s.act op).after s.store := by
  rw [perform_eq, Eval.after]
  cases s.act op s.store with
  | ok answer store => rfl
  | error e store => exact store_fail _ e op

theorem setting_perform (s : Session) (op : Operation) : (s.perform op).2.setting = s.setting := by
  have reported (s : Session) (e : Error) : (s.report e).setting = s.setting := by
    unfold report
    split <;> rfl
  rw [perform_eq]
  cases s.act op s.store with
  | ok answer store => rfl
  | error e store =>
    cases op with
    | feed line echo => exact reported _ e
    | _ => rfl

/-- The session in a setting that was changed. -/
def arrange (s : Session) (change : Setting → Setting) : Session :=
  { s with setting := change s.setting }

theorem report_arrange (s : Session) (change : Setting → Setting) (e : Error) :
    (s.arrange change).report e = (s.report e).arrange change := by
  have same : (s.arrange change).reporting = s.reporting := rfl
  unfold report
  rw [same]
  split <;> rfl

/-- What happens around an action does not depend on the setting. -/
theorem conclude_arrange (s : Session) (change : Setting → Setting) (op : Operation)
    (result : EStateM.Result Error Store Answer) :
    (s.arrange change).conclude op result =
      ((s.conclude op result).1, (s.conclude op result).2.arrange change) := by
  cases result with
  | ok answer store => cases op <;> rfl
  | error e store =>
    cases op with
    | feed line echo =>
      exact congrArg (Prod.mk _) (report_arrange (Session.reset { s with store }) change e)
    | _ => rfl

end Session

/-- The error that an operation ended with, if any. -/
def errorOf? {α : Type} : Except Error α → Option Error
  | .ok _ => none
  | .error e => some e

theorem errorOf?_eq_some {α : Type} {outcome : Except Error α} {e : Error} :
    errorOf? outcome = some e ↔ outcome = .error e := by
  cases outcome <;> simp [errorOf?]

namespace Session

/-! ## 3. Runs -/

/-- The session with other frames. -/
def withScopes (s : Session) (scopes : Scopes) : Session :=
  { s with store.scopes := scopes }

end Session

/-- What happens next in a session. -/
inductive Step where
  | operation (op : Operation)
  /-- The statement that is being fed is discarded. -/
  | reset
  /-- The host listens to reports or no longer does. -/
  | listen (reporting : Bool)
  /-- Files, include directories or limits become different. -/
  | arrange (change : Setting → Setting)
  /-- The sink is emptied, or begins to refuse lines. -/
  | redirect (sink : Sink)
  /-- A procedure of the host is bound to a name in the root frame. -/
  | register (name : String) (procedure : HostProcedure)
  /-- A frame without a parent is made. -/
  | newRoot
  /-- A frame that binds parameters is made below another. -/
  | newFrame (parent : FrameId) (params : List String) (args : List Value)
  | define (scope : FrameId) (name : String) (v : Value)
  | assign (scope : FrameId) (name : String) (v : Value)
  | clear (scope : FrameId)

namespace Session

/-- The session after a step. -/
def step (s : Session) : Step → Session
  | .operation op => (s.perform op).2
  | .reset => s.reset
  | .listen reporting => { s with reporting }
  | .arrange change => { s with setting := change s.setting }
  | .redirect sink => { s with store.sink := sink }
  | .register name procedure => s.register name procedure
  | .newRoot => s.withScopes s.store.scopes.newRoot
  | .newFrame parent params args =>
    s.withScopes (s.store.scopes.newFrame parent (.ofCall params args))
  | .define scope name v => s.withScopes (s.store.scopes.define scope name v)
  | .assign scope name v =>
    match s.store.scopes.set? scope name v with
    | some scopes => s.withScopes scopes
    | none => s
  | .clear scope => s.withScopes (s.store.scopes.clear scope)

/-- The session after some steps. -/
def after (s : Session) (steps : List Step) : Session :=
  steps.foldl step s

/-- A session with the procedure library is a bare one in which the library was defined. -/
theorem new_eq_after (setting : Setting) :
    Session.new setting =
      (Session.bare setting).after (library.map fun (name, v) => .define rootFrame name v) := by
  unfold Session.new after
  rw [List.foldl_map]
  rfl

/-- The library binds symbols and native procedures. -/
theorem library_values : ∀ entry ∈ library,
    (∃ name, entry.2 = .symbol name) ∨ ∃ name action, entry.2 = .native name action := by
  intro entry mem
  rcases List.mem_append.mp mem with constant | procedure
  · simp only [constants, List.mem_cons, List.not_mem_nil, or_false] at constant
    rcases constant with rfl | rfl | rfl <;> exact .inl ⟨_, rfl⟩
  · obtain ⟨_, -, rfl⟩ := List.mem_map.mp procedure
    exact .inr ⟨_, _, rfl⟩

/-- What holds of a session without the library, and stays so when a value of the library is
defined, holds of a new session. -/
theorem new_induction {holds : Session → Prop} {setting : Setting} (bare : holds (.bare setting))
    (symbol : ∀ s name text, holds s → holds (s.define name (.symbol text)))
    (native : ∀ s name shown action, holds s → holds (s.define name (.native shown action))) :
    holds (.new setting) := by
  have defines (entries : List (String × Value)) (known : ∀ entry ∈ entries, entry ∈ library)
      (s : Session) (h : holds s) :
      holds (entries.foldl (fun s (name, v) => s.define name v) s) := by
    induction entries generalizing s with
    | nil => exact h
    | cons entry rest ih =>
      obtain ⟨here, later⟩ := List.forall_mem_cons.mp known
      obtain ⟨name, v⟩ := entry
      refine ih later _ ?_
      rcases library_values (name, v) here with ⟨text, rfl⟩ | ⟨shown, action, rfl⟩
      · exact symbol s name text h
      · exact native s name shown action h
  exact defines library (fun _ mem => mem) _ bare

end Session

end ListScript
