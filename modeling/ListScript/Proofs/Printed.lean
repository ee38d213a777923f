import ListScript.Proofs.RunRelation

/-!
# What was printed before

A sink takes text and is never asked for it. So no evaluation depends on what was printed before it:
where something was, all goes as it would have gone without, and the same is printed behind it.

Results:
1. `RunRelation.behind`: what was printed before goes through everything that evaluation does.
2. `Session.perform_behind`: the same operation behind a text.
3. `Session.feed_of_quiet_eq`: feeding two sessions that differ only in what they printed.
-/

namespace ListScript

/-! ## 1. Stores behind a text -/

/-- The sink if the text had been printed before everything else. -/
def Sink.behind (sink : Sink) (text : String) : Sink :=
  { sink with text := text ++ sink.text }

theorem Sink.put_behind (sink : Sink) (text more : String) :
    (sink.behind text).put more = (sink.put more).behind text := by
  simp [Sink.behind, Sink.put, String.append_assoc]

/-- The writer is never told what was printed before. -/
theorem Sink.writeLine_behind (sink : Sink) (text line : String) :
    (sink.behind text).writeLine line =
      ((sink.writeLine line).1, (sink.writeLine line).2.behind text) := by
  have reply : (sink.behind text).writer (sink.behind text).handed line =
      sink.writer sink.handed line := rfl
  have handed : (sink.behind text).hand line = (sink.hand line).behind text := rfl
  simp only [Sink.writeLine, reply, handed, Sink.put_behind]
  cases sink.writer sink.handed line <;> rfl

/-- The store if the text had been printed before everything else. -/
def Store.behind (store : Store) (text : String) : Store :=
  { store with sink := store.sink.behind text }

/-- What an action gives, with its store changed. -/
def Eval.mapStore {α : Type} (change : Store → Store) :
    EStateM.Result Error Store α → EStateM.Result Error Store α
  | .ok a store => .ok a (change store)
  | .error e store => .error e (change store)

namespace RunRelation

/-- Behind a text, the second action does what the first does without. -/
def behind (text : String) : RunRelation where
  rel act act' := ∀ store : Store,
    act' (store.behind text) = Eval.mapStore (·.behind text) (act store)
  pure _ _ := rfl
  throw _ _ := rfl
  bind {_ _ act act' next next'} h hnext store := by
    rw [Eval.bind_apply, Eval.bind_apply, h store]
    cases act store with
    | ok a mid => exact hnext a mid
    | error e mid => rfl
  lookup scope name store := by
    have same : (store.behind text).scopes = store.scopes := rfl
    unfold Eval.lookup
    rw [same]
    cases store.scopes.get? scope name <;> rfl
  define _ _ _ _ := rfl
  assign scope name v store := by
    have same : (store.behind text).scopes = store.scopes := rfl
    unfold Eval.assign
    rw [same]
    cases store.scopes.owner? scope name <;> rfl
  newFrame _ _ _ := rfl
  writeLine line store := by
    have same : (store.behind text).sink = store.sink.behind text := rfl
    unfold Eval.writeLine
    rw [same, Sink.writeLine_behind]
    rcases store.sink.writeLine line with ⟨_ | e, sink⟩ <;> rfl

/-- Starting a module and ending it print nothing, and only what counts as imported decides whether
it is started. -/
theorem behind_once {text : String} {setting : Setting} {imports imports' : Import} {path : Path}
    (h : (behind text).rel (Module.evaluate setting imports path)
      (Module.evaluate setting imports' path)) :
    (behind text).rel (Module.once setting imports path) (Module.once setting imports' path) := by
  intro store
  by_cases imported : store.isImported path = true
  · have imported' : (store.behind text).isImported path = true := imported
    rw [Module.once_of_imported imported, Module.once_of_imported imported']
    rfl
  · have absent : ¬ (store.behind text).isImported path = true := imported
    have before : (store.behind text).startModule path = (store.startModule path).behind text := rfl
    rw [Module.once_of_absent imported, Module.once_of_absent absent, before,
      h (store.startModule path)]
    cases Module.evaluate setting imports path (store.startModule path) <;> rfl

end RunRelation

/-! ## 2. Sessions behind a text -/

namespace Session

/-- The session if the text had been printed before everything else. -/
def behind (s : Session) (text : String) : Session :=
  { s with store := s.store.behind text }

/-- The session if nothing had been printed. -/
def quiet (s : Session) : Session :=
  { s with store.sink.text := "" }

theorem eq_behind (s : Session) : s = s.quiet.behind s.store.sink.text := by
  simp [behind, quiet, Store.behind, Sink.behind]

theorem quiet_behind (s : Session) (text : String) : (s.behind text).quiet = s.quiet := rfl

theorem act_behind (s : Session) (text : String) (op : Operation) :
    (s.behind text).act op (s.behind text).store =
      Eval.mapStore (·.behind text) (s.act op s.store) := by
  have same : (s.behind text).act op = s.act op := by
    cases op <;> rfl
  rw [same]
  exact (RunRelation.behind text).act_self RunRelation.behind_once s op s.store

theorem report_behind (s : Session) (text : String) (e : Error) :
    (s.behind text).report e = (s.report e).behind text := by
  have same : (s.behind text).reporting = s.reporting := rfl
  unfold report
  rw [same]
  split <;> rfl

theorem conclude_behind (s : Session) (text : String) (op : Operation)
    (result : EStateM.Result Error Store Answer) :
    (s.behind text).conclude op (Eval.mapStore (·.behind text) result) =
      ((s.conclude op result).1, (s.conclude op result).2.behind text) := by
  cases result with
  | ok answer store => cases op <;> rfl
  | error e store =>
    cases op with
    | feed line echo =>
      exact congrArg (Prod.mk _) (report_behind (Session.reset { s with store }) text e)
    | _ => rfl

/-- Behind a text an operation gives what it gives without, and leaves the same behind the text. -/
theorem perform_behind (s : Session) (text : String) (op : Operation) :
    (s.behind text).perform op = ((s.perform op).1, (s.perform op).2.behind text) := by
  rw [perform_eq, perform_eq, act_behind, conclude_behind]

theorem eq_of_map_complete_eq {outcome outcome' : Except Error Bool}
    (same : outcome.map Answer.complete = outcome'.map .complete) : outcome = outcome' := by
  cases outcome <;> cases outcome' <;> cases same <;> rfl

theorem feed_behind (s : Session) (text line : String) (echo : Bool) :
    (s.behind text).feed line echo = ((s.feed line echo).1, (s.feed line echo).2.behind text) := by
  have performed := perform_behind s text (.feed line echo)
  have outcome : ((s.behind text).feed line echo).1.map Answer.complete =
      (s.feed line echo).1.map .complete := congrArg Prod.fst performed
  have session : ((s.behind text).feed line echo).2 = (s.feed line echo).2.behind text :=
    congrArg Prod.snd performed
  exact Prod.ext (eq_of_map_complete_eq outcome) session

/-- Feeding sessions that differ only in what they printed gives the same, and leaves sessions that
differ only in what they printed. -/
theorem feed_of_quiet_eq {s t : Session} (same : t.quiet = s.quiet) (line : String) (echo : Bool) :
    (t.feed line echo).1 = (s.feed line echo).1 ∧
      (t.feed line echo).2.quiet = (s.feed line echo).2.quiet := by
  rw [eq_behind t, eq_behind s, same, feed_behind, feed_behind, quiet_behind, quiet_behind]
  exact ⟨rfl, rfl⟩

end Session

end ListScript
