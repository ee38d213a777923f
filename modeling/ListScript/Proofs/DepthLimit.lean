import ListScript.Proofs.Operation
import ListScript.Proofs.RunRelation

/-!
# The depth limit

The depth limit only decides whether a run is cut short. A run that did not reach its limit is the
same under every higher limit, and a run that did has printed a beginning of what it prints under a
higher one.

The two runs are compared by the relation `Outlasts`. It goes through sequences because an error is
never caught: once the lower run is cut short it stays so, and the higher run can only print more.

Results:
1. `evaluation_outlasts`, `import_outlasts`: an evaluation and an import outlast themselves under a
   lower limit.
2. `perform_withDepthLimit`: the same for the operations of a host.
-/

namespace ListScript

/-! ## 1. What a run has printed -/

/-- The later store has printed everything that the earlier one has, and then perhaps more. -/
def Store.Printed (before after : Store) : Prop :=
  ∃ more, after.sink.text = before.sink.text ++ more

namespace DepthLimitLemmas

theorem printed_refl (store : Store) : store.Printed store :=
  ⟨"", by simp⟩

theorem printed_trans {first second third : Store} (h : first.Printed second)
    (h' : second.Printed third) : first.Printed third := by
  obtain ⟨text, htext⟩ := h
  obtain ⟨more, hmore⟩ := h'
  exact ⟨text ++ more, by rw [hmore, htext, String.append_assoc]⟩

theorem printed_of_eq {before after : Store} (h : after.sink = before.sink) :
    before.Printed after :=
  ⟨"", by simp [h]⟩

theorem printed_writeLine (line : String) (store : Store) :
    store.Printed ((Eval.writeLine line).after store) := by
  rw [Eval.after_writeLine]
  unfold Sink.writeLine
  cases store.sink.writer store.sink.handed line with
  | taken => exact ⟨_, rfl⟩
  | refused count reason => exact ⟨_, rfl⟩

end DepthLimitLemmas

open DepthLimitLemmas

/-! ## 2. Outlasting -/

/-- The second action does what the first does, except that it may go on where the first reached
the depth limit. Either way it takes nothing back that was printed. -/
structure Outlasts {α : Type} (act act' : Eval α) : Prop where
  printed (store : Store) : store.Printed (act'.after store)
  agrees (store : Store) : act' store = act store ∨
    ∃ limit cut, act store = .error (.depthLimit limit) cut ∧ store.Printed cut ∧
      cut.Printed (act'.after store)

namespace DepthLimitLemmas

theorem outlasts_self {α : Type} {act : Eval α}
    (h : ∀ store : Store, store.Printed (act.after store)) :
    Outlasts act act :=
  ⟨h, fun _ => .inl rfl⟩

theorem outlasts_bind {α β : Type} {act act' : Eval α} {next next' : α → Eval β}
    (h : Outlasts act act') (hnext : ∀ a, Outlasts (next a) (next' a)) :
    Outlasts (act >>= next) (act' >>= next') := by
  have further (store : Store) :
      (act'.after store).Printed ((act' >>= next').after store) := by
    cases hact : act' store with
    | ok a mid =>
      rw [Eval.after_ok hact, Eval.after_bind_ok hact]
      exact (hnext a).printed mid
    | error e mid =>
      rw [Eval.after_error hact, Eval.after_bind_error hact]
      exact printed_refl mid
  constructor
  · intro store
    exact printed_trans (h.printed store) (further store)
  · intro store
    rcases h.agrees store with same | ⟨limit, cut, reached, hstart, hcut⟩
    · have printed := h.printed store
      rw [Eval.bind_apply, Eval.bind_apply, same]
      cases hact : act store with
      | error e mid => exact .inl rfl
      | ok a mid =>
        rw [hact] at same
        rw [Eval.after_ok same] at printed
        rw [Eval.after_bind_ok same]
        rcases (hnext a).agrees mid with same' | ⟨limit, cut, reached, hmid, hcut⟩
        · exact .inl same'
        · exact .inr ⟨limit, cut, reached, printed_trans printed hmid, hcut⟩
    · -- The lower run was cut short in the first part. The second part can only print more.
      refine .inr ⟨limit, cut, ?_, hstart, printed_trans hcut (further store)⟩
      rw [Eval.bind_apply, reached]

end DepthLimitLemmas

/-- Outlasting goes through everything that an evaluation does. -/
def outlasting : RunRelation where
  rel := Outlasts
  pure _ := outlasts_self printed_refl
  throw _ := outlasts_self printed_refl
  bind := outlasts_bind
  lookup scope name := outlasts_self fun store => by
    rw [Eval.after_lookup]
    exact printed_refl store
  define _ _ _ := outlasts_self fun _ => printed_of_eq rfl
  assign scope name v := outlasts_self fun store => by
    rw [Eval.after_assign]
    cases store.scopes.owner? scope name <;> exact printed_of_eq rfl
  newFrame _ _ := outlasts_self fun _ => printed_of_eq rfl
  writeLine line := outlasts_self (printed_writeLine line)

/-! ## 3. Evaluations and imports -/

section Limits

variable {setting setting' : Setting} {imports imports' : Import}

namespace DepthLimitLemmas

/-- An action that outlasts another never takes back what was printed, so it outlasts itself. -/
theorem outlasts_right {α : Type} {act act' : Eval α} (h : Outlasts act act') :
    Outlasts act' act' :=
  outlasts_self h.printed

theorem outlasts_depthLimit {α : Type} {act : Eval α} (limit : Nat) (h : Outlasts act act) :
    Outlasts (throw (.depthLimit limit)) act :=
  ⟨h.printed, fun store => .inr ⟨limit, store, rfl, printed_refl store, h.printed store⟩⟩

end DepthLimitLemmas

/-- With more levels left, an evaluation outlasts itself. -/
theorem evaluation_outlasts (alike : setting.Alike setting')
    (himports : ∀ name, Outlasts (imports name) (imports' name)) {left left' : Nat}
    (le : left ≤ left') (scope : FrameId) (v : Value) :
    Outlasts (Evaluation.eval setting imports left scope v)
      (Evaluation.eval setting' imports' left' scope v) := by
  induction left generalizing left' scope v with
  | zero =>
    -- The lower run is cut short at once, so only what the higher one prints matters.
    refine outlasts_depthLimit _ ?_
    exact outlasting.eval_same_limit ⟨rfl, rfl, rfl⟩ rfl
      (fun name => outlasts_right (himports name)) left' scope v
  -- The form is the same on both sides, and what it evaluates has one level less on both.
  | succ left ih =>
    cases left' with
    | zero => exact absurd le (Nat.not_succ_le_zero left)
    | succ left' =>
      exact outlasting.form alike himports (fun scope v => ih (Nat.le_of_succ_le_succ le) scope v)
        scope v

theorem run_outlasts (alike : setting.Alike setting')
    (limits : setting.depthLimit ≤ setting'.depthLimit)
    (himports : ∀ name, Outlasts (imports name) (imports' name)) (scope : FrameId) (v : Value) :
    Outlasts (Evaluation.run setting imports scope v)
      (Evaluation.run setting' imports' scope v) :=
  evaluation_outlasts alike himports limits scope v

theorem call_outlasts (alike : setting.Alike setting')
    (limits : setting.depthLimit ≤ setting'.depthLimit)
    (himports : ∀ name, Outlasts (imports name) (imports' name)) (procedure : Value)
    (args : List Value) :
    Outlasts (Evaluation.call setting imports procedure args)
      (Evaluation.call setting' imports' procedure args) :=
  outlasting.apply alike himports
    (evaluation_outlasts alike himports (Nat.sub_le_sub_right limits 1)) procedure args

/-- What surrounds the evaluation of a module neither prints nor catches an error. -/
theorem once_outlasts {path : Path}
    (h : Outlasts (Module.evaluate setting imports path) (Module.evaluate setting' imports' path)) :
    Outlasts (Module.once setting imports path) (Module.once setting' imports' path) := by
  have printed_once (store cut : Store) (absent : ¬ store.isImported path)
      (hcut : cut.Printed
        ((Module.evaluate setting' imports' path).after (store.startModule path))) :
      cut.Printed ((Module.once setting' imports' path).after store) := by
    obtain ⟨phase, now, left⟩ := Module.after_once setting' imports' absent
    rw [left]
    exact hcut
  constructor
  · intro store
    by_cases imported : store.isImported path
    · rw [Eval.after_ok (Module.once_of_imported imported)]
      exact printed_refl store
    · exact printed_once store store imported (h.printed (store.startModule path))
  · intro store
    by_cases imported : store.isImported path
    · exact .inl (by rw [Module.once_of_imported imported, Module.once_of_imported imported])
    · rcases h.agrees (store.startModule path) with same | ⟨limit, cut, reached, hstart, hcut⟩
      · exact .inl (by rw [Module.once_of_absent imported, Module.once_of_absent imported, same])
      · -- The module is taken back, and the error goes on to whoever imported it.
        refine .inr ⟨limit, cut.failModule path, ?_, hstart, printed_once store cut imported hcut⟩
        rw [Module.once_of_absent imported, reached]

end Limits

/-- The setting with another depth limit. -/
def Setting.withDepthLimit (setting : Setting) (limit : Nat) : Setting :=
  { setting with depthLimit := limit }

section Session

variable (setting : Setting) {low high : Nat} (le : low ≤ high)

include le

/-- An import under a higher limit outlasts the import of the same module. -/
theorem import_outlasts (name : String) :
    Outlasts (Module.importByName (setting.withDepthLimit low) name)
      (Module.importByName (setting.withDepthLimit high) name) := by
  have alike : (setting.withDepthLimit low).Alike (setting.withDepthLimit high) := ⟨rfl, rfl, rfl⟩
  refine outlasting.importWithin alike (fun _ => rfl) ?_ once_outlasts _ name
  intro imports imports' himports v
  exact run_outlasts alike le himports rootFrame v

end Session

/-! ## 4. Operations -/

namespace Session

/-- The session with another depth limit. -/
def withDepthLimit (s : Session) (limit : Nat) : Session :=
  { s with setting := s.setting.withDepthLimit limit }

/-- What the session has printed. -/
def printed (s : Session) : String :=
  s.store.sink.text

end Session

namespace DepthLimitLemmas

theorem conclude_withDepthLimit (s : Session) (op : Operation) (limit : Nat)
    (result : EStateM.Result Error Store Answer) :
    (s.withDepthLimit limit).conclude op result =
      ((s.conclude op result).1, (s.conclude op result).2.withDepthLimit limit) :=
  s.conclude_arrange (Setting.withDepthLimit · limit) op result

/-- What an operation does under a higher limit outlasts what it does under a lower one. -/
theorem act_outlasts (s : Session) {low high : Nat} (le : low ≤ high) (op : Operation) :
    Outlasts ((s.withDepthLimit low).act op) ((s.withDepthLimit high).act op) := by
  have alike : (s.setting.withDepthLimit low).Alike (s.setting.withDepthLimit high) :=
    ⟨rfl, rfl, rfl⟩
  have drafts : (s.withDepthLimit low).draft = (s.withDepthLimit high).draft := rfl
  have himports := import_outlasts s.setting le
  exact outlasting.act drafts himports (run_outlasts alike le himports)
    (call_outlasts alike le himports) op

end DepthLimitLemmas

/-- Raising the depth limit changes nothing but where a run is cut short. An operation that did not
reach its limit has the same outcome under a higher one, and leaves the same frames, imported
modules, draft, reports and output. If it did reach the limit, what it printed until then is the
beginning of what it prints under the higher limit. -/
theorem perform_withDepthLimit (s : Session) (op : Operation) {low high : Nat} (le : low ≤ high) :
    let below := (s.withDepthLimit low).perform op
    let above := (s.withDepthLimit high).perform op
    ((∀ limit, below.1 ≠ .error (.depthLimit limit)) →
      above = (below.1, below.2.withDepthLimit high)) ∧
    ((∃ limit, below.1 = .error (.depthLimit limit)) →
      ∃ text more, below.2.printed = s.printed ++ text ∧
        above.2.printed = s.printed ++ (text ++ more)) := by
  intro below above
  have outlasts := act_outlasts s le op
  have hbelow : below.2.store = ((s.withDepthLimit low).act op).after s.store :=
    Session.store_perform (s.withDepthLimit low) op
  have habove : above.2.store = ((s.withDepthLimit high).act op).after s.store :=
    Session.store_perform (s.withDepthLimit high) op
  rcases outlasts.agrees s.store with same | ⟨limit, cut, reached, ⟨text, htext⟩, more, hmore⟩
  · have agree : above = (below.1, below.2.withDepthLimit high) := by
      have concluded (limit : Nat) (result : EStateM.Result Error Store Answer) :=
        conclude_withDepthLimit s op limit result
      simp only [below, above, Session.perform_eq]
      rw [concluded, concluded]
      exact congrArg (fun result => ((s.conclude op result).1,
        (s.conclude op result).2.withDepthLimit high)) same
    obtain ⟨text, htext⟩ := outlasts.printed s.store
    rw [← habove] at htext
    refine ⟨fun _ => agree, fun _ => ⟨text, "", ?_, ?_⟩⟩
    · have printed : above.2.printed = below.2.printed :=
        congrArg (fun outcome => outcome.2.printed) agree
      rw [← printed]
      exact htext
    · rw [String.append_empty]
      exact htext
  · -- The store that the lower run left is the one it was cut short in.
    have stopped : below.1 = .error (.depthLimit limit) := by
      simp only [below, Session.perform_eq]
      exact congrArg (fun result => ((s.withDepthLimit low).conclude op result).1) reached
    have hcut : cut = below.2.store := by rw [hbelow, Eval.after, reached]
    rw [hcut] at htext hmore
    rw [← habove] at hmore
    refine ⟨fun unreached => absurd stopped (unreached limit), fun _ => ⟨text, more, htext, ?_⟩⟩
    rw [← String.append_assoc]
    exact hmore.trans (congrArg (· ++ more) htext)

/-- A program that prints a line and then needs three levels. -/
def threeLevels : Operation :=
  .evalText "(print \"a\") (if (if #t #t) 1)"

/-- With two levels the program is cut short after it printed its line, and what is printed with
twenty thousand levels begins with that line. With three levels it ends, and as it does with twenty
thousand. -/
theorem perform_withDepthLimit_threeLevels :
    let under (limit : Nat) := ((Session.new {}).withDepthLimit limit).perform threeLevels
    (2 ≤ 20000 ∧ (under 2).1 = .error (.depthLimit 2) ∧
      ∃ text more, (under 2).2.printed = "" ++ text ∧
        (under 20000).2.printed = "" ++ (text ++ more)) ∧
    (3 ≤ 20000 ∧ (under 20000).1 = (under 3).1 ∧ (under 3).2.printed = "a\n") := by
  have cut : (((Session.new {}).withDepthLimit 2).perform threeLevels).1 =
      .error (.depthLimit 2) :=
    errorOf?_eq_some.mp (by decide +kernel)
  have ends : errorOf? (((Session.new {}).withDepthLimit 3).perform threeLevels).1 = none := by
    decide +kernel
  have unreached (limit : Nat) :
      (((Session.new {}).withDepthLimit 3).perform threeLevels).1 ≠ .error (.depthLimit limit) := by
    intro reached
    rw [errorOf?_eq_some.mpr reached] at ends
    exact absurd ends (by simp)
  have two := (perform_withDepthLimit (Session.new {}) threeLevels (by decide : 2 ≤ 20000)).2
  have three := (perform_withDepthLimit (Session.new {}) threeLevels (by decide : 3 ≤ 20000)).1
  have same := congrArg Prod.fst (three unreached)
  exact ⟨⟨by decide, cut, two ⟨2, cut⟩⟩, by decide, same, by decide +kernel⟩

end ListScript
