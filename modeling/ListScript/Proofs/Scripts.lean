import ListScript.Proofs.Contract
import ListScript.Proofs.Idle
import ListScript.Proofs.Reporting

/-!
# Runs of scripts

A script has duties. Its statements are evaluated one after another. If the script cannot be read
there is a complaint in their place, and if it ends inside a statement there is one at their end. A
script starts with nothing in the draft, so its duties are those of its own text. A run of scripts
carries out the duties of all of them in order, in one session, and stops at the first that fails.

Results:
1. `Draft.exists_stretch`: the text of a statement comes from successive lines.
2. `Console.runScripts_eq`: running scripts is carrying out their duties.
3. `Console.carryOut_cases`: duties are carried out up to the first that fails.
4. `Console.runScripts_stops`: all of this, with the code and the reports that a run ends with.
-/

namespace ListScript

/-! ## 1. Statements and their lines -/

namespace Draft

/-- The draft that some lines leave after the statements that they complete. -/
def left (draft : Draft) : List String → Draft
  | [] => draft
  | line :: rest =>
    match draft.add line with
    | .blank => draft.left rest
    | .waiting draft => draft.left rest
    | .complete _ draft => draft.left rest

theorem Reached.left {draft : Draft} (h : draft.Reached) (fed : List String) :
    (draft.left fed).Reached := by
  induction fed generalizing draft with
  | nil => exact h
  | cons line rest ih =>
    rw [Draft.left]
    split
    · exact ih h
    · next next added => exact ih (.waiting h added)
    · next statement next added => exact ih (.complete h added)

/-- What lines hold that do not complete a statement: the code of each and a space. A blank line
holds nothing. -/
def held (waiting : List String) : List Char :=
  waiting.flatMap fun line => if (codeOf line).all isBlank then [] else codeOf line ++ [' ']

theorem held_concat (waiting : List String) (line : String) :
    held (waiting ++ [line]) =
      held waiting ++ if (codeOf line).all isBlank then [] else codeOf line ++ [' '] := by
  simp [held]

theorem add_of_blank {draft : Draft} {line : String} (blank : (codeOf line).all isBlank) :
    draft.add line = .blank :=
  if_pos blank

/-- The text of a statement comes from successive lines: from some that wait for more and the one
that completes it. The first of them may already be in the draft. -/
theorem exists_stretch {draft : Draft} {pending fed : List String} {statement : String}
    (mem : statement ∈ draft.statements fed) (text : draft.text.toList = held pending) :
    ∃ before waiting last after, pending ++ fed = before ++ waiting ++ last :: after ∧
      statement.toList = held waiting ++ codeOf last := by
  induction fed generalizing draft pending with
  | nil => cases mem
  | cons line rest ih =>
    rw [statements] at mem
    cases added : draft.add line with
    | blank =>
      rw [added] at mem
      dsimp only at mem
      have nothing : draft.text.toList = held (pending ++ [line]) := by
        rw [held_concat, if_pos (add_eq_blank added), List.append_nil]
        exact text
      simpa using ih mem nothing
    | waiting next =>
      rw [added] at mem
      dsimp only at mem
      have notBlank : ¬ (codeOf line).all isBlank := fun blank =>
        nomatch (add_of_blank blank).symm.trans added
      obtain ⟨-, rfl⟩ := add_eq_waiting added
      have more : ((draft.scan (codeOf line)).text.push ' ').toList = held (pending ++ [line]) := by
        rw [held_concat, if_neg notBlank, String.toList_push, toList_text_scan, text,
          List.append_assoc]
      simpa using ih mem more
    | complete first next =>
      rw [added] at mem
      dsimp only at mem
      obtain ⟨-, rfl, rfl⟩ := add_eq_complete added
      rcases List.mem_cons.mp mem with rfl | mem
      · exact ⟨[], pending, line, rest, rfl, by rw [toList_text_scan, text]⟩
      · -- The next statement begins with the next line.
        have fresh : ("" : String).toList = held [] := rfl
        obtain ⟨before, waiting, last, after, same, made⟩ := ih mem fresh
        rw [List.nil_append] at same
        exact ⟨pending ++ line :: before, waiting, last, after, by simp [same], made⟩

end Draft

/-! ## 2. Duties -/

namespace Console

/-- What a script asks for. -/
inductive Duty where
  /-- A statement is evaluated. -/
  | statement (text : String)
  /-- There is something to complain about, and nothing else to do. -/
  | complaint (report : Report)

/-- The duties of a script: its statements, and a complaint if it cannot be read or ends inside a
statement. -/
def duties (files : FileTree) (script : String) : List Duty :=
  match files.readText script with
  | .error fault => [.complaint ⟨.failure, (Error.unreadable script fault.message).message⟩]
  | .ok text =>
    (Draft.empty.statements (lines text)).map .statement ++
      if (Draft.empty.left (lines text)).isIdle then []
      else [.complaint ⟨.fatal, (Fault.unfinished script).reason⟩]

/-- Evaluates a statement as a session with the setting does. -/
abbrev evaluate (setting : Setting) (statement : String) : Eval Unit :=
  Module.runStatement setting (Module.importByName setting) false statement

/-- Carries out duties up to the first that fails, and gives the code of the failure. -/
def carryOut (s : Session) : List Duty → Option Int × Session
  | [] => (none, s)
  | .statement text :: rest =>
    match s.run (evaluate s.setting text) with
    | (.ok (), s) => carryOut s rest
    | (.error e, s) => (some (failureCode e), s.report e)
  | .complaint report :: _ => (some 1, { s with reports := s.reports ++ [report] })

theorem carryOut_append (s : Session) (due others : List Duty) :
    carryOut s (due ++ others) =
      match carryOut s due with
      | (none, s) => carryOut s others
      | (some code, s) => (some code, s) := by
  induction due generalizing s with
  | nil => rfl
  | cons duty rest ih =>
    cases duty with
    | complaint report => rfl
    | statement text =>
      rw [List.cons_append, carryOut, carryOut]
      rcases s.run (evaluate s.setting text) with ⟨_ | ⟨⟨⟩⟩, mid⟩
      · rfl
      · exact ih mid

/-- Carrying out duties leaves the setting, the draft and the host as they were. -/
theorem carryOut_kept (s : Session) (due : List Duty) :
    let t := (carryOut s due).2
    t.setting = s.setting ∧ t.draft = s.draft ∧ t.reporting = s.reporting := by
  induction due generalizing s with
  | nil => exact ⟨rfl, rfl, rfl⟩
  | cons duty rest ih =>
    cases duty with
    | complaint report => exact ⟨rfl, rfl, rfl⟩
    | statement text =>
      simp only [carryOut, Session.run]
      cases evaluate s.setting text s.store with
      | ok _ store => exact ih { s with store }
      | error e store =>
        simp only [Session.report]
        split <;> exact ⟨rfl, rfl, rfl⟩

/-! ## 3. Scripts -/

/-- Feeding lines evaluates the statements that they complete. If none fails, the draft is left that
the lines leave, and otherwise none. -/
theorem feedLines_eq (s : Session) (fed : List String) :
    feedLines s fed =
      match carryOut s.reset ((s.draft.statements fed).map .statement) with
      | (none, t) => (none, { t with draft := s.draft.left fed })
      | (some code, t) => (some code, t) := by
  induction fed generalizing s with
  | nil => rfl
  | cons line rest ih =>
    unfold feedLines Session.feed Draft.statements Draft.left
    cases added : s.draft.add line with
    | blank => exact ih s
    | waiting draft => exact ih { s with draft }
    | complete statement draft =>
      simp only [List.map_cons, carryOut, Session.run, Session.imports]
      have same : Module.runStatement s.setting (Module.importByName s.setting) false statement
          s.store = evaluate s.reset.setting statement s.reset.store := rfl
      rw [same]
      cases evaluate s.reset.setting statement s.reset.store with
      | ok _ store => exact ih { s with store, draft }
      | error e store => rfl

/-- A script that did not fail leaves nothing behind. -/
theorem draft_runScript {s t : Session} (idle : s.draft = .empty) {script : String}
    (ran : runScript s script = (none, t)) : t.draft = .empty := by
  unfold runScript at ran
  split at ran
  · cases ran
  · split at ran
    · cases ran
    · next fed =>
      unfold endScript at ran
      split at ran
      · next ends =>
        cases ran
        exact (reached_feedLines (idle ▸ .empty) fed).eq_empty_of_isIdle ends
      · cases ran

theorem reset_eq_self {s : Session} (none : s.draft = .empty) : s.reset = s := by
  rw [Session.reset, ← none]

/-- Running a script is carrying out its duties. Only the draft may be different, where the script
ends inside a statement. -/
theorem runScript_eq {s : Session} (idle : s.draft = .empty) (listening : s.reporting = true)
    (script : String) :
    (runScript s script).map id Session.reset = carryOut s (duties s.setting.files script) := by
  unfold runScript duties
  cases s.setting.files.readText script with
  | error fault =>
    dsimp only
    rw [Session.report_listening listening]
    exact congrArg (Prod.mk _) (reset_eq_self idle)
  | ok text =>
    dsimp only
    rw [feedLines_eq, reset_eq_self idle, idle, carryOut_append]
    obtain ⟨-, kept, -⟩ := carryOut_kept s ((Draft.empty.statements (lines text)).map .statement)
    generalize carryOut s ((Draft.empty.statements (lines text)).map .statement) = ran at kept
    obtain ⟨_ | code, t⟩ := ran
    · unfold endScript Session.isIdle
      by_cases ends : (Draft.empty.left (lines text)).isIdle
      · simp only [if_pos ends]
        exact congrArg (Prod.mk _) (reset_eq_self (kept.trans idle))
      · simp only [if_neg ends]
        have none (reports : List Report) : Session.draft { t with reports } = .empty :=
          kept.trans idle
        exact congrArg (Prod.mk _) (reset_eq_self (none _))
    · exact congrArg (Prod.mk _) (reset_eq_self (kept.trans idle))

/-- Running scripts is carrying out their duties, one script after another. -/
theorem runScripts_eq {s : Session} (idle : s.draft = .empty) (listening : s.reporting = true)
    (scripts : List String) :
    (runScripts s scripts).map id Session.reset =
      (carryOut s (scripts.flatMap (duties s.setting.files))).map (Option.getD · 0) id := by
  induction scripts generalizing s with
  | nil => exact congrArg (Prod.mk _) (reset_eq_self idle)
  | cons script rest ih =>
    have same := runScript_eq idle listening script
    obtain ⟨setting, -, reporting⟩ := carryOut_kept s (duties s.setting.files script)
    rw [List.flatMap_cons, carryOut_append, runScripts]
    rw [← same] at setting reporting ⊢
    cases ran : runScript s script with
    | mk code? t =>
      rw [ran] at setting reporting
      cases code? with
      | some code => rfl
      | none =>
        have empty := draft_runScript idle ran
        have later := ih empty (reporting.trans listening)
        have files : t.setting.files = s.setting.files := congrArg Setting.files setting
        rw [files] at later
        exact later.trans (congrArg _ (congrArg₂ _ (reset_eq_self empty).symm rfl))

/-! ## 4. The first failure -/

/-- Duties are carried out up to the first that fails. -/
theorem carryOut_cases (s : Session) (due : List Duty) :
    ∃ (done : List String) (mid : Store), done.forM (evaluate s.setting) s.store = .ok () mid ∧
      ((due = done.map .statement ∧ carryOut s due = (none, { s with store := mid })) ∨
      (∃ text later e last, due = done.map .statement ++ .statement text :: later ∧
        evaluate s.setting text mid = .error e last ∧
        carryOut s due = (some (failureCode e), Session.report { s with store := last } e)) ∨
      ∃ report later, due = done.map .statement ++ .complaint report :: later ∧
        carryOut s due = (some 1, { s with store := mid, reports := s.reports ++ [report] })) := by
  induction due generalizing s with
  | nil => exact ⟨[], s.store, rfl, .inl ⟨rfl, rfl⟩⟩
  | cons duty rest ih =>
    cases duty with
    | complaint report => exact ⟨[], s.store, rfl, .inr (.inr ⟨report, rest, rfl, rfl⟩)⟩
    | statement text =>
      cases ran : evaluate s.setting text s.store with
      | error e last =>
        refine ⟨[], s.store, rfl, .inr (.inl ⟨text, rest, e, last, rfl, ran, ?_⟩)⟩
        simp only [carryOut, Session.run, ran]
      | ok u store =>
        have carried : carryOut s (.statement text :: rest) = carryOut { s with store } rest := by
          simp only [carryOut, Session.run, ran]
        obtain ⟨done, mid, evaluated, ended⟩ := ih { s with store }
        refine ⟨text :: done, mid, ?_, ?_⟩
        · rw [List.forM, Eval.bind_apply, ran]
          exact evaluated
        · rw [carried]
          rcases ended with ⟨rfl, same⟩ | ⟨text', later, e, last, rfl, failed, same⟩ |
            ⟨report, later, rfl, same⟩
          · exact .inl ⟨rfl, same⟩
          · exact .inr (.inl ⟨text', later, e, last, rfl, failed, same⟩)
          · exact .inr (.inr ⟨report, later, rfl, same⟩)

/-- Where a request fails during a statement, also one in a module that the statement imports, the
statement fails with that error. -/
theorem evaluate_eq_of_fails {setting : Setting} {statement : String} {store : Store}
    {trace : List Moment} {outcome : Outcome Unit}
    (run : Runs setting 0 [] (.statement false statement) store trace outcome) {m : Moment}
    (mem : m ∈ trace) {request : Request} {e : Error} (fails : m.event = .fails request e) :
    ∃ last, evaluate setting statement store = .error e last := by
  obtain ⟨earlier, later, split⟩ := List.append_of_mem mem
  obtain ⟨around, paths, -, -, -, rfl, -⟩ := run.unwinds split fails
  have same := Plan.act_statement setting (Module.importByName setting)
    (Evaluation.eval setting (Module.importByName setting) setting.depthLimit) false statement rfl
  exact ⟨_, (congrFun same store).symm.trans run.act_eq⟩

/-- The session ends a run of scripts with the code, the store and the reports. -/
structure Ends (s : Session) (scripts : List String) (code : Int) (store : Store)
    (reports : List Report) : Prop where
  code : (runScripts s scripts).1 = code
  store : (runScripts s scripts).2.store = store
  reports : (runScripts s scripts).2.reports = reports

theorem ends_of_carryOut {s t : Session} (idle : s.draft = .empty) (listening : s.reporting = true)
    {scripts : List String} {code? : Option Int}
    (carried : carryOut s (scripts.flatMap (duties s.setting.files)) = (code?, t)) :
    Ends s scripts (code?.getD 0) t.store t.reports := by
  have ran := runScripts_eq idle listening scripts
  rw [carried] at ran
  obtain ⟨code, last⟩ := Prod.mk.inj ran
  have store := congrArg Session.store last
  have reports := congrArg Session.reports last
  exact ⟨code, store, reports⟩

/-- Nothing was fed to the session and nothing reported, and the host listens. -/
structure Fresh (s : Session) (setting : Setting) : Prop where
  setting : s.setting = setting
  idle : s.draft = .empty
  listening : s.reporting = true
  silent : s.reports = []

theorem fresh_new (setting : Setting) : Fresh (Session.new setting) setting :=
  @Session.new_induction (Fresh · setting) setting ⟨rfl, rfl, rfl, rfl⟩
    (fun _ _ _ h => ⟨h.setting, h.idle, h.listening, h.silent⟩)
    fun _ _ _ _ h => ⟨h.setting, h.idle, h.listening, h.silent⟩

/-- Scripts are evaluated in one new session, statement by statement and in order, up to the first
failure. Without one the run ends with zero and no report. If the first failure is a statement that
asks to exit, it ends with the code asked for and no report. If it is a statement with another
error, a script that cannot be read or one that ends inside a statement, it ends with one and
exactly one report. In each case the store is what the statements up to there leave. The text of
each statement comes from successive lines of one script. It makes no difference where in a
statement an error arises: the statement fails with it. -/
theorem runScripts_stops (setting : Setting) (scripts : List String) :
    let s := Session.new setting
    let due := scripts.flatMap (duties setting.files)
    (∃ (done : List String) (mid : Store), done.forM (evaluate setting) s.store = .ok () mid ∧
      ((due = done.map .statement ∧ Ends s scripts 0 mid []) ∨
      (∃ text later e last, due = done.map .statement ++ .statement text :: later ∧
        evaluate setting text mid = .error e last ∧
        match e with
        | .exit code => Ends s scripts code last []
        | e => Ends s scripts 1 last [⟨e.severity, e.message⟩]) ∨
      ∃ report later, due = done.map .statement ++ .complaint report :: later ∧
        Ends s scripts 1 mid [report])) ∧
    (∀ script ∈ scripts, ∀ statement, .statement statement ∈ duties setting.files script →
      ∃ text before waiting last after, setting.files.readText script = .ok text ∧
        lines text = before ++ waiting ++ last :: after ∧
        statement.toList = Draft.held waiting ++ codeOf last) ∧
    ∀ statement store trace outcome m request e,
      Runs setting 0 [] (.statement false statement) store trace outcome → m ∈ trace →
      m.event = .fails request e → ∃ last, evaluate setting statement store = .error e last := by
  intro s due
  have fresh : Fresh s setting := fresh_new setting
  -- Nothing else about the session matters, and its library had better stay folded.
  clear_value s
  obtain ⟨rfl, idle, listening, silent⟩ := fresh
  refine ⟨?_, ?_, fun _ _ _ _ _ _ _ run mem fails => evaluate_eq_of_fails run mem fails⟩
  · have stops {code? : Option Int} {t : Session} (carried : carryOut s due = (code?, t)) :
        Ends s scripts (code?.getD 0) t.store t.reports :=
      ends_of_carryOut idle listening carried
    obtain ⟨done, mid, evaluated, ended⟩ := carryOut_cases s due
    refine ⟨done, mid, evaluated, ?_⟩
    rcases ended with ⟨all, carried⟩ | ⟨text, later, e, last, split, failed, carried⟩ |
      ⟨report, later, split, carried⟩
    · have ends := stops carried
      rw [silent] at ends
      exact .inl ⟨all, ends⟩
    · refine .inr (.inl ⟨text, later, e, last, split, failed, ?_⟩)
      have listens : ({ s with store := last } : Session).reporting = true := listening
      rw [Session.report_listening listens] at carried
      have ends := stops carried
      rw [silent] at ends
      cases e <;> exact ends
    · have ends := stops carried
      rw [silent] at ends
      exact .inr (.inr ⟨report, later, split, ends⟩)
  · intro script _ statement mem
    unfold duties at mem
    cases read : s.setting.files.readText script with
    | error fault =>
      rw [read] at mem
      simp at mem
    | ok text =>
      rw [read] at mem
      have mem : statement ∈ Draft.empty.statements (lines text) := by
        rcases List.mem_append.mp mem with made | complained
        · simpa using made
        · split at complained <;> simp at complained
      obtain ⟨before, waiting, last, after, split, made⟩ :=
        Draft.exists_stretch mem (rfl : _ = Draft.held [])
      exact ⟨text, before, waiting, last, after, rfl, split, made⟩

/-- The second script does not complete what the first one leaves open, and it is not run. -/
example :
    let files := (FileTree.write {} "a" (.file (some "(print 1)\n(print"))).write "b"
      (.file (some "2)"))
    let ran := runScripts (Session.new { files }) ["a", "b"]
    ran.1 = 1 ∧ ran.2.store.sink.text = "1\n" ∧
      ran.2.reports = [⟨.fatal, "a ends inside an unfinished statement"⟩] := by
  decide +kernel

end Console

end ListScript
