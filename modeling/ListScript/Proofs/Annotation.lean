import ListScript.Console
import ListScript.Proofs.Comments
import ListScript.Proofs.Operation
import Mathlib.Data.List.Forall2

/-!
# Sessions with comments

Comments change no code, and a session goes by the code of lines alone. So a session does the same
with comments on the lines that it is fed, on the lines of its modules and on those of its scripts.

Where files are looked up, only their names matter. Evaluation knows nothing of files, so an import
that does the same makes every evaluation the same, and a module whose lines have the same code is
evaluated in the same way. By induction on how deeply imports nest they all do the same, as one and
the same action on the store.

Results:
1. `FileTree.locate_mapTexts`: names lead to the same files, whatever their texts are.
2. `Module.importWithin_mapTexts`: importing modules with comments is importing them without.
3. `Session.after_annotated`, `Console.runScripts_mapTexts`: the same for runs of a session and for
   scripts.
4. `comments_inert`: comments change nothing, on any line.
-/

namespace ListScript

/-! ## 1. Files with other texts -/

/-- The entry with another text, if it is a file. -/
def Entry.mapText (change : String → String) : Entry → Entry
  | .file text => .file (text.map change)
  | .directory => .directory

namespace FileTree

/-- The files with other texts, each by its path and by what it holds. -/
def mapTexts (tree : FileTree) (change : Path → String → String) : FileTree :=
  { tree with entries := tree.entries.map fun (path, entry) => (path, entry.mapText (change path)) }

variable (tree : FileTree) (change : Path → String → String)

theorem lookup_mapTexts (path : Path) :
    (tree.mapTexts change).entries.lookup path =
      (tree.entries.lookup path).map (Entry.mapText (change path)) := by
  unfold mapTexts
  dsimp only
  induction tree.entries with
  | nil => rfl
  | cons first rest ih =>
    obtain ⟨other, entry⟩ := first
    rw [List.map_cons, List.lookup_cons, List.lookup_cons]
    cases same : path == other with
    | true =>
      obtain rfl := eq_of_beq same
      rfl
    | false => exact ih

theorem entry?_mapTexts (path : Path) :
    FileTree.entry? (tree.mapTexts change) path =
      (tree.entry? path).map (Entry.mapText (change path)) := by
  have same : (tree.mapTexts change).workingDirectory = tree.workingDirectory := rfl
  unfold entry?
  rw [same, lookup_mapTexts]
  split <;> rfl

theorem walk_mapTexts (path : Path) (parts : List String) :
    (tree.mapTexts change).walk path parts = tree.walk path parts := by
  induction parts generalizing path with
  | nil => rfl
  | cons part rest ih =>
    rw [walk, walk, entry?_mapTexts, ih]
    cases tree.entry? path with
    | none => rfl
    | some entry => cases entry <;> rfl

/-- A name leads to the same file, which holds another text. -/
theorem locate_mapTexts (name : String) :
    (tree.mapTexts change).locate name =
      (tree.locate name).map fun (path, entry) => (path, entry.mapText (change path)) := by
  have start : (tree.mapTexts change).start name = tree.start name := rfl
  unfold locate
  rw [start, walk_mapTexts]
  split
  · rfl
  · cases tree.walk (tree.start name) (steps name) with
    | error fault => rfl
    | ok path =>
      simp only [bind, Except.bind, entry?_mapTexts]
      cases tree.entry? path with
      | none => rfl
      | some entry =>
        cases entry with
        | directory => rfl
        | file text =>
          simp only [Option.map_some, Entry.mapText]
          split <;> rfl

theorem filePath?_mapTexts (name : String) :
    (tree.mapTexts change).filePath? name = tree.filePath? name := by
  rw [filePath?, filePath?, locate_mapTexts]
  cases tree.locate name with
  | error fault => rfl
  | ok found =>
    obtain ⟨path, entry⟩ := found
    cases entry <;> rfl

theorem files_mapTexts : (tree.mapTexts change).files = tree.files := by
  unfold files mapTexts
  rw [List.filterMap_map]
  refine congrArg (List.filterMap · tree.entries) (funext fun found => ?_)
  obtain ⟨path, entry⟩ := found
  cases entry <;> rfl

theorem textOf_mapText (change : String → String) (entry : Entry) :
    textOf (entry.mapText change) = (textOf entry).map change := by
  cases entry with
  | directory => rfl
  | file text => cases text <;> rfl

theorem readPath_mapTexts (path : Path) :
    (tree.mapTexts change).readPath path = (tree.readPath path).map (change path) := by
  rw [readPath, readPath, entry?_mapTexts]
  cases tree.entry? path with
  | none => rfl
  | some entry => exact textOf_mapText (change path) entry

theorem readText_mapTexts (name : String) :
    (tree.mapTexts change).readText name =
      tree.locate name >>= fun (path, entry) => (textOf entry).map (change path) := by
  rw [readText, locate_mapTexts]
  cases tree.locate name with
  | error fault => rfl
  | ok found => exact textOf_mapText (change found.1) found.2

end FileTree

namespace Setting

/-- The setting with other texts in its files. -/
def mapTexts (setting : Setting) (change : Path → String → String) : Setting :=
  { setting with files := setting.files.mapTexts change }

theorem resolve_mapTexts (setting : Setting) (change : Path → String → String) (name : String) :
    (setting.mapTexts change).resolve name = setting.resolve name := by
  have same : (setting.mapTexts change).files.filePath? = setting.files.filePath? :=
    funext (FileTree.filePath?_mapTexts setting.files change)
  have candidates : (setting.mapTexts change).candidates name = setting.candidates name := rfl
  rw [resolve, resolve, same, candidates]

end Setting

/-! ## 2. Evaluation knows nothing of files -/

namespace Evaluation

variable (setting : Setting) (change : Path → String → String) (imports : Import)

theorem eval_mapTexts (left : Nat) :
    eval (setting.mapTexts change) imports left = eval setting imports left := by
  induction left with
  | zero => rfl
  | succ left ih =>
    rw [eval, eval, ih]
    rfl

theorem run_mapTexts : run (setting.mapTexts change) imports = run setting imports := by
  funext scope v
  exact congrFun (congrFun (eval_mapTexts setting change imports _) scope) v

theorem call_mapTexts : call (setting.mapTexts change) imports = call setting imports := by
  funext procedure args
  rw [call, call]
  have same : (setting.mapTexts change).depthLimit = setting.depthLimit := rfl
  rw [same, eval_mapTexts]
  rfl

end Evaluation

/-! ## 3. Modules -/

/-- The change puts comments on lines, and does nothing else. -/
def Annotates (change : Path → String → String) : Prop :=
  ∀ path text, Annotated text.toList (change path text).toList

namespace Module

variable {change : Path → String → String} (setting : Setting) (imports : Import)

theorem runStatement_mapTexts :
    runStatement (setting.mapTexts change) imports = runStatement setting imports := by
  funext echo statement
  simp only [runStatement, Evaluation.run_mapTexts]

/-- The statements of a module are those that its code makes up. -/
theorem foldlM_feed_of_sameCode {fed fed' : List String} (same : SameCode fed fed')
    (run : String → Eval Unit) (draft : Draft) :
    fed'.foldlM (feed run) draft = fed.foldlM (feed run) draft := by
  induction same generalizing draft with
  | nil => rfl
  | @remark line nothing =>
    have blank : feed run draft line = pure draft := by
      rw [feed, Draft.add_of_no_code nothing]
    rw [List.foldlM_cons, blank, pure_bind]
  | @cons line line' rest rest' same later ih =>
    have first : feed run draft line' = feed run draft line := by
      rw [feed, feed, Draft.add_congr same]
    rw [List.foldlM_cons, List.foldlM_cons, first]
    exact bind_congr ih

/-- A module with comments is evaluated as it is without. -/
theorem evaluate_mapTexts (annotates : Annotates change) (path : Path) :
    evaluate (setting.mapTexts change) imports path = evaluate setting imports path := by
  have read : (setting.mapTexts change).files.readPath path =
      (setting.files.readPath path).map (change path) :=
    setting.files.readPath_mapTexts change path
  rw [evaluate, evaluate, read, runStatement_mapTexts]
  cases setting.files.readPath path with
  | error fault => rfl
  | ok text =>
    simp only [Except.map, lines, foldlM_feed_of_sameCode (annotates path text).sameCode]

theorem once_mapTexts (annotates : Annotates change) (path : Path) :
    once (setting.mapTexts change) imports path = once setting imports path := by
  funext store
  rw [once, once, start, start, evaluate_mapTexts setting imports annotates]

/-- Importing modules with comments is importing them without, however many are open. -/
theorem importWithin_mapTexts (annotates : Annotates change) (nesting : Nat) :
    importWithin (setting.mapTexts change) nesting = importWithin setting nesting := by
  induction nesting with
  | zero => rfl
  | succ nesting ih =>
    funext name
    simp only [importWithin, Setting.resolve_mapTexts, ih]
    exact bind_congr fun path => once_mapTexts setting _ annotates path

theorem importByName_mapTexts (annotates : Annotates change) :
    importByName (setting.mapTexts change) = importByName setting := by
  have same : (setting.mapTexts change).files.files = setting.files.files :=
    setting.files.files_mapTexts change
  rw [importByName, importByName, nestingBound, nestingBound, same,
    importWithin_mapTexts setting annotates]

end Module

/-! ## 4. Sessions -/

/-- The setting with comments on lines of its files. -/
def Setting.Annotated (setting setting' : Setting) : Prop :=
  ∃ change, Annotates change ∧ setting' = setting.mapTexts change

/-- The session with comments on lines of its files. All else is the same: frames and what they
bind, what counts as imported, what was printed, the draft and the reports. -/
structure Session.Annotated (s s' : Session) : Prop where
  setting : s.setting.Annotated s'.setting
  same : s' = { s with setting := s'.setting }

/-- What is bound, imported and printed is the same. -/
theorem Session.Annotated.store_eq {s s' : Session} (h : s.Annotated s') : s'.store = s.store := by
  rw [h.same]

/-- The step with comments on the line that it feeds, or in the files that it leaves. A line that
ends with a backslash that is not escaped gets none. -/
inductive Step.Annotated : Step → Step → Prop
  | fed {line line' : String} {echo : Bool} (commented : Commented line.toList line'.toList) :
      Annotated (.operation (.feed line echo)) (.operation (.feed line' echo))
  | arrange {change change' : Setting → Setting}
      (keeps : ∀ setting setting' : Setting, setting.Annotated setting' →
        (change setting).Annotated (change' setting')) :
      Annotated (.arrange change) (.arrange change')
  | same {step : Step} (fixed : ∀ change, step ≠ .arrange change) : Annotated step step

namespace Session

/-- What a step gives, if it is an operation. -/
def outcome? (s : Session) : Step → Option (Except Error Answer)
  | .operation op => some (s.perform op).1
  | _ => none

/-- What the operations of a run give, in order. -/
def outcomes (s : Session) : List Step → List (Except Error Answer)
  | [] => []
  | step :: rest => (s.outcome? step).toList ++ (s.step step).outcomes rest

/-- Feeding a line goes by its code alone. -/
theorem feed_congr {line line' : String} (same : codeOf line' = codeOf line) (s : Session)
    (echo : Bool) : s.feed line' echo = s.feed line echo := by
  rw [feed, feed, Draft.add_congr same]

/-- The session with other texts in its files. -/
abbrev mapTexts (s : Session) (change : Path → String → String) : Session :=
  s.arrange (Setting.mapTexts · change)

theorem annotated_iff {s s' : Session} :
    s.Annotated s' ↔ ∃ change, Annotates change ∧ s' = s.mapTexts change := by
  constructor
  · rintro ⟨⟨change, annotates, setting⟩, same⟩
    refine ⟨change, annotates, ?_⟩
    rw [same, setting]
    rfl
  · rintro ⟨change, annotates, rfl⟩
    exact ⟨⟨change, annotates, rfl⟩, rfl⟩

section Operations

variable {change : Path → String → String} (annotates : Annotates change) (s : Session)

include annotates

theorem imports_mapTexts : (s.mapTexts change).imports = s.imports :=
  Module.importByName_mapTexts s.setting annotates

/-- With comments in the files an operation is the same action on the store. -/
theorem act_mapTexts (op : Operation) : (s.mapTexts change).act op = s.act op := by
  have setting : (s.mapTexts change).setting = s.setting.mapTexts change := rfl
  have draft : (s.mapTexts change).draft = s.draft := rfl
  cases op <;>
    simp only [act, setting, draft, imports_mapTexts annotates, Module.runStatement_mapTexts,
      Evaluation.run_mapTexts, Evaluation.call_mapTexts]

theorem perform_mapTexts (op : Operation) :
    (s.mapTexts change).perform op = ((s.perform op).1, (s.perform op).2.mapTexts change) := by
  rw [perform_eq, perform_eq, act_mapTexts annotates]
  exact s.conclude_arrange (Setting.mapTexts · change) op _

theorem feed_mapTexts (line : String) (echo : Bool) :
    (s.mapTexts change).feed line echo =
      ((s.feed line echo).1, (s.feed line echo).2.mapTexts change) := by
  have draft : (s.mapTexts change).draft = s.draft := rfl
  have setting : (s.mapTexts change).setting = s.setting.mapTexts change := rfl
  have store : (s.mapTexts change).store = s.store := rfl
  rw [feed, feed, draft]
  cases s.draft.add line with
  | blank => rfl
  | waiting next => rfl
  | complete statement rest =>
    dsimp only
    rw [setting, imports_mapTexts annotates, Module.runStatement_mapTexts, run, run, store]
    cases Module.runStatement s.setting s.imports echo statement s.store with
    | ok _ store => rfl
    | error e store =>
      exact congrArg (Prod.mk _)
        (report_arrange (reset { s with store }) (Setting.mapTexts · change) e)

/-- A step that leaves files alone does the same with comments in them. -/
theorem step_mapTexts {step : Step} (fixed : ∀ change, step ≠ .arrange change) :
    (s.mapTexts change).step step = (s.step step).mapTexts change ∧
      (s.mapTexts change).outcome? step = s.outcome? step := by
  cases step with
  | operation op =>
    rw [Session.step, outcome?, perform_mapTexts annotates]
    exact ⟨rfl, rfl⟩
  | arrange change => exact absurd rfl (fixed change)
  | assign scope name v =>
    have store : (s.mapTexts change).store = s.store := rfl
    refine ⟨?_, rfl⟩
    rw [Session.step, Session.step, store]
    cases s.store.scopes.set? scope name v with
    | none => rfl
    | some scopes => rfl
  | _ => exact ⟨rfl, rfl⟩

theorem after_mapTexts {steps : List Step}
    (fixed : ∀ step ∈ steps, ∀ change, step ≠ .arrange change) :
    (s.mapTexts change).after steps = (s.after steps).mapTexts change := by
  induction steps generalizing s with
  | nil => rfl
  | cons step rest ih =>
    obtain ⟨first, later⟩ := List.forall_mem_cons.mp fixed
    have next := (step_mapTexts annotates s first).1
    calc (s.mapTexts change).after (step :: rest)
        = ((s.step step).mapTexts change).after rest := congrArg (after · rest) next
      _ = ((s.step step).after rest).mapTexts change := ih (s.step step) later

/-- The library is defined in the same way. -/
theorem new_mapTexts (setting : Setting) :
    Session.new (setting.mapTexts change) = (Session.new setting).mapTexts change := by
  rw [new_eq_after, new_eq_after]
  refine after_mapTexts annotates (.bare setting) fun step mem => ?_
  obtain ⟨⟨name, v⟩, -, rfl⟩ := List.mem_map.mp mem
  exact nofun

end Operations

/-- Sessions that differ in comments give the same with a step that differs in comments, and still
differ in comments only. -/
theorem step_annotated {s s' : Session} {step step' : Step} (h : s.Annotated s')
    (hstep : step.Annotated step') :
    s'.outcome? step' = s.outcome? step ∧ (s.step step).Annotated (s'.step step') := by
  obtain ⟨change, annotates, rfl⟩ := annotated_iff.mp h
  cases hstep with
  | @fed line line' echo commented =>
    have code : codeOf line' = codeOf line := commented.code_eq
    have plain : (s.mapTexts change).perform (.feed line' echo) =
        (s.mapTexts change).perform (.feed line echo) := by
      rw [perform, perform, feed_congr code]
    rw [outcome?, outcome?, Session.step, Session.step, plain, perform_mapTexts annotates]
    exact ⟨rfl, annotated_iff.mpr ⟨change, annotates, rfl⟩⟩
  | arrange keeps => exact ⟨rfl, keeps _ _ h.setting, rfl⟩
  | same fixed =>
    obtain ⟨left, gives⟩ := step_mapTexts annotates s fixed
    exact ⟨gives, annotated_iff.mpr ⟨change, annotates, left⟩⟩

/-- Runs that differ in comments give the same, and leave sessions that differ in comments only. -/
theorem after_annotated {s s' : Session} {steps steps' : List Step} (h : s.Annotated s')
    (hsteps : List.Forall₂ Step.Annotated steps steps') :
    s'.outcomes steps' = s.outcomes steps ∧ (s.after steps).Annotated (s'.after steps') := by
  induction hsteps generalizing s s' with
  | nil => exact ⟨rfl, h⟩
  | cons first _ ih =>
    obtain ⟨gives, next⟩ := step_annotated h first
    obtain ⟨later, last⟩ := ih next
    exact ⟨by rw [outcomes, outcomes, gives, later], last⟩

end Session

/-! ## 5. Scripts and conversations -/

namespace Console

section Runs

variable {change : Path → String → String} (annotates : Annotates change) (s : Session)

include annotates

theorem feedLines_mapTexts {fed fed' : List String} (same : SameCode fed fed') :
    feedLines (s.mapTexts change) fed' =
      ((feedLines s fed).1, (feedLines s fed).2.mapTexts change) := by
  induction same generalizing s with
  | nil => rfl
  | @remark line nothing =>
    have blank : (s.mapTexts change).feed line false = (.ok true, s.mapTexts change) := by
      rw [Session.feed, Draft.add_of_no_code nothing]
    simp only [feedLines, blank]
  | @cons line line' rest rest' same later ih =>
    rw [feedLines, feedLines, Session.feed_congr same, Session.feed_mapTexts annotates]
    rcases s.feed line false with ⟨_ | complete, next⟩
    · rfl
    · exact ih next

/-- A script with comments runs as it does without. -/
theorem runScript_mapTexts (script : String) :
    runScript (s.mapTexts change) script =
      ((runScript s script).1, (runScript s script).2.mapTexts change) := by
  have read : (s.mapTexts change).setting.files.readText script = _ :=
    s.setting.files.readText_mapTexts change script
  have reported (e : Error) : (s.mapTexts change).report e = (s.report e).mapTexts change :=
    Session.report_arrange s (Setting.mapTexts · change) e
  rw [runScript, runScript, read, FileTree.readText]
  cases s.setting.files.locate script with
  | error fault => exact congrArg (Prod.mk _) (reported _)
  | ok found =>
    obtain ⟨path, entry⟩ := found
    simp only [bind, Except.bind]
    cases FileTree.textOf entry with
    | error fault => exact congrArg (Prod.mk _) (reported _)
    | ok text =>
      have fed := feedLines_mapTexts annotates s (annotates path text).sameCode
      simp only [Except.map, lines, fed]
      rcases feedLines s ((Lines.split [] text.toList).map String.ofList) with ⟨_ | code, next⟩
      · have idle : (next.mapTexts change).isIdle = next.isIdle := rfl
        simp only [endScript, idle]
        split <;> rfl
      · rfl

theorem runScripts_mapTexts (scripts : List String) :
    runScripts (s.mapTexts change) scripts =
      ((runScripts s scripts).1, (runScripts s scripts).2.mapTexts change) := by
  induction scripts generalizing s with
  | nil => rfl
  | cons script rest ih =>
    rw [runScripts, runScripts, runScript_mapTexts annotates]
    rcases runScript s script with ⟨_ | code, next⟩
    · exact ih next
    · rfl

omit annotates in
theorem sayLines_mapTexts (texts : List String) :
    (s.mapTexts change).sayLines texts = (s.sayLines texts).mapTexts change := by
  induction texts generalizing s with
  | nil => rfl
  | cons text rest ih => exact ih (s.say (text ++ "\n"))

theorem answer_mapTexts (waiting : Bool) (line : String) :
    answer (s.mapTexts change) waiting line =
      ((answer s waiting line).1, (answer s waiting line).2.mapTexts change) := by
  have asks : commandFor? (s.mapTexts change) line = commandFor? s line := rfl
  have bindings : (s.mapTexts change).bindings = s.bindings := rfl
  rw [answer, answer, asks]
  cases commandFor? s line with
  | none => simp only [Session.feed_mapTexts annotates]
  | some command => cases command <;> simp only [answerCommand, bindings, sayLines_mapTexts]

theorem converse_mapTexts (waiting : Bool) (typed : List String) :
    converse (s.mapTexts change) waiting typed =
      ((converse s waiting typed).1, (converse s waiting typed).2.mapTexts change) := by
  induction typed generalizing s waiting with
  | nil =>
    rw [converse, converse]
    exact congrArg (Prod.mk _) (sayLines_mapTexts (s.say (promptText waiting)) farewell)
  | cons line rest ih =>
    have said : (s.mapTexts change).say (promptText waiting) =
        (s.say (promptText waiting)).mapTexts change := rfl
    rw [converse, converse, said, answer_mapTexts annotates]
    rcases answer (s.say (promptText waiting)) waiting line with ⟨waiting | code, next⟩
    · exact ih next waiting
    · rfl

end Runs

/-- What is seen of a run of the program does not depend on the comments in its files. -/
theorem execute_mapTexts {change : Path → String → String} (annotates : Annotates change)
    (reader : LineReader) (files : FileTree) (arguments : List String) (input : String) :
    execute reader (files.mapTexts change) arguments input =
      execute reader files arguments input := by
  unfold execute
  cases Invocation.ofArguments? arguments with
  | none => rfl
  | some invocation =>
    have made := Session.new_mapTexts annotates { includeDirs := invocation.includeDirs, files }
    simp only [Setting.mapTexts] at made
    dsimp only
    rw [made, sayLines_mapTexts, converse_mapTexts annotates, runScripts_mapTexts annotates]
    split <;> rfl

end Console

/-! ## 6. Comments change nothing -/

/-- Comments are inert. A line that does not end with a backslash that is not escaped does the same
to every session with a comment, whatever it says, as without. So runs that differ in comments on
lines that are fed, and on lines of modules, give the same and leave the same but for the files:
what is bound, printed and reported, and the draft. So do runs of scripts, and what is seen of a run
of the program is the same, however its input falls into lines. In the code of a line, which is all
that a draft scans of it, every semicolon is escaped. -/
theorem comments_inert :
    (∀ (s : Session) (line comment : String) (echo : Bool), ¬ EndsEscaping line.toList →
      s.feed (line ++ ";" ++ comment) echo = s.feed line echo) ∧
    (∀ (s s' : Session) (steps steps' : List Step), s.Annotated s' →
      List.Forall₂ Step.Annotated steps steps' →
      s'.outcomes steps' = s.outcomes steps ∧ (s.after steps).Annotated (s'.after steps')) ∧
    (∀ (s s' : Session) (scripts : List String), s.Annotated s' →
      (Console.runScripts s' scripts).1 = (Console.runScripts s scripts).1 ∧
        (Console.runScripts s scripts).2.Annotated (Console.runScripts s' scripts).2) ∧
    (∀ (reader : Console.LineReader) (files : FileTree) (change : Path → String → String)
      (arguments : List String) (input : String), Annotates change →
      Console.execute reader (files.mapTexts change) arguments input =
        Console.execute reader files arguments input) ∧
    ∀ (line : String) (before after : List Char), codeOf line = before ++ ';' :: after →
      EndsEscaping before := by
  refine ⟨?_, fun s s' steps steps' h hsteps => Session.after_annotated h hsteps, ?_,
    fun reader files change arguments input annotates =>
      Console.execute_mapTexts annotates reader files arguments input,
    fun line before after split => endsEscaping_of_codeOf split⟩
  · intro s line comment echo ends
    have chars : (line ++ ";" ++ comment).toList = line.toList ++ ';' :: comment.toList := by simp
    have code : codeOf (line ++ ";" ++ comment) = codeOf line := by
      rw [codeOf, chars, dropComment_comment ends, codeOf]
    exact Session.feed_congr code s echo
  · intro s s' scripts h
    obtain ⟨change, annotates, rfl⟩ := Session.annotated_iff.mp h
    rw [Console.runScripts_mapTexts annotates]
    exact ⟨rfl, Session.annotated_iff.mpr ⟨change, annotates, rfl⟩⟩

/-- A line that ends in two backslashes inside of a string may have a comment, and one that ends in
three may not. With comments in a module, one in front of a carriage return, and on a line that is
fed the same is printed. -/
theorem comments_inert_backslashes :
    let line := "(print \"a\\\\"
    let plain := line ++ "\r\nb\")"
    let remarked := line ++ ";(\r\nb\");;"
    let change := fun (_ : Path) text => if text = plain then remarked else text
    let files := FileTree.write {} "m" (.file (some plain))
    let s := Session.new { files }
    let s' := s.mapTexts change
    let steps := [Step.operation (.importModule "m"), .operation (.feed "(list 1)" true)]
    let steps' := [Step.operation (.importModule "m"), .operation (.feed "(list 1);\"" true)]
    (¬ EndsEscaping line.toList ∧ EndsEscaping (line ++ "\\").toList) ∧ Annotates change ∧
    (s.feed (line ++ ";" ++ "b\")") true = s.feed line true) ∧
    s'.outcomes steps' = s.outcomes steps ∧
    (s'.after steps').store.sink.text = "a\\ b\n(1)\n" := by
  intro line plain remarked change files s s' steps steps'
  have ends : ¬ EndsEscaping line.toList := by decide +kernel
  have annotates : Annotates change := by
    intro path text
    by_cases same : text = plain
    · subst same
      have first : Commented line.toList (line.toList ++ [';', '(']) := .added ends (by decide)
      have second : Commented "b\")".toList ("b\")".toList ++ [';', ';']) :=
        .added (by decide) (by decide)
      have whole := Annotated.returnLineFeed (by decide) first (.last (by decide) second)
      have before : plain.toList = line.toList ++ '\r' :: '\n' :: "b\")".toList := by
        decide +kernel
      have after : (change path plain).toList =
          line.toList ++ [';', '('] ++ '\r' :: '\n' :: ("b\")".toList ++ [';', ';']) := by
        rw [show change path plain = remarked from if_pos rfl]
        decide +kernel
      rwa [← before, ← after] at whole
    · have leaves : change path text = text := if_neg same
      rw [leaves]
      exact .refl text.toList
  have spoken : Commented "(list 1)".toList ("(list 1)".toList ++ [';', '"']) :=
    .added (by decide) (by decide)
  have fed : List.Forall₂ Step.Annotated steps steps' :=
    .cons (.same (by simp)) (.cons (.fed spoken) .nil)
  obtain ⟨inert, runs, -⟩ := comments_inert
  have differs : s.Annotated s' := Session.annotated_iff.mpr ⟨change, annotates, rfl⟩
  obtain ⟨gives, left⟩ := runs s s' steps steps' differs fed
  have printed : (s.after steps).store.sink.text = "a\\ b\n(1)\n" := by decide +kernel
  rw [← left.store_eq] at printed
  exact ⟨⟨ends, by decide +kernel⟩, annotates, inert s line _ true ends, gives, printed⟩

end ListScript
