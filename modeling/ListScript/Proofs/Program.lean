import ListScript.Program
import ListScript.Proofs.Conversation

/-!
# The program and the console

The console gathers in its session what a whole run prints and reports. The program shows that as it
goes, and its session forgets what was shown. Where all files are known from the start, the two come
to the same: whenever the program has shown everything, its session is that of the console afresh,
and what was shown is what the console has printed and reported.

Results:
1. `Session.feed_following`: feeding a line goes the same whatever was printed and reported before.
2. `Program.feedLines_eq`, `Program.runScript_eq`, `Program.turn_of_line`: lines, scripts and turns
   keep the program in step with the console.
3. `Program.runScripts_eq`, `Program.turns_eq`: the program ends with the code of the console, and
   by then it has shown all that the console prints and reports.
-/

namespace ListScript

/-! ## 1. What came before -/

namespace Session

/-- The session if some reports had been made before all others. -/
def reported (s : Session) (reports : List Report) : Session :=
  { s with reports := reports ++ s.reports }

theorem report_reported (s : Session) (reports : List Report) (e : Error) :
    (s.reported reports).report e = (s.report e).reported reports := by
  have listens : (s.reported reports).reporting = s.reporting := rfl
  unfold report
  rw [listens]
  split
  · simp [reported]
  · rfl

theorem feed_reported (s : Session) (reports : List Report) (line : String) (echo : Bool) :
    (s.reported reports).feed line echo =
      ((s.feed line echo).1, (s.feed line echo).2.reported reports) := by
  have draft : (s.reported reports).draft = s.draft := rfl
  unfold feed
  rw [draft]
  cases s.draft.add line with
  | blank => rfl
  | waiting draft => rfl
  | complete statement rest =>
    have act : Module.runStatement (s.reported reports).setting (s.reported reports).imports echo
        statement = Module.runStatement s.setting s.imports echo statement := rfl
    have store : (s.reported reports).store = s.store := rfl
    simp only [run, act, store]
    cases Module.runStatement s.setting s.imports echo statement s.store with
    | ok _ store => rfl
    | error e store =>
      exact congrArg (Prod.mk _) (report_reported (reset { s with store }) reports e)

/-- The session if all that another one printed and reported had come before. -/
def following (s earlier : Session) : Session :=
  (s.behind earlier.store.sink.text).reported earlier.reports

theorem afresh_following (s : Session) : s.afresh.following s = s := by
  simp [following, reported, afresh, behind, Store.behind, Sink.behind]

section

variable (s earlier : Session)

theorem report_following (e : Error) :
    (s.following earlier).report e = (s.report e).following earlier := by
  rw [following, report_reported, report_behind]
  rfl

theorem feed_following (line : String) (echo : Bool) :
    (s.following earlier).feed line echo =
      ((s.feed line echo).1, (s.feed line echo).2.following earlier) := by
  rw [following, feed_reported, feed_behind]
  rfl

theorem say_following (text : String) :
    (s.following earlier).say text = (s.say text).following earlier :=
  congrArg (reported · earlier.reports) (ConversationLemmas.say_behind s _ text)

theorem sayLines_following (texts : List String) :
    (s.following earlier).sayLines texts = (s.sayLines texts).following earlier := by
  induction texts generalizing s with
  | nil => rfl
  | cons text rest ih =>
    change ((s.following earlier).say (text ++ "\n")).sayLines rest = _
    rw [say_following, ih]
    rfl

end

end Session

namespace Console

variable (s earlier : Session)

theorem endScript_following (script : String) :
    endScript (s.following earlier) script =
      ((endScript s script).1, (endScript s script).2.following earlier) := by
  have idle : (s.following earlier).isIdle = s.isIdle := rfl
  unfold endScript
  rw [idle]
  split
  · rfl
  · simp [Session.following, Session.reported, Session.behind]

theorem answer_following (waiting : Bool) (line : String) :
    answer (s.following earlier) waiting line =
      ((answer s waiting line).1, (answer s waiting line).2.following earlier) := by
  have asks : commandFor? (s.following earlier) line = commandFor? s line := rfl
  have bindings : (s.following earlier).bindings = s.bindings := rfl
  unfold answer
  rw [asks]
  cases commandFor? s line with
  | none => simp only [Session.feed_following]
  | some command =>
    cases command <;> simp only [answerCommand, bindings, Session.sayLines_following]

end Console

/-! ## 2. A stage -/

namespace Program

/-- What a user has typed and the program has not read, and what the user sees. -/
structure Stage where
  typed : List String
  output : String
  reports : List Report
deriving DecidableEq, Repr

namespace Stage

/-- On a stage all files are known from the start. -/
def surroundings : Surroundings (StateM Stage) where
  learn s _ := pure s
  feed s line echo := pure (s.feed line echo)
  nextLine stage := (stage.typed.head?, { stage with typed := stage.typed.tail })
  display text reports := modify fun stage =>
    { stage with output := stage.output ++ text, reports := stage.reports ++ reports }

/-- All that a session printed and reported was shown. -/
def showing (s : Session) (typed : List String) : Stage :=
  ⟨typed, s.store.sink.text, s.reports⟩

/-- Actions in sequence hand the stage on. -/
theorem bind_eq {α β : Type} {act : StateM Stage α} {next : α → StateM Stage β}
    {stage later : Stage} {a : α} (ran : act stage = (a, later)) :
    (act >>= next) stage = next a later := by
  change next (act stage).1 (act stage).2 = _
  rw [ran]

theorem learn_eq (s : Session) (script : String) : surroundings.learn s script = pure s := rfl

theorem feed_eq (s : Session) (line : String) (echo : Bool) :
    surroundings.feed s line echo = pure (s.feed line echo) := rfl

/-- What a session printed and reported is shown behind what was shown. -/
theorem flush_eq (s earlier : Session) (typed : List String) :
    flush surroundings s (showing earlier typed) =
      (s.afresh, showing (s.following earlier) typed) := rfl

theorem nextLine_of_line (s : Session) (line : String) (rest : List String) :
    surroundings.nextLine (showing s (line :: rest)) = (some line, showing s rest) := rfl

theorem nextLine_of_end (s : Session) :
    surroundings.nextLine (showing s []) = (none, showing s []) := rfl

end Stage

open Stage

/-! ## 3. Scripts -/

/-- Lines keep the program in step with the console. -/
theorem feedLines_eq (s : Session) (lines typed : List String) :
    feedLines surroundings s.afresh lines (showing s typed) =
      (((Console.feedLines s lines).1, (Console.feedLines s lines).2.afresh),
        showing (Console.feedLines s lines).2 typed) := by
  induction lines generalizing s with
  | nil => rfl
  | cons line rest ih =>
    have console := s.afresh.feed_following s line false
    rw [s.afresh_following] at console
    rw [feedLines, feed_eq, pure_bind, Console.feedLines, console]
    rcases s.afresh.feed line false with ⟨e | complete, next⟩
    · dsimp only
      rw [bind_eq (flush_eq next s typed)]
      rfl
    · dsimp only
      rw [bind_eq (flush_eq next s typed)]
      exact ih (next.following s)

/-- A script keeps the program in step with the console. -/
theorem runScript_eq (s : Session) (script : String) (typed : List String) :
    runScript surroundings s.afresh script (showing s typed) =
      (((Console.runScript s script).1, (Console.runScript s script).2.afresh),
        showing (Console.runScript s script).2 typed) := by
  have files : s.afresh.setting.files = s.setting.files := rfl
  cases read : s.setting.files.readText script with
  | error fault =>
    have reported : (s.afresh.report (.unreadable script fault.message)).following s =
        s.report (.unreadable script fault.message) := by
      rw [← Session.report_following, s.afresh_following]
    simp only [runScript, Console.runScript, learn_eq, pure_bind, files, read]
    rw [bind_eq (flush_eq _ s typed), ← reported]
    rfl
  | ok text =>
    have fed := feedLines_eq s (lines text) typed
    simp only [runScript, Console.runScript, learn_eq, pure_bind, files, read]
    rw [bind_eq fed]
    rcases Console.feedLines s (lines text) with ⟨_ | code, next⟩
    · have console := Console.endScript_following next.afresh next script
      rw [next.afresh_following] at console
      dsimp only
      rw [console, bind_eq (flush_eq _ next typed)]
      rfl
    · have shown := flush_eq next.afresh next typed
      rw [next.afresh_following] at shown
      dsimp only
      rw [bind_eq shown]
      rfl

/-- Scripts end with the code of the console, and by then all that the console prints and reports
was shown. -/
theorem runScripts_eq (s : Session) (scripts typed : List String) :
    runScripts surroundings s.afresh scripts (showing s typed) =
      ((Console.runScripts s scripts).1, showing (Console.runScripts s scripts).2 typed) := by
  induction scripts generalizing s with
  | nil => rfl
  | cons script rest ih =>
    rw [runScripts, Console.runScripts, bind_eq (runScript_eq s script typed)]
    rcases Console.runScript s script with ⟨_ | code, next⟩
    · exact ih next
    · rfl

/-! ## 4. Turns -/

theorem answer_eq (s : Session) (waiting : Bool) (line : String) :
    answer surroundings s waiting line = pure (Console.answer s waiting line) := by
  unfold answer Console.answer
  cases Console.commandFor? s line <;> rfl

section

variable (s earlier : Session) (waiting : Bool)

/-- A prompt is shown before a line is read. -/
theorem flush_prompt (typed : List String) :
    flush surroundings (s.say (Console.promptText waiting)) (showing earlier typed) =
      (((s.following earlier).say (Console.promptText waiting)).afresh,
        showing ((s.following earlier).say (Console.promptText waiting)) typed) := by
  rw [flush_eq, Session.say_following]
  rfl

/-- A turn that reads a line keeps the program in step with the console. -/
theorem turn_of_line (line : String) (rest : List String) :
    let answered :=
      Console.answer ((s.following earlier).say (Console.promptText waiting)) waiting line
    turn surroundings s waiting (showing earlier (line :: rest)) =
      ((answered.1, answered.2.afresh), showing answered.2 rest) := by
  let asking := (s.following earlier).say (Console.promptText waiting)
  have console := Console.answer_following asking.afresh asking waiting line
  rw [asking.afresh_following] at console
  rw [turn, bind_eq (flush_prompt s earlier waiting (line :: rest)),
    bind_eq (nextLine_of_line asking line rest)]
  dsimp only
  rw [answer_eq, pure_bind, console]
  dsimp only
  rw [bind_eq (flush_eq _ asking rest)]
  rfl

/-- A turn at the end of the input ends the conversation. -/
theorem turn_of_end :
    let left := ((s.following earlier).say (Console.promptText waiting)).sayLines Console.farewell
    turn surroundings s waiting (showing earlier []) =
      ((.ends 0, left.afresh), showing left []) := by
  let asking := (s.following earlier).say (Console.promptText waiting)
  have console := Session.sayLines_following asking.afresh asking Console.farewell
  rw [asking.afresh_following] at console
  rw [turn, bind_eq (flush_prompt s earlier waiting []), bind_eq (nextLine_of_end asking)]
  dsimp only
  rw [pure_bind, console, bind_eq (flush_eq _ asking [])]
  rfl

end

/-- Turns end the conversation with the code of the console, and by then all that the console prints
and reports was shown. There are enough of them if there is one for every line and one for the end
of the input. -/
theorem turns_eq (s earlier : Session) (waiting : Bool) {typed : List String} {count : Nat}
    (enough : typed.length < count) :
    ∃ rest, turns surroundings s waiting count (showing earlier typed) =
      (some (Console.converse (s.following earlier) waiting typed).1,
        showing (Console.converse (s.following earlier) waiting typed).2 rest) := by
  obtain ⟨left, rfl⟩ : ∃ left, count = left + 1 := ⟨count - 1, by omega⟩
  induction typed generalizing s earlier waiting left with
  | nil =>
    rw [turns, bind_eq (turn_of_end s earlier waiting), Console.converse]
    exact ⟨[], rfl⟩
  | cons line typed ih =>
    obtain ⟨later, rfl⟩ : ∃ later, left = later + 1 :=
      ⟨left - 1, by rw [List.length_cons] at enough; omega⟩
    rw [turns, bind_eq (turn_of_line s earlier waiting line typed), Console.converse]
    rcases Console.answer ((s.following earlier).say (Console.promptText waiting)) waiting line with
      ⟨waiting | code, next⟩
    · have enough : typed.length < later + 1 := by
        rw [List.length_cons] at enough
        omega
      have ended := ih next.afresh next waiting later enough
      rw [next.afresh_following] at ended
      exact ended
    · exact ⟨typed, rfl⟩

/-! ## 5. Whole runs -/

/-- What is seen of a stage. -/
def Stage.transcript (stage : Stage) (code : Int) : Console.Transcript :=
  ⟨stage.output, String.join (stage.reports.map Console.reportLine), Console.statusOf code⟩

/-- Nothing was shown so far. -/
def Stage.blank (typed : List String) : Stage :=
  ⟨typed, "", []⟩

theorem showing_new (setting : Setting) (typed : List String) :
    showing (Session.new setting) typed = .blank typed := rfl

theorem following_new (s : Session) (setting : Setting) : s.following (.new setting) = s := by
  have printed : (Session.new setting).store.sink.text = "" := rfl
  have reports : (Session.new setting).reports = [] := rfl
  simp [Session.following, Session.reported, Session.behind, Store.behind, Sink.behind, printed,
    reports]

theorem afresh_new (setting : Setting) : (Session.new setting).afresh = .new setting :=
  (following_new _ setting).symm.trans (Session.afresh_following _)

/-- What is seen of the program that runs scripts. -/
theorem execute_of_scripts {reader : Console.LineReader} {files : FileTree}
    {arguments dirs : List String} {script : String} {scripts : List String} (input : String)
    (asked : Console.Invocation.ofArguments? arguments = some ⟨dirs, script :: scripts⟩) :
    let (code, stage) := runScripts surroundings (.new { includeDirs := dirs, files })
      (script :: scripts) (.blank (reader input))
    Console.execute reader files arguments input = stage.transcript code := by
  have ran := runScripts_eq (.new { includeDirs := dirs, files }) (script :: scripts) (reader input)
  rw [afresh_new, showing_new] at ran
  rw [ran]
  unfold Console.execute
  rw [asked]
  rfl

/-- What is seen of the program that talks. -/
theorem execute_of_turns {reader : Console.LineReader} {files : FileTree}
    {arguments dirs : List String} {input : String} {count : Nat}
    (asked : Console.Invocation.ofArguments? arguments = some ⟨dirs, []⟩)
    (enough : (reader input).length < count) :
    ∃ code stage, turns surroundings
        ((Session.new { includeDirs := dirs, files }).sayLines Console.banner) false count
        (.blank (reader input)) = (some code, stage) ∧
      Console.execute reader files arguments input = stage.transcript code := by
  let s := Session.new { includeDirs := dirs, files }
  obtain ⟨rest, ended⟩ := turns_eq (s.sayLines Console.banner) s false enough
  rw [following_new, showing_new] at ended
  refine ⟨_, _, ended, ?_⟩
  rw [Console.execute_eq_talk asked]
  rfl

end Program

end ListScript
