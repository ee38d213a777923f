import ListScript.Console
import ListScript.Proofs.Completion
import ListScript.Proofs.Printed

/-!
# Conversations

A conversation feeds a session the lines that are no commands, and does nothing else to it but
print. It prints a prompt before each line, and the commands for help and for the environment print
what they show. So but for the output the session is the one that was fed, at every prompt and at
the end.

The prompt is kept apart from the session. They stay in step: the prompt asks for more of a
statement only while one is pending, and only while none is pending is a line a command. A command
that shows something can be taken out of the input. What is missing in the transcript is one prompt
and what the command showed.

Results:
1. `answered`: what can follow a line.
2. `converse_tracks`: how a conversation ends, by the lines that are fed.
3. `promptAfter_tracks`: what was fed before a prompt.
4. `atPrompt`: what holds at a prompt, and what a command there does to the transcript.
5. `conversation_feeds`: a conversation is a fed session and commands that only print.
-/

namespace ListScript

/-! ## 1. Feeding until an exit -/

/-- The code of an outcome that asks to exit. -/
def exitOf? {α : Type} (outcome : Except Error α) : Option Int :=
  (errorOf? outcome).bind Error.exitCode?

/-- Feeds lines with echo until one of them exits, and gives the code of the exit. -/
def Session.feedOn (s : Session) : List String → Option Int × Session
  | [] => (none, s)
  | line :: rest =>
    match exitOf? (s.feed line true).1 with
    | some code => (some code, (s.feed line true).2)
    | none => feedOn (s.feed line true).2 rest

namespace Console

/-- The lines of a conversation that are fed: those that are no commands, up to one that quits. -/
def fedLines (s : Session) : List String → List String
  | [] => []
  | line :: rest =>
    match commandFor? s line with
    | some .quit => []
    | some _ => fedLines s rest
    | none => line :: fedLines (s.feed line true).2 rest

/-! ## 2. Prompts and commands -/

/-- The text of some lines. -/
def printed (texts : List String) : String :=
  String.join (texts.map fun text => text ++ "\n")

/-- The lines that a command shows. A command that quits shows none. -/
def Command.reply? (s : Session) : Command → Option (List String)
  | .help => some Console.help
  | .environment => some (listing s.bindings)
  | .quit => none

/-- The next prompt, when some lines were answered, and the session that shows it. There is none if
the conversation is over by then. -/
def promptAfter? (s : Session) (waiting : Bool) : List String → Option (Bool × Session)
  | [] => some (waiting, s)
  | line :: rest =>
    match answer (s.say (promptText waiting)) waiting line with
    | (.goesOn waiting, s) => promptAfter? s waiting rest
    | (.ends _, _) => none

/-- What is seen of a conversation. -/
def talk (s : Session) (typed : List String) : Transcript :=
  let (code, s) := converse (s.sayLines banner) false typed
  transcript code s

/-- A run without scripts is a conversation of a new session. -/
theorem execute_eq_talk {reader : LineReader} {files : FileTree} {arguments dirs : List String}
    {input : String} (asked : Invocation.ofArguments? arguments = some ⟨dirs, []⟩) :
    execute reader files arguments input =
      talk (Session.new { includeDirs := dirs, files }) (reader input) := by
  unfold execute
  rw [asked]
  rfl

end Console

namespace ConversationLemmas

open Console

section Output

theorem say_eq (s : Session) (text : String) :
    s.say text = s.quiet.behind (s.store.sink.text ++ text) := by
  simp [Session.say, Session.quiet, Session.behind, Store.behind, Sink.behind, Sink.put]

theorem say_say (s : Session) (text more : String) :
    (s.say text).say more = s.say (text ++ more) := by
  simp [Session.say, Sink.put, String.append_assoc]

theorem say_behind (s : Session) (text more : String) :
    (s.behind text).say more = (s.say more).behind text := by
  simp [Session.say, Session.behind, Store.behind, Sink.behind, Sink.put, String.append_assoc]

theorem sayLines_eq (s : Session) (texts : List String) :
    s.sayLines texts = s.say (printed texts) := by
  induction texts generalizing s with
  | nil => simp [Session.sayLines, printed, Session.say, Sink.put, String.join]
  | cons text rest ih =>
    have first : s.sayLines (text :: rest) = (s.say (text ++ "\n")).sayLines rest := rfl
    rw [first, ih, say_say]
    simp [printed]

theorem quiet_say (s : Session) (text : String) : (s.say text).quiet = s.quiet := rfl

theorem quiet_sayLines (s : Session) (texts : List String) :
    (s.sayLines texts).quiet = s.quiet := by
  rw [sayLines_eq, quiet_say]

theorem sayLines_behind (s : Session) (text : String) (texts : List String) :
    (s.behind text).sayLines texts = (s.sayLines texts).behind text := by
  rw [sayLines_eq, sayLines_eq, say_behind]

theorem answer_behind (s : Session) (text : String) (waiting : Bool) (line : String) :
    answer (s.behind text) waiting line =
      ((answer s waiting line).1, (answer s waiting line).2.behind text) := by
  have asks : commandFor? (s.behind text) line = commandFor? s line := rfl
  have bindings : (s.behind text).bindings = s.bindings := rfl
  unfold answer
  rw [asks]
  cases commandFor? s line with
  | none => simp only [Session.feed_behind]
  | some command =>
    cases command <;> simp only [answerCommand, bindings, sayLines_behind]

/-- A conversation goes on behind what was printed as it would without, and prints the same. -/
theorem converse_behind (s : Session) (text : String) (waiting : Bool) (typed : List String) :
    converse (s.behind text) waiting typed =
      ((converse s waiting typed).1, (converse s waiting typed).2.behind text) := by
  induction typed generalizing s waiting with
  | nil => rw [converse, converse, say_behind, sayLines_behind]
  | cons line rest ih =>
    rw [converse, converse, say_behind, answer_behind]
    rcases answer (s.say (promptText waiting)) waiting line with ⟨waiting | code, next⟩
    · exact ih next waiting
    · rfl

end Output

section Equal

variable {s t : Session}

theorem isIdle_of_quiet_eq (same : t.quiet = s.quiet) : t.isIdle = s.isIdle := by
  have quiet (s : Session) : s.quiet.isIdle = s.isIdle := rfl
  rw [← quiet t, same, quiet]

theorem commandFor?_of_quiet_eq (same : t.quiet = s.quiet) (line : String) :
    commandFor? t line = commandFor? s line := by
  rw [commandFor?, commandFor?, isIdle_of_quiet_eq same]

end Equal

end ConversationLemmas

open ConversationLemmas

/-! ## 3. What can follow a line -/

namespace Console

/-- The session of a conversation is the one that was fed, but for what was printed, and asks for
more of a statement only while one is pending. -/
structure Tracks (fed : Session) (waiting : Bool) (s : Session) : Prop where
  same : s.quiet = fed.quiet
  pending : waiting = true → s.isIdle = false

/-- What can follow a line that a session was asked for. -/
inductive Answered (fed s : Session) (waiting : Bool) (line : String) : Turn × Session → Prop
  /-- A command shows something. -/
  | shown {command : Command} {texts : List String} (asked : commandFor? s line = some command)
      (replies : command.reply? s = some texts) :
      Answered fed s waiting line
        (.goesOn waiting, (s.say (promptText waiting)).sayLines texts)
  /-- A command quits. -/
  | quits (asked : commandFor? s line = some .quit) :
      Answered fed s waiting line (.ends 0, (s.say (promptText waiting)).sayLines farewell)
  /-- The line is fed. -/
  | goesOn {next : Session} {waiting' : Bool} (asked : commandFor? s line = none)
      (noExit : exitOf? (fed.feed line true).1 = none)
      (tracks : Tracks (fed.feed line true).2 waiting' next) :
      Answered fed s waiting line (.goesOn waiting', next)
  /-- The line is fed and exits. -/
  | exits {next : Session} {code : Int} (asked : commandFor? s line = none)
      (exit : exitOf? (fed.feed line true).1 = some code)
      (same : next.quiet = (fed.feed line true).2.quiet) :
      Answered fed s waiting line (.ends code, next)

/-- A line is not complete only if it leaves a statement pending. -/
theorem isIdle_of_feed_eq_ok_false {s : Session} {line : String} {echo : Bool}
    (incomplete : (s.feed line echo).1 = .ok false) : (s.feed line echo).2.isIdle = false := by
  unfold Session.feed at incomplete ⊢
  cases added : s.draft.add line with
  | blank =>
    rw [added] at incomplete
    cases incomplete
  | waiting next =>
    obtain ⟨-, rfl⟩ := Draft.add_eq_waiting added
    simp [Session.isIdle, Draft.isIdle]
  | complete statement rest =>
    rw [added] at incomplete
    exact absurd incomplete (Session.endStatement_ne_waiting _ _)

theorem turnAfter_cases (outcome : Except Error Bool) :
    (∃ code, exitOf? outcome = some code ∧ turnAfter outcome = .ends code) ∨
      ∃ waiting, exitOf? outcome = none ∧ turnAfter outcome = .goesOn waiting ∧
        (waiting = true → outcome = .ok false) := by
  cases outcome with
  | ok complete => exact .inr ⟨!complete, rfl, rfl, by simp⟩
  | error e =>
    have exit : exitOf? (.error e : Except Error Bool) = e.exitCode? := rfl
    cases exits : e.exitCode? with
    | some code => exact .inl ⟨code, exit.trans exits, by simp [turnAfter, exits]⟩
    | none => exact .inr ⟨false, exit.trans exits, by simp [turnAfter, exits], nofun⟩

theorem answer_of_command {s : Session} {waiting : Bool} {line : String} {command : Command}
    (asked : commandFor? s line = some command) :
    answer (s.say (promptText waiting)) waiting line =
      answerCommand (s.say (promptText waiting)) waiting command := by
  have asks : commandFor? (s.say (promptText waiting)) line = commandFor? s line := rfl
  rw [answer, asks, asked]

theorem answer_of_reply {s : Session} {waiting : Bool} {line : String} {command : Command}
    {texts : List String} (asked : commandFor? s line = some command)
    (replies : command.reply? s = some texts) :
    answer (s.say (promptText waiting)) waiting line =
      (.goesOn waiting, (s.say (promptText waiting)).sayLines texts) := by
  rw [answer_of_command asked]
  cases command with
  | quit => cases replies
  | help | environment =>
    cases replies
    rfl

/-- One line is answered in one of these ways. -/
theorem answered {fed s : Session} {waiting : Bool} (h : Tracks fed waiting s) (line : String) :
    Answered fed s waiting line (answer (s.say (promptText waiting)) waiting line) := by
  have asks : commandFor? (s.say (promptText waiting)) line = commandFor? s line := rfl
  cases asked : commandFor? s line with
  | some command =>
    cases replies : command.reply? s with
    | some texts =>
      rw [answer_of_reply asked replies]
      exact .shown asked replies
    | none =>
      cases command with
      | quit =>
        rw [answer_of_command asked]
        exact .quits asked
      | help | environment => cases replies
  | none =>
    have prompted : (s.say (promptText waiting)).quiet = fed.quiet := h.same
    obtain ⟨outcome, same⟩ := Session.feed_of_quiet_eq prompted line true
    rw [answer, asks, asked]
    dsimp only
    rcases turnAfter_cases (fed.feed line true).1 with ⟨code, exit, turn⟩ |
      ⟨waiting', noExit, turn, incomplete⟩
    · rw [outcome, turn]
      exact .exits asked exit same
    · rw [outcome, turn]
      refine .goesOn asked noExit ⟨same, fun isWaiting => ?_⟩
      rw [isIdle_of_quiet_eq same]
      exact isIdle_of_feed_eq_ok_false (incomplete isWaiting)

/-- What is only printed changes nothing of this. -/
theorem Tracks.sayLines {fed s : Session} {waiting : Bool} (h : Tracks fed waiting s)
    (prompt : String) (texts : List String) :
    Tracks fed waiting ((s.say prompt).sayLines texts) := by
  have same : ((s.say prompt).sayLines texts).quiet = s.quiet := by
    rw [quiet_sayLines, quiet_say]
  refine ⟨same.trans h.same, fun isWaiting => ?_⟩
  rw [isIdle_of_quiet_eq same]
  exact h.pending isWaiting

/-! ## 4. Whole conversations -/

section Fed

variable {s t : Session} {line : String} {command : Command} {texts : List String}

theorem fedLines_of_none (asked : commandFor? s line = none) (rest : List String) :
    fedLines s (line :: rest) = line :: fedLines (s.feed line true).2 rest := by
  rw [fedLines, asked]

theorem fedLines_of_quit (asked : commandFor? s line = some .quit) (rest : List String) :
    fedLines s (line :: rest) = [] := by
  rw [fedLines, asked]

theorem fedLines_of_reply (asked : commandFor? s line = some command)
    (replies : command.reply? t = some texts) (rest : List String) :
    fedLines s (line :: rest) = fedLines s rest := by
  rw [fedLines, asked]
  cases command with
  | quit => cases replies
  | help | environment => rfl

/-- One line is fed unless it is a command to the session. -/
theorem fedLines_singleton (s : Session) (line : String) :
    fedLines s [line] = if s.isIdle && (command? line).isSome then [] else [line] := by
  rw [fedLines, commandFor?]
  cases s.isIdle with
  | false => rfl
  | true =>
    cases command? line with
    | none => rfl
    | some command => cases command <;> rfl

end Fed

/-- A conversation ends as the feeding of its lines does. -/
theorem converse_tracks {fed s : Session} {waiting : Bool} (h : Tracks fed waiting s)
    (typed : List String) :
    (converse s waiting typed).1 = (fed.feedOn (fedLines fed typed)).1.getD 0 ∧
      (converse s waiting typed).2.quiet = (fed.feedOn (fedLines fed typed)).2.quiet := by
  induction typed generalizing fed s waiting with
  | nil => exact ⟨rfl, (h.sayLines (promptText waiting) farewell).same⟩
  | cons line rest ih =>
    have asks := commandFor?_of_quiet_eq h.same line
    have response := answered h line
    rw [converse]
    generalize answer (s.say (promptText waiting)) waiting line = turn at response
    cases response with
    | shown asked replies =>
      rw [fedLines_of_reply (asks ▸ asked) replies]
      exact ih (h.sayLines _ _)
    | quits asked =>
      rw [fedLines_of_quit (asks ▸ asked)]
      exact ⟨rfl, (h.sayLines (promptText waiting) farewell).same⟩
    | goesOn asked noExit tracks =>
      rw [fedLines_of_none (asks ▸ asked), Session.feedOn, noExit]
      exact ih tracks
    | exits asked exit same =>
      rw [fedLines_of_none (asks ▸ asked), Session.feedOn, exit]
      exact ⟨rfl, same⟩

/-- At a prompt, all lines before it were fed without an exit, but for the commands. -/
theorem promptAfter_tracks {fed s : Session} {waiting : Bool} (h : Tracks fed waiting s)
    {before : List String} {waiting' : Bool} {s' : Session}
    (asks : promptAfter? s waiting before = some (waiting', s')) :
    ∃ fed', fed.feedOn (fedLines fed before) = (none, fed') ∧ Tracks fed' waiting' s' ∧
      ∀ more, fedLines fed (before ++ more) = fedLines fed before ++ fedLines fed' more := by
  induction before generalizing fed s waiting with
  | nil =>
    cases asks
    exact ⟨fed, rfl, h, fun _ => rfl⟩
  | cons line rest ih =>
    have same := commandFor?_of_quiet_eq h.same line
    have response := answered h line
    rw [promptAfter?] at asks
    generalize answer (s.say (promptText waiting)) waiting line = turn at response asks
    cases response with
    | shown asked replies =>
      obtain ⟨fed', ran, tracks, splits⟩ := ih (h.sayLines _ _) asks
      refine ⟨fed', ?_, tracks, fun more => ?_⟩
      · rw [fedLines_of_reply (same ▸ asked) replies, ran]
      · rw [List.cons_append, fedLines_of_reply (same ▸ asked) replies,
          fedLines_of_reply (same ▸ asked) replies, splits]
    | quits asked => cases asks
    | goesOn asked noExit tracks =>
      obtain ⟨fed', ran, tracks, splits⟩ := ih tracks asks
      refine ⟨fed', ?_, tracks, fun more => ?_⟩
      · rw [fedLines_of_none (same ▸ asked), Session.feedOn, noExit]
        exact ran
      · rw [List.cons_append, fedLines_of_none (same ▸ asked), fedLines_of_none (same ▸ asked),
          splits, List.cons_append]
    | exits asked exit ends => cases asks

theorem converse_append {s t : Session} {waiting waiting' : Bool} {before : List String}
    (asks : promptAfter? s waiting before = some (waiting', t)) (after : List String) :
    converse s waiting (before ++ after) = converse t waiting' after := by
  induction before generalizing s waiting with
  | nil =>
    cases asks
    rfl
  | cons line rest ih =>
    rw [promptAfter?] at asks
    rw [List.cons_append, converse]
    generalize answer (s.say (promptText waiting)) waiting line = turn at asks ⊢
    obtain ⟨waiting | code, next⟩ := turn
    · exact ih asks
    · cases asks

theorem promptAfter_append {s t : Session} {waiting waiting' : Bool} {before : List String}
    (asks : promptAfter? s waiting before = some (waiting', t)) (after : List String) :
    promptAfter? s waiting (before ++ after) = promptAfter? t waiting' after := by
  induction before generalizing s waiting with
  | nil =>
    cases asks
    rfl
  | cons line rest ih =>
    rw [promptAfter?] at asks
    rw [List.cons_append, promptAfter?]
    generalize answer (s.say (promptText waiting)) waiting line = turn at asks ⊢
    obtain ⟨waiting | code, next⟩ := turn
    · exact ih asks
    · cases asks

/-- The prompt is the next thing that a conversation prints. -/
theorem converse_prints (s : Session) (waiting : Bool) (typed : List String) :
    ∃ more, (converse s waiting typed).2.store.sink.text =
      s.store.sink.text ++ promptText waiting ++ more := by
  cases typed with
  | nil =>
    rw [converse, say_eq, sayLines_behind]
    exact ⟨_, rfl⟩
  | cons line rest =>
    -- All that follows happens behind the prompt, so the prompt stays in front of what it prints.
    rw [converse, say_eq, answer_behind]
    rcases answer s.quiet waiting line with ⟨waiting' | code, next⟩
    · dsimp only
      rw [converse_behind]
      exact ⟨_, rfl⟩
    · exact ⟨_, rfl⟩

/-- A command that shows something changes nothing but what the conversation has printed. -/
theorem converse_of_reply {s : Session} {waiting : Bool} {line : String} {command : Command}
    {texts : List String} (asked : commandFor? s line = some command)
    (replies : command.reply? s = some texts) (rest : List String) :
    converse s waiting (line :: rest) =
      converse (s.quiet.behind (s.store.sink.text ++ (promptText waiting ++ printed texts))) waiting
        rest := by
  rw [converse, answer_of_reply asked replies]
  dsimp only
  rw [sayLines_eq, say_say, say_eq]

/-! ## 5. What is seen of a conversation -/

/-- What holds at a prompt of a conversation, where the lines `before` were answered and those after
it are still to come. -/
structure AtPrompt (s : Session) (before after : List String) (waiting : Bool) (t : Session) :
    Prop where
  /-- The prompt is what the conversation prints next. -/
  shows : ∃ more, (talk s (before ++ after)).output =
    t.store.sink.text ++ promptText waiting ++ more
  /-- Feeding the lines that are no commands did not exit, and made the same of the session. -/
  feeds : ∃ fed, s.feedOn (fedLines s before) = (none, fed) ∧ t.quiet = fed.quiet
  /-- The prompt asks for more of a statement only while one is pending. -/
  pending : waiting = true → t.isIdle = false
  /-- A line is fed, unless no statement is pending and it is a command. -/
  takes : ∀ line, fedLines s (before ++ [line]) =
    fedLines s before ++ if t.isIdle && (command? line).isSome then [] else [line]
  /-- A command that shows something leaves the prompt and the session as they were. Taking it out
  of the input takes one prompt and what it shows out of the transcript, and nothing else. -/
  inert : ∀ line rest command texts, after = line :: rest → t.isIdle = true →
    command? line = some command → command.reply? t = some texts →
      (∃ next, promptAfter? (s.sayLines banner) false (before ++ [line]) = some (waiting, next) ∧
        next.quiet = t.quiet) ∧
      ∃ more errors status,
        talk s (before ++ line :: rest) =
          ⟨t.store.sink.text ++ (promptText waiting ++ printed texts) ++ more, errors, status⟩ ∧
        talk s (before ++ rest) = ⟨t.store.sink.text ++ more, errors, status⟩
  /-- A command that quits ends the conversation with a farewell, whatever follows. -/
  quits : ∀ line rest, after = line :: rest → t.isIdle = true → command? line = some .quit →
    talk s (before ++ line :: rest) =
      transcript 0 ((t.say (promptText waiting)).sayLines farewell)

theorem tracks_start (s : Session) : Tracks s false (s.sayLines banner) :=
  ⟨quiet_sayLines s banner, nofun⟩

theorem talk_append {s t : Session} {before : List String} {waiting : Bool}
    (asks : promptAfter? (s.sayLines banner) false before = some (waiting, t))
    (after : List String) :
    talk s (before ++ after) =
      transcript (converse t waiting after).1 (converse t waiting after).2 := by
  unfold talk
  rw [converse_append asks]

theorem transcript_behind (code : Int) (s : Session) (text : String) :
    transcript code (s.behind text) =
      ⟨text ++ (transcript code s).output, (transcript code s).errors,
        (transcript code s).status⟩ := rfl

/-- All of this holds at every prompt. -/
theorem atPrompt {s t : Session} {before : List String} {waiting : Bool}
    (asks : promptAfter? (s.sayLines banner) false before = some (waiting, t))
    (after : List String) : AtPrompt s before after waiting t := by
  obtain ⟨fed, ran, tracks, splits⟩ := promptAfter_tracks (tracks_start s) asks
  refine ⟨?_, ⟨fed, ran, tracks.same⟩, tracks.pending, ?_, ?_, ?_⟩
  · rw [talk_append asks]
    exact converse_prints t waiting after
  · intro line
    have same := isIdle_of_quiet_eq tracks.same
    rw [splits, fedLines_singleton, same]
  · rintro line rest command texts rfl idle asked replies
    have asked : commandFor? t line = some command := by
      rw [commandFor?, if_pos idle, asked]
    constructor
    · refine ⟨(t.say (promptText waiting)).sayLines texts, ?_, ?_⟩
      · rw [promptAfter_append asks, promptAfter?, answer_of_reply asked replies]
        rfl
      · rw [quiet_sayLines, quiet_say]
    · -- With the command and without it, the rest of the conversation is the one of a session that
      -- has printed nothing, behind two different texts.
      have without : converse t waiting rest =
          converse (t.quiet.behind t.store.sink.text) waiting rest := by
        rw [← Session.eq_behind]
      rw [talk_append asks, talk_append asks, converse_of_reply asked replies, without,
        converse_behind, converse_behind, transcript_behind, transcript_behind]
      exact ⟨_, _, _, rfl, rfl⟩
  · rintro line rest rfl idle asked
    have asked : commandFor? t line = some .quit := by
      rw [commandFor?, if_pos idle, asked]
    rw [talk_append asks, converse, answer_of_command asked]
    rfl

/-- Inside of a statement no line is a command. -/
example :
    fedLines (Session.new {}) ["(quote (1", ":help", "))", " :help ", ":exit", "2"] =
      ["(quote (1", ":help", "))"] := by
  decide +kernel

end Console

end ListScript
