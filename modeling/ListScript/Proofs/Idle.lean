import ListScript.Console
import ListScript.Proofs.Batch

/-!
# Idle sessions

A session is idle when its draft holds no text. Everyone who waits for the end of a statement looks
at the text alone: a module and a script at their last line, and a conversation before it takes a
line for a command. The other parts of a draft are moved by other code than the text is, so they
have to stay in step with it: a text is held exactly while a parenthesis or a quoted section is
unbalanced, and nothing is left behind where none is held.

Results:
1. `Reached.sound`: the four parts of a draft stay in step, whatever lines lead to it.
2. `evaluate_eq_of_fed`, `runScript_eq_of_fed`: what the end of a module and of a script does.
3. `Session.draft_sound`: all of this in every session after any steps.
-/

namespace ListScript

namespace Draft

/-! ## 1. The parts of a draft -/

/-- What the parts of a draft say of each other between two lines. -/
structure Sound (draft : Draft) : Prop where
  /-- No text is held exactly if parentheses balance and no quoted section is open. -/
  empty_iff : draft.text = "" ↔ draft.depth = 0 ∧ draft.quoted = false
  /-- Only inside a quoted section is a character escaped. -/
  escaped : draft.escaped = true → draft.quoted = true
  /-- Without text nothing else is left of an earlier statement. -/
  fresh : draft.text = "" → draft = .empty
  /-- The next line follows after a space. -/
  spaced : draft.text ≠ "" → draft.text.toList.getLast? = some ' '

theorem sound_empty : Draft.empty.Sound where
  empty_iff := ⟨fun _ => ⟨rfl, rfl⟩, fun _ => rfl⟩
  escaped := nofun
  fresh := fun _ => rfl
  spaced := fun text => absurd rfl text

theorem isComplete_iff {draft : Draft} :
    draft.isComplete = true ↔ draft.depth = 0 ∧ draft.quoted = false := by
  simp [isComplete]

/-- The parts of a draft are in step after any lines. -/
theorem Reached.sound {draft : Draft} (h : draft.Reached) : draft.Sound := by
  cases h with
  | empty => exact sound_empty
  | @waiting before _ line reached added =>
    obtain ⟨waits, rfl⟩ := add_eq_waiting added
    have escaped := escapedInQuotes_scan reached.escapedInQuotes (codeOf line)
    generalize before.scan (codeOf line) = scanned at waits escaped
    have held : scanned.text.push ' ' ≠ "" := by simp
    refine ⟨⟨fun none => absurd none held, fun balanced => ?_⟩, escaped,
      fun none => absurd none held, fun _ => by simp⟩
    have complete : scanned.isComplete = true := isComplete_iff.mpr balanced
    rw [complete] at waits
    cases waits
  | @complete before _ line statement reached added =>
    obtain ⟨complete, -, rfl⟩ := add_eq_complete added
    rw [eq_empty_of_isComplete complete (escapedInQuotes_scan reached.escapedInQuotes _)]
    exact sound_empty

/-- A draft is idle exactly if nothing in it is open. -/
theorem Sound.isIdle_iff {draft : Draft} (sound : draft.Sound) :
    draft.isIdle = true ↔ draft.depth = 0 ∧ draft.quoted = false := by
  rw [isIdle, String.isEmpty_iff]
  exact sound.empty_iff

end Draft

/-! ## 2. The end of a module -/

namespace Module

variable {run : String → Eval Unit}

/-- A line of a module leaves a draft that lines lead to. -/
theorem reached_feed {draft next : Draft} {line : String} {store mid : Store}
    (h : draft.Reached) (fed : feed run draft line store = .ok next mid) : next.Reached := by
  unfold feed at fed
  cases added : draft.add line with
  | blank =>
    rw [added] at fed
    cases fed
    exact h
  | waiting waiting =>
    rw [added] at fed
    cases fed
    exact .waiting h added
  | complete statement rest =>
    simp only [added, Eval.bind_apply] at fed
    cases ran : run statement store with
    | ok _ after =>
      rw [ran] at fed
      cases fed
      exact .complete h added
    | error e after =>
      rw [ran] at fed
      cases fed

theorem reached_feeds {draft last : Draft} {rest : List String} {store mid : Store}
    (h : draft.Reached) (fed : rest.foldlM (feed run) draft store = .ok last mid) :
    last.Reached := by
  induction rest generalizing draft store with
  | nil =>
    cases fed
    exact h
  | cons line rest ih =>
    rw [List.foldlM_cons, Eval.bind_apply] at fed
    cases step : feed run draft line store with
    | ok next between =>
      rw [step] at fed
      exact ih (reached_feed h step) fed
    | error e between =>
      rw [step] at fed
      cases fed

/-- A module whose lines were all fed ends well exactly if they leave nothing open. -/
theorem evaluate_eq_of_fed {setting : Setting} {imports : Import} {path : Path} {text : String}
    {draft : Draft} {store mid : Store} (file : setting.files.readPath path = .ok text)
    (fed : (lines text).foldlM (feed (runStatement setting imports false)) .empty store =
      .ok draft mid) :
    evaluate setting imports path store =
      if draft.depth = 0 ∧ draft.quoted = false then .ok () mid
      else .error (.malformed "module" (.unfinished path.toText)) mid := by
  have sound : draft.Sound := (reached_feeds .empty fed).sound
  unfold evaluate
  rw [file]
  simp only [Eval.bind_apply, fed, sound.isIdle_iff]
  split <;> rfl

end Module

/-! ## 3. The end of a script -/

namespace Console

theorem reached_feedLines {s t : Session} {rest : List String} (h : s.draft.Reached)
    (fed : feedLines s rest = (none, t)) : t.draft.Reached := by
  induction rest generalizing s with
  | nil =>
    cases fed
    exact h
  | cons line rest ih =>
    have reached : (s.feed line false).2.draft.Reached :=
      Session.reached_perform h (.feed line false)
    unfold feedLines at fed
    split at fed
    · next answer mid step =>
      rw [step] at reached
      exact ih reached fed
    · cases fed

/-- A script whose lines were all fed ends well exactly if they leave nothing open. -/
theorem runScript_eq_of_fed {s t : Session} {script text : String} (h : s.draft.Reached)
    (file : s.setting.files.readText script = .ok text)
    (fed : feedLines s (lines text) = (none, t)) :
    runScript s script =
      if t.draft.depth = 0 ∧ t.draft.quoted = false then (none, t)
      else (some 1,
        { t with reports := t.reports ++ [⟨.fatal, (Fault.unfinished script).reason⟩] }) := by
  have sound : t.draft.Sound := (reached_feedLines h fed).sound
  unfold runScript
  rw [file]
  simp only [fed, endScript, Session.isIdle, sound.isIdle_iff]

end Console

/-! ## 4. Every session -/

namespace Session

/-- Take a session whose draft is new, and any steps after that: lines that wait, complete a
statement or fail, and resets among them. The parts of the draft are in step. If the session is
idle, it goes on exactly as it would with a new draft. The draft of a module is in step too, after
any of its lines. A script and a module whose lines were all fed fail at the end exactly if a
parenthesis or a quoted section is left unbalanced. -/
theorem draft_sound (s : Session) (steps : List Step) :
    let t := ({ s with draft := .empty } : Session).after steps
    t.draft.Sound ∧
    (t.isIdle = true → ∀ more, ({ t with draft := .empty } : Session).after more = t.after more ∧
      ∀ op, (({ t with draft := .empty } : Session).after more).perform op =
        (t.after more).perform op) ∧
    (∀ (run : String → Eval Unit) (fed : List String) store draft mid,
      fed.foldlM (Module.feed run) .empty store = .ok draft mid → draft.Sound) ∧
    (∀ imports path text store draft mid, t.setting.files.readPath path = .ok text →
      (lines text).foldlM (Module.feed (Module.runStatement t.setting imports false)) .empty store =
        .ok draft mid →
      Module.evaluate t.setting imports path store =
        if draft.depth = 0 ∧ draft.quoted = false then .ok () mid
        else .error (.malformed "module" (.unfinished path.toText)) mid) ∧
    ∀ script text u, t.setting.files.readText script = .ok text →
      Console.feedLines t (lines text) = (none, u) →
      Console.runScript t script =
        if u.draft.depth = 0 ∧ u.draft.quoted = false then (none, u)
        else (some 1,
          { u with reports := u.reports ++ [⟨.fatal, (Fault.unfinished script).reason⟩] }) := by
  intro t
  have reached : t.draft.Reached := reached_after .empty steps
  refine ⟨reached.sound, ?_, ?_, ?_, ?_⟩
  · intro idle more
    have fresh : { t with draft := .empty } = t := by
      rw [← reached.eq_empty_of_isIdle idle]
    rw [fresh]
    exact ⟨rfl, fun op => rfl⟩
  · intro run fed store draft mid ran
    exact (Module.reached_feeds .empty ran).sound
  · intro imports path text store draft mid file fed
    exact Module.evaluate_eq_of_fed file fed
  · intro script text u file fed
    exact Console.runScript_eq_of_fed reached file fed

/-- A statement that fails leaves nothing. After it a closing parenthesis that nothing opened waits
for more, and so does a quoted section that ends in a backslash. -/
theorem draft_sound_backslash :
    let fails := Step.operation (.feed "(unbound)" false)
    let opens := Step.operation (.feed ") \"x\\" true)
    let s := ({ Session.new {} with draft := .empty } : Session)
    (s.after [fails]).isIdle = true ∧
      ({ s.after [fails] with draft := .empty } : Session).after [opens] =
        (s.after [fails]).after [opens] ∧
      (s.after [fails, opens]).draft = ⟨") \"x\\ ", -1, true, true⟩ ∧
      (s.after [fails, opens]).draft.Sound := by
  intro fails opens s
  have idle : (s.after [fails]).isIdle = true := by decide +kernel
  have waits : (s.after [fails, opens]).draft = ⟨") \"x\\ ", -1, true, true⟩ := by decide +kernel
  exact ⟨idle, ((draft_sound (Session.new {}) [fails]).2.1 idle [opens]).1, waits,
    (draft_sound (Session.new {}) [fails, opens]).1⟩

end Session

end ListScript
