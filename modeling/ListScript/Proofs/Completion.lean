import ListScript.Proofs.Batch

/-!
# Where a line completes a statement

Two scanners look at quotes and backslashes. A draft knows of escapes inside quoted sections only,
and the tokenizer knows of them in every word. As long as no quote outside of quoted sections is
escaped, both see the same sections, and a line completes a statement where its tokens say so.

Results:
1. `InStep.scan`: a draft and the tokenizer see the same quoted sections, and the draft counts the
   parentheses among the tokens.
2. `Session.feed_waits_iff`: a line waits for more if its tokens end inside a quoted section or have
   more of one parenthesis than of the other.
3. `Session.feed_waits_behind_escaped_quote`: a quote that is escaped outside of quoted sections is
   a quote to the draft and none to the tokenizer.
-/

namespace ListScript

theorem nesting_eq_count (tokens : List Token) :
    nesting tokens = (tokens.count .opening : Int) - tokens.count .closing := by
  induction tokens with
  | nil => rfl
  | cons token rest ih =>
    rw [nesting_cons, ih]
    cases token <;> simp [Token.weight] <;> omega

theorem nesting_lastWord (w : Option OpenWord) : nesting (lastWord w) = 0 := by
  cases w <;> simp [lastWord, Token.weight]

/-! ## 1. Draft and tokenizer in step -/

/-- Whether the tokenizer takes the next character as escaped, outside of quoted sections. -/
def escapesOutside : Option OpenWord → Bool
  | none => false
  | some w => !w.quoted && w.escaped

/-- Whether no quote outside of quoted sections is escaped, given the word that is being read. -/
def plainQuotes (w : Option OpenWord) : List Char → Bool
  | [] => true
  | c :: rest => !(c == '"' && escapesOutside w) && plainQuotes (scanStep w c).2 rest

theorem plainQuotes_cons {w : Option OpenWord} {c : Char} {rest : List Char} :
    plainQuotes w (c :: rest) ↔
      (c = '"' → escapesOutside w = false) ∧ plainQuotes (scanStep w c).2 rest := by
  simp only [plainQuotes, Bool.and_eq_true, Bool.not_eq_true', Bool.and_eq_false_iff,
    beq_eq_false_iff_ne]
  exact and_congr_left' (Decidable.imp_iff_not_or.symm)

/-- Both scanners see no quoted section, or both see one and the same escape in it. Outside of
quoted sections only the tokenizer knows of escapes. -/
inductive InStep (w : Option OpenWord) (draft : Draft) : Prop
  | outside (unquoted : inQuotes w = false) (drafts : Quoting.outside.Drafts draft)
  | within {q : Quoting} (quoted : q ≠ .outside) (scans : q.Scans w) (drafts : q.Drafts draft)

namespace InStep

variable {w : Option OpenWord} {draft : Draft}

theorem empty : InStep none .empty :=
  .outside rfl ⟨rfl, rfl⟩

theorem quoted_eq (h : InStep w draft) : draft.quoted = inQuotes w := by
  cases h with
  | outside unquoted drafts => rw [drafts.1, unquoted]
  | @within q quoted scans drafts =>
    cases q with
    | outside => exact absurd rfl quoted
    | inside =>
      cases w with
      | none => exact scans.elim
      | some w => exact drafts.1.trans scans.1.symm
    | escaped =>
      cases w with
      | none => exact scans.elim
      | some w => exact drafts.1.trans scans.1.symm

/-- A quote that is not escaped opens a section for both. -/
theorem push_quote (unquoted : inQuotes w = false) (drafts : Quoting.outside.Drafts draft)
    (plain : escapesOutside w = false) : InStep (scanStep w '"').2 (draft.push '"') := by
  have opened : Quoting.inside.Drafts (draft.push '"') :=
    (Quoting.drafts_step_outside drafts (by rfl)).1
  refine .within (by decide) ?_ opened
  cases w with
  | none => exact ⟨rfl, rfl⟩
  | some w =>
    have unquoted : w.quoted = false := unquoted
    have plain : w.escaped = false := by simpa [escapesOutside, unquoted] using plain
    have stays : scanStep (some w) '"' = ([], some (w.push '"')) := by
      simp [scanStep, endsWord, not_isBlank_quote]
    rw [stays]
    simp [Quoting.Scans, OpenWord.push, unquoted, plain]

/-- Every other character leaves both outside of quoted sections. -/
theorem push_other (unquoted : inQuotes w = false) (drafts : Quoting.outside.Drafts draft)
    {c : Char} (noQuote : c ≠ '"') : InStep (scanStep w c).2 (draft.push c) := by
  refine .outside ?_ ?_
  · cases w with
    | none =>
      simp only [scanStep]
      repeat' split
      all_goals simp [inQuotes, OpenWord.push, OpenWord.empty, noQuote]
    | some w =>
      have unquoted : w.quoted = false := unquoted
      simp only [scanStep]
      repeat' split
      all_goals simp [inQuotes, OpenWord.push, unquoted, noQuote]
  · simp only [Draft.push, drafts.1, Bool.false_eq_true, if_false, if_neg noQuote]
    repeat' split
    all_goals exact ⟨rfl, drafts.2⟩

theorem depth_push_outside (drafts : Quoting.outside.Drafts draft) (c : Char) :
    (draft.push c).depth = draft.depth + if c = '(' then 1 else if c = ')' then -1 else 0 := by
  by_cases backslash : c = '\\'
  · -- A draft does not know of escapes here, so a backslash is a character like any other.
    subst backslash
    simp [Draft.push, drafts.1]
  · have next : ∃ q, Quoting.outside.next? c = some q := by
      rw [Quoting.next?, if_neg backslash]
      split <;> exact ⟨_, rfl⟩
    obtain ⟨q, next⟩ := next
    exact (Quoting.drafts_step_outside drafts next).2

/-- A draft and the tokenizer stay in step, and the draft counts the parentheses that the tokenizer
makes tokens of. -/
theorem push (h : InStep w draft) {c : Char} (plain : c = '"' → escapesOutside w = false) :
    InStep (scanStep w c).2 (draft.push c) ∧
      (draft.push c).depth = draft.depth + nesting (scanStep w c).1 := by
  cases h with
  | outside unquoted drafts =>
    rw [nesting_scanStep unquoted]
    refine ⟨?_, depth_push_outside drafts c⟩
    by_cases quote : c = '"'
    · subst quote
      exact push_quote unquoted drafts (plain rfl)
    · exact push_other unquoted drafts quote
  | @within q quoted scans drafts =>
    have next : ∃ q', q.next? c = some q' := by
      cases q with
      | outside => exact absurd rfl quoted
      | inside =>
        simp only [Quoting.next?]
        repeat' split
        all_goals exact ⟨_, rfl⟩
      | escaped => exact ⟨.inside, rfl⟩
    obtain ⟨q', next⟩ := next
    obtain ⟨drafts', depth⟩ := Quoting.drafts_step scans drafts next
    have scans' := Quoting.scans_step scans next
    refine ⟨?_, depth⟩
    by_cases leaves : q' = .outside
    · subst leaves
      exact .outside (inQuotes_of_scans scans') drafts'
    · exact .within leaves scans' drafts'

theorem scan (h : InStep w draft) {chars : List Char} (plain : plainQuotes w chars) :
    InStep (openAfter w chars) (draft.scan chars) ∧
      (draft.scan chars).depth = draft.depth + nesting (scanTokens w chars) := by
  induction chars generalizing w draft with
  | nil =>
    rw [scanTokens_nil, nesting_lastWord]
    exact ⟨h, (Int.add_zero _).symm⟩
  | cons c rest ih =>
    obtain ⟨plain, later⟩ := plainQuotes_cons.mp plain
    obtain ⟨step, depth⟩ := h.push plain
    obtain ⟨last, depth'⟩ := ih step later
    refine ⟨last, ?_⟩
    rw [scanTokens_cons, nesting_append, ← Int.add_assoc, ← depth]
    exact depth'

end InStep

/-! ## 2. Lines -/

/-- The tokens of the line end inside a quoted section, or there are not as many opening parentheses
among them as closing ones. -/
def Unfinished (line : String) : Prop :=
  inQuotes (openAfter none line.toList) = true ∨
    (tokenize line).count .opening ≠ (tokenize line).count .closing

instance (line : String) : Decidable (Unfinished line) :=
  inferInstanceAs (Decidable (_ ∨ _))

theorem isComplete_scan_iff {line : String} (plain : plainQuotes none line.toList) :
    (Draft.empty.scan line.toList).isComplete = true ↔ ¬ Unfinished line := by
  obtain ⟨step, depth⟩ := InStep.empty.scan plain
  have counted : (Draft.empty.scan line.toList).depth = nesting (tokenize line) :=
    depth.trans (Int.zero_add _)
  rw [nesting_eq_count] at counted
  rw [Draft.isComplete, Unfinished, step.quoted_eq, counted]
  have balanced (a b : Nat) : (a : Int) - b = 0 ↔ a = b := by omega
  simp [balanced, and_comm]

theorem eq_ok_of_toOption {α : Type} {outcome : Except Error α} {a : α}
    (h : outcome.toOption = some a) : outcome = .ok a := by
  cases outcome with
  | ok b => exact congrArg Except.ok (Option.some.inj h)
  | error e => cases h

namespace Session

theorem feed_waiting {s : Session} {line : String} {echo : Bool} {next : Draft}
    (added : s.draft.add line = .waiting next) :
    s.feed line echo = (.ok false, { s with draft := next }) := by
  rw [feed, added]

theorem feed_complete {s : Session} {line statement : String} {echo : Bool} {rest : Draft}
    (added : s.draft.add line = .complete statement rest) :
    s.feed line echo =
      endStatement rest (s.run (Module.runStatement s.setting s.imports echo statement)) := by
  rw [feed, added]

/-- A statement that was run was not waiting. -/
theorem endStatement_ne_waiting (rest : Draft) (ran : Except Error Unit × Session) :
    (endStatement rest ran).1 ≠ .ok false := by
  obtain ⟨_ | _, s⟩ := ran <;> simp [endStatement]

/-- A line of code that an idle session is fed waits for more if its tokens end inside a quoted
section or have more of one parenthesis than of the other. Otherwise it is read and evaluated at
once. No quote outside of quoted sections may be escaped. -/
theorem feed_waits_iff {s : Session} {line : String} (reached : s.draft.Reached) (idle : s.isIdle)
    (notBlank : ¬ isBlankText line) (noComment : ';' ∉ line.toList)
    (plain : plainQuotes none line.toList) (echo : Bool) :
    ((s.feed line echo).1 = .ok false ↔ Unfinished line) ∧
      (¬ Unfinished line → s.feed line echo =
        endStatement .empty (s.run (Module.runStatement s.setting s.imports echo line))) := by
  have fresh : s.draft = .empty := reached.eq_empty_of_isIdle idle
  have code : codeOf line = line.toList := dropComment_eq_self noComment
  have completes := isComplete_scan_iff plain
  rw [← code, ← fresh] at completes
  rcases Draft.add_cases s.draft line with ⟨blank, -⟩ | ⟨complete, added⟩ | ⟨waits, added⟩
  · rw [code] at blank
    exact absurd blank notBlank
  · have finished := completes.mp complete
    have left := Draft.eq_empty_of_isComplete complete
      (Draft.escapedInQuotes_scan reached.escapedInQuotes (codeOf line))
    have text : (s.draft.scan (codeOf line)).text = line := by
      rw [← String.toList_inj, Draft.toList_text_scan, fresh, code]
      simp [Draft.empty]
    rw [left, text] at added
    refine ⟨⟨fun waiting => ?_, fun unfinished => absurd unfinished finished⟩, fun _ => ?_⟩
    · rw [feed_complete added] at waiting
      exact absurd waiting (endStatement_ne_waiting _ _)
    · exact feed_complete added
  · have unfinished : Unfinished line := by
      refine Decidable.not_not.mp fun finished => ?_
      rw [completes.mpr finished] at waits
      cases waits
    refine ⟨⟨fun _ => unfinished, fun _ => ?_⟩, fun finished => absurd unfinished finished⟩
    rw [feed_waiting added]

/-- An escape inside a quoted section and a backslash in front of another character leave both
scanners in step. The first line waits inside its quoted section, and the second is evaluated. -/
theorem feed_waits_iff_backslashes :
    let s := Session.new {}
    let first := "(print \\a \"\\\" )"
    let second := "(print \"\\\" )\")"
    (s.draft.Reached ∧ s.isIdle ∧ ¬ isBlankText first ∧ ';' ∉ first.toList ∧
      plainQuotes none first.toList ∧ ¬ isBlankText second ∧ ';' ∉ second.toList ∧
      plainQuotes none second.toList) ∧
    (s.feed first false).1 = .ok false ∧
    (s.feed second false).1 ≠ .ok false ∧ (s.feed second false).2.store.sink.text = "\" )\n" := by
  intro s first second
  have reached : s.draft.Reached := by
    simp only [s, new_eq_after]
    exact reached_after .empty _
  have idle : s.isIdle := by decide +kernel
  have notBlank : ¬ isBlankText first := by decide +kernel
  have noComment : ';' ∉ first.toList := by decide +kernel
  have plain : plainQuotes none first.toList := by decide +kernel
  have notBlank' : ¬ isBlankText second := by decide +kernel
  have noComment' : ';' ∉ second.toList := by decide +kernel
  have plain' : plainQuotes none second.toList := by decide +kernel
  have waits := (feed_waits_iff reached idle notBlank noComment plain false).1
  have ends := (feed_waits_iff reached idle notBlank' noComment' plain' false).1
  refine ⟨⟨reached, idle, notBlank, noComment, plain, notBlank', noComment', plain'⟩,
    waits.mpr (by decide +kernel), fun waiting => ?_, by decide +kernel⟩
  exact absurd (ends.mp waiting) (by decide +kernel)

/-- A quote that is escaped outside of quoted sections is part of a word to the tokenizer, and opens
a section for the draft. The first line has complete tokens and waits, and the second ends inside a
quoted section and does not wait. -/
theorem feed_waits_behind_escaped_quote :
    let s := Session.new {}
    let first := "(quote \\\")"
    let second := "\\\" \""
    (s.draft.Reached ∧ s.isIdle) ∧
    (¬ isBlankText first ∧ ';' ∉ first.toList ∧ ¬ Unfinished first ∧
      (s.feed first false).1 = .ok false) ∧
    (¬ isBlankText second ∧ ';' ∉ second.toList ∧ Unfinished second ∧
      errorOf? (s.feed second false).1 = some (.unbound "\\\"")) := by
  refine ⟨⟨?_, by decide +kernel⟩, ⟨by decide +kernel, by decide +kernel, by decide +kernel, ?_⟩,
    by decide +kernel⟩
  · rw [new_eq_after]
    exact reached_after .empty _
  · exact eq_ok_of_toOption (by decide +kernel)

end Session

end ListScript
