import ListScript.Draft
import ListScript.Proofs.Nesting
import ListScript.Proofs.Scanning

/-!
# Drafts and tokens

A draft decides where a statement ends without looking at tokens: it counts parentheses character by
character. On lines that close their quoted sections it counts what the tokens say, so a statement
is complete where no list is open.

Results:
1. `drafts_scan`: a draft counts the parentheses among the tokens of its text.
2. `eq_empty_of_isIdle`: of the drafts that lines lead to, the only idle one is the empty one.
3. `Steady.add`: what a line does to a draft, by the tokens of its text.
-/

namespace ListScript

/-! ## 1. Comments -/

/-- Without a semicolon there is no comment. -/
theorem dropComment_eq_self {escaped : Bool} {line : List Char} (noComment : ';' ∉ line) :
    dropComment escaped line = line := by
  induction line generalizing escaped with
  | nil => rfl
  | cons c rest ih =>
    simp only [List.mem_cons, not_or] at noComment
    rw [dropComment, if_neg (by simp [Ne.symm noComment.1]), ih noComment.2]

/-! ## 2. Characters -/

/-- Outside quoted sections the scanner makes tokens of parentheses. -/
theorem nesting_scanStep {w : Option OpenWord} {c : Char} (unquoted : inQuotes w = false) :
    nesting (scanStep w c).1 = if c = '(' then 1 else if c = ')' then -1 else 0 := by
  have notBoth : ('(' : Char) ≠ ')' := by decide
  cases w with
  | none =>
    simp only [scanStep]
    repeat' split
    all_goals simp_all [Token.weight]
  | some w =>
    have unquoted : w.quoted = false := unquoted
    by_cases opening : c = '('
    · subst opening
      simp [scanStep, unquoted, endsWord, Token.weight]
    · by_cases closing : c = ')'
      · subst closing
        simp [scanStep, unquoted, endsWord, Token.weight]
      · simp only [scanStep, if_neg opening, if_neg closing]
        split <;> simp [Token.weight]

namespace Quoting

/-- What a draft holds to be open where a character stands. -/
def Drafts : Quoting → Draft → Prop
  | .outside, draft => draft.quoted = false ∧ draft.escaped = false
  | .inside, draft => draft.quoted = true ∧ draft.escaped = false
  | .escaped, draft => draft.quoted = true ∧ draft.escaped = true

/-- Outside quoted sections a draft counts parentheses, and a quote opens a section. -/
theorem drafts_step_outside {q' : Quoting} {draft : Draft} {c : Char}
    (h : outside.Drafts draft) (next : outside.next? c = some q') :
    q'.Drafts (draft.push c) ∧
      (draft.push c).depth = draft.depth + if c = '(' then 1 else if c = ')' then -1 else 0 := by
  obtain ⟨unquoted, unescaped⟩ := h
  simp only [Draft.push, unquoted, Bool.false_eq_true, if_false]
  rw [next?] at next
  split at next
  · next quote =>
    cases next
    subst quote
    simp [Drafts, unescaped]
  · next noQuote =>
    split at next
    · cases next
    · cases next
      by_cases opening : c = '('
      · subst opening
        simp [Drafts, unescaped]
      · by_cases closing : c = ')'
        · subst closing
          simp [Drafts, unescaped]
          rfl
        · simp [noQuote, opening, closing, Drafts, unescaped]

/-- Inside quoted sections a draft counts nothing. -/
theorem drafts_step_inside {q' : Quoting} {draft : Draft} {c : Char}
    (h : inside.Drafts draft) (next : inside.next? c = some q') :
    q'.Drafts (draft.push c) ∧ (draft.push c).depth = draft.depth := by
  obtain ⟨quoted, unescaped⟩ := h
  simp only [Draft.push, quoted, unescaped, Bool.false_eq_true, if_true, if_false]
  rw [next?] at next
  split at next
  · next quote =>
    cases next
    subst quote
    simp [Drafts]
  · next noQuote =>
    split at next
    · next backslash =>
      cases next
      simp [Drafts, backslash]
    · next noBackslash =>
      cases next
      simp [Drafts, noQuote, noBackslash]

/-- A draft and the scanner stay in step: both see the same quoted sections, and the draft counts
the parentheses that the scanner makes tokens of. -/
theorem drafts_step {q q' : Quoting} {w : Option OpenWord} {draft : Draft} {c : Char}
    (scans : q.Scans w) (h : q.Drafts draft) (next : q.next? c = some q') :
    q'.Drafts (draft.push c) ∧
      (draft.push c).depth = draft.depth + nesting (scanStep w c).1 := by
  cases q with
  | outside =>
    rw [nesting_scanStep (inQuotes_of_scans scans)]
    exact drafts_step_outside h next
  | inside =>
    cases w with
    | none => exact scans.elim
    | some w =>
      rw [scanStep_of_quoted scans.1, nesting_nil, Int.add_zero]
      exact drafts_step_inside h next
  | escaped =>
    cases w with
    | none => exact scans.elim
    | some w =>
      rw [scanStep_of_quoted scans.1]
      cases next
      simp [Draft.push, Drafts, h.1, h.2]

theorem drafts_scan {q q' : Quoting} {w : Option OpenWord} {draft : Draft} {chars : List Char}
    (scans : q.Scans w) (h : q.Drafts draft) (after : q.after? chars = some q') :
    q'.Drafts (draft.scan chars) ∧
      (draft.scan chars).depth = draft.depth + nesting (scanTokens w chars) := by
  have lastWeight (w : Option OpenWord) : nesting (lastWord w) = 0 := by
    cases w <;> simp [lastWord, Token.weight]
  induction chars generalizing q w draft with
  | nil =>
    cases after
    rw [scanTokens_nil, lastWeight]
    exact ⟨h, (Int.add_zero _).symm⟩
  | cons c rest ih =>
    obtain ⟨mid, next, after⟩ := after?_cons.mp after
    obtain ⟨drafts, depth⟩ := drafts_step scans h next
    obtain ⟨drafts', depth'⟩ := ih (scans_step scans next) drafts after
    refine ⟨drafts', ?_⟩
    rw [scanTokens_cons, nesting_append, ← Int.add_assoc, ← depth]
    exact depth'

end Quoting

namespace Draft

/-! ## 3. Drafts that lines lead to -/

/-- The draft is what lines and ends of statements leave of the empty one. -/
inductive Reached : Draft → Prop
  | empty : Reached .empty
  | waiting {draft next : Draft} {line : String} (before : Reached draft)
      (added : draft.add line = .waiting next) : Reached next
  | complete {draft rest : Draft} {line statement : String} (before : Reached draft)
      (added : draft.add line = .complete statement rest) : Reached rest

/-- Only inside a quoted section is a character escaped. -/
def EscapedInQuotes (draft : Draft) : Prop :=
  draft.escaped = true → draft.quoted = true

theorem escapedInQuotes_push {draft : Draft} (h : draft.EscapedInQuotes) (c : Char) :
    (draft.push c).EscapedInQuotes := by
  unfold EscapedInQuotes at h ⊢
  unfold push
  dsimp only
  repeat' split
  all_goals simp_all

theorem escapedInQuotes_scan {draft : Draft} (h : draft.EscapedInQuotes) (code : List Char) :
    (draft.scan code).EscapedInQuotes := by
  induction code generalizing draft with
  | nil => exact h
  | cons c rest ih => exact ih (escapedInQuotes_push h c)

/-- What a line does to a draft, by the draft that scanning it leads to. -/
theorem add_cases (draft : Draft) (line : String) :
    let scanned := draft.scan (codeOf line)
    ((codeOf line).all isBlank ∧ draft.add line = .blank) ∨
    (scanned.isComplete ∧ draft.add line = .complete scanned.text { scanned with text := "" }) ∨
    (scanned.isComplete = false ∧
      draft.add line = .waiting { scanned with text := scanned.text.push ' ' }) := by
  unfold add
  by_cases blank : (codeOf line).all isBlank
  · exact .inl ⟨blank, if_pos blank⟩
  · cases complete : (draft.scan (codeOf line)).isComplete with
    | true => exact .inr (.inl ⟨complete, by simp [blank, complete]⟩)
    | false => exact .inr (.inr ⟨complete, by simp [blank, complete]⟩)

theorem add_eq_waiting {draft next : Draft} {line : String}
    (added : draft.add line = .waiting next) :
    let scanned := draft.scan (codeOf line)
    scanned.isComplete = false ∧ next = { scanned with text := scanned.text.push ' ' } := by
  rcases add_cases draft line with ⟨-, same⟩ | ⟨-, same⟩ | ⟨waits, same⟩
  · cases added.symm.trans same
  · cases added.symm.trans same
  · cases added.symm.trans same
    exact ⟨waits, rfl⟩

theorem add_eq_complete {draft rest : Draft} {line statement : String}
    (added : draft.add line = .complete statement rest) :
    let scanned := draft.scan (codeOf line)
    scanned.isComplete ∧ statement = scanned.text ∧ rest = { scanned with text := "" } := by
  rcases add_cases draft line with ⟨-, same⟩ | ⟨complete, same⟩ | ⟨-, same⟩
  · cases added.symm.trans same
  · cases added.symm.trans same
    exact ⟨complete, rfl, rfl⟩
  · cases added.symm.trans same

theorem add_eq_blank {draft : Draft} {line : String} (added : draft.add line = .blank) :
    (codeOf line).all isBlank := by
  rcases add_cases draft line with ⟨blank, -⟩ | ⟨-, same⟩ | ⟨-, same⟩
  · exact blank
  · cases added.symm.trans same
  · cases added.symm.trans same

theorem Reached.escapedInQuotes {draft : Draft} (h : draft.Reached) : draft.EscapedInQuotes := by
  induction h with
  | empty => nofun
  | @waiting draft next line before added ih =>
    obtain ⟨-, rfl⟩ := add_eq_waiting added
    exact escapedInQuotes_scan ih (codeOf line)
  | @complete draft rest line statement before added ih =>
    obtain ⟨-, -, rfl⟩ := add_eq_complete added
    exact escapedInQuotes_scan ih (codeOf line)

/-- A complete statement leaves the empty draft, if only quoted characters are escaped. -/
theorem eq_empty_of_isComplete {draft : Draft} (complete : draft.isComplete)
    (escaped : draft.EscapedInQuotes) : { draft with text := "" } = Draft.empty := by
  obtain ⟨text, depth, quoted, isEscaped⟩ := draft
  simp only [isComplete, Bool.and_eq_true, beq_iff_eq, Bool.not_eq_true'] at complete
  obtain ⟨rfl, rfl⟩ := complete
  cases isEscaped with
  | false => rfl
  -- A backslash outside of quoted sections would be left behind, but lines do not lead there.
  | true => cases escaped rfl

/-- Of the drafts that lines lead to, the only idle one is the empty one. -/
theorem Reached.eq_empty_of_isIdle {draft : Draft} (h : draft.Reached) (idle : draft.isIdle) :
    draft = .empty := by
  cases h with
  | empty => rfl
  | @waiting draft _ line before added =>
    obtain ⟨-, rfl⟩ := add_eq_waiting added
    simp [isIdle] at idle
  | @complete draft _ line statement before added =>
    obtain ⟨complete, -, rfl⟩ := add_eq_complete added
    exact eq_empty_of_isComplete complete
      (escapedInQuotes_scan before.escapedInQuotes (codeOf line))

/-! ## 4. Lines that close their quoted sections -/

/-- No quoted section is open, the draft ends where a word would, its depth is the nesting of its
tokens, and if it has any text then lists are open. -/
structure Steady (draft : Draft) : Prop where
  outside : Quoting.outside.Drafts draft
  closed : openAfter none draft.text.toList = none
  depth : draft.depth = nesting (tokenize draft.text)
  pending : draft.text = "" ∨ draft.depth ≠ 0

theorem steady_empty : Draft.empty.Steady where
  outside := ⟨rfl, rfl⟩
  closed := rfl
  depth := rfl
  pending := .inl rfl

theorem eq_empty_of_text {draft : Draft} (steady : draft.Steady) (none : draft.text = "") :
    draft = .empty := by
  obtain ⟨text, depth, quoted, escaped⟩ := draft
  obtain ⟨⟨rfl, rfl⟩, -, depth, -⟩ := steady
  cases none
  cases depth
  rfl

section Line

variable {draft : Draft} {line : String}

/-- The draft after a line that closes its quoted sections has the tokens of both. -/
theorem scan_line (steady : draft.Steady) (noComment : ';' ∉ line.toList)
    (closes : ClosesQuotes line) :
    let scanned := draft.scan (codeOf line)
    Quoting.outside.Drafts scanned ∧ inQuotes (openAfter none scanned.text.toList) = false ∧
      tokenize scanned.text = tokenize draft.text ++ tokenize line ∧
      scanned.depth = nesting (tokenize scanned.text) := by
  have code : codeOf line = line.toList := dropComment_eq_self noComment
  have scans : Quoting.outside.Scans none := trivial
  rw [code]
  intro scanned
  obtain ⟨drafts, depth⟩ := Quoting.drafts_scan scans steady.outside closes
  have text : scanned.text.toList = draft.text.toList ++ line.toList := toList_text_scan
  have tokens : tokenize scanned.text = tokenize draft.text ++ tokenize line := by
    rw [tokenize, text, scanTokens_append, steady.closed, tokenize, tokenize,
      scanTokens_eq none draft.text.toList, steady.closed, lastWord, List.append_nil]
  refine ⟨drafts, ?_, tokens, ?_⟩
  · rw [text, openAfter_append, steady.closed]
    exact inQuotes_of_scans (scans_of_closesQuotes closes)
  · rw [tokens, nesting_append, ← steady.depth]
    exact depth

theorem tokenize_of_add_blank (noComment : ';' ∉ line.toList) (added : draft.add line = .blank) :
    tokenize line = [] := by
  have code : codeOf line = line.toList := dropComment_eq_self noComment
  exact scanTokens_of_blanks (code ▸ add_eq_blank added)

/-- A line that leaves lists open leads to a steady draft with the tokens of both. -/
theorem Steady.waiting (steady : draft.Steady) (noComment : ';' ∉ line.toList)
    (closes : ClosesQuotes line) {next : Draft} (added : draft.add line = .waiting next) :
    next.Steady ∧ tokenize next.text = tokenize draft.text ++ tokenize line := by
  obtain ⟨waits, rfl⟩ := add_eq_waiting added
  obtain ⟨drafts, unquoted, tokens, depth⟩ := scan_line steady noComment closes
  generalize draft.scan (codeOf line) = scanned at waits drafts unquoted tokens depth ⊢
  -- The space that joins the lines ends a word, as the line break does in the whole text.
  have blank : isBlank ' ' := by decide
  have spaced : (scanned.text.push ' ').toList = scanned.text.toList ++ [' '] := by simp
  have same : tokenize (scanned.text.push ' ') = tokenize scanned.text := by
    rw [tokenize, spaced, scanTokens_blank unquoted blank]
    exact List.append_nil _
  refine ⟨⟨drafts, ?_, ?_, .inr ?_⟩, same.trans tokens⟩
  · dsimp only
    rw [spaced, openAfter_blank unquoted blank]
  · exact depth.trans (congrArg nesting same.symm)
  · simpa [isComplete, drafts.1] using waits

/-- A line that leaves nothing open completes a statement with the tokens of both. -/
theorem Steady.complete (steady : draft.Steady) (noComment : ';' ∉ line.toList)
    (closes : ClosesQuotes line) {statement : String} {rest : Draft}
    (added : draft.add line = .complete statement rest) :
    rest = .empty ∧ tokenize statement = tokenize draft.text ++ tokenize line ∧
      nesting (tokenize statement) = 0 := by
  obtain ⟨complete, rfl, rfl⟩ := add_eq_complete added
  obtain ⟨drafts, -, tokens, depth⟩ := scan_line steady noComment closes
  refine ⟨eq_empty_of_isComplete complete ?_, tokens, ?_⟩
  · intro escaped
    rw [drafts.2] at escaped
    cases escaped
  · rw [← depth]
    simp only [isComplete, Bool.and_eq_true, beq_iff_eq] at complete
    exact complete.1

end Line

end Draft

end ListScript
