import ListScript.Proofs.Completion

/-!
# Statements over several lines

A line that does not complete a statement is followed by a space, and the space is text that the
draft does not scan. Scanning it would change nothing, except behind a backslash in a quoted
section: there the backslash would escape the space, and as it is it escapes the first character of
the next line. That matters if this character is a quote or a backslash.

Results:
1. `Draft.scan_spaced`: where a space may be scanned.
2. `Session.feed_fragments`: a statement in several lines does what it does on one.
3. `Session.feed_fragments_escaped`: a line that begins with a quote behind a backslash.
-/

namespace ListScript

namespace Draft

/-! ## 1. The space between lines -/

/-- The draft with a space that is not scanned. -/
def spaced (draft : Draft) : Draft :=
  { draft with text := draft.text.push ' ' }

/-- No backslash that the draft ends in escapes a quote or a backslash at the beginning of the
code. -/
def Seam (draft : Draft) (code : List Char) : Prop :=
  draft.escaped = true → code.head? ≠ some '"' ∧ code.head? ≠ some '\\'

instance (draft : Draft) (code : List Char) : Decidable (draft.Seam code) :=
  inferInstanceAs (Decidable (_ → _))

/-- A space that is scanned uses up an escape and changes nothing else. -/
theorem push_space {draft : Draft} (h : draft.EscapedInQuotes) :
    draft.push ' ' = { draft.spaced with escaped := false } := by
  obtain ⟨text, depth, quoted, escaped⟩ := draft
  cases quoted with
  | true => cases escaped <;> rfl
  | false =>
    cases escaped with
    | false => rfl
    | true => cases h rfl

/-- An escape of a character that needs none might as well not have been there. -/
theorem push_escaped {draft : Draft} {c : Char} (quoted : draft.quoted = true)
    (noQuote : c ≠ '"') (noBackslash : c ≠ '\\') :
    draft.push c = { draft with escaped := false }.push c := by
  obtain ⟨text, depth, isQuoted, escaped⟩ := draft
  cases quoted
  cases escaped <;> simp [push, noQuote, noBackslash]

/-- At a seam the space may be scanned. -/
theorem scan_spaced {draft : Draft} {code : List Char} (h : draft.EscapedInQuotes)
    (seam : draft.Seam code) (present : code ≠ []) :
    draft.spaced.scan code = draft.scan (' ' :: code) := by
  obtain ⟨c, rest, rfl⟩ := List.exists_cons_of_ne_nil present
  have first : draft.spaced.push c = (draft.push ' ').push c := by
    rw [push_space h]
    cases escaped : draft.escaped with
    | false =>
      have unescaped : draft.spaced.escaped = false := escaped
      rw [← unescaped]
    | true =>
      obtain ⟨noQuote, noBackslash⟩ := seam escaped
      have quoted : draft.spaced.quoted = true := h escaped
      exact push_escaped quoted (by simpa using noQuote) (by simpa using noBackslash)
  simp only [scan, List.foldl_cons, first]

/-! ## 2. Lines and their joined text -/

/-- The draft after lines that do not complete a statement. -/
def afterLines (draft : Draft) (lines : List String) : Draft :=
  lines.foldl (fun draft line => (draft.scan line.toList).spaced) draft

/-- Between any two lines there is a seam. -/
def Seams (draft : Draft) : List String → Prop
  | line :: next :: rest =>
    (draft.scan line.toList).Seam next.toList ∧
      (draft.scan line.toList).spaced.Seams (next :: rest)
  | _ => True

instance decidableSeams (draft : Draft) : (lines : List String) → Decidable (draft.Seams lines)
  | line :: next :: rest =>
    have := decidableSeams (draft.scan line.toList).spaced (next :: rest)
    inferInstanceAs (Decidable (_ ∧ _))
  | [] => isTrue trivial
  | [_] => isTrue trivial

end Draft

/-- Lines on one line, a space apart. -/
def joinLines (lines : List String) : String :=
  " ".intercalate lines

namespace FragmentLemmas

theorem toList_joinLines_cons (line next : String) (rest : List String) :
    (joinLines (line :: next :: rest)).toList =
      line.toList ++ ' ' :: (joinLines (next :: rest)).toList := by
  simp [joinLines, String.intercalate_cons_cons]

/-- The joined text begins with its first line. -/
theorem toList_joinLines (line : String) (rest : List String) :
    ∃ more, (joinLines (line :: rest)).toList = line.toList ++ more := by
  cases rest with
  | nil => exact ⟨[], by simp [joinLines]⟩
  | cons next rest => exact ⟨_, toList_joinLines_cons line next rest⟩

theorem mem_joinLines {lines : List String} {c : Char} (other : c ≠ ' ')
    (mem : c ∈ (joinLines lines).toList) : ∃ line ∈ lines, c ∈ line.toList := by
  induction lines with
  | nil => simp [joinLines] at mem
  | cons line rest ih =>
    cases rest with
    | nil => exact ⟨line, List.mem_cons_self, by simpa [joinLines] using mem⟩
    | cons next rest =>
      rw [toList_joinLines_cons, List.mem_append, List.mem_cons] at mem
      rcases mem with here | space | later
      · exact ⟨line, List.mem_cons_self, here⟩
      · exact absurd space other
      · obtain ⟨found, memRest, hc⟩ := ih later
        exact ⟨found, List.mem_cons_of_mem line memRest, hc⟩

theorem toList_ne_nil {line : String} (notBlank : ¬ isBlankText line) : line.toList ≠ [] := by
  intro none
  simp [isBlankText, none] at notBlank

end FragmentLemmas

open FragmentLemmas

/-- Scanning lines with spaces between them that are not scanned is scanning the joined text, if the
lines meet at seams. -/
theorem Draft.scan_afterLines {draft : Draft} {init : List String} {last : String}
    (h : draft.EscapedInQuotes) (notBlank : ∀ line ∈ init ++ [last], ¬ isBlankText line)
    (seams : draft.Seams (init ++ [last])) :
    (draft.afterLines init).scan last.toList =
      draft.scan (joinLines (init ++ [last])).toList := by
  induction init generalizing draft with
  | nil => simp [afterLines, joinLines]
  | cons line init ih =>
    obtain ⟨next, rest, follow⟩ : ∃ next rest, init ++ [last] = next :: rest :=
      List.exists_cons_of_ne_nil (by simp)
    rw [List.cons_append] at notBlank seams ⊢
    have later := fun other mem => notBlank other (List.mem_cons_of_mem line mem)
    have escaped := escapedInQuotes_scan h line.toList
    have escapedSpaced : (draft.scan line.toList).spaced.EscapedInQuotes := escaped
    rw [follow] at seams
    obtain ⟨seam, seams⟩ := seams
    have stepped := ih escapedSpaced later (follow ▸ seams)
    rw [follow] at stepped ⊢
    -- The joined text begins as the next line does, so it meets the draft at the same seam.
    have present : next.toList ≠ [] := toList_ne_nil (later next (follow ▸ List.mem_cons_self))
    obtain ⟨more, joined⟩ := toList_joinLines next rest
    have joinedPresent : (joinLines (next :: rest)).toList ≠ [] := by
      rw [joined]
      simp [present]
    have joinedSeam : (draft.scan line.toList).Seam (joinLines (next :: rest)).toList := by
      have first : (next.toList ++ more).head? = next.toList.head? := by
        rw [List.head?_append, Option.or_of_isSome (by simp [present])]
      rw [Seam, joined, first]
      exact seam
    calc (draft.afterLines (line :: init)).scan last.toList
      _ = (draft.scan line.toList).spaced.scan (joinLines (next :: rest)).toList := stepped
      _ = (draft.scan line.toList).scan (' ' :: (joinLines (next :: rest)).toList) :=
        scan_spaced escaped joinedSeam joinedPresent
      _ = draft.scan (joinLines (line :: next :: rest)).toList := by
        rw [toList_joinLines_cons, scan_append]

/-! ## 3. Feeding lines -/

namespace Session

/-- The session after some lines were fed. -/
def feedEach (s : Session) (echo : Bool) (lines : List String) : Session :=
  lines.foldl (fun s line => (s.feed line echo).2) s

/-- Each line that is fed leaves something to complete. -/
def AllWait (s : Session) (echo : Bool) : List String → Prop
  | [] => True
  | line :: rest =>
    (s.feed line echo).1 = .ok false ∧ (s.feed line echo).2.AllWait echo rest

/-- A line that leaves something to complete changes nothing but the draft. -/
theorem feed_of_waits {s : Session} {line : String} {echo : Bool} (noComment : ';' ∉ line.toList)
    (waits : (s.feed line echo).1 = .ok false) :
    s.feed line echo = (.ok false, { s with draft := (s.draft.scan line.toList).spaced }) := by
  have code : codeOf line = line.toList := dropComment_eq_self noComment
  cases added : s.draft.add line with
  | blank =>
    rw [feed, added] at waits
    cases waits
  | waiting next =>
    obtain ⟨-, rfl⟩ := Draft.add_eq_waiting added
    rw [code] at added
    exact feed_waiting added
  | complete statement rest =>
    rw [feed_complete added] at waits
    exact absurd waits (endStatement_ne_waiting _ _)

theorem feedEach_of_allWait {s : Session} {echo : Bool} {lines : List String}
    (noComment : ∀ line ∈ lines, ';' ∉ line.toList) (waits : s.AllWait echo lines) :
    s.feedEach echo lines = { s with draft := s.draft.afterLines lines } := by
  induction lines generalizing s with
  | nil => rfl
  | cons line rest ih =>
    obtain ⟨noComment, noComments⟩ := List.forall_mem_cons.mp noComment
    obtain ⟨wait, waits⟩ := waits
    have fed := feed_of_waits noComment wait
    rw [fed] at waits
    have later := ih noComments waits
    rw [feedEach, List.foldl_cons, fed]
    exact later

/-- What feeding does to a session depends on the draft that scanning leads to. -/
theorem feed_eq_of_scan_eq {s : Session} {draft : Draft} {line line' : String} {echo : Bool}
    (same : draft.scan (codeOf line) = s.draft.scan (codeOf line'))
    (notBlank : ¬ (codeOf line).all isBlank) (notBlank' : ¬ (codeOf line').all isBlank) :
    feed { s with draft } line echo = s.feed line' echo := by
  have added : draft.add line = s.draft.add line' := by
    simp only [Draft.add, if_neg notBlank, if_neg notBlank', same]
  simp only [feed, added]
  split
  · next blank => exact absurd (Draft.add_eq_blank blank) notBlank'
  · rfl
  · next statement rest _ =>
    have sameImports : imports { s with draft } = s.imports := rfl
    simp only [run, sameImports]
    cases Module.runStatement s.setting _ echo statement s.store <;> rfl

/-- A statement that is fed in several lines does what it does on one line: the last line has the
same outcome and leaves the same session as the lines a space apart. No backslash may stand in front
of the end of a line so that it escapes a quote or a backslash at the beginning of the next. -/
theorem feed_fragments {s : Session} (reached : s.draft.Reached) {init : List String}
    {last : String} {echo : Bool} (notBlank : ∀ line ∈ init ++ [last], ¬ isBlankText line)
    (noComment : ∀ line ∈ init ++ [last], ';' ∉ line.toList) (waits : s.AllWait echo init)
    (seams : s.draft.Seams (init ++ [last])) :
    (s.feedEach echo init).feed last echo = s.feed (joinLines (init ++ [last])) echo := by
  have noComments (line : String) (mem : line ∈ init) : ';' ∉ line.toList :=
    noComment line (List.mem_append_left _ mem)
  have lastMem : last ∈ init ++ [last] := List.mem_append_right _ List.mem_cons_self
  have code : codeOf last = last.toList := dropComment_eq_self (noComment last lastMem)
  have joinedCode : codeOf (joinLines (init ++ [last])) = (joinLines (init ++ [last])).toList := by
    refine dropComment_eq_self fun found => ?_
    obtain ⟨line, mem, hc⟩ := mem_joinLines (by decide) found
    exact noComment line mem hc
  rw [feedEach_of_allWait noComments waits]
  refine feed_eq_of_scan_eq ?_ ?_ ?_
  · rw [code, joinedCode]
    exact Draft.scan_afterLines reached.escapedInQuotes notBlank seams
  · rw [code]
    exact notBlank last lastMem
  · rw [joinedCode]
    obtain ⟨first, rest, split⟩ : ∃ first rest, init ++ [last] = first :: rest :=
      List.exists_cons_of_ne_nil (by simp)
    obtain ⟨more, joined⟩ := toList_joinLines first rest
    have firstNotBlank := notBlank first (split ▸ List.mem_cons_self)
    rw [split, joined, List.all_append, Bool.and_eq_true]
    exact fun blank => firstNotBlank blank.1

/-- A statement that is cut in front of a form, inside a quoted section and behind a backslash that
escapes nothing. -/
theorem feed_fragments_quoted :
    let s := Session.new {}
    let init := ["(print", " \"a ( \\", "b \\\"", "\\\" \""]
    let last := ")"
    let fed := (s.feedEach true init).feed last true
    (s.draft.Reached ∧ (∀ line ∈ init ++ [last], ¬ isBlankText line) ∧
      (∀ line ∈ init ++ [last], ';' ∉ line.toList) ∧ s.AllWait true init ∧
      s.draft.Seams (init ++ [last])) ∧
    fed = s.feed "(print  \"a ( \\ b \\\" \\\" \" )" true ∧
    fed.2.store.sink.text = "a ( \\ b \" \" \n#t\n" := by
  intro s init last fed
  have reached : s.draft.Reached := by
    simp only [s, new_eq_after]
    exact reached_after .empty _
  have notBlank : ∀ line ∈ init ++ [last], ¬ isBlankText line := by decide +kernel
  have noComment : ∀ line ∈ init ++ [last], ';' ∉ line.toList := by decide +kernel
  have waits : s.AllWait true init :=
    ⟨eq_ok_of_toOption (by decide +kernel), eq_ok_of_toOption (by decide +kernel),
      eq_ok_of_toOption (by decide +kernel), eq_ok_of_toOption (by decide +kernel), trivial⟩
  have seams : s.draft.Seams (init ++ [last]) := by decide +kernel
  have joined : joinLines (init ++ [last]) = "(print  \"a ( \\ b \\\" \\\" \" )" := by
    decide +kernel
  have same := feed_fragments reached notBlank noComment waits seams
  rw [joined] at same
  exact ⟨⟨reached, notBlank, noComment, waits, seams⟩, same, by decide +kernel⟩

/-- Behind a backslash at the end of a line the quote that begins the next line closes nothing. On
one line the backslash escapes the space, and the statement is complete. -/
theorem feed_fragments_escaped :
    let s := Session.new {}
    let first := "(quote \"a\\"
    let last := "\")"
    (s.isIdle ∧ (∀ line ∈ [first, last], ¬ isBlankText line ∧ ';' ∉ line.toList) ∧
      s.AllWait true [first]) ∧
    joinLines [first, last] = "(quote \"a\\ \")" ∧
    (s.feed (joinLines [first, last]) true).1 = .ok true ∧
    (s.feed (joinLines [first, last]) true).2.store.sink.text = "a\\ \n" ∧
    ((s.feedEach true [first]).feed last true).1 = .ok false ∧
    ((s.feedEach true [first]).feed last true).2.store.sink.text = "" := by
  refine ⟨⟨by decide +kernel, by decide +kernel, eq_ok_of_toOption (by decide +kernel), trivial⟩,
    by decide +kernel, eq_ok_of_toOption (by decide +kernel), by decide +kernel,
    eq_ok_of_toOption (by decide +kernel), by decide +kernel⟩

end Session

end ListScript
