import ListScript.Proofs.Drafting

/-!
# Comments

A comment is what follows the first semicolon that no backslash escapes, and the semicolon itself. A
backslash escapes unless it is escaped itself, so of the backslashes at the end of some code every
second one does, whether they stand in quotes or not. Behind code that ends with an odd number of
them a semicolon is code. Behind any other line a semicolon begins a comment, unless one began
before, and with the comment the line has the same code.

In a text a comment goes between a line and its end. A carriage return in front of the line feed is
part of the end, so the comment stands in front of both.

Results:
1. `escapedAfter_iff`: what escapes is an odd number of backslashes.
2. `dropComment_append`: a comment is dropped, whatever it says.
3. `endsEscaping_of_codeOf`: a semicolon in the code of a line is escaped.
4. `Annotated.sameCode`: in a text with comments the lines have the same code.
-/

namespace ListScript

/-! ## 1. Escapes -/

/-- How many backslashes some characters end with. -/
def trailingBackslashes (chars : List Char) : Nat :=
  (chars.reverse.takeWhile (· == '\\')).length

/-- The last character is a backslash that is not escaped: an even number of backslashes stands in
front of it. -/
def EndsEscaping (chars : List Char) : Prop :=
  trailingBackslashes chars % 2 = 1

instance (chars : List Char) : Decidable (EndsEscaping chars) :=
  inferInstanceAs (Decidable (_ = _))

/-- Whether the character after these is escaped, given whether the first one is. -/
def escapedAfter (escaped : Bool) (chars : List Char) : Bool :=
  chars.foldl (fun escaped c => c = '\\' && !escaped) escaped

theorem escapedAfter_cons (escaped : Bool) (c : Char) (rest : List Char) :
    escapedAfter escaped (c :: rest) = escapedAfter (c = '\\' && !escaped) rest := rfl

theorem escapedAfter_concat (escaped : Bool) (chars : List Char) (c : Char) :
    escapedAfter escaped (chars ++ [c]) = (c = '\\' && !escapedAfter escaped chars) := by
  rw [escapedAfter, List.foldl_append]
  rfl

/-- The flag alternates along the backslashes at the end, here read from the last character on. -/
theorem escapedAfter_reverse (reversed : List Char) :
    escapedAfter false reversed.reverse = true ↔
      (reversed.takeWhile (· == '\\')).length % 2 = 1 := by
  induction reversed with
  | nil => simp [escapedAfter]
  | cons c rest ih =>
    rw [List.reverse_cons, escapedAfter_concat]
    by_cases backslash : c = '\\'
    · subst backslash
      rw [List.takeWhile_cons_of_pos (by rfl), List.length_cons]
      cases flag : escapedAfter false rest.reverse with
      | true =>
        have odd := ih.mp flag
        simp only [decide_true, Bool.not_true, Bool.and_false, Bool.false_eq_true, false_iff]
        omega
      | false =>
        have even : ¬ (rest.takeWhile (· == '\\')).length % 2 = 1 := by
          rw [← ih, flag]
          exact Bool.false_ne_true
        simp only [decide_true, Bool.not_false, Bool.and_self, true_iff]
        omega
    · rw [List.takeWhile_cons_of_neg (by simpa using backslash)]
      simp [backslash]

/-- Of the backslashes at the end every second one escapes. -/
theorem escapedAfter_iff (chars : List Char) :
    escapedAfter false chars = true ↔ EndsEscaping chars := by
  have whole := escapedAfter_reverse chars.reverse
  rwa [List.reverse_reverse] at whole

/-! ## 2. Lines -/

/-- A comment is dropped, whatever it says, if its semicolon is not escaped. -/
theorem dropComment_append {escaped : Bool} {line : List Char}
    (ends : escapedAfter escaped line = false) (comment : List Char) :
    dropComment escaped (line ++ ';' :: comment) = dropComment escaped line := by
  induction line generalizing escaped with
  | nil =>
    obtain rfl : escaped = false := ends
    rfl
  | cons c rest ih =>
    rw [escapedAfter_cons] at ends
    rw [List.cons_append, dropComment, dropComment, ih ends]

/-- A semicolon in the code is escaped. -/
theorem escapedAfter_of_dropComment {escaped : Bool} {line before after : List Char}
    (split : dropComment escaped line = before ++ ';' :: after) :
    escapedAfter escaped before = true := by
  induction line generalizing escaped before with
  | nil => simp [dropComment] at split
  | cons c rest ih =>
    rw [dropComment] at split
    split at split
    · simp at split
    · next code =>
      cases before with
      | nil =>
        obtain ⟨rfl, -⟩ := List.cons.inj split
        simpa [escapedAfter] using code
      | cons b before =>
        obtain ⟨rfl, later⟩ := List.cons.inj split
        rw [escapedAfter_cons]
        exact ih later

/-- In the code of a line an odd number of backslashes stands in front of each semicolon. -/
theorem endsEscaping_of_codeOf {line : String} {before after : List Char}
    (split : codeOf line = before ++ ';' :: after) : EndsEscaping before :=
  (escapedAfter_iff before).mp (escapedAfter_of_dropComment split)

/-- A line and a comment have the code of the line, unless the line ends with a backslash that
escapes the semicolon. -/
theorem dropComment_comment {line : List Char} (ends : ¬ EndsEscaping line)
    (comment : List Char) : dropComment false (line ++ ';' :: comment) = dropComment false line :=
  dropComment_append (Bool.eq_false_iff.mpr (mt (escapedAfter_iff line).mp ends)) comment

/-- The line itself, or the line with a comment that stays on it. A line that ends with a backslash
that is not escaped gets none. -/
inductive Commented (line : List Char) : List Char → Prop
  | same : Commented line line
  | added {comment : List Char} (ends : ¬ EndsEscaping line) (onLine : '\n' ∉ comment) :
      Commented line (line ++ ';' :: comment)

theorem Commented.code_eq {line line' : List Char} (h : Commented line line') :
    dropComment false line' = dropComment false line := by
  cases h with
  | same => rfl
  | added ends onLine => exact dropComment_comment ends _

theorem Commented.onLine {line line' : List Char} (h : Commented line line')
    (onLine : '\n' ∉ line) : '\n' ∉ line' := by
  cases h with
  | same => exact onLine
  | added ends whole =>
    rw [List.mem_append, List.mem_cons, not_or, not_or]
    exact ⟨onLine, by decide, whole⟩

/-! ## 3. Texts -/

/-- The second text is the first with comments on some of its lines. Each stands in front of the end
of its line: a line feed, or a carriage return and a line feed. What follows the last line feed is a
line too. -/
inductive Annotated : List Char → List Char → Prop
  | last {line line' : List Char} (onLine : '\n' ∉ line) (commented : Commented line line') :
      Annotated line line'
  | lineFeed {line line' rest rest' : List Char} (onLine : '\n' ∉ line)
      (noReturn : line.getLast? ≠ some '\r') (commented : Commented line line')
      (later : Annotated rest rest') : Annotated (line ++ '\n' :: rest) (line' ++ '\n' :: rest')
  | returnLineFeed {line line' rest rest' : List Char} (onLine : '\n' ∉ line)
      (commented : Commented line line') (later : Annotated rest rest') :
      Annotated (line ++ '\r' :: '\n' :: rest) (line' ++ '\r' :: '\n' :: rest')

/-- A text has comments on none of its lines. -/
theorem Annotated.refl (text : List Char) : Annotated text text := by
  -- The line that is being read grows up to its line feed.
  have reads (rest line : List Char) (onLine : '\n' ∉ line) :
      Annotated (line ++ rest) (line ++ rest) := by
    induction rest generalizing line with
    | nil =>
      rw [List.append_nil]
      exact .last onLine .same
    | cons c rest ih =>
      by_cases ends : c = '\n'
      · subst ends
        have later : Annotated rest rest := ih [] List.not_mem_nil
        by_cases returned : line.getLast? = some '\r'
        · obtain ⟨front, rfl⟩ := List.getLast?_eq_some_iff.mp returned
          rw [List.append_assoc, List.singleton_append]
          exact .returnLineFeed (fun mem => onLine (List.mem_append_left _ mem)) .same later
        · exact .lineFeed onLine returned .same later
      · have longer : '\n' ∉ line ++ [c] := by simpa [onLine] using Ne.symm ends
        have whole := ih (line ++ [c]) longer
        rwa [List.append_assoc, List.singleton_append] at whole
  exact reads text [] List.not_mem_nil

/-- The lines in order have the same code. At the end there may be one more line without code. -/
inductive SameCode : List String → List String → Prop
  | nil : SameCode [] []
  | remark {line : String} (nothing : codeOf line = []) : SameCode [] [line]
  | cons {line line' : String} {rest rest' : List String} (same : codeOf line' = codeOf line)
      (later : SameCode rest rest') : SameCode (line :: rest) (line' :: rest')

/-- A draft goes by the code of lines alone. -/
theorem Draft.add_congr {line line' : String} (same : codeOf line' = codeOf line) (draft : Draft) :
    draft.add line' = draft.add line := by
  unfold add
  rw [same]

theorem Draft.add_of_no_code {line : String} (nothing : codeOf line = []) (draft : Draft) :
    draft.add line = .blank := by
  unfold add
  rw [nothing]
  rfl

theorem codeOf_ofList (line : List Char) :
    codeOf (String.ofList line) = dropComment false line := by
  rw [codeOf, String.toList_ofList]

namespace Lines

theorem split_append {current line : List Char} (onLine : '\n' ∉ line) (rest : List Char) :
    split current (line ++ rest) = split (line.reverse ++ current) rest := by
  induction line generalizing current with
  | nil => rfl
  | cons c line ih =>
    rw [List.mem_cons, not_or] at onLine
    rw [List.cons_append, split, if_neg (Ne.symm onLine.1), ih onLine.2, List.reverse_cons,
      List.append_assoc, List.singleton_append]

/-- A line feed ends the first line. -/
theorem split_lineFeed {line : List Char} (onLine : '\n' ∉ line) (rest : List Char) :
    split [] (line ++ '\n' :: rest) = chomp line :: split [] rest := by
  rw [split_append onLine, split, if_pos rfl, List.append_nil, List.reverse_reverse]

theorem split_last {line : List Char} (onLine : '\n' ∉ line) :
    split [] line = if line.isEmpty then [] else [line] := by
  have whole : split [] (line ++ []) = split (line.reverse ++ []) [] := split_append onLine []
  rw [List.append_nil, List.append_nil, split, List.isEmpty_reverse, List.reverse_reverse] at whole
  exact whole

theorem chomp_return (line : List Char) : chomp (line ++ ['\r']) = line := by
  simp [chomp]

theorem chomp_of_noReturn {line : List Char} (noReturn : line.getLast? ≠ some '\r') :
    chomp line = line := by
  unfold chomp
  split
  · next ends => exact absurd ends noReturn
  · rfl

/-- A carriage return in front of the line feed is part of the end. -/
theorem split_returnLineFeed {line : List Char} (onLine : '\n' ∉ line) (rest : List Char) :
    split [] (line ++ '\r' :: '\n' :: rest) = line :: split [] rest := by
  have onLine' : '\n' ∉ line ++ ['\r'] := by simpa using onLine
  have whole := split_lineFeed onLine' rest
  rwa [List.append_assoc, List.singleton_append, chomp_return] at whole

/-- A carriage return at the end of a comment is part of the comment. -/
theorem exists_chomp_comment (line comment : List Char) :
    ∃ comment', chomp (line ++ ';' :: comment) = line ++ ';' :: comment' := by
  rcases List.eq_nil_or_concat comment with rfl | ⟨front, c, rfl⟩
  · refine ⟨[], chomp_of_noReturn ?_⟩
    rw [List.getLast?_concat]
    decide
  · have last : line ++ ';' :: front.concat c = (line ++ ';' :: front) ++ [c] := by simp
    by_cases ends : c = '\r'
    · subst ends
      exact ⟨front, by rw [last, chomp_return]⟩
    · refine ⟨front.concat c, chomp_of_noReturn ?_⟩
      rw [last, List.getLast?_concat]
      simpa using ends

/-- A comment in front of a line feed leaves the code of the line, whatever the comment ends with. -/
theorem dropComment_chomp {line line' : List Char} (noReturn : line.getLast? ≠ some '\r')
    (commented : Commented line line') :
    dropComment false (chomp line') = dropComment false line := by
  cases commented with
  | same => rw [chomp_of_noReturn noReturn]
  | @added comment ends _ =>
    obtain ⟨comment', chomped⟩ := exists_chomp_comment line comment
    rw [chomped, dropComment_comment ends]

end Lines

open Lines in
/-- The lines of a text with comments have the code of the lines of the text. -/
theorem Annotated.sameCode {text text' : List Char} (h : Annotated text text') :
    SameCode ((Lines.split [] text).map String.ofList)
      ((Lines.split [] text').map String.ofList) := by
  have first {line line' : List Char} {rest rest' : List (List Char)}
      (same : dropComment false line' = dropComment false line)
      (later : SameCode (rest.map String.ofList) (rest'.map String.ofList)) :
      SameCode ((line :: rest).map String.ofList) ((line' :: rest').map String.ofList) :=
    .cons (by rw [codeOf_ofList, codeOf_ofList, same]) later
  induction h with
  | @last line line' onLine commented =>
    rw [split_last onLine, split_last (commented.onLine onLine)]
    cases commented with
    | same =>
      split
      · exact .nil
      · exact first rfl .nil
    | @added comment ends _ =>
      have present : (line ++ ';' :: comment).isEmpty = false := by simp
      rw [present]
      cases line with
      | nil => exact .remark (codeOf_ofList _)
      | cons c rest => exact first (dropComment_comment ends comment) .nil
  | lineFeed onLine noReturn commented later ih =>
    rw [split_lineFeed onLine, split_lineFeed (commented.onLine onLine), chomp_of_noReturn noReturn]
    exact first (dropComment_chomp noReturn commented) ih
  | returnLineFeed onLine commented later ih =>
    rw [split_returnLineFeed onLine, split_returnLineFeed (commented.onLine onLine)]
    exact first commented.code_eq ih

end ListScript
