import ListScript.Proofs.Writing

/-!
# String literals

A string literal is a word that is one quoted section: it starts with a double quote, and the next
one that is not escaped is its last character. Every literal is read as a string.

A word is read by its first and its last character alone, so it can be taken for a string without
being a literal. Its first and last quotes need not belong together: the section that starts with
the first may be closed early, and the last may be escaped, so that no section is ever closed. These
words are the only ones.

Results:
1. `Word.isLiteral_or_mispaired`, `Word.not_isLiteral_of_mispaired`: what starts and ends with a
   quote is either a literal or a word of these two kinds.
2. `classify_eq_string_iff`: what is read as a string starts and ends with a quote.
3. `OpenWord.quoted_of_isLiteral`: after a literal the scanner is outside of quotes.
4. `string_iff_literal`: what is read as a string is a literal, wherever the quotes are paired.
-/

namespace ListScript

/-! ## 1. Literals and mispaired quotes -/

namespace Word

/-- How many characters stand in front of the first double quote that is not escaped, where the flag
says whether the first character is. -/
def closing? (escaped : Bool) : List Char → Option Nat
  | [] => none
  | c :: rest =>
    if c = '"' && !escaped then some 0 else (closing? (c = '\\' && !escaped) rest).map (· + 1)

/-- The word starts with a double quote, and the first later one that is not escaped is its last
character. -/
def IsLiteral (word : List Char) : Prop :=
  ∃ body, word = '"' :: (body ++ ['"']) ∧ closing? false (body ++ ['"']) = some body.length

/-- The word starts with a double quote and ends with another one that does not close its first
section. -/
inductive Mispaired : List Char → Prop
  /-- The first section is closed before that. -/
  | early {body : List Char} {n : Nat} (closed : closing? false (body ++ ['"']) = some n)
      (before : n < body.length) : Mispaired ('"' :: (body ++ ['"']))
  /-- The first section is never closed, since the last quote is escaped. -/
  | never {body : List Char} (unclosed : closing? false (body ++ ['"']) = none) :
      Mispaired ('"' :: (body ++ ['"']))

theorem closing?_lt_length {escaped : Bool} {chars : List Char} {n : Nat}
    (closed : closing? escaped chars = some n) : n < chars.length := by
  induction chars generalizing escaped n with
  | nil => cases closed
  | cons c rest ih =>
    rw [closing?] at closed
    split at closed
    · cases closed
      exact Nat.zero_lt_succ _
    · obtain ⟨m, later, rfl⟩ := Option.map_eq_some_iff.mp closed
      exact Nat.succ_lt_succ (ih later)

/-- Between quotes there is a literal, unless the quotes are mispaired. -/
theorem isLiteral_or_mispaired (body : List Char) :
    IsLiteral ('"' :: (body ++ ['"'])) ∨ Mispaired ('"' :: (body ++ ['"'])) := by
  cases closed : closing? false (body ++ ['"']) with
  | none => exact .inr (.never closed)
  | some n =>
    have within : n < body.length + 1 := by simpa using closing?_lt_length closed
    rcases Nat.lt_succ_iff_lt_or_eq.mp within with before | rfl
    · exact .inr (.early closed before)
    · exact .inl ⟨body, rfl, closed⟩

theorem not_isLiteral_of_mispaired {word : List Char} (mispaired : Mispaired word) :
    ¬ IsLiteral word := by
  rintro ⟨body, same, closes⟩
  cases mispaired with
  | early closed before =>
    obtain rfl := List.append_cancel_right (List.cons.inj same).2
    obtain rfl := Option.some.inj (closed.symm.trans closes)
    exact Nat.lt_irrefl _ before
  | never unclosed =>
    obtain rfl := List.append_cancel_right (List.cons.inj same).2
    cases unclosed.symm.trans closes

/-! ## 2. What is read as a string -/

theorem quotedBody?_eq_some {word body : List Char} (found : quotedBody? word = some body) :
    word = '"' :: (body ++ ['"']) := by
  unfold quotedBody? at found
  split at found
  · next c rest =>
    split at found
    · next last =>
      obtain ⟨front, split⟩ := List.getLast?_eq_some_iff.mp last
      rw [split, List.dropLast_concat] at found
      rw [split, Option.some.inj found]
    · cases found
  · cases found

end Word

/-- A word is read as a string exactly if it starts and ends with a double quote, and then the
string is what stands between them. -/
theorem classify_eq_string_iff {word content : String} :
    classify word = .string content ↔
      ∃ body, word.toList = '"' :: (body ++ ['"']) ∧
        content = String.ofList (Word.unescape body) := by
  constructor
  · intro read
    unfold classify at read
    dsimp only at read
    split at read
    · split at read <;> cases read
    · split at read
      · next body found =>
        cases read
        exact ⟨body, Word.quotedBody?_eq_some found, rfl⟩
      · cases read
  · rintro ⟨body, quoted, rfl⟩
    exact classify_of_quoted quoted

/-! ## 3. Literals and the scanner -/

namespace OpenWord

/-- The word that is being read is what the scanner makes of its characters alone. -/
def Scanned (w : OpenWord) : Prop :=
  w.text.toList.foldl push empty = w

theorem scanned_empty : empty.Scanned := rfl

theorem Scanned.push {w : OpenWord} (h : w.Scanned) (c : Char) : (w.push c).Scanned := by
  have longer : (w.push c).text.toList = w.text.toList ++ [c] := String.toList_push c
  rw [Scanned, longer, List.foldl_append, h]
  rfl

theorem scanned_of_scanStep {w : Option OpenWord} {c : Char} {v : OpenWord}
    (h : ∀ u, w = some u → u.Scanned) (step : (scanStep w c).2 = some v) : v.Scanned := by
  cases w with
  | none =>
    simp only [scanStep] at step
    repeat' split at step
    all_goals cases step
    exact scanned_empty.push c
  | some w =>
    simp only [scanStep] at step
    repeat' split at step
    all_goals cases step
    exact (h w rfl).push c

theorem scanned_of_openAfter {w : Option OpenWord} {chars : List Char} {v : OpenWord}
    (h : ∀ u, w = some u → u.Scanned) (left : openAfter w chars = some v) : v.Scanned := by
  induction chars generalizing w with
  | nil => exact h v left
  | cons c rest ih => exact ih (fun _ step => scanned_of_scanStep h step) left

/-- Where the first quote that is not escaped is the last character, it closes the section. -/
theorem quoted_of_closing? {w : OpenWord} {chars : List Char} {n : Nat} (quoted : w.quoted = true)
    (closed : Word.closing? w.escaped chars = some n) (last : chars.length = n + 1) :
    (chars.foldl OpenWord.push w).quoted = false := by
  induction chars generalizing w n with
  | nil => cases closed
  | cons c rest ih =>
    rw [Word.closing?] at closed
    rw [List.foldl_cons]
    split at closed
    · next closes =>
      cases closed
      obtain rfl : rest = [] := List.length_eq_zero_iff.mp (Nat.succ.inj last)
      simp [OpenWord.push, closes, quoted]
    · next inside =>
      obtain ⟨m, later, rfl⟩ := Option.map_eq_some_iff.mp closed
      refine ih ?_ later (Nat.succ.inj last)
      simp [OpenWord.push, inside, quoted]

/-- After a literal no section is open. -/
theorem quoted_of_isLiteral {w : OpenWord} (scanned : w.Scanned)
    (literal : Word.IsLiteral w.text.toList) : w.quoted = false := by
  obtain ⟨body, same, closed⟩ := literal
  rw [← scanned, same]
  exact @quoted_of_closing? (empty.push '"') _ _ rfl closed (by simp)

end OpenWord

/-- What a text leaves in an open section is its last token, and it is no literal. -/
theorem exists_last_of_inQuotes {text : String}
    (opened : inQuotes (openAfter none text.toList) = true) :
    ∃ front word, tokenize text = front ++ [.word word] ∧ ¬ Word.IsLiteral word.toList := by
  cases left : openAfter none text.toList with
  | none =>
    rw [left] at opened
    cases opened
  | some w =>
    rw [left] at opened
    refine ⟨closedTokens none text.toList, w.text, ?_, ?_⟩
    · rw [tokenize, scanTokens_eq, left, lastWord]
    · intro literal
      have scanned : w.Scanned := OpenWord.scanned_of_openAfter (fun _ none => by cases none) left
      have closed : w.quoted = false := OpenWord.quoted_of_isLiteral scanned literal
      cases opened.symm.trans closed

/-! ## 4. Strings are literals -/

/-- The words that are read as strings are the literals and those with mispaired quotes. -/
theorem exists_string_iff {word : String} :
    (∃ content, classify word = .string content) ↔
      Word.IsLiteral word.toList ∨ Word.Mispaired word.toList := by
  constructor
  · rintro ⟨content, found⟩
    obtain ⟨body, quoted, -⟩ := classify_eq_string_iff.mp found
    rw [quoted]
    exact Word.isLiteral_or_mispaired body
  · intro quoted
    have wrapped : ∃ body, word.toList = '"' :: (body ++ ['"']) := by
      rcases quoted with ⟨body, same, -⟩ | mispaired
      · exact ⟨body, same⟩
      · generalize word.toList = chars at mispaired
        cases mispaired with
        | early => exact ⟨_, rfl⟩
        | never => exact ⟨_, rfl⟩
    obtain ⟨body, same⟩ := wrapped
    exact ⟨_, classify_of_quoted same⟩

/-- A text whose first value is a string starts with the word of that string. -/
theorem exists_word_of_read {text content : String} (found : read text = .ok (.string content)) :
    ∃ word rest, tokenize text = .word word :: rest ∧ classify word = .string content := by
  obtain ⟨tree, tokens, -, value⟩ := parse_eq_ok_iff.mp (Prod.ext found rfl)
  cases tree with
  | word word => exact ⟨word, _, tokens, value.symm⟩
  | list trees => cases value

/-- What is read as a string is a literal, unless its first and its last quote do not belong
together. Take any text and a token of it. Where its quotes are not mispaired, it is read as a
string exactly if it is a literal. Where they are, it is read as a string and is no literal. A text
that ends in an open quoted section ends with a token that is no literal. And where the first value
of a text is a string, the text starts with the word between whose quotes it is spelled. Unless
these are mispaired, the word is one literal, and not what the text leaves open. -/
theorem string_iff_literal (text : String) :
    (∀ token ∈ tokenize text,
      (¬ Word.Mispaired token.text.toList →
        ((∃ content, classify token.text = .string content) ↔
          Word.IsLiteral token.text.toList)) ∧
      (Word.Mispaired token.text.toList →
        (∃ content, classify token.text = .string content) ∧
          ¬ Word.IsLiteral token.text.toList)) ∧
    (inQuotes (openAfter none text.toList) = true →
      ∃ front word, tokenize text = front ++ [.word word] ∧ ¬ Word.IsLiteral word.toList) ∧
    ∀ content, read text = .ok (.string content) →
      ∃ word rest body, tokenize text = .word word :: rest ∧
        word.toList = '"' :: (body ++ ['"']) ∧ content = String.ofList (Word.unescape body) ∧
        (¬ Word.Mispaired word.toList → Word.IsLiteral word.toList ∧
          (inQuotes (openAfter none text.toList) = true → rest ≠ [])) := by
  refine ⟨fun token _ => ⟨?_, ?_⟩, exists_last_of_inQuotes, ?_⟩
  · intro paired
    rw [exists_string_iff]
    exact or_iff_left paired
  · intro mispaired
    exact ⟨exists_string_iff.mpr (.inr mispaired), Word.not_isLiteral_of_mispaired mispaired⟩
  · intro content found
    obtain ⟨word, rest, tokens, string⟩ := exists_word_of_read found
    obtain ⟨body, quoted, spelled⟩ := classify_eq_string_iff.mp string
    refine ⟨word, rest, body, tokens, quoted, spelled, ?_⟩
    intro paired
    have literal : Word.IsLiteral word.toList :=
      (exists_string_iff.mp ⟨content, string⟩).resolve_right paired
    refine ⟨literal, ?_⟩
    -- If nothing followed the word, it would be the token that the text leaves open.
    rintro opened rfl
    obtain ⟨front, last, parts, noLiteral⟩ := exists_last_of_inQuotes opened
    have same : [] ++ [Token.word word] = front ++ [.word last] := tokens.symm.trans parts
    cases List.append_inj_right' same rfl
    exact noLiteral literal

/-- A text that ends in an open section is read as a string, and so are two sections in one. -/
theorem string_without_literal :
    (inQuotes (openAfter none "\"a\\\"".toList) = true ∧
      tokenize "\"a\\\"" = [.word "\"a\\\""] ∧
      classify "\"a\\\"" = .string "a\\" ∧ read "\"a\\\"" = .ok (.string "a\\") ∧
      ¬ Word.IsLiteral "\"a\\\"".toList) ∧
    tokenize "\"a\"\"b\"" = [.word "\"a\"\"b\""] ∧
      classify "\"a\"\"b\"" = .string "a\"\"b" ∧
      read "\"a\"\"b\"" = .ok (.string "a\"\"b") ∧
      ¬ Word.IsLiteral "\"a\"\"b\"".toList := by
  have unclosed : Word.Mispaired "\"a\\\"".toList := @Word.Mispaired.never ['a', '\\'] rfl
  have joined : Word.Mispaired "\"a\"\"b\"".toList :=
    @Word.Mispaired.early ['a', '"', '"', 'b'] 1 rfl (by decide)
  refine ⟨⟨by decide +kernel, by decide +kernel, by rfl, by rfl, ?_⟩,
    by decide +kernel, by rfl, by rfl, ?_⟩
  · exact Word.not_isLiteral_of_mispaired unclosed
  · exact Word.not_isLiteral_of_mispaired joined

end ListScript
