import ListScript.Proofs.Sections

/-!
# Texts one after another

A text that is read whole and does not end inside a quoted section is done with at its end. What is
read from a longer text, in which blanks and another text follow, is what the first was read as and
then what the other is read as. If the other is refused, the whole is refused for the same reason,
also where the other begins with a closing parenthesis.

The seam cuts the tokens between the two texts, since a blank outside of quoted sections ends every
word. The first tokens are those of whole trees, and the reader takes them off the front one tree at
a time, whatever stands behind them.

Results:
1. `parseAll_append_of_ok`: tokens that are read whole are read first, wherever they stand in front.
2. `readAll_append`: two texts are read one after the other.
-/

namespace ListScript

open FormTree

/-- Tokens of trees are read as their values, and then the tokens behind them are read. -/
theorem parseAll_flatMap_tokens {trees : List FormTree}
    (fitting : ∀ tree ∈ trees, tree.depth < nestingLimit) (more : List Token) :
    parseAll (trees.flatMap tokens ++ more) = (parseAll more).map (trees.map value ++ ·) := by
  induction trees with
  | nil => cases parsed : parseAll more <;> simp [parsed, Except.map]
  | cons tree others ih =>
    obtain ⟨fits, fitting⟩ := List.forall_mem_cons.mp fitting
    obtain ⟨token, following, front⟩ := tree.exists_tokens_eq_cons
    have taken : parse (token :: (following ++ (others.flatMap tokens ++ more))) =
        (.ok tree.value, others.flatMap tokens ++ more) :=
      parse_eq_ok_iff.mpr ⟨tree, by rw [front, List.cons_append], fits, rfl⟩
    rw [List.flatMap_cons, List.append_assoc, front, List.cons_append, parseAll_of_parse taken,
      ih fitting]
    cases parseAll more <;> rfl

/-- Tokens that are read whole are read first, wherever they stand in front of others. -/
theorem parseAll_append_of_ok {tokens : List Token} {forms : List Value}
    (accepted : parseAll tokens = .ok forms) (more : List Token) :
    parseAll (tokens ++ more) = (parseAll more).map (forms ++ ·) := by
  obtain ⟨trees, rfl, fitting, rfl⟩ := parseAll_eq_ok_iff.mp accepted
  exact parseAll_flatMap_tokens fitting more

/-- A text behind another one and a run of blanks is read after it, if the first is read whole and
does not end inside a quoted section. The forms of both come in order, and where the second text is
refused, the whole is refused with the same error. -/
theorem readAll_append {first run : String} {forms : List Value} (closed : ¬ EndsQuoted first)
    (present : run ≠ "") (blank : isBlankText run) (accepted : readAll first = .ok forms)
    (later : String) :
    (∀ others, readAll later = .ok others →
      readAll (first ++ run ++ later) = .ok (forms ++ others)) ∧
    ∀ e, readAll later = .error e → readAll (first ++ run ++ later) = .error e := by
  have whole : readAll (first ++ run ++ later) = (readAll later).map (forms ++ ·) := by
    rw [readAll, tokenize_append closed present blank]
    exact parseAll_append_of_ok accepted (tokenize later)
  constructor
  · intro others read
    rw [whole, read]
    rfl
  · intro e refused
    rw [whole, refused]
    rfl

/-- The first text ends behind a backslash that escapes nothing, after a section with a parenthesis
in it. A second text with a form is read after it, and one that closes a list that was never opened
is refused. -/
theorem readAll_append_backslash :
    let first := "(a \")\\\"\" b) \\"
    let run := "\u3000\n"
    let forms : List Value := [.list [.symbol "a", .string ")\"", .symbol "b"], .symbol "\\"]
    (¬ EndsQuoted first ∧ run ≠ "" ∧ isBlankText run ∧ readAll first = .ok forms) ∧
    readAll (first ++ run ++ "\"c\"") = .ok (forms ++ [.string "c"]) ∧
    readAll (first ++ run ++ ")") = .error (.malformed "expression" .strayClose) := by
  intro first run forms
  have closed : ¬ EndsQuoted first := by decide +kernel
  have present : run ≠ "" := by decide
  have blank : isBlankText run := by decide +kernel
  have accepted : readAll first = .ok forms := by
    refine parseAll_eq_ok_iff.mpr
      ⟨[.list [.word "a", .word "\")\\\"\"", .word "b"], .word "\\"], ?_, ?_, ?_⟩
    · decide +kernel
    · decide
    · rfl
  have read : readAll "\"c\"" = .ok [.string "c"] :=
    parseAll_eq_ok_iff.mpr ⟨[.word "\"c\""], by decide +kernel, by decide, rfl⟩
  have refused : readAll ")" = .error (.malformed "expression" .strayClose) := by
    have tokens : tokenize ")" = [.closing] := by decide
    rw [readAll, tokens, parseAll]
    rfl
  exact ⟨⟨closed, present, blank, accepted⟩,
    (readAll_append closed present blank accepted "\"c\"").1 _ read,
    (readAll_append closed present blank accepted ")").2 _ refused⟩

end ListScript
