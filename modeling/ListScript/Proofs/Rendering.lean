import ListScript.Proofs.Writing

/-!
# Shown forms keep the tokens

The forms of a text are shown one space apart. As long as none of them holds a string, the tokens
of what is shown are those of the text: a symbol or a number is shown as its word, with its quoted
sections, its sign and its zeros, and only the blanks between the tokens differ. So what is shown is
read as the same forms, and these are shown as the same text.

The tokens of a text can be told apart wherever they stand one space apart, and next to a
parenthesis without a space. A word stands for itself on its own, since the scanner begins each word
with nothing quoted and nothing escaped. Only a word that leaves a quoted section open would take in
what follows, and only the last one does that.

Results:
1. `separable_tokenize`: the tokens of a text can be told apart.
2. `tokenize_layOut`: laid out with single spaces, they are the tokens of that text.
3. `layOut_tokens`: the tokens of a form are laid out as it is shown.
4. `rendering_keeps_tokens`: what is shown of a text has its tokens and is read as its forms.
-/

namespace ListScript

open FormTree

/-! ## 1. Tokens that can be told apart -/

/-- Every word of these tokens stands for itself, and none but the last takes in what follows. -/
inductive Separable : List Token → Prop
  | nil : Separable []
  | opening {rest : List Token} (later : Separable rest) : Separable (.opening :: rest)
  | closing {rest : List Token} (later : Separable rest) : Separable (.closing :: rest)
  | word {text : String} {rest : List Token} (word : IsWord text) (later : Separable rest) :
      Separable (.word text :: rest)
  | last {w : OpenWord} (taken : Absorbs none w.text.toList w) : Separable [.word w.text]

theorem absorbs_singleton {w : Option OpenWord} {v : OpenWord} {c : Char}
    (step : scanStep w c = ([], some v)) : Absorbs w [c] v :=
  absorbs_cons step ⟨rfl, rfl⟩

/-- What is being read is what its own text is read as, so it is a word once no quotes are open. -/
theorem isWord_of_absorbs {w : OpenWord} (taken : Absorbs none w.text.toList w)
    (ends : ¬ (w.quoted || !endsWord c) = true) : IsWord w.text := by
  have unquoted : w.quoted = false := by
    rw [Bool.or_eq_true, not_or, Bool.not_eq_true] at ends
    exact ends.1
  exact ⟨w, taken, rfl, unquoted⟩

/-- The tokens of the rest of a text can be told apart, given a word that is being read as its own
text would be. -/
theorem separable_scanTokens {w : Option OpenWord} {chars : List Char}
    (taken : ∀ u, w = some u → Absorbs none u.text.toList u) : Separable (scanTokens w chars) := by
  have nothing : ∀ u, none = some u → Absorbs none u.text.toList u := fun _ same => by cases same
  -- No word is open in cases 3 to 6, and one is in cases 7 to 10.
  fun_induction scanTokens w chars with
  | case1 => exact .nil
  | case2 w => exact .last (taken w rfl)
  | case3 rest ih => exact .opening (ih nothing)
  | case4 rest _ ih => exact .closing (ih nothing)
  | case5 c rest _ _ blank ih => exact ih nothing
  | case6 c rest noOpening noClosing noBlank ih =>
    have step : scanStep none c = ([], some (OpenWord.empty.push c)) := by
      simp [scanStep, noOpening, noClosing, noBlank]
    have alone : (OpenWord.empty.push c).text.toList = [c] := by
      simp [OpenWord.push, OpenWord.empty]
    refine ih fun u same => ?_
    cases same
    rw [alone]
    exact absorbs_singleton step
  | case7 w c rest stays ih =>
    have step : scanStep (some w) c = ([], some (w.push c)) := by rw [scanStep, if_pos stays]
    refine ih fun u same => ?_
    cases same
    simpa [OpenWord.push] using absorbs_append (taken w rfl) (absorbs_singleton step)
  | case8 w rest ends ih =>
    exact .word (isWord_of_absorbs (taken w rfl) ends) (.opening (ih nothing))
  | case9 w rest ends _ ih =>
    exact .word (isWord_of_absorbs (taken w rfl) ends) (.closing (ih nothing))
  | case10 w c rest ends _ _ ih =>
    exact .word (isWord_of_absorbs (taken w rfl) ends) (ih nothing)

/-- The tokens of every text can be told apart. -/
theorem separable_tokenize (text : String) : Separable (tokenize text) :=
  separable_scanTokens fun _ same => by cases same

/-! ## 2. Tokens that are laid out -/

/-- What stands between a token that is no opening parenthesis and those that follow it. -/
def separator : List Token → String
  | [] => ""
  | .closing :: _ => ""
  | _ => " "

/-- The tokens in order, each verbatim, with single spaces between them. No space stands after an
opening parenthesis and before a closing one. -/
def layOut : List Token → String
  | [] => ""
  | .opening :: rest => "(" ++ layOut rest
  | token :: rest => token.text ++ (separator rest ++ layOut rest)

theorem toList_layOut_closing (rest : List Token) :
    (layOut (.closing :: rest)).toList =
      ')' :: ((separator rest).toList ++ (layOut rest).toList) := by
  simp [layOut, Token.text]

/-- A separator is no token. -/
theorem scanTokens_separator (rest : List Token) (chars : List Char) :
    scanTokens none ((separator rest).toList ++ chars) = scanTokens none chars := by
  fun_cases separator rest with
  | case1 => rfl
  | case2 => rfl
  | case3 => exact scanTokens_skip (by decide) chars

/-- What follows a word ends it. -/
theorem delimited_layOut (rest : List Token) :
    Delimited ((separator rest).toList ++ (layOut rest).toList) := by
  have blank (chars : List Char) : Delimited (" ".toList ++ chars) := delimited_cons (by decide)
  cases rest with
  | nil => exact fun c head => by cases head
  | cons token rest =>
    cases token with
    | opening => exact blank _
    | word text => exact blank _
    | closing =>
      rw [toList_layOut_closing]
      exact delimited_cons (by decide)

/-- Tokens that can be told apart are the tokens of what they are laid out as. -/
theorem tokenize_layOut {tokens : List Token} (apart : Separable tokens) :
    tokenize (layOut tokens) = tokens := by
  rw [tokenize]
  induction apart with
  | nil => rfl
  | @opening rest later ih =>
    have opens : (layOut (.opening :: rest)).toList = '(' :: (layOut rest).toList := by
      simp [layOut]
    rw [opens, scanTokens, if_pos rfl, ih]
  | @closing rest later ih =>
    rw [toList_layOut_closing, scanTokens, if_neg (by decide), if_pos rfl, scanTokens_separator, ih]
  | @word text rest word later ih =>
    have front : (layOut (.word text :: rest)).toList =
        text.toList ++ ((separator rest).toList ++ (layOut rest).toList) := by
      simp [layOut, Token.text]
    rw [front, scanTokens_of_isWord word (delimited_layOut rest), scanTokens_separator, ih]
  | @last w taken =>
    have alone : layOut [.word w.text] = w.text := by simp [layOut, separator, Token.text]
    rw [alone, scanTokens_eq, taken.1, taken.2]
    rfl

/-! ## 3. Forms are shown as their tokens are laid out -/

/-- A word is shown verbatim, unless it is the literal of a string. -/
theorem render_classify {word : String} (noString : ∀ text, classify word ≠ .string text) :
    (classify word).render = word := by
  unfold classify at noString ⊢
  dsimp only at noString ⊢
  split at noString
  · next numeral =>
    rw [if_pos numeral]
    split <;> rfl
  · next noNumeral =>
    rw [if_neg noNumeral]
    split at noString
    · exact absurd rfl (noString _)
    · rfl

/-- A form does not begin with a closing parenthesis. -/
theorem separator_tokens (tree : FormTree) (rest : List Token) :
    separator (tree.tokens ++ rest) = " " := by
  cases tree with
  | word text => rfl
  | list children => rfl

mutual

/-- The tokens of a tree are laid out as its value is shown. -/
theorem layOut_tokens (tree : FormTree) (noString : ∀ text, ¬ tree.value.Holds .string text)
    (rest : List Token) :
    layOut (tree.tokens ++ rest) = tree.value.render ++ (separator rest ++ layOut rest) := by
  cases tree with
  | word text =>
    have verbatim : (classify text).render = text := by
      refine render_classify fun content same => noString content ?_
      rw [value, same, Value.holds_atom]
      exact ⟨rfl, rfl⟩
    rw [tokens, value, verbatim]
    rfl
  | list children =>
    have inside : ∀ v ∈ valueAll children, ∀ text, ¬ v.Holds .string text :=
      fun v mem text inner => noString text (Value.holds_list.mpr ⟨v, mem, inner⟩)
    have closes : layOut (.closing :: rest) = ")" ++ (separator rest ++ layOut rest) := rfl
    rw [tokens, List.cons_append, List.append_assoc, layOut,
      layOut_tokensAll children inside rfl, List.singleton_append, closes, value, Value.render]
    simp only [String.append_assoc]

/-- The tokens of trees are laid out as their values are shown one space apart. -/
theorem layOut_tokensAll (trees : List FormTree)
    (noString : ∀ v ∈ valueAll trees, ∀ text, ¬ v.Holds .string text) {ending : List Token}
    (close : separator ending = "") :
    layOut (tokensAll trees ++ ending) =
      " ".intercalate (Value.renderEach (valueAll trees)) ++ layOut ending := by
  cases trees with
  | nil => simp [tokensAll, valueAll, Value.renderEach]
  | cons tree others =>
    obtain ⟨first, later⟩ := List.forall_mem_cons.mp noString
    rw [tokensAll, List.append_assoc, layOut_tokens tree first, layOut_tokensAll others later close]
    cases others with
    | nil => simp [tokensAll, valueAll, Value.renderEach, close]
    | cons next rest =>
      rw [tokensAll, List.append_assoc, separator_tokens]
      simp [valueAll, Value.renderEach, String.intercalate_cons_cons, String.append_assoc]

end

/-! ## 4. Texts that are shown again -/

/-- The values as they are shown, one space apart. -/
def showAll (values : List Value) : String :=
  " ".intercalate (values.map Value.render)

theorem tokensAll_eq_flatMap (trees : List FormTree) : tokensAll trees = trees.flatMap tokens := by
  induction trees with
  | nil => rfl
  | cons tree rest ih => rw [tokensAll, List.flatMap_cons, ih]

theorem valueAll_eq_map (trees : List FormTree) : valueAll trees = trees.map value := by
  induction trees with
  | nil => rfl
  | cons tree rest ih => rw [valueAll, List.map_cons, ih]

/-- Showing the forms of a text keeps its tokens, if no form holds a string. What is shown has the
same tokens, so every word stays as it is spelled, and it is these tokens laid out with single
spaces. It is read as the same forms, and what is read from it is shown as the same text. -/
theorem rendering_keeps_tokens {source : String} {forms : List Value}
    (accepted : readAll source = .ok forms)
    (noString : ∀ v ∈ forms, ∀ text, ¬ v.Holds .string text) :
    tokenize (showAll forms) = tokenize source ∧
      showAll forms = layOut (tokenize source) ∧
      readAll (showAll forms) = .ok forms ∧
      ∀ again, readAll (showAll forms) = .ok again → showAll again = showAll forms := by
  have laidOut : showAll forms = layOut (tokenize source) := by
    obtain ⟨trees, split, -, rfl⟩ := parseAll_eq_ok_iff.mp accepted
    rw [← valueAll_eq_map] at noString
    have whole : layOut (tokensAll trees ++ []) = _ := layOut_tokensAll trees noString rfl
    rw [List.append_nil, layOut, String.append_empty, tokensAll_eq_flatMap, ← split] at whole
    rw [showAll, whole, Value.renderEach_eq_map, valueAll_eq_map]
  have same : tokenize (showAll forms) = tokenize source := by
    rw [laidOut, tokenize_layOut (separable_tokenize source)]
  have reread : readAll (showAll forms) = .ok forms := by rwa [readAll, same]
  refine ⟨same, laidOut, reread, fun again given => ?_⟩
  cases reread.symm.trans given
  rfl

/-- A symbol with parentheses and blanks in quotes, a backslash before a parenthesis, numbers with
a sign and with zeros, and a quote that stays open. -/
def oddSource : String :=
  " ( a\"b (c)  \"d\t+007 )x\\(\n1.500 () ) z\"open (  "

/-- What it is read as. -/
def oddForms : List Value :=
  [.list [.symbol "a\"b (c)  \"d", .integer "+007"], .symbol "x\\",
    .list [.double "1.500", .list []], .symbol "z\"open (  "]

theorem readAll_oddSource : readAll oddSource = .ok oddForms := by
  refine parseAll_eq_ok_iff.mpr ⟨[.list [.word "a\"b (c)  \"d", .word "+007"], .word "x\\",
    .list [.word "1.500", .list []], .word "z\"open (  "], ?_, ?_, ?_⟩
  · decide +kernel
  · decide
  · rfl

theorem oddForms_hold_no_string : ∀ v ∈ oddForms, ∀ text, ¬ v.Holds .string text := by
  simp [oddForms, Value.holds_atom, Value.holds_list]

/-- Only the blanks outside of quotes change. -/
theorem rendering_keeps_tokens_odd :
    showAll oddForms = "(a\"b (c)  \"d +007) x\\ (1.500 ()) z\"open (  " ∧
      tokenize (showAll oddForms) = tokenize oddSource ∧
      readAll (showAll oddForms) = .ok oddForms := by
  obtain ⟨same, -, reread, -⟩ := rendering_keeps_tokens readAll_oddSource oddForms_hold_no_string
  exact ⟨by decide +kernel, same, reread⟩

end ListScript
