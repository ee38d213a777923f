import ListScript.Reading

/-!
# Nesting of tokens

Where a value ends is decided by parentheses alone. A value takes as many closing parentheses as
opening ones, and no beginning of it but the whole does. So tokens that were read and are cut where
as many parentheses are closed as opened are cut between two values.

Results:
1. `nesting_of_parseAll`: what was read has as many opening parentheses as closing ones.
2. `parseAll_append`: tokens that were read are read part by part, if they are cut where nothing is
   open.
-/

namespace ListScript

/-! ## 1. Counting parentheses -/

/-- How many more lists are open after a token. -/
def Token.weight : Token → Int
  | .opening => 1
  | .closing => -1
  | .word _ => 0

/-- How many more parentheses some tokens open than they close. -/
def nesting : List Token → Int
  | [] => 0
  | token :: rest => token.weight + nesting rest

@[simp] theorem nesting_nil : nesting [] = 0 := rfl

@[simp] theorem nesting_cons {token : Token} {rest : List Token} :
    nesting (token :: rest) = token.weight + nesting rest := rfl

@[simp] theorem nesting_append {tokens more : List Token} :
    nesting (tokens ++ more) = nesting tokens + nesting more := by
  induction tokens with
  | nil => simp
  | cons token rest ih => simp [ih, Int.add_assoc]

/-! ## 2. Values -/

/-- A value closes the lists that were open and those that it opens itself. -/
theorem nesting_of_readOpen {opened : List (List Value)} {tokens rest : List Token} {v : Value}
    (h : readOpen opened tokens = (.ok v, rest)) :
    nesting tokens = nesting rest - opened.length := by
  fun_induction readOpen opened tokens with
  | case4 items rest' =>
    cases h
    simp [Token.weight]
    omega
  | case5 items outer opened rest' ih =>
    have inner := ih h
    simp only [nesting_cons, Token.weight, List.length_cons] at inner ⊢
    omega
  | case7 opened rest' _ ih =>
    have inner := ih h
    simp only [nesting_cons, Token.weight, List.length_cons] at inner ⊢
    omega
  | case8 text rest' =>
    cases h
    simp [Token.weight]
  | case10 items opened text rest' _ ih =>
    have inner := ih h
    simp only [nesting_cons, Token.weight, List.length_cons] at inner ⊢
    omega
  | _ => cases h

/-- A value that is read from two parts is read from the first alone, if the first closes all lists
that are open. -/
theorem readOpen_of_nesting_le {opened : List (List Value)} {tokens more rest : List Token}
    {v : Value} (h : readOpen opened (tokens ++ more) = (.ok v, rest))
    (closes : nesting tokens ≤ -opened.length) (begun : opened = [] → tokens ≠ []) :
    ∃ left, readOpen opened tokens = (.ok v, left) ∧ rest = left ++ more := by
  fun_induction readOpen opened tokens with
  | case1 => exact absurd rfl (begun rfl)
  -- The tokens do not end inside a list, since they close as many as are open.
  | case2 items opened =>
    simp only [nesting_nil, List.length_cons] at closes
    omega
  | case3 rest' => cases h
  | case4 items rest' =>
    cases h
    exact ⟨rest', rfl, rfl⟩
  | case5 items outer opened rest' ih =>
    simp only [nesting_cons, Token.weight, List.length_cons] at closes
    exact ih h (by rw [List.length_cons]; omega) (by simp)
  | case6 opened rest' deep =>
    simp only [List.cons_append, readOpen, if_pos deep] at h
    cases h
  | case7 opened rest' shallow ih =>
    simp only [List.cons_append, readOpen, if_neg shallow] at h
    simp only [nesting_cons, Token.weight] at closes
    exact ih h (by rw [List.length_cons]; omega) (by simp)
  | case8 text rest' =>
    cases h
    exact ⟨rest', rfl, rfl⟩
  | case9 items opened text rest' deep =>
    simp only [List.cons_append, readOpen, if_pos deep] at h
    cases h
  | case10 items opened text rest' shallow ih =>
    simp only [List.cons_append, readOpen, if_neg shallow] at h
    simp only [nesting_cons, Token.weight] at closes
    exact ih h (by rw [List.length_cons] at closes ⊢; omega) (by simp)

/-! ## 3. All values -/

/-- After its first value the rest is read, and an error in it stays. -/
theorem parseAll_of_parse {token : Token} {following rest : List Token} {v : Value}
    (taken : parse (token :: following) = (.ok v, rest)) :
    parseAll (token :: following) = (parseAll rest).map (v :: ·) := by
  rw [parseAll]
  split
  · next e _ failed =>
    rw [taken] at failed
    cases failed
  · next u left given =>
    rw [taken] at given
    cases given
    cases parseAll rest <;> rfl

theorem parseAll_cons {token : Token} {following rest : List Token} {v : Value} {vs : List Value}
    (taken : parse (token :: following) = (.ok v, rest)) (others : parseAll rest = .ok vs) :
    parseAll (token :: following) = .ok (v :: vs) := by
  rw [parseAll_of_parse taken, others]
  rfl

theorem parseAll_cons_inv {token : Token} {following : List Token} {forms : List Value}
    (h : parseAll (token :: following) = .ok forms) :
    ∃ v rest vs, parse (token :: following) = (.ok v, rest) ∧ parseAll rest = .ok vs ∧
      forms = v :: vs := by
  rw [parseAll] at h
  split at h
  · cases h
  · next v rest taken =>
    obtain ⟨vs, others, h⟩ := exists_of_bind_eq_ok h
    cases h
    exact ⟨v, rest, vs, taken, others, rfl⟩

/-- What was read has as many opening parentheses as closing ones. -/
theorem nesting_of_parseAll {tokens : List Token} {forms : List Value}
    (h : parseAll tokens = .ok forms) : nesting tokens = 0 := by
  cases tokens with
  | nil => rfl
  | cons token following =>
    obtain ⟨v, rest, vs, taken, others, rfl⟩ := parseAll_cons_inv h
    have first := nesting_of_readOpen taken
    rw [nesting_of_parseAll others] at first
    exact first
termination_by forms.length

/-- Tokens that were read are read part by part, if they are cut where nothing is open. -/
theorem parseAll_append {tokens more : List Token} {forms : List Value}
    (h : parseAll (tokens ++ more) = .ok forms) (closed : nesting tokens = 0) :
    ∃ first others, parseAll tokens = .ok first ∧ parseAll more = .ok others ∧
      forms = first ++ others := by
  cases tokens with
  | nil => exact ⟨[], forms, by rw [parseAll], h, rfl⟩
  | cons token following =>
    obtain ⟨v, rest, vs, taken, others, rfl⟩ := parseAll_cons_inv h
    have taken : readOpen [] ((token :: following) ++ more) = (.ok v, rest) := taken
    have closes : nesting (token :: following) ≤ -([] : List (List Value)).length := by
      simp [closed]
    obtain ⟨left, takenFirst, rfl⟩ := readOpen_of_nesting_le taken closes (by simp)
    have balanced : nesting left = 0 := by
      have first := nesting_of_readOpen takenFirst
      rw [closed, List.length_nil] at first
      omega
    obtain ⟨first, later, hfirst, hlater, rfl⟩ := parseAll_append others balanced
    exact ⟨v :: first, later, parseAll_cons takenFirst hfirst, hlater, rfl⟩
termination_by forms.length

end ListScript
