import ListScript.Proofs.Nesting

/-!
# Form trees

What a text is read as is a tree: a word, or a list of trees between parentheses. Its tokens stand
in the text in order, and its value is the tree with every word replaced by its atom. The reader
takes the tokens of one tree off the front, and refuses everything else: parentheses that do not
match, and trees with a node inside of too many lists.

Results:
1. `readOpen_tokens`: the tokens of a tree are read as its value, wherever it may stand.
2. `exists_of_readOpen`: what is read into an open list are trees up to its end.
3. `parse_accepts_trees`: the reader accepts the tokens of trees and nothing else.
-/

namespace ListScript

/-- A word, or a list of trees. -/
inductive FormTree where
  | word (text : String)
  | list (children : List FormTree)

namespace FormTree

/-! ## 1. Tokens, values and depth -/

mutual

/-- The tokens of a tree. Those of a list stand between parentheses. -/
def tokens : FormTree → List Token
  | .word text => [.word text]
  | .list children => .opening :: (tokensAll children ++ [.closing])

/-- The tokens of trees, one after another. -/
def tokensAll : List FormTree → List Token
  | [] => []
  | tree :: rest => tokens tree ++ tokensAll rest

end

mutual

/-- The value of a tree. A word becomes its atom. -/
def value : FormTree → Value
  | .word text => classify text
  | .list children => .list (valueAll children)

/-- The value of each tree. -/
def valueAll : List FormTree → List Value
  | [] => []
  | tree :: rest => value tree :: valueAll rest

end

mutual

/-- How many lists stand around a node of the tree at most. -/
def depth : FormTree → Nat
  | .word _ => 0
  | .list children => depthAll children

/-- How many lists stand around a node of a list of these trees at most. -/
def depthAll : List FormTree → Nat
  | [] => 0
  | tree :: rest => max (depth tree + 1) (depthAll rest)

end

/-- A tree has at least one token. -/
theorem exists_tokens_eq_cons (tree : FormTree) : ∃ token rest, tree.tokens = token :: rest := by
  cases tree with
  | word text => exact ⟨_, _, rfl⟩
  | list children => exact ⟨_, _, rfl⟩

end FormTree

open FormTree

/-! ## 2. Trees are read -/

/-- Puts a value that was read where it belongs: into the innermost list, or out as the result. -/
def deliver (v : Value) : List (List Value) → List Token → Except Error Value × List Token
  | [], rest => (.ok v, rest)
  | items :: opened, rest => readOpen ((v :: items) :: opened) rest

/-- The closing parenthesis of an open list is always taken. -/
theorem readOpen_closing (items : List Value) (opened : List (List Value)) (rest : List Token) :
    readOpen (items :: opened) (.closing :: rest) = deliver (.list items.reverse) opened rest := by
  cases opened <;> simp only [readOpen, deliver]

mutual

/-- The tokens of a tree are read as its value, if no node of it stands inside of too many lists. -/
theorem readOpen_tokens (tree : FormTree) {opened : List (List Value)} {rest : List Token}
    (fits : opened.length + tree.depth < nestingLimit) :
    readOpen opened (tree.tokens ++ rest) = deliver tree.value opened rest := by
  cases tree with
  | word text =>
    cases opened with
    | nil => rfl
    | cons items opened =>
      have allowed : ¬ nestingLimit ≤ opened.length + 1 := Nat.not_le_of_lt fits
      simp only [tokens, List.cons_append, List.nil_append, readOpen, if_neg allowed, value,
        deliver]
  | list children =>
    have allowed : ¬ nestingLimit ≤ opened.length :=
      Nat.not_le_of_lt (Nat.lt_of_le_of_lt (Nat.le_add_right _ _) fits)
    simp only [tokens, List.cons_append, List.append_assoc, List.nil_append, readOpen,
      if_neg allowed]
    rw [readOpen_tokensAll children fits, readOpen_closing, List.append_nil, List.reverse_reverse,
      value]

/-- The trees in a list are read one after another. -/
theorem readOpen_tokensAll (trees : List FormTree) {items : List Value}
    {opened : List (List Value)} {rest : List Token}
    (fits : opened.length + depthAll trees < nestingLimit) :
    readOpen (items :: opened) (tokensAll trees ++ rest) =
      readOpen (((valueAll trees).reverse ++ items) :: opened) rest := by
  cases trees with
  | nil => rfl
  | cons tree others =>
    have first : (items :: opened).length + tree.depth < nestingLimit := by
      rw [List.length_cons]
      rw [depthAll] at fits
      omega
    have later : opened.length + depthAll others < nestingLimit := by
      rw [depthAll] at fits
      omega
    rw [tokensAll, List.append_assoc, readOpen_tokens tree first, deliver,
      readOpen_tokensAll others later]
    simp [valueAll]

end

/-! ## 3. Nothing else is read -/

/-- Where a value is read inside of open lists, the innermost list goes on with some trees and is
closed after them. -/
theorem exists_of_readOpen {items : List Value} {opened : List (List Value)}
    {input rest : List Token} {v : Value} (h : readOpen (items :: opened) input = (.ok v, rest))
    (fits : opened.length < nestingLimit) :
    ∃ trees left, input = tokensAll trees ++ .closing :: left ∧
      opened.length + depthAll trees < nestingLimit ∧
      deliver (.list (items.reverse ++ valueAll trees)) opened left = (.ok v, rest) := by
  -- A list inside is read first, and what follows it is shorter than its parentheses made it.
  induction length : input.length using Nat.strongRecOn generalizing items opened input with
  | ind n ih =>
    subst length
    match input with
    | [] => simp [readOpen] at h
    | .closing :: left =>
      refine ⟨[], left, rfl, fits, ?_⟩
      rwa [valueAll, List.append_nil, ← readOpen_closing]
    | .word text :: more =>
      by_cases deep : nestingLimit ≤ opened.length + 1
      · rw [readOpen, if_pos deep] at h
        cases h
      · rw [readOpen, if_neg deep] at h
        obtain ⟨trees, left, rfl, inside, delivered⟩ := ih more.length (by simp) h fits rfl
        refine ⟨.word text :: trees, left, rfl, ?_, by simpa [valueAll, value] using delivered⟩
        rw [depthAll, FormTree.depth]
        omega
    | .opening :: more =>
      by_cases deep : nestingLimit ≤ (items :: opened).length
      · rw [readOpen, if_pos deep] at h
        cases h
      · rw [readOpen, if_neg deep] at h
        obtain ⟨children, mid, rfl, inside, delivered⟩ :=
          ih more.length (by simp) h (Nat.lt_of_not_le deep) rfl
        rw [deliver] at delivered
        obtain ⟨trees, left, rfl, later, delivered⟩ :=
          ih mid.length (by simp; omega) delivered fits rfl
        refine ⟨.list children :: trees, left, ?_, ?_, ?_⟩
        · simp [tokensAll, tokens]
        · rw [List.length_cons] at inside
          rw [depthAll, FormTree.depth]
          omega
        · simpa [valueAll, value] using delivered

/-- The reader refuses a form for its shape and for nothing else. -/
theorem readOpen_refuses {opened : List (List Value)} {input : List Token} {e : Error}
    (h : (readOpen opened input).1 = .error e) : ∃ subject fault, e = .malformed subject fault := by
  fun_induction readOpen opened input with
  | case4 | case8 => cases h
  | case5 _ _ _ _ ih => exact ih h
  | case7 _ _ _ ih => exact ih h
  | case10 _ _ _ _ _ ih => exact ih h
  | _ =>
    cases h
    exact ⟨_, _, rfl⟩

/-- One value is read from the front of some tokens exactly if a tree stands there. -/
theorem parse_eq_ok_iff {input rest : List Token} {v : Value} :
    parse input = (.ok v, rest) ↔
      ∃ tree : FormTree, input = tree.tokens ++ rest ∧ tree.depth < nestingLimit ∧
        v = tree.value := by
  constructor
  · intro h
    match input with
    | [] => simp [parse, readOpen] at h
    | .closing :: _ => simp [parse, readOpen] at h
    | .word text :: _ =>
      cases h
      exact ⟨.word text, rfl, by simp [FormTree.depth, nestingLimit], rfl⟩
    | .opening :: more =>
      have shallow : ¬ nestingLimit ≤ ([] : List (List Value)).length := by decide
      rw [parse, readOpen, if_neg shallow] at h
      obtain ⟨children, left, rfl, fits, delivered⟩ := exists_of_readOpen h (by decide)
      cases delivered
      exact ⟨.list children, by simp [tokens], by simpa [FormTree.depth] using fits, rfl⟩
  · rintro ⟨tree, rfl, fits, rfl⟩
    exact readOpen_tokens tree (by simpa using fits)

/-! ## 4. All values of a text -/

/-- Tokens are read to the end exactly if they are those of trees, one after another. -/
theorem parseAll_eq_ok_iff {input : List Token} {vs : List Value} :
    parseAll input = .ok vs ↔
      ∃ trees : List FormTree, input = trees.flatMap tokens ∧
        (∀ tree ∈ trees, tree.depth < nestingLimit) ∧ vs = trees.map value := by
  constructor
  · intro h
    fun_induction parseAll input generalizing vs with
    | case1 =>
      cases h
      exact ⟨[], rfl, by simp, rfl⟩
    | case2 => cases h
    | case3 token following v rest taken ih =>
      obtain ⟨others, parsed, given⟩ := exists_of_bind_eq_ok h
      cases given
      obtain ⟨tree, front, fits, rfl⟩ := parse_eq_ok_iff.mp taken
      obtain ⟨trees, rfl, fitting, rfl⟩ := ih parsed
      exact ⟨tree :: trees, front, List.forall_mem_cons.mpr ⟨fits, fitting⟩, rfl⟩
  · rintro ⟨trees, rfl, fitting, rfl⟩
    induction trees with
    | nil => rw [List.flatMap_nil, parseAll, List.map_nil]
    | cons tree trees ih =>
      obtain ⟨fits, fitting⟩ := List.forall_mem_cons.mp fitting
      obtain ⟨token, following, front⟩ := tree.exists_tokens_eq_cons
      rw [List.flatMap_cons, front, List.cons_append, List.map_cons]
      refine parseAll_cons (parse_eq_ok_iff.mpr ⟨tree, ?_, fits, rfl⟩) (ih fitting)
      rw [front, List.cons_append]

/-- The reader accepts the tokens of trees in which no node stands inside of more than 255 lists,
and nothing else. From the front of some tokens it takes the tokens of one tree and gives its
value. Where no tree stands it refuses the form for its shape. A text is read exactly if its tokens
are those of trees one after another, and their values come in order. -/
theorem parse_accepts_trees (input : List Token) (text : String) :
    nestingLimit = 256 ∧
    (∀ v rest, parse input = (.ok v, rest) ↔
      ∃ tree : FormTree, input = tree.tokens ++ rest ∧ tree.depth < nestingLimit ∧
        v = tree.value) ∧
    ((∃ subject fault, (parse input).1 = .error (.malformed subject fault)) ↔
      ¬ ∃ (tree : FormTree) (rest : List Token), input = tree.tokens ++ rest ∧
        tree.depth < nestingLimit) ∧
    ∀ vs, readAll text = .ok vs ↔
      ∃ trees : List FormTree, tokenize text = trees.flatMap tokens ∧
        (∀ tree ∈ trees, tree.depth < nestingLimit) ∧ vs = trees.map value := by
  refine ⟨rfl, fun v rest => parse_eq_ok_iff, ⟨?_, ?_⟩, fun vs => parseAll_eq_ok_iff⟩
  · rintro ⟨subject, fault, refused⟩ ⟨tree, rest, front, fits⟩
    rw [parse_eq_ok_iff.mpr ⟨tree, front, fits, rfl⟩] at refused
    cases refused
  · intro noTree
    cases taken : parse input with
    | mk outcome rest =>
      cases outcome with
      | ok v =>
        obtain ⟨tree, front, fits, -⟩ := parse_eq_ok_iff.mp taken
        exact absurd ⟨tree, rest, front, fits⟩ noTree
      | error e =>
        obtain ⟨subject, fault, rfl⟩ := readOpen_refuses (congrArg Prod.fst taken)
        exact ⟨subject, fault, rfl⟩

/-- An empty list may stand inside of 255 lists, and inside of 256 it may not. -/
example :
    let tower (n : Nat) := List.replicate n Token.opening ++ List.replicate n Token.closing
    (parse (tower 256)).1 matches .ok (.list [_]) ∧
      (parse (tower 257)).1 matches .error (.malformed "expression" (.tooDeep 256)) := by
  decide +kernel

end ListScript
