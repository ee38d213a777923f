import ListScript.Proofs.FormTree
import ListScript.Proofs.Scanning
import ListScript.Proofs.Spelling

/-!
# Writing values so that they read back

The shown form of a value has the bare text of every atom, so a string in it is read as something
else. The written form puts each string between double quotes, with a backslash before the quotes
and backslashes in it. All else is written as it is shown.

A written value is read as itself. The scanner finds each atom as one word: what stands between the
quotes of a string never ends the word, and after an atom comes a blank, a parenthesis or nothing.

Results:
1. `classify_literal`: between quotes, every text is read as a string of that text.
2. `isWord_literal`, `isWord_of_plain`, `IsSymbolWord.isWord`: written atoms are single words.
3. `exists_writes`: a written value has the tokens of a tree with that value.
4. `readAll_write`: reading undoes writing.
-/

namespace ListScript

/-! ## 1. Written values -/

namespace Value

/-- The characters with a backslash before each double quote and each backslash. -/
def escape : List Char → List Char
  | [] => []
  | c :: rest => if c = '"' ∨ c = '\\' then '\\' :: c :: escape rest else c :: escape rest

/-- A string as a program spells it. -/
def literal (text : String) : String :=
  String.ofList ('"' :: (escape text.toList ++ ['"']))

mutual

/-- The shown form of a value, except that every string in it is spelled as a literal. -/
def write : Value → String
  | .atom .string text => literal text
  | .atom kind text => render (.atom kind text)
  | .list items => "(" ++ " ".intercalate (writeEach items) ++ ")"
  | .native name action => render (.native name action)
  | .lambda params body captured => render (.lambda params body captured)

/-- The written form of each value. -/
def writeEach : List Value → List String
  | [] => []
  | v :: rest => write v :: writeEach rest

end

mutual

/-- How many lists stand around a node of the value at most. -/
def depth : Value → Nat
  | .list items => depthAll items
  | _ => 0

/-- How many lists stand around a node of a list of these values at most. -/
def depthAll : List Value → Nat
  | [] => 0
  | v :: rest => max (depth v + 1) (depthAll rest)

end

end Value

/-- The text is the only token of itself, with all its quoted sections closed, and it is read as a
symbol. A parenthesis is a token and no symbol. -/
structure IsSymbolWord (text : String) : Prop where
  notOpening : text ≠ "("
  notClosing : text ≠ ")"
  single : (tokenize text).map Token.text = [text]
  closed : inQuotes (openAfter none text.toList) = false
  symbol : classify text = .symbol text

/-- Values that can be written down: strings with any text, numbers that are spelled as such,
symbols that are one word, and lists of these. -/
inductive Value.Writable : Value → Prop
  | string (text : String) : Writable (.string text)
  | integer {text : String} (spelled : Word.IsInteger text.toList) : Writable (.integer text)
  | double {text : String} (spelled : Word.IsDouble text.toList) : Writable (.double text)
  | symbol {text : String} (word : IsSymbolWord text) : Writable (.symbol text)
  | list {items : List Value} (each : ∀ v ∈ items, Writable v) : Writable (.list items)

open Value

/-! ## 2. Literals -/

/-- Every character is a part of a number. -/
theorem digit_or_mark_of_isNumeral {word : List Char} (h : Word.isNumeral word = true) :
    ∀ c ∈ word, c.isDigit = true ∨ c ∈ ['+', '-', '.'] := by
  have marks {sign : List Char} (hsign : IsSign sign) : ∀ c ∈ sign, c ∈ ['+', '-', '.'] := by
    cases hsign <;> simp
  intro c mem
  rcases isNumeral_iff.mp h with ⟨sign, digits, rfl, hsign, hdigits, -⟩ |
    ⟨sign, whole, decimals, rfl, hsign, hwhole, hdecimals, -⟩
  · rcases List.mem_append.mp mem with mem | mem
    · exact .inr (marks hsign c mem)
    · exact .inl (hdigits c mem)
  · rcases List.mem_append.mp mem with mem | mem
    · exact .inr (marks hsign c mem)
    · rcases List.mem_append.mp mem with mem | mem
      · exact .inl (hwhole c mem)
      · rcases List.mem_cons.mp mem with rfl | mem
        · exact .inr (by decide)
        · exact .inl (hdecimals c mem)

theorem unescape_escape (chars : List Char) : Word.unescape (escape chars) = chars := by
  induction chars with
  | nil => rfl
  | cons c rest ih =>
    rw [escape]
    split
    · next special =>
      rcases special with rfl | rfl
      · rw [Word.unescape, ih]
      · rw [Word.unescape, ih]
    · next other =>
      have noBackslash : c ≠ '\\' := fun same => other (.inr same)
      rw [Word.unescape, ih]
      · exact fun _ same => absurd same noBackslash
      · exact fun _ same => absurd same noBackslash

theorem quotedBody?_append (body : List Char) :
    Word.quotedBody? ('"' :: (body ++ ['"'])) = some body := by
  cases body with
  | nil => rfl
  | cons c rest =>
    have last : (c :: rest ++ ['"']).getLast? = some '"' := List.getLast?_concat
    have front : (c :: rest ++ ['"']).dropLast = c :: rest := List.dropLast_concat
    rw [List.cons_append] at last front ⊢
    rw [Word.quotedBody?, if_pos last, front]

/-- What starts and ends with a double quote is read as the string between them. -/
theorem classify_of_quoted {word : String} {body : List Char}
    (quoted : word.toList = '"' :: (body ++ ['"'])) :
    classify word = .string (String.ofList (Word.unescape body)) := by
  have noNumber : Word.isNumeral word.toList = false := by
    rw [← Bool.not_eq_true]
    intro numeral
    have quote : '"' ∈ word.toList := by simp [quoted]
    rcases digit_or_mark_of_isNumeral numeral '"' quote with digit | mark
    · exact absurd digit (by decide)
    · exact absurd mark (by decide)
  have found : Word.quotedBody? word.toList = some body := by
    rw [quoted, quotedBody?_append]
  simp [classify, noNumber, found]

/-- A literal is read as the string that it spells. -/
theorem classify_literal (text : String) : classify (literal text) = .string text := by
  have quoted : (literal text).toList = '"' :: (escape text.toList ++ ['"']) :=
    String.toList_ofList
  rw [classify_of_quoted quoted, unescape_escape, String.ofList_toList]

/-! ## 3. Written atoms are words -/

/-- The scanner takes the characters into the word `w`, and it has the word `w'` then. -/
def Absorbs (w : Option OpenWord) (chars : List Char) (w' : OpenWord) : Prop :=
  closedTokens w chars = [] ∧ openAfter w chars = some w'

/-- The scanner takes the whole text for one word that goes on only outside of quotes. -/
def IsWord (text : String) : Prop :=
  ∃ w, Absorbs none text.toList w ∧ w.text = text ∧ w.quoted = false

/-- Nothing follows, or something that ends a word. -/
def Delimited (more : List Char) : Prop :=
  ∀ c ∈ more.head?, endsWord c = true

theorem delimited_cons {c : Char} {more : List Char} (ends : endsWord c = true) :
    Delimited (c :: more) := by
  intro d head
  cases head
  exact ends

theorem absorbs_cons {w : Option OpenWord} {v w' : OpenWord} {c : Char} {rest : List Char}
    (step : scanStep w c = ([], some v)) (later : Absorbs (some v) rest w') :
    Absorbs w (c :: rest) w' := by
  constructor
  · rw [closedTokens, step]
    exact later.1
  · rw [openAfter, List.foldl_cons, step]
    exact later.2

/-- A word that is followed by a blank, a parenthesis or nothing is a token. -/
theorem scanTokens_of_isWord {text : String} {more : List Char} (word : IsWord text)
    (delimited : Delimited more) :
    scanTokens none (text.toList ++ more) = .word text :: scanTokens none more := by
  obtain ⟨w, ⟨closes, leaves⟩, same, unquoted⟩ := word
  rw [scanTokens_append, closes, leaves, List.nil_append, ← same]
  cases more with
  | nil => rfl
  | cons c more =>
    have ends : endsWord c = true := delimited c rfl
    simp only [scanTokens, unquoted, ends]
    by_cases opening : c = '('
    · simp [opening]
    · by_cases closing : c = ')'
      · simp [closing]
      · have blank : isBlank c = true := by simpa [endsWord, opening, closing] using ends
        simp [opening, closing, blank]

theorem absorbs_append {w : Option OpenWord} {v w' : OpenWord} {chars more : List Char}
    (first : Absorbs w chars v) (later : Absorbs (some v) more w') :
    Absorbs w (chars ++ more) w' := by
  obtain ⟨closes, leaves⟩ := first
  constructor
  · rw [closedTokens_append, closes, leaves, List.nil_append]
    exact later.1
  · rw [openAfter_append, leaves]
    exact later.2

theorem text_push (w : OpenWord) (c : Char) (rest : List Char) :
    (w.push c).text ++ String.ofList rest = w.text ++ String.ofList (c :: rest) := by
  apply String.toList_inj.mp
  simp [OpenWord.push]

/-- Inside of quotes, an escaped text is taken into the word, and the quotes stay open. -/
theorem absorbs_escape {w : OpenWord} (quoted : w.quoted = true) (unescaped : w.escaped = false)
    (chars : List Char) :
    Absorbs (some w) (escape chars) ⟨w.text ++ String.ofList (escape chars), true, false⟩ := by
  induction chars generalizing w with
  | nil =>
    obtain ⟨text, _, _⟩ := w
    cases quoted
    cases unescaped
    exact ⟨rfl, by simp [openAfter, escape]⟩
  | cons c rest ih =>
    rw [escape]
    split
    · next special =>
      -- The character after the backslash is escaped, so it neither closes the quotes nor escapes.
      have inside : (w.push '\\').quoted = true := by simp [OpenWord.push, quoted]
      have inside' : ((w.push '\\').push c).quoted = true := by
        simp [OpenWord.push, quoted, unescaped]
      have unescaped' : ((w.push '\\').push c).escaped = false := by simp [OpenWord.push, unescaped]
      rw [← text_push, ← text_push]
      exact absorbs_cons (Quoting.scanStep_of_quoted quoted)
        (absorbs_cons (Quoting.scanStep_of_quoted inside) (ih inside' unescaped'))
    · next other =>
      have other : c ≠ '"' ∧ c ≠ '\\' := not_or.mp other
      have inside : (w.push c).quoted = true := by simp [OpenWord.push, quoted, other]
      have unescaped' : (w.push c).escaped = false := by simp [OpenWord.push, other]
      rw [← text_push]
      exact absorbs_cons (Quoting.scanStep_of_quoted quoted) (ih inside unescaped')

/-- A literal is a single word, whatever its string holds. -/
theorem isWord_literal (text : String) : IsWord (literal text) := by
  let opened := OpenWord.empty.push '"'
  let inside : OpenWord := ⟨opened.text ++ String.ofList (escape text.toList), true, false⟩
  have opens : scanStep none '"' = ([], some opened) := by decide
  have body : Absorbs (some opened) (escape text.toList) inside := absorbs_escape rfl rfl _
  have closes : Absorbs (some inside) ['"'] (inside.push '"') := ⟨rfl, rfl⟩
  refine ⟨inside.push '"', ?_, ?_, rfl⟩
  · rw [literal, String.toList_ofList]
    exact absorbs_cons opens (absorbs_append body closes)
  · apply String.toList_inj.mp
    simp [inside, opened, OpenWord.push, OpenWord.empty, literal]

/-- Outside of quotes, what neither ends a word nor opens quotes is taken into the word. -/
theorem absorbs_plain {w : OpenWord} {chars : List Char} (unquoted : w.quoted = false)
    (plain : ∀ c ∈ chars, endsWord c = false ∧ c ≠ '"') :
    ∃ w', Absorbs (some w) chars w' ∧ w'.text = w.text ++ String.ofList chars ∧
      w'.quoted = false := by
  induction chars generalizing w with
  | nil => exact ⟨w, ⟨rfl, rfl⟩, by simp, unquoted⟩
  | cons c rest ih =>
    obtain ⟨⟨inWord, noQuote⟩, plainRest⟩ := List.forall_mem_cons.mp plain
    have unquoted' : (w.push c).quoted = false := by simp [OpenWord.push, noQuote, unquoted]
    have taken : scanStep (some w) c = ([], some (w.push c)) := by simp [scanStep, inWord]
    obtain ⟨w', later, same, still⟩ := ih unquoted' plainRest
    exact ⟨w', absorbs_cons taken later, same.trans (text_push w c rest), still⟩

/-- Characters that neither end a word nor quote are a word. -/
theorem isWord_of_plain {text : String} (present : text.toList ≠ [])
    (plain : ∀ c ∈ text.toList, endsWord c = false ∧ c ≠ '"') : IsWord text := by
  obtain ⟨c, rest, split⟩ := List.exists_cons_of_ne_nil present
  rw [split] at plain
  obtain ⟨⟨inWord, noQuote⟩, plainRest⟩ := List.forall_mem_cons.mp plain
  have unquoted : (OpenWord.empty.push c).quoted = false := by
    simp [OpenWord.push, noQuote, OpenWord.empty]
  have taken : scanStep none c = ([], some (OpenWord.empty.push c)) := by
    simp only [endsWord, Bool.or_eq_false_iff, beq_eq_false_iff_ne] at inWord
    simp [scanStep, inWord]
  obtain ⟨w', later, same, still⟩ := absorbs_plain unquoted plainRest
  refine ⟨w', split ▸ absorbs_cons taken later, ?_, still⟩
  rw [same, text_push, ← split]
  simp [OpenWord.empty]

theorem endsWord_of_isDigit {c : Char} (digit : c.isDigit = true) : endsWord c = false := by
  have range : 48 ≤ c.toNat ∧ c.toNat ≤ 57 := by
    simpa [Char.isDigit, UInt32.le_iff_toNat_le] using digit
  have noBlank : isBlank c = false :=
    not_isBlank_of_ascii_graphic (Nat.le_trans (by decide) range.1)
      (Nat.le_trans range.2 (by decide))
  have noOpening : c ≠ '(' := SpellingLemmas.ne_of_isDigit digit (by decide)
  have noClosing : c ≠ ')' := SpellingLemmas.ne_of_isDigit digit (by decide)
  simp [endsWord, noBlank, noOpening, noClosing]

/-- A number is a word. -/
theorem isWord_of_isNumeral {text : String} (numeral : Word.isNumeral text.toList = true) :
    IsWord text := by
  refine isWord_of_plain ?_ ?_
  · intro none
    rw [none] at numeral
    cases numeral
  · intro c mem
    rcases digit_or_mark_of_isNumeral numeral c mem with digit | mark
    · exact ⟨endsWord_of_isDigit digit, SpellingLemmas.ne_of_isDigit digit (by decide)⟩
    · simp only [List.mem_cons, List.not_mem_nil, or_false] at mark
      rcases mark with rfl | rfl | rfl
      · decide
      · decide
      · decide

/-- How much of a word has been read. -/
def openLength (w : Option OpenWord) : Nat :=
  w.elim 0 fun w => w.text.length

/-- One character makes what is read at most one longer. -/
theorem length_scanStep (w : Option OpenWord) (c : Char) :
    (∀ token ∈ (scanStep w c).1, token.text.length ≤ openLength w + 1) ∧
      openLength (scanStep w c).2 ≤ openLength w + 1 := by
  have opening : Token.opening.text.length = 1 := rfl
  have closing : Token.closing.text.length = 1 := rfl
  have word (text : String) : (Token.word text).text = text := rfl
  cases w with
  | none =>
    simp only [scanStep]
    repeat' split
    all_goals simp [openLength, opening, closing, OpenWord.push, OpenWord.empty]
  | some w =>
    simp only [scanStep]
    repeat' split
    all_goals simp [openLength, opening, closing, word, OpenWord.push]

/-- A token is no longer than the text that it is found in. -/
theorem length_le_of_mem_scanTokens {w : Option OpenWord} {chars : List Char} {token : Token}
    (mem : token ∈ scanTokens w chars) : token.text.length ≤ openLength w + chars.length := by
  induction chars generalizing w with
  | nil =>
    rw [scanTokens_nil] at mem
    cases w with
    | none => cases mem
    | some w =>
      cases List.mem_singleton.mp mem
      exact Nat.le_refl _
  | cons c rest ih =>
    obtain ⟨closed, left⟩ := length_scanStep w c
    rw [scanTokens_cons] at mem
    rw [List.length_cons]
    rcases List.mem_append.mp mem with first | later
    · have := closed token first
      omega
    · have := ih later
      omega

/-- Where a text leaves no word open, the last character is a parenthesis or a blank. -/
theorem scanStep_closes {w : Option OpenWord} {c : Char} (none : (scanStep w c).2 = none) :
    Token.opening ∈ (scanStep w c).1 ∨ Token.closing ∈ (scanStep w c).1 ∨
      (scanStep w c).1 = lastWord w := by
  cases w with
  | none =>
    simp only [scanStep] at none ⊢
    repeat' split
    all_goals simp_all [lastWord]
  | some w =>
    simp only [scanStep] at none ⊢
    repeat' split
    all_goals simp_all [lastWord]

/-- A symbol that can be written down is a single word. -/
theorem IsSymbolWord.isWord {text : String} (h : IsSymbolWord text) : IsWord text := by
  obtain ⟨token, single, same⟩ := List.map_eq_singleton_iff.mp h.single
  cases left : openAfter none text.toList with
  | some w =>
    -- The word that is left is a token, so nothing was completed before it.
    have parts : closedTokens none text.toList ++ [.word w.text] = [token] := by
      rw [← single, tokenize, scanTokens_eq, left, lastWord]
    have unquoted : w.quoted = false := by
      have closed := h.closed
      rwa [left, inQuotes] at closed
    rcases List.append_eq_singleton_iff.mp parts with ⟨closes, last⟩ | ⟨-, last⟩
    · cases last
      exact ⟨w, ⟨closes, left⟩, same, unquoted⟩
    · cases last
  | none =>
    -- The last character would be a parenthesis, which is no symbol, or a blank, which is in no
    -- token of an unquoted word.
    rcases List.eq_nil_or_concat text.toList with empty | ⟨init, c, split⟩
    · rw [tokenize, empty] at single
      cases single
    · rw [List.concat_eq_append] at split
      have parts : closedTokens none init ++ (scanStep (openAfter none init) c).1 = [token] := by
        rw [← single, tokenize, scanTokens_eq, left, split, closedTokens_append, closedTokens,
          closedTokens, lastWord, List.append_nil, List.append_nil]
      have mem {t : Token} (mem : t ∈ (scanStep (openAfter none init) c).1) : t = token :=
        List.mem_singleton.mp (parts ▸ List.mem_append_right _ mem)
      rw [split, openAfter_append] at left
      rcases scanStep_closes left with opening | closing | blank
      · exact absurd (same.symm.trans (congrArg Token.text (mem opening).symm)) h.notOpening
      · exact absurd (same.symm.trans (congrArg Token.text (mem closing).symm)) h.notClosing
      · rw [blank, ← scanTokens_eq] at parts
        have short : text.length ≤ init.length := by
          have mem : token ∈ scanTokens none init := parts ▸ List.mem_singleton_self token
          simpa [openLength, same] using length_le_of_mem_scanTokens mem
        have long : text.length = init.length + 1 := by
          rw [← String.length_toList, split, List.length_append, List.length_singleton]
        omega

/-! ## 4. Written values are trees -/

/-- The tokens of the tree stand in the written value, and the tree has this value. -/
structure Writes (tree : FormTree) (v : Value) : Prop where
  value : tree.value = v
  depth : tree.depth = v.depth
  tokens : ∀ {more : List Char}, Delimited more →
    scanTokens none (v.write.toList ++ more) = tree.tokens ++ scanTokens none more

/-- The same of trees and values that are written a space apart. -/
structure WritesAll (trees : List FormTree) (items : List Value) : Prop where
  value : FormTree.valueAll trees = items
  depth : FormTree.depthAll trees = depthAll items
  tokens : ∀ {more : List Char}, Delimited more →
    scanTokens none ((" ".intercalate (writeEach items)).toList ++ more) =
      FormTree.tokensAll trees ++ scanTokens none more

theorem writes_atom {kind : AtomKind} {text : String} (word : IsWord (write (.atom kind text)))
    (same : classify (write (.atom kind text)) = .atom kind text) :
    Writes (.word (write (.atom kind text))) (.atom kind text) where
  value := same
  depth := rfl
  tokens := scanTokens_of_isWord word

theorem writesAll_nil : WritesAll [] [] where
  value := rfl
  depth := rfl
  tokens := fun _ => rfl

theorem writesAll_cons {tree : FormTree} {trees : List FormTree} {v : Value} {items : List Value}
    (first : Writes tree v) (others : WritesAll trees items) :
    WritesAll (tree :: trees) (v :: items) where
  value := by rw [FormTree.valueAll, first.value, others.value]
  depth := by rw [FormTree.depthAll, first.depth, others.depth, depthAll]
  tokens := by
    intro more delimited
    rw [FormTree.tokensAll, List.append_assoc, ← others.tokens delimited]
    cases items with
    | nil => simpa [writeEach] using first.tokens delimited
    | cons next rest =>
      have apart : (" ".intercalate (writeEach (v :: next :: rest))).toList ++ more =
          v.write.toList ++
            ' ' :: ((" ".intercalate (writeEach (next :: rest))).toList ++ more) := by
        simp [writeEach, String.intercalate_cons_cons]
      rw [apart, first.tokens (delimited_cons (by decide)), scanTokens_skip (by decide)]

theorem writes_list {trees : List FormTree} {items : List Value} (each : WritesAll trees items) :
    Writes (.list trees) (.list items) where
  value := by rw [FormTree.value, each.value]
  depth := by rw [FormTree.depth, each.depth, Value.depth]
  tokens := by
    intro more delimited
    have between : (write (.list items)).toList ++ more =
        '(' :: ((" ".intercalate (writeEach items)).toList ++ ')' :: more) := by
      simp [write]
    have opens (chars : List Char) :
        scanTokens none ('(' :: chars) = .opening :: scanTokens none chars := rfl
    rw [between, opens, each.tokens (delimited_cons (by decide))]
    simp [FormTree.tokens, scanTokens]

/-- What can be written down is written as a tree of that value. -/
theorem exists_writes {v : Value} (writable : v.Writable) : ∃ tree, Writes tree v := by
  induction writable with
  | string text => exact ⟨_, writes_atom (isWord_literal text) (classify_literal text)⟩
  | integer spelled =>
    exact ⟨_, writes_atom (isWord_of_isNumeral (isNumeral_iff.mpr (.inl spelled)))
      (classify_of_isInteger spelled)⟩
  | double spelled =>
    exact ⟨_, writes_atom (isWord_of_isNumeral (isNumeral_iff.mpr (.inr spelled)))
      (classify_of_isDouble spelled)⟩
  | symbol word => exact ⟨_, writes_atom word.isWord word.symbol⟩
  | @list items each ih =>
    have all : ∃ trees, WritesAll trees items := by
      clear each
      induction items with
      | nil => exact ⟨[], writesAll_nil⟩
      | cons v rest ihRest =>
        obtain ⟨first, later⟩ := List.forall_mem_cons.mp ih
        obtain ⟨tree, writes⟩ := first
        obtain ⟨trees, writesRest⟩ := ihRest later
        exact ⟨tree :: trees, writesAll_cons writes writesRest⟩
    obtain ⟨trees, writes⟩ := all
    exact ⟨.list trees, writes_list writes⟩

/-! ## 5. Reading undoes writing -/

mutual

/-- Without strings a value is written as it is shown. -/
theorem write_eq_render (v : Value) (noString : ∀ text, ¬ v.Holds .string text) :
    v.write = v.render := by
  cases v with
  | atom kind text =>
    cases kind with
    | string => exact absurd .atom (noString text)
    | _ => rfl
  | list items =>
    have each : ∀ v ∈ items, ∀ text, ¬ v.Holds .string text :=
      fun v mem text inner => noString text (.item mem inner)
    rw [write, render, writeEach_eq_renderEach items each]
  | native name action => rfl
  | lambda params body captured => rfl

theorem writeEach_eq_renderEach (items : List Value)
    (noString : ∀ v ∈ items, ∀ text, ¬ v.Holds .string text) :
    writeEach items = renderEach items := by
  cases items with
  | nil => rfl
  | cons v rest =>
    obtain ⟨first, later⟩ := List.forall_mem_cons.mp noString
    rw [writeEach, renderEach, write_eq_render v first, writeEach_eq_renderEach rest later]

end

/-- Reading undoes writing. Take a value made of lists, strings with any text, numbers that are
spelled as such and symbols that are one word, in which no node stands inside of more than 255
lists. All that is read from its written form is that value. Where it holds no string, it is also
read from its shown form. -/
theorem readAll_write {v : Value} (writable : v.Writable) (shallow : v.depth ≤ 255) :
    readAll v.write = .ok [v] ∧
      ((∀ text, ¬ v.Holds .string text) → read v.render = .ok v) := by
  obtain ⟨tree, writes⟩ := exists_writes writable
  have tokens : tokenize v.write = tree.tokens := by
    have nothing : Delimited [] := fun c head => by cases head
    simpa [tokenize, scanTokens] using writes.tokens nothing
  have fits : tree.depth < nestingLimit := by
    rw [writes.depth]
    exact Nat.lt_succ_of_le shallow
  constructor
  · refine parseAll_eq_ok_iff.mpr ⟨[tree], ?_, ?_, ?_⟩
    · rw [tokens, List.flatMap_singleton]
    · exact List.forall_mem_singleton.mpr fits
    · rw [List.map_singleton, writes.value]
  · intro noString
    have taken : parse (tokenize v.render) = (.ok v, []) := by
      refine parse_eq_ok_iff.mpr ⟨tree, ?_, fits, writes.value.symm⟩
      rw [← write_eq_render v noString, tokens, List.append_nil]
    rw [read, taken]

/-- A symbol with blanks and a parenthesis in quotes, numbers with signs, and an empty list. -/
def oddForm : Value :=
  .list [.symbol "a\"( b\\\"c\"", .integer "+007", .double "-.5", .list []]

/-- The same behind a string with quotes, backslashes, a line break, a semicolon and parentheses. -/
def oddText : Value :=
  .list [.string "\"(\\\" ;\n)\\", oddForm]

theorem writable_oddForm : oddForm.Writable := by
  refine .list ?_
  simp only [List.forall_mem_cons, List.not_mem_nil, false_implies, implies_true, and_true]
  refine ⟨.symbol ?_, .integer ?_, .double ?_, .list (fun v mem => by cases mem)⟩
  · exact ⟨by decide, by decide, by decide +kernel, by decide +kernel, rfl⟩
  · exact ⟨['+'], ['0', '0', '7'], rfl, .plus, by decide, by decide⟩
  · exact ⟨['-'], [], ['5'], rfl, .minus, by decide, by decide, by decide⟩

theorem writable_oddText : oddText.Writable := by
  refine .list ?_
  simp only [List.forall_mem_cons, List.not_mem_nil, false_implies, implies_true, and_true]
  exact ⟨.string _, writable_oddForm⟩

theorem oddForm_holds_no_string (text : String) : ¬ oddForm.Holds .string text := by
  rintro (_ | ⟨mem, inner⟩ | _)
  simp only [List.mem_cons, List.not_mem_nil, or_false] at mem
  rcases mem with rfl | rfl | rfl | rfl
  · cases inner
  · cases inner
  · cases inner
  · rcases inner with _ | ⟨none, -⟩ | _
    cases none

/-- What is odd about atoms does not keep them from being read as they were written. -/
theorem readAll_write_oddText :
    oddText.write = "(\"\\\"(\\\\\\\" ;\n)\\\\\" (a\"( b\\\"c\" +007 -.5 ()))" ∧
      readAll oddText.write = .ok [oddText] ∧
      oddForm.render = "(a\"( b\\\"c\" +007 -.5 ())" ∧ read oddForm.render = .ok oddForm :=
  ⟨by decide +kernel, (readAll_write writable_oddText (by decide)).1, by decide +kernel,
    (readAll_write writable_oddForm (by decide)).2 oddForm_holds_no_string⟩

end ListScript
