import ListScript.Proofs.Literals
import ListScript.Proofs.Rendering

/-!
# Quoted sections and tokens

The quoted sections of a text are found in one scan from left to right. A double quote that is not
escaped opens or closes a section, and a backslash that is not escaped escapes the next character,
whatever that is.

The tokenizer begins each word with nothing quoted and nothing escaped, and still it sees these
sections. What ends a word is a blank or a parenthesis outside of them. It opens no section, and if
a backslash in front of it escapes it, the escape is used up.

So nothing but blanks is lost: a token is a part of the text in which no blank and no parenthesis
stands outside of quoted sections, and next to its neighbours it is the same token as alone. Only
what follows an open section could be taken into it, and only the last token leaves one open.

Results:
1. `QuoteState.of_scanStep`: the tokenizer sees the quoted sections of the text.
2. `tokenChars_scanTokens`: the tokens have the characters of the text, but for blanks outside of
   quoted sections.
3. `tokenize_text_of_mem`: a token is the only token of its own text.
4. `tokenize_append`: the tokens on the two sides of a run of blanks.
5. `tokens_keep_text`: all of this, and the tokens stay the same with any other blanks between them.
-/

namespace ListScript

/-! ## 1. One scan of the text -/

/-- Whether a quoted section is open, and whether the next character is escaped. -/
structure QuoteState where
  opened : Bool
  escaped : Bool
deriving DecidableEq

namespace QuoteState

/-- At the start of a text nothing is open and nothing escaped. -/
def start : QuoteState := ⟨false, false⟩

/-- The state after one more character. -/
def next (q : QuoteState) (c : Char) : QuoteState :=
  ⟨if c = '"' && !q.escaped then !q.opened else q.opened, c = '\\' && !q.escaped⟩

/-- The state after some more characters. -/
def after (q : QuoteState) (chars : List Char) : QuoteState :=
  chars.foldl next q

/-- The characters, each with whether it stands in a quoted section. -/
def mark (q : QuoteState) : List Char → List (Char × Bool)
  | [] => []
  | c :: rest => (c, q.opened) :: (q.next c).mark rest

/-- The characters without the blanks outside of quoted sections. -/
def dropBlanks (q : QuoteState) (chars : List Char) : List Char :=
  ((q.mark chars).filter fun (c, quoted) => quoted || !isBlank c).map Prod.fst

theorem map_fst_mark (q : QuoteState) (chars : List Char) :
    (q.mark chars).map Prod.fst = chars := by
  induction chars generalizing q with
  | nil => rfl
  | cons c rest ih => rw [mark, List.map_cons, ih]

theorem dropBlanks_cons (q : QuoteState) (c : Char) (rest : List Char) :
    q.dropBlanks (c :: rest) =
      (if q.opened || !isBlank c then [c] else []) ++ (q.next c).dropBlanks rest := by
  cases kept : q.opened || !isBlank c with
  | true => simp [dropBlanks, mark, kept]
  | false => simp [dropBlanks, mark, kept]

/-- Where nothing was dropped, every blank stands in a quoted section. -/
theorem not_isBlank_of_dropBlanks_eq {q : QuoteState} {chars : List Char} {c : Char}
    (same : q.dropBlanks chars = chars) (mem : (c, false) ∈ q.mark chars) : isBlank c = false := by
  have all : (q.mark chars).filter (fun (c, quoted) => quoted || !isBlank c) = q.mark chars := by
    refine List.filter_eq_self.mpr (List.length_filter_eq_length_iff.mp ?_)
    have length := congrArg List.length (same.trans (map_fst_mark q chars).symm)
    rwa [dropBlanks, List.length_map, List.length_map] at length
  simpa using List.filter_eq_self.mp all _ mem

/-- The state in which the tokenizer is, as far as quotes go. Between words it is the one at the
start of a text. -/
def of : Option OpenWord → QuoteState
  | none => start
  | some w => ⟨w.quoted, w.escaped⟩

theorem opened_of (w : Option OpenWord) : (of w).opened = inQuotes w := by
  cases w <;> rfl

/-- What ends a word neither quotes nor escapes. -/
theorem next_of_endsWord {q : QuoteState} {c : Char} (closed : q.opened = false)
    (ends : endsWord c = true) : q.next c = start := by
  have noQuote : c ≠ '"' := by
    rintro rfl
    exact absurd ends (by decide)
  have noBackslash : c ≠ '\\' := by
    rintro rfl
    exact absurd ends (by decide)
  simp [next, start, noQuote, noBackslash, closed]

/-- The tokenizer sees the quoted sections of the text, although it starts anew with each word. -/
theorem of_scanStep (w : Option OpenWord) (c : Char) :
    of (scanStep w c).2 = (of w).next c := by
  rcases scanStep_cases w c with ⟨unquoted, ends, which⟩ | ⟨-, step⟩
  · rw [next_of_endsWord ((opened_of w).trans unquoted) ends]
    rcases which with ⟨-, step⟩ | ⟨-, step⟩ | ⟨-, step⟩
    all_goals
      rw [step]
      rfl
  · rw [step]
    cases w with
    | none => rfl
    | some w => rfl

theorem of_openAfter (w : Option OpenWord) (chars : List Char) :
    of (openAfter w chars) = (of w).after chars := by
  induction chars generalizing w with
  | nil => rfl
  | cons c rest ih =>
    rw [after, List.foldl_cons, ← of_scanStep]
    exact ih _

end QuoteState

open QuoteState

/-- The text ends inside a quoted section. -/
def EndsQuoted (text : String) : Prop :=
  (start.after text.toList).opened = true

instance (text : String) : Decidable (EndsQuoted text) :=
  inferInstanceAs (Decidable (_ = _))

/-- A text ends inside a quoted section exactly if its tokens do. -/
theorem endsQuoted_iff {text : String} :
    EndsQuoted text ↔ inQuotes (openAfter none text.toList) = true := by
  rw [← opened_of, of_openAfter]
  rfl

/-- The tokens on the two sides of a run of blanks that stands in no quoted section. -/
theorem tokenize_append {first run : String} (closed : ¬ EndsQuoted first) (present : run ≠ "")
    (blank : isBlankText run) (later : String) :
    tokenize (first ++ run ++ later) = tokenize first ++ tokenize later := by
  have unquoted : inQuotes (openAfter none first.toList) = false := by
    rwa [endsQuoted_iff, Bool.not_eq_true] at closed
  obtain ⟨c, rest, split⟩ := List.exists_cons_of_ne_nil (mt String.toList_eq_nil_iff.mp present)
  rw [isBlankText, split, List.all_cons, Bool.and_eq_true] at blank
  calc tokenize (first ++ run ++ later)
    _ = scanTokens none (first.toList ++ c :: (rest ++ later.toList)) := by
      rw [tokenize, String.toList_append, String.toList_append, split, List.append_assoc,
        List.cons_append]
    _ = tokenize first ++ scanTokens none (rest ++ later.toList) :=
      scanTokens_blank unquoted blank.1
    _ = tokenize first ++ tokenize later := by
      rw [scanTokens_skipAll blank.2, tokenize, tokenize]

/-! ## 2. What the tokens keep -/

/-- The characters of some tokens, one token after another. -/
def tokenChars (tokens : List Token) : List Char :=
  tokens.flatMap fun token => token.text.toList

/-- A character goes into a token, unless it is a blank outside of quoted sections. -/
theorem tokenChars_scanStep (w : Option OpenWord) (c : Char) :
    tokenChars (scanStep w c).1 ++ tokenChars (lastWord (scanStep w c).2) =
      tokenChars (lastWord w) ++ if (of w).opened || !isBlank c then [c] else [] := by
  have opening : isBlank '(' = false := by decide
  have closing : isBlank ')' = false := by decide
  rw [opened_of]
  rcases scanStep_cases w c with ⟨unquoted, -, which⟩ | ⟨within, step⟩
  · rcases which with ⟨rfl, step⟩ | ⟨rfl, step⟩ | ⟨blank, step⟩
    · simp [step, opening, tokenChars, lastWord, Token.text]
    · simp [step, closing, tokenChars, lastWord, Token.text]
    · simp [step, unquoted, blank, tokenChars, lastWord]
  · have kept : (inQuotes w || !isBlank c) = true := by
      rcases within with quoted | inWord
      · simp [quoted]
      · have inWord : (c ≠ '(' ∧ c ≠ ')') ∧ isBlank c = false := by simpa [endsWord] using inWord
        simp [inWord]
    rw [step, if_pos kept]
    cases w with
    | none => simp [tokenChars, lastWord, Token.text, OpenWord.push, OpenWord.empty]
    | some w => simp [tokenChars, lastWord, Token.text, OpenWord.push]

/-- The tokens have the characters of the text, but for blanks outside of quoted sections. -/
theorem tokenChars_scanTokens (w : Option OpenWord) (chars : List Char) :
    tokenChars (scanTokens w chars) = tokenChars (lastWord w) ++ (of w).dropBlanks chars := by
  induction chars generalizing w with
  | nil =>
    rw [scanTokens_nil]
    exact (List.append_nil _).symm
  | cons c rest ih =>
    calc tokenChars (scanTokens w (c :: rest))
      _ = tokenChars (scanStep w c).1 ++ tokenChars (scanTokens (scanStep w c).2 rest) := by
        rw [scanTokens_cons, tokenChars, List.flatMap_append]
        rfl
      _ = (tokenChars (scanStep w c).1 ++ tokenChars (lastWord (scanStep w c).2)) ++
          ((of w).next c).dropBlanks rest := by
        rw [ih, of_scanStep, List.append_assoc]
      _ = tokenChars (lastWord w) ++ (of w).dropBlanks (c :: rest) := by
        rw [tokenChars_scanStep, dropBlanks_cons, List.append_assoc]

/-- A parenthesis outside of quoted sections is a token. -/
theorem mem_scanTokens_of_mark {w : Option OpenWord} {chars : List Char} {c : Char}
    (mem : (c, false) ∈ (of w).mark chars) :
    (c = '(' → .opening ∈ scanTokens w chars) ∧ (c = ')' → .closing ∈ scanTokens w chars) := by
  induction chars generalizing w with
  | nil => cases mem
  | cons d rest ih =>
    rw [scanTokens_cons]
    rcases List.mem_cons.mp mem with here | later
    · obtain ⟨rfl, closed⟩ := Prod.mk.inj here
      have unquoted : inQuotes w = false := (opened_of w).symm.trans closed.symm
      rcases scanStep_cases w c with ⟨-, -, which⟩ | ⟨within, -⟩
      · rcases which with ⟨rfl, step⟩ | ⟨rfl, step⟩ | ⟨blank, -⟩
        · simp [step]
        · simp [step]
        · constructor
          · rintro rfl
            exact absurd blank (by decide)
          · rintro rfl
            exact absurd blank (by decide)
      · have inWord : endsWord c = false := within.resolve_left (by simp [unquoted])
        constructor
        · rintro rfl
          exact absurd inWord (by decide)
        · rintro rfl
          exact absurd inWord (by decide)
    · rw [← of_scanStep] at later
      obtain ⟨opens, closes⟩ := ih later
      exact ⟨fun same => List.mem_append_right _ (opens same),
        fun same => List.mem_append_right _ (closes same)⟩

/-! ## 3. Each token by itself -/

/-- A parenthesis, or a word that is not empty and has no blank and no parenthesis outside of its
quoted sections. -/
inductive Token.WellFormed : Token → Prop
  | opening : WellFormed .opening
  | closing : WellFormed .closing
  | word {text : String} (present : text ≠ "")
      (plain : ∀ c, (c, false) ∈ start.mark text.toList → c ≠ '(' ∧ c ≠ ')' ∧ isBlank c = false) :
      WellFormed (.word text)

/-- Tokens that can be told apart are tokens of their own texts. -/
theorem tokenize_text_of_separable {tokens : List Token} (apart : Separable tokens) {token : Token}
    (mem : token ∈ tokens) : tokenize token.text = [token] := by
  induction apart with
  | nil => cases mem
  | opening later ih =>
    rcases List.mem_cons.mp mem with rfl | mem
    · rfl
    · exact ih mem
  | closing later ih =>
    rcases List.mem_cons.mp mem with rfl | mem
    · rfl
    · exact ih mem
  | @word text rest word later ih =>
    rcases List.mem_cons.mp mem with rfl | mem
    · have nothing : Delimited [] := fun c head => by cases head
      have alone := scanTokens_of_isWord word nothing
      rwa [List.append_nil] at alone
    · exact ih mem
  | @last w taken =>
    obtain rfl := List.mem_singleton.mp mem
    rw [tokenize, Token.text, scanTokens_eq, taken.1, taken.2]
    rfl

/-- A token of a text is the only token of its own text. -/
theorem tokenize_text_of_mem {text : String} {token : Token} (mem : token ∈ tokenize text) :
    tokenize token.text = [token] :=
  tokenize_text_of_separable (separable_tokenize text) mem

theorem wellFormed_of_tokenize_text {token : Token} (alone : tokenize token.text = [token]) :
    token.WellFormed := by
  cases token with
  | opening => exact .opening
  | closing => exact .closing
  | word text =>
    have alone : scanTokens none text.toList = [.word text] := alone
    have kept : start.dropBlanks text.toList = text.toList := by
      have chars := tokenChars_scanTokens none text.toList
      rw [alone] at chars
      simpa [tokenChars, lastWord, Token.text, of] using chars.symm
    refine .word ?_ fun c mem => ?_
    · rintro rfl
      cases alone
    · have mem' : (c, false) ∈ (of none).mark text.toList := mem
      obtain ⟨opens, closes⟩ := mem_scanTokens_of_mark mem'
      rw [alone] at opens closes
      exact ⟨fun same => by simpa using opens same, fun same => by simpa using closes same,
        not_isBlank_of_dropBlanks_eq kept mem⟩

/-! ## 4. Open sections -/

theorem of_foldl_push (w : OpenWord) (chars : List Char) :
    of (some (chars.foldl OpenWord.push w)) = (of (some w)).after chars := by
  induction chars generalizing w with
  | nil => rfl
  | cons c rest ih => exact ih (w.push c)

/-- A word ends inside a quoted section if the tokenizer was in one at its end. -/
theorem endsQuoted_of_scanned {w : OpenWord} (scanned : w.Scanned) :
    EndsQuoted w.text ↔ w.quoted = true := by
  have same := of_foldl_push .empty w.text.toList
  rw [scanned] at same
  rw [EndsQuoted]
  exact (congrArg (fun q => q.opened = true) same).symm.to_iff

/-- A token that something follows does not end inside a quoted section. -/
theorem not_endsQuoted_of_mem_closedTokens {w : Option OpenWord} {chars : List Char} {token : Token}
    (h : ∀ u, w = some u → u.Scanned) (mem : token ∈ closedTokens w chars) :
    ¬ EndsQuoted token.text := by
  induction chars generalizing w with
  | nil => cases mem
  | cons c rest ih =>
    rcases List.mem_append.mp mem with here | later
    · have parenthesis : ¬ EndsQuoted Token.opening.text ∧ ¬ EndsQuoted Token.closing.text := by
        decide
      have ended (unquoted : inQuotes w = false) :
          ∀ token ∈ lastWord w, ¬ EndsQuoted token.text := by
        intro token mem
        cases w with
        | none => cases mem
        | some w =>
          obtain rfl := List.mem_singleton.mp mem
          rw [Token.text, endsQuoted_of_scanned (h w rfl)]
          exact Bool.eq_false_iff.mp unquoted
      rcases scanStep_cases w c with ⟨unquoted, -, which⟩ | ⟨-, step⟩
      · rcases which with ⟨-, step⟩ | ⟨-, step⟩ | ⟨-, step⟩
        · rw [step] at here
          rcases List.mem_append.mp here with word | same
          · exact ended unquoted token word
          · exact List.mem_singleton.mp same ▸ parenthesis.1
        · rw [step] at here
          rcases List.mem_append.mp here with word | same
          · exact ended unquoted token word
          · exact List.mem_singleton.mp same ▸ parenthesis.2
        · rw [step] at here
          exact ended unquoted token here
      · rw [step] at here
        cases here
    · exact ih (fun _ step => OpenWord.scanned_of_scanStep h step) later

/-- None of the tokens of a text but the last ends inside a quoted section, and the last does if the
text does. -/
theorem endsQuoted_tokens (text : String) :
    (∀ token ∈ (tokenize text).dropLast, ¬ EndsQuoted token.text) ∧
      (EndsQuoted text ↔
        ∃ token, (tokenize text).getLast? = some token ∧ EndsQuoted token.text) := by
  have nothing : ∀ u, (none : Option OpenWord) = some u → u.Scanned := fun _ none => by cases none
  have closed : ∀ token ∈ closedTokens none text.toList, ¬ EndsQuoted token.text :=
    fun _ mem => not_endsQuoted_of_mem_closedTokens nothing mem
  rw [endsQuoted_iff, tokenize, scanTokens_eq]
  cases left : openAfter none text.toList with
  | none =>
    rw [lastWord, List.append_nil]
    refine ⟨fun token mem => closed token (List.dropLast_subset _ mem), ?_, ?_⟩
    · intro opened
      cases opened
    · rintro ⟨token, last, ends⟩
      exact absurd ends (closed token (List.mem_of_getLast? last))
  | some w =>
    have scanned : w.Scanned := OpenWord.scanned_of_openAfter nothing left
    rw [lastWord, List.dropLast_concat, List.getLast?_concat]
    refine ⟨closed, ?_⟩
    rw [inQuotes, ← endsQuoted_of_scanned scanned]
    simp [Token.text]

/-! ## 5. Texts with the same tokens -/

/-- The tokens in order, with any runs of blanks between them. -/
inductive Spaced : List Token → String → Prop
  | nil : Spaced [] ""
  | single (token : Token) : Spaced [token] token.text
  | cons (token : Token) {next : Token} {rest : List Token} {run text : String} (present : run ≠ "")
      (blank : isBlankText run) (later : Spaced (next :: rest) text) :
      Spaced (token :: next :: rest) (token.text ++ run ++ text)

/-- Tokens that are tokens by themselves stay the same with blanks between them, if none but the
last ends inside a quoted section. -/
theorem tokenize_of_spaced {tokens : List Token} {text : String} (spaced : Spaced tokens text)
    (alone : ∀ token ∈ tokens, tokenize token.text = [token])
    (closed : ∀ token ∈ tokens.dropLast, ¬ EndsQuoted token.text) : tokenize text = tokens := by
  induction spaced with
  | nil => rfl
  | single token => exact alone token List.mem_cons_self
  | cons token present blank later ih =>
    obtain ⟨first, others⟩ := List.forall_mem_cons.mp alone
    rw [List.dropLast_cons_cons] at closed
    obtain ⟨ends, closed⟩ := List.forall_mem_cons.mp closed
    rw [tokenize_append ends present blank, first, ih others closed, List.singleton_append]

/-- The tokenizer loses nothing but blanks, and its tokens stay tokens. One after another, they are
the text without the blanks outside of its quoted sections. Each is a parenthesis, or a word that is
not empty and has no blank and no parenthesis outside of its quoted sections. None but the last ends
inside a quoted section, and the last does if the text does. With any runs of blanks between them
they are the tokens of what they make up. -/
theorem tokens_keep_text (text : String) :
    String.join ((tokenize text).map Token.text) =
      String.ofList (start.dropBlanks text.toList) ∧
    (∀ token ∈ tokenize text, token.WellFormed) ∧
    (∀ token ∈ (tokenize text).dropLast, ¬ EndsQuoted token.text) ∧
    (EndsQuoted text ↔
      ∃ token, (tokenize text).getLast? = some token ∧ EndsQuoted token.text) ∧
    ∀ again, Spaced (tokenize text) again → tokenize again = tokenize text := by
  have alone : ∀ token ∈ tokenize text, tokenize token.text = [token] :=
    fun _ mem => tokenize_text_of_mem mem
  obtain ⟨closed, last⟩ := endsQuoted_tokens text
  refine ⟨?_, fun token mem => wellFormed_of_tokenize_text (alone token mem), closed, last,
    fun again spaced => tokenize_of_spaced spaced alone closed⟩
  have chars : tokenChars (tokenize text) = start.dropBlanks text.toList :=
    tokenChars_scanTokens none text.toList
  rw [← chars, ← String.toList_inj]
  simp [tokenChars, List.flatMap_map]

/-- A backslash in front of a parenthesis and one in front of a blank, an escaped quote inside of a
section and one outside, a section inside a word, and one that stays open. -/
def knotted : String :=
  " \\(\"( \\\" \"\\ \"a b\"c\\\" )\u3000d\" (  "

/-- The backslashes before a parenthesis and a blank escape no quote, and the ideographic blank
between the last two tokens may be replaced by a tab. -/
theorem tokens_keep_text_knotted :
    let tokens : List Token := [.word "\\", .opening, .word "\"( \\\" \"\\", .word "\"a b\"c\\\"",
      .closing, .word "d\" (  "]
    let again := "\\\n(\r\n\"( \\\" \"\\ \"a b\"c\\\" )\td\" (  "
    tokenize knotted = tokens ∧ Spaced tokens again ∧ tokenize again = tokens ∧
      EndsQuoted knotted := by
  intro tokens again
  have same : tokenize knotted = tokens := by decide +kernel
  have spaced : Spaced tokens again :=
    @Spaced.cons (.word "\\") _ _ "\n" _ (by decide) (by decide) <|
    @Spaced.cons .opening _ _ "\r\n" _ (by decide) (by decide) <|
    @Spaced.cons (.word "\"( \\\" \"\\") _ _ " " _ (by decide) (by decide) <|
    @Spaced.cons (.word "\"a b\"c\\\"") _ _ " " _ (by decide) (by decide) <|
    @Spaced.cons .closing _ _ "\t" _ (by decide) (by decide) <| .single (.word "d\" (  ")
  obtain ⟨-, -, -, last, stays⟩ := tokens_keep_text knotted
  rw [same] at last stays
  exact ⟨same, spaced, stays again spaced, last.mpr ⟨_, rfl, by decide +kernel⟩⟩

end ListScript
