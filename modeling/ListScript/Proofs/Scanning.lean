import ListScript.Text.Lines
import ListScript.Token

/-!
# Scanning a text in parts

The tokens of a text can be found part by part: what a part completes does not depend on what
follows, and the next part begins with the word that is left open. A blank outside quoted sections
leaves no word open, so the tokens on its two sides have nothing to do with each other.

Results:
1. `scanTokens_append`: the tokens of two parts.
2. `scanTokens_blank`: the tokens on the two sides of a blank.
3. `tokenize_lines`: where quoted sections are closed on each line, the tokens of a text are those
   of its lines.
-/

namespace ListScript

/-! ## 1. One character at a time -/

/-- What one more character does to the word that is being read: the tokens that it completes, and
the word that is being read then. -/
def scanStep : Option OpenWord → Char → List Token × Option OpenWord
  | none, c =>
    if c = '(' then ([.opening], none)
    else if c = ')' then ([.closing], none)
    else if isBlank c then ([], none)
    else ([], some (OpenWord.empty.push c))
  | some w, c =>
    if w.quoted || !endsWord c then ([], some (w.push c))
    else if c = '(' then ([.word w.text, .opening], none)
    else if c = ')' then ([.word w.text, .closing], none)
    else ([.word w.text], none)

/-- The token of a word that the text ends. -/
def lastWord : Option OpenWord → List Token
  | none => []
  | some w => [.word w.text]

/-- The tokens that some characters complete. -/
def closedTokens (w : Option OpenWord) : List Char → List Token
  | [] => []
  | c :: rest => (scanStep w c).1 ++ closedTokens (scanStep w c).2 rest

/-- The word that is being read after some characters. -/
def openAfter (w : Option OpenWord) (chars : List Char) : Option OpenWord :=
  chars.foldl (fun w c => (scanStep w c).2) w

/-- Whether a quoted section is open. -/
def inQuotes : Option OpenWord → Bool
  | none => false
  | some w => w.quoted

theorem scanTokens_nil (w : Option OpenWord) : scanTokens w [] = lastWord w := by
  cases w <;> rfl

theorem scanTokens_cons (w : Option OpenWord) (c : Char) (rest : List Char) :
    scanTokens w (c :: rest) = (scanStep w c).1 ++ scanTokens (scanStep w c).2 rest := by
  cases w with
  | none =>
    simp only [scanTokens, scanStep]
    repeat' split
    all_goals rfl
  | some w =>
    simp only [scanTokens, scanStep]
    repeat' split
    all_goals rfl

/-- What a part completes does not depend on what follows. -/
theorem scanTokens_append (w : Option OpenWord) (chars more : List Char) :
    scanTokens w (chars ++ more) = closedTokens w chars ++ scanTokens (openAfter w chars) more := by
  induction chars generalizing w with
  | nil => rfl
  | cons c rest ih =>
    rw [List.cons_append, scanTokens_cons, ih, closedTokens, List.append_assoc]
    rfl

theorem scanTokens_eq (w : Option OpenWord) (chars : List Char) :
    scanTokens w chars = closedTokens w chars ++ lastWord (openAfter w chars) := by
  have whole := scanTokens_append w chars []
  rwa [List.append_nil, scanTokens_nil] at whole

theorem closedTokens_append (w : Option OpenWord) (chars more : List Char) :
    closedTokens w (chars ++ more) =
      closedTokens w chars ++ closedTokens (openAfter w chars) more := by
  induction chars generalizing w with
  | nil => rfl
  | cons c rest ih =>
    rw [List.cons_append, closedTokens, ih, closedTokens, List.append_assoc]
    rfl

theorem openAfter_append (w : Option OpenWord) (chars more : List Char) :
    openAfter w (chars ++ more) = openAfter (openAfter w chars) more :=
  List.foldl_append

/-! ## 2. Blanks -/

theorem not_isBlank_quote : isBlank '"' = false := by decide

theorem scanStep_blank {w : Option OpenWord} {c : Char} (unquoted : inQuotes w = false)
    (blank : isBlank c) : scanStep w c = (lastWord w, none) := by
  have notOpening : c ≠ '(' := by
    rintro rfl
    exact absurd blank (by decide)
  have notClosing : c ≠ ')' := by
    rintro rfl
    exact absurd blank (by decide)
  cases w with
  | none => simp [scanStep, notOpening, notClosing, blank, lastWord]
  | some w =>
    have unquoted : w.quoted = false := unquoted
    simp [scanStep, notOpening, notClosing, blank, lastWord, endsWord, unquoted]

/-- A character outside of quoted sections ends the word that is being read, and is a token itself if
it is a parenthesis. Every other character goes into that word or begins one. -/
theorem scanStep_cases (w : Option OpenWord) (c : Char) :
    (inQuotes w = false ∧ endsWord c = true ∧
      ((c = '(' ∧ scanStep w c = (lastWord w ++ [.opening], none)) ∨
        (c = ')' ∧ scanStep w c = (lastWord w ++ [.closing], none)) ∨
        (isBlank c = true ∧ scanStep w c = (lastWord w, none)))) ∨
    ((inQuotes w = true ∨ endsWord c = false) ∧
      scanStep w c = ([], some ((w.getD .empty).push c))) := by
  by_cases stays : (inQuotes w || !endsWord c) = true
  · refine .inr ⟨by simpa using stays, ?_⟩
    cases w with
    | none =>
      have inWord : (c ≠ '(' ∧ c ≠ ')') ∧ isBlank c = false := by
        simpa [inQuotes, endsWord] using stays
      simp [scanStep, inWord]
    | some w => exact if_pos stays
  · obtain ⟨unquoted, ends⟩ : inQuotes w = false ∧ endsWord c = true := by simpa using stays
    have which : (c = '(' ∨ c = ')') ∨ isBlank c = true := by simpa [endsWord] using ends
    refine .inl ⟨unquoted, ends, ?_⟩
    rcases which with (rfl | rfl) | blank
    · refine .inl ⟨rfl, ?_⟩
      cases w with
      | none => rfl
      | some w => exact if_neg stays
    · refine .inr (.inl ⟨rfl, ?_⟩)
      cases w with
      | none => rfl
      | some w => exact if_neg stays
    · exact .inr (.inr ⟨blank, scanStep_blank unquoted blank⟩)

/-- The tokens on the two sides of a blank that no quote surrounds. -/
theorem scanTokens_blank {w : Option OpenWord} {chars more : List Char} {c : Char}
    (unquoted : inQuotes (openAfter w chars) = false) (blank : isBlank c) :
    scanTokens w (chars ++ c :: more) = scanTokens w chars ++ scanTokens none more := by
  calc scanTokens w (chars ++ c :: more)
    _ = closedTokens w chars ++ scanTokens (openAfter w chars) (c :: more) :=
      scanTokens_append w chars (c :: more)
    _ = closedTokens w chars ++ (lastWord (openAfter w chars) ++ scanTokens none more) := by
      rw [scanTokens_cons, scanStep_blank unquoted blank]
    _ = scanTokens w chars ++ scanTokens none more := by
      rw [← List.append_assoc, ← scanTokens_eq]

theorem openAfter_blank {w : Option OpenWord} {chars : List Char} {c : Char}
    (unquoted : inQuotes (openAfter w chars) = false) (blank : isBlank c) :
    openAfter w (chars ++ [c]) = none := by
  rw [openAfter_append]
  exact congrArg Prod.snd (scanStep_blank unquoted blank)

/-- A blank outside of words is skipped. -/
theorem scanTokens_skip {c : Char} (blank : isBlank c) (chars : List Char) :
    scanTokens none (c :: chars) = scanTokens none chars := by
  rw [scanTokens_cons, scanStep_blank rfl blank]
  rfl

/-- Blanks outside of words are skipped. -/
theorem scanTokens_skipAll {blanks : List Char} (blank : blanks.all isBlank) (chars : List Char) :
    scanTokens none (blanks ++ chars) = scanTokens none chars := by
  induction blanks with
  | nil => rfl
  | cons c rest ih =>
    rw [List.all_cons, Bool.and_eq_true] at blank
    rw [List.cons_append, scanTokens_skip blank.1, ih blank.2]

/-- Blanks are no tokens. -/
theorem scanTokens_of_blanks {chars : List Char} (blank : chars.all isBlank) :
    scanTokens none chars = [] := by
  have skipped := scanTokens_skipAll blank []
  rwa [List.append_nil] at skipped

/-! ## 3. Quoted sections -/

/-- Where a character stands: outside quoted sections, inside one, or inside one after a
backslash. -/
inductive Quoting where
  | outside
  | inside
  | escaped
deriving DecidableEq

namespace Quoting

/-- Where the next character stands. A backslash must not stand outside. -/
def next? : Quoting → Char → Option Quoting
  | .outside, c => if c = '"' then some .inside else if c = '\\' then none else some .outside
  | .inside, c =>
    if c = '"' then some .outside else if c = '\\' then some .escaped else some .inside
  | .escaped, _ => some .inside

/-- Where the character after some characters stands. -/
def after? (q : Quoting) (chars : List Char) : Option Quoting :=
  chars.foldlM next? q

/-- The word that is being read where a character stands. -/
def Scans : Quoting → Option OpenWord → Prop
  | .outside, none => True
  | .outside, some w => w.quoted = false ∧ w.escaped = false
  | .inside, some w => w.quoted = true ∧ w.escaped = false
  | .escaped, some w => w.quoted = true ∧ w.escaped = true
  | _, none => False

theorem after?_cons {q q' : Quoting} {c : Char} {rest : List Char} :
    q.after? (c :: rest) = some q' ↔ ∃ mid, q.next? c = some mid ∧ mid.after? rest = some q' :=
  Option.bind_eq_some_iff

theorem scanStep_of_quoted {w : OpenWord} {c : Char} (quoted : w.quoted = true) :
    scanStep (some w) c = ([], some (w.push c)) := by
  simp [scanStep, quoted]

/-- The next character stands where the scanner takes it to stand. -/
theorem scans_step {q q' : Quoting} {w : Option OpenWord} {c : Char} (h : q.Scans w)
    (next : q.next? c = some q') : q'.Scans (scanStep w c).2 := by
  cases q with
  | outside =>
    rw [next?] at next
    split at next
    · next quote =>
      cases next
      subst quote
      cases w with
      | none => exact ⟨rfl, rfl⟩
      | some w =>
        -- A quote in the middle of a word does not end it, unlike a blank or a parenthesis.
        have stays : scanStep (some w) '"' = ([], some (w.push '"')) := by
          simp [scanStep, endsWord, not_isBlank_quote]
        rw [stays]
        simp [Scans, OpenWord.push, h.1, h.2]
    · next noQuote =>
      split at next
      · cases next
      · next noBackslash =>
        cases next
        cases w with
        | none =>
          simp only [scanStep]
          repeat' split
          all_goals simp [Scans, OpenWord.push, OpenWord.empty, noQuote, noBackslash]
        | some w =>
          simp only [scanStep]
          repeat' split
          all_goals simp [Scans, OpenWord.push, noQuote, noBackslash, h.1]
  | inside =>
    cases w with
    | none => exact h.elim
    | some w =>
      rw [scanStep_of_quoted h.1]
      rw [next?] at next
      split at next
      · next quote =>
        cases next
        simp [Scans, OpenWord.push, quote, h.1, h.2]
      · next noQuote =>
        split at next
        · next backslash =>
          cases next
          simp [Scans, OpenWord.push, backslash, h.1, h.2]
        · next noBackslash =>
          cases next
          simp [Scans, OpenWord.push, noQuote, noBackslash, h.1]
  | escaped =>
    cases w with
    | none => exact h.elim
    | some w =>
      rw [scanStep_of_quoted h.1]
      cases next
      simp [Scans, OpenWord.push, h.1, h.2]

theorem scans_openAfter {q q' : Quoting} {w : Option OpenWord} {chars : List Char} (h : q.Scans w)
    (after : q.after? chars = some q') : q'.Scans (openAfter w chars) := by
  induction chars generalizing q w with
  | nil =>
    cases after
    exact h
  | cons c rest ih =>
    obtain ⟨mid, next, after⟩ := after?_cons.mp after
    exact ih (scans_step h next) after

end Quoting

/-- Every quoted section of a line is closed on it, and no backslash stands outside of them. -/
def ClosesQuotes (line : String) : Prop :=
  Quoting.after? .outside line.toList = some .outside

instance (line : String) : Decidable (ClosesQuotes line) :=
  inferInstanceAs (Decidable (_ = _))

/-- After a line that closes its quoted sections none is open. -/
theorem scans_of_closesQuotes {line : String} (h : ClosesQuotes line) :
    Quoting.outside.Scans (openAfter none line.toList) :=
  Quoting.scans_openAfter (q := .outside) (w := none) trivial h

theorem inQuotes_of_scans {w : Option OpenWord} (h : Quoting.outside.Scans w) :
    inQuotes w = false := by
  cases w with
  | none => rfl
  | some w => exact h.1

/-! ## 4. Lines -/

namespace Lines

theorem chomp_spec (line : List Char) : line = chomp line ∨ line = chomp line ++ ['\r'] := by
  unfold chomp
  split
  · next ends =>
    obtain ⟨init, rfl⟩ := List.getLast?_eq_some_iff.mp ends
    exact .inr (by rw [List.dropLast_concat])
  · exact .inl rfl

/-- A carriage return at the end of a line is no token, and after it no quoted section is open. -/
theorem scanTokens_chomp {line : List Char}
    (unquoted : inQuotes (openAfter none (chomp line)) = false) :
    scanTokens none line = scanTokens none (chomp line) ∧
      inQuotes (openAfter none line) = false := by
  have blank : isBlank '\r' := by decide
  rcases chomp_spec line with same | ends
  · rw [← same] at unquoted ⊢
    exact ⟨rfl, unquoted⟩
  · generalize chomp line = kept at unquoted ends
    subst ends
    rw [scanTokens_blank unquoted blank, openAfter_blank unquoted blank]
    exact ⟨List.append_nil _, rfl⟩

theorem scanTokens_split {line rest : List Char}
    (unquoted : ∀ l ∈ split line rest, inQuotes (openAfter none l) = false) :
    scanTokens none (line.reverse ++ rest) = (split line rest).flatMap (scanTokens none) := by
  fun_induction split line rest with
  | case1 line empty =>
    rw [List.isEmpty_iff.mp empty]
    rfl
  | case2 line present => simp
  | case3 line rest ih =>
    obtain ⟨first, others⟩ := List.forall_mem_cons.mp unquoted
    obtain ⟨same, ends⟩ := scanTokens_chomp first
    rw [scanTokens_blank ends (by decide), List.flatMap_cons, same, ← ih others]
    rfl
  | case4 line c rest other ih =>
    have whole := ih unquoted
    rwa [List.reverse_cons, List.append_assoc] at whole

theorem mem_of_mem_chomp {line : List Char} {c : Char} (h : c ∈ chomp line) : c ∈ line := by
  rcases chomp_spec line with same | ends
  · exact same ▸ h
  · rw [ends]
    exact List.mem_append_left _ h

theorem mem_of_mem_split {line rest l : List Char} {c : Char} (mem : l ∈ split line rest)
    (hc : c ∈ l) : c ∈ line ∨ c ∈ rest := by
  fun_induction split line rest with
  | case1 line empty => cases mem
  | case2 line present =>
    cases List.mem_singleton.mp mem
    exact .inl (List.mem_reverse.mp hc)
  | case3 line rest ih =>
    rcases List.mem_cons.mp mem with rfl | mem
    · exact .inl (List.mem_reverse.mp (mem_of_mem_chomp hc))
    · rcases ih mem with none | later
      · cases none
      · exact .inr (List.mem_cons_of_mem _ later)
  | case4 line d rest other ih =>
    rcases ih mem with here | later
    · rcases List.mem_cons.mp here with rfl | earlier
      · exact .inr List.mem_cons_self
      · exact .inl earlier
    · exact .inr (List.mem_cons_of_mem d later)

end Lines

/-- Where every quoted section is closed on its line, the tokens of a text are those of its
lines. -/
theorem tokenize_lines {text : String} (h : ∀ line ∈ lines text, ClosesQuotes line) :
    tokenize text = (lines text).flatMap tokenize := by
  have unquoted : ∀ l ∈ Lines.split [] text.toList, inQuotes (openAfter none l) = false := by
    intro l mem
    have closed := h (String.ofList l) (List.mem_map_of_mem mem)
    simpa using inQuotes_of_scans (scans_of_closesQuotes closed)
  have whole := Lines.scanTokens_split unquoted
  rw [tokenize, lines, List.flatMap_map]
  simpa [tokenize, Function.comp_def] using whole

/-- The characters of the lines of a text are characters of the text. -/
theorem mem_of_mem_lines {text line : String} (mem : line ∈ lines text) {c : Char}
    (hc : c ∈ line.toList) : c ∈ text.toList := by
  obtain ⟨l, memSplit, rfl⟩ := List.mem_map.mp mem
  rw [String.toList_ofList] at hc
  rcases Lines.mem_of_mem_split memSplit hc with none | within
  · cases none
  · exact within

end ListScript
