import ListScript.Number
import ListScript.Reading

/-!
# How numbers are spelled

An atom is a text with a kind, and a number is read from its text whenever it is used. So the kind
is a promise about the text. The reader gives it for the words that it takes for numbers, and
arithmetic gives it for the numbers that it writes. Reading relies on it.

Results:
1. `classify_of_isInteger`, `classify_of_isDouble`: what is spelled like a number is read as one.
2. `spells_of_classify`, `spells_integerText`, `spells_toPlaces`: what is read and what is written
   is spelled as its kind says.
3. `readInteger_ne_notInteger`, `isSome_readDecimal`: what is so spelled is never taken for no
   number.
-/

namespace ListScript

/-! ## 1. Spellings -/

/-- A plus, a minus or nothing. -/
inductive IsSign : List Char → Prop
  | none : IsSign []
  | plus : IsSign ['+']
  | minus : IsSign ['-']

/-- Decimal digits, or nothing. -/
def AllDigits (chars : List Char) : Prop :=
  ∀ c ∈ chars, c.isDigit = true

instance (chars : List Char) : Decidable (AllDigits chars) :=
  decidable_of_iff (chars.all Char.isDigit = true) List.all_eq_true

/-- The word is an optional sign and digits. -/
def Word.IsInteger (word : List Char) : Prop :=
  ∃ sign digits, word = sign ++ digits ∧ IsSign sign ∧ AllDigits digits ∧ digits ≠ []

/-- The word is an optional sign, perhaps digits, a point and digits. -/
def Word.IsDouble (word : List Char) : Prop :=
  ∃ sign whole decimals, word = sign ++ (whole ++ '.' :: decimals) ∧ IsSign sign ∧
    AllDigits whole ∧ AllDigits decimals ∧ decimals ≠ []

/-- The text is spelled as the kind of its atom says. A double may also be a word for what is no
number on the line. Symbols and strings may have any text. -/
def AtomKind.Spells : AtomKind → String → Prop
  | .integer, text => Word.IsInteger text.toList
  | .double, text =>
    Word.IsDouble text.toList ∨ text = "inf" ∨ text = "-inf" ∨ text = "NaN"
  | .symbol, _ => True
  | .string, _ => True

/-- The atom stands somewhere in the value: it is the value, or it stands in one of the children of
a list or in the body of a lambda. -/
inductive Value.Holds (kind : AtomKind) (text : String) : Value → Prop
  | atom : Holds kind text (.atom kind text)
  | item {items : List Value} {v : Value} (mem : v ∈ items) (inner : Holds kind text v) :
      Holds kind text (.list items)
  | body {params : List String} {body : Value} {captured : FrameId}
      (inner : Holds kind text body) : Holds kind text (.lambda params body captured)

theorem Value.holds_atom {kind kind' : AtomKind} {text text' : String} :
    (Value.atom kind text).Holds kind' text' ↔ kind = kind' ∧ text = text' := by
  constructor
  · intro holds
    cases holds
    exact ⟨rfl, rfl⟩
  · rintro ⟨rfl, rfl⟩
    exact .atom

theorem Value.holds_list {items : List Value} {kind : AtomKind} {text : String} :
    (Value.list items).Holds kind text ↔ ∃ v ∈ items, v.Holds kind text := by
  constructor
  · intro holds
    cases holds with
    | item mem inner => exact ⟨_, mem, inner⟩
  · rintro ⟨v, mem, inner⟩
    exact .item mem inner

open Word

namespace SpellingLemmas

theorem ne_of_isDigit {c d : Char} (digit : c.isDigit = true) (other : d.isDigit = false) :
    c ≠ d := by
  rintro rfl
  rw [digit] at other
  cases other

theorem not_mem_of_isSign {sign : List Char} (h : IsSign sign) : '.' ∉ sign := by
  cases h <;> decide

theorem not_mem_of_allDigits {digits : List Char} (h : AllDigits digits) : '.' ∉ digits :=
  fun mem => ne_of_isDigit (h '.' mem) (by decide) rfl

/-- Every text has a sign in front, if only the empty one. -/
theorem exists_sign (chars : List Char) :
    ∃ sign, IsSign sign ∧ chars = sign ++ (takeSign chars).2 := by
  fun_cases takeSign chars with
  | case1 rest => exact ⟨['-'], .minus, rfl⟩
  | case2 rest => exact ⟨['+'], .plus, rfl⟩
  | case3 => exact ⟨[], .none, rfl⟩

/-- Only the sign is taken from what follows it with a digit or a point. -/
theorem takeSign_append {sign rest : List Char} {c : Char} (hsign : IsSign sign)
    (unsigned : c.isDigit = true ∨ c = '.') :
    ∃ negative, takeSign (sign ++ c :: rest) = (negative, c :: rest) := by
  have noSign : c ≠ '-' ∧ c ≠ '+' := by
    rcases unsigned with digit | rfl
    · exact ⟨ne_of_isDigit digit (by decide), ne_of_isDigit digit (by decide)⟩
    · decide
  cases hsign with
  | none => exact ⟨false, by simp [takeSign, noSign]⟩
  | plus => exact ⟨false, rfl⟩
  | minus => exact ⟨true, rfl⟩

theorem takeSign_digits {sign digits : List Char} (hsign : IsSign sign)
    (hdigits : AllDigits digits) (some : digits ≠ []) :
    ∃ negative, takeSign (sign ++ digits) = (negative, digits) := by
  obtain ⟨c, rest, rfl⟩ := List.exists_cons_of_ne_nil some
  exact takeSign_append hsign (.inl (hdigits c List.mem_cons_self))

theorem takeSign_decimals {sign whole : List Char} (hsign : IsSign sign) (hwhole : AllDigits whole)
    (decimals : List Char) :
    ∃ negative, takeSign (sign ++ (whole ++ '.' :: decimals)) =
      (negative, whole ++ '.' :: decimals) := by
  cases whole with
  | nil => exact takeSign_append hsign (.inr rfl)
  | cons c rest => exact takeSign_append hsign (.inl (hwhole c List.mem_cons_self))

theorem dropWhile_digits {digits : List Char} (h : AllDigits digits) (rest : List Char) :
    (digits ++ rest).dropWhile Char.isDigit = rest.dropWhile Char.isDigit :=
  List.dropWhile_append_of_pos h

end SpellingLemmas

open SpellingLemmas

/-! ## 2. Words that are read -/

/-- A word counts as a number exactly if it is spelled like one. -/
theorem isNumeral_iff {word : List Char} :
    isNumeral word = true ↔ IsInteger word ∨ IsDouble word := by
  constructor
  · intro numeral
    obtain ⟨sign, hsign, split⟩ := exists_sign word
    unfold isNumeral at numeral
    dsimp only at numeral
    generalize (takeSign word).2 = body at numeral split
    have digits : AllDigits (body.takeWhile Char.isDigit) :=
      List.all_eq_true.mp List.all_takeWhile
    have parts : body = body.takeWhile Char.isDigit ++ body.dropWhile Char.isDigit :=
      List.takeWhile_append_dropWhile.symm
    split at numeral
    · next none =>
      rw [none, List.append_nil] at parts
      exact .inl ⟨sign, body, split, hsign, parts ▸ digits, by simpa using numeral⟩
    · next decimals point =>
      rw [point] at parts
      simp only [Bool.and_eq_true, Bool.not_eq_true', List.isEmpty_eq_false_iff,
        List.all_eq_true] at numeral
      exact .inr ⟨sign, _, decimals, split.trans (congrArg (sign ++ ·) parts), hsign, digits,
        numeral.2, numeral.1⟩
    · cases numeral
  · rintro (⟨sign, digits, rfl, hsign, hdigits, some⟩ |
      ⟨sign, whole, decimals, rfl, hsign, hwhole, hdecimals, some⟩)
    · obtain ⟨negative, taken⟩ := takeSign_digits hsign hdigits some
      have none : digits.dropWhile Char.isDigit = [] := by
        simpa using dropWhile_digits hdigits []
      simp [isNumeral, taken, none, some]
    · obtain ⟨negative, taken⟩ := takeSign_decimals hsign hwhole decimals
      have point : (whole ++ '.' :: decimals).dropWhile Char.isDigit = '.' :: decimals :=
        dropWhile_digits hwhole ('.' :: decimals)
      simp [isNumeral, taken, point, some]
      exact hdecimals

theorem not_mem_of_isInteger {word : List Char} (h : IsInteger word) : '.' ∉ word := by
  obtain ⟨sign, digits, rfl, hsign, hdigits, -⟩ := h
  rw [List.mem_append]
  exact not_or.mpr ⟨not_mem_of_isSign hsign, not_mem_of_allDigits hdigits⟩

theorem mem_of_isDouble {word : List Char} (h : IsDouble word) : '.' ∈ word := by
  obtain ⟨sign, whole, decimals, rfl, -⟩ := h
  simp

theorem classify_of_isInteger {word : String} (h : IsInteger word.toList) :
    classify word = .integer word := by
  simp [classify, isNumeral_iff.mpr (.inl h), not_mem_of_isInteger h]

theorem classify_of_isDouble {word : String} (h : IsDouble word.toList) :
    classify word = .double word := by
  simp [classify, isNumeral_iff.mpr (.inr h), mem_of_isDouble h]

/-- A word is read as an atom. -/
theorem classify_eq_atom (word : String) : ∃ kind text, classify word = .atom kind text := by
  unfold classify
  dsimp only
  split
  · split <;> exact ⟨_, _, rfl⟩
  · split <;> exact ⟨_, _, rfl⟩

/-- What is read is spelled as its kind says. -/
theorem spells_of_classify {word text : String} {kind : AtomKind}
    (h : classify word = .atom kind text) : kind.Spells text := by
  unfold classify at h
  dsimp only at h
  split at h
  · next numeral =>
    split at h
    · next point =>
      cases h
      rcases isNumeral_iff.mp numeral with integer | double
      · exact absurd (by simpa using point) (not_mem_of_isInteger integer)
      · exact .inl double
    · next noPoint =>
      cases h
      rcases isNumeral_iff.mp numeral with integer | double
      · exact integer
      · exact absurd (mem_of_isDouble double) (by simpa using noPoint)
  · split at h <;> cases h <;> trivial

/-! ## 3. Numbers that are written -/

theorem allDigits_repr (n : Nat) : AllDigits (Nat.repr n).toList := by
  rw [Nat.toList_repr]
  exact fun c mem => Nat.isDigit_of_mem_toDigits (by decide) (by decide) mem

theorem repr_ne_nil (n : Nat) : (Nat.repr n).toList ≠ [] := by
  rw [Nat.toList_repr]
  exact Nat.toDigits_ne_nil

theorem isSign_signText (negative : Bool) : IsSign (signText negative).toList := by
  cases negative with
  | false => exact .none
  | true => exact .minus

/-- Integers are written as integers. -/
theorem spells_integerText (n : Int) : AtomKind.integer.Spells (integerText n) := by
  refine ⟨_, (Nat.repr n.natAbs).toList, ?_, isSign_signText (n < 0), allDigits_repr _,
    repr_ne_nil _⟩
  rw [integerText, String.toList_append]

theorem allDigits_paddedDigits (width n : Nat) : AllDigits (paddedDigits width n).toList := by
  have zeros (count : Nat) : AllDigits ("".pushn '0' count).toList := by
    induction count with
    | zero => exact fun _ mem => absurd mem List.not_mem_nil
    | succ count ih =>
      have more : "".pushn '0' (count + 1) = ("".pushn '0' count).push '0' := rfl
      rw [more, String.toList_push]
      intro c mem
      rcases List.mem_append.mp mem with old | last
      · exact ih c old
      · cases List.mem_singleton.mp last
        decide
  intro c mem
  rw [paddedDigits, String.toList_append] at mem
  exact (List.mem_append.mp mem).elim (zeros _ c) (allDigits_repr n c)

theorem paddedDigits_ne_nil (width n : Nat) : (paddedDigits width n).toList ≠ [] := by
  rw [paddedDigits, String.toList_append]
  exact List.append_ne_nil_of_right_ne_nil _ (repr_ne_nil n)

/-- A magnitude is written with digits on both sides of a point. -/
theorem placesText_parts (num den : Nat) :
    ∃ whole decimals, (placesText num den).toList = whole ++ '.' :: decimals ∧ AllDigits whole ∧
      AllDigits decimals ∧ decimals ≠ [] := by
  unfold placesText
  dsimp only
  generalize roundTiesToEven (num * Nat.pow 10 places) den = units
  refine ⟨(Nat.repr (units / Nat.pow 10 places)).toList, _, ?_, allDigits_repr _,
    allDigits_paddedDigits places (units % Nat.pow 10 places), paddedDigits_ne_nil _ _⟩
  simp

/-- Doubles are written as doubles. -/
theorem spells_toPlaces (x : Binary64) : AtomKind.double.Spells x.toPlaces := by
  cases x with
  | nan => exact .inr (.inr (.inr rfl))
  | infinite negative =>
    cases negative with
    | false => exact .inr (.inl rfl)
    | true => exact .inr (.inr (.inl rfl))
  | finite negative significand exponent =>
    unfold Binary64.toPlaces
    dsimp only
    generalize Binary64.fraction significand exponent = parts
    obtain ⟨whole, decimals, same, digits⟩ := placesText_parts parts.1 parts.2
    refine .inl ⟨_, whole, decimals, ?_, isSign_signText negative, digits⟩
    rw [String.toList_append, same]

/-! ## 4. Reading what was spelled -/

theorem digitValue?_of_isDigit {c : Char} (digit : c.isDigit = true) :
    ∃ value, digitValue? c = some value :=
  ⟨_, if_pos digit⟩

/-- Digits are an integer, or leave the range of one. -/
theorem digits_ne_notInteger (negative : Bool) (n : Int) {digits : List Char}
    (h : AllDigits digits) : IntegerReading.digits negative n digits ≠ .notInteger := by
  induction digits generalizing n with
  | nil => exact nofun
  | cons c rest ih =>
    obtain ⟨first, later⟩ := List.forall_mem_cons.mp h
    obtain ⟨value, same⟩ := digitValue?_of_isDigit first
    simp only [IntegerReading.digits, same]
    split
    · exact ih _ later
    · exact nofun

theorem readInteger_ne_notInteger {text : String} (h : IsInteger text.toList) :
    readInteger text ≠ .notInteger := by
  obtain ⟨sign, digits, split, hsign, hdigits, some⟩ := h
  obtain ⟨negative, taken⟩ := takeSign_digits hsign hdigits some
  obtain ⟨c, rest, rfl⟩ := List.exists_cons_of_ne_nil some
  simp only [readInteger, split, taken]
  exact digits_ne_notInteger negative 0 hdigits

/-- Digits in front are all taken. -/
theorem takeDigits_append (n count : Nat) {digits : List Char} (h : AllDigits digits)
    (rest : List Char) :
    ∃ m, takeDigits n count (digits ++ rest) = takeDigits m (count + digits.length) rest := by
  induction digits generalizing n count with
  | nil => exact ⟨n, rfl⟩
  | cons c digits ih =>
    obtain ⟨first, later⟩ := List.forall_mem_cons.mp h
    obtain ⟨value, same⟩ := digitValue?_of_isDigit first
    obtain ⟨m, taken⟩ := ih (10 * n + value) (count + 1) later
    refine ⟨m, ?_⟩
    simp only [List.cons_append, takeDigits, same, taken, List.length_cons]
    congr 1
    omega

theorem isSome_read? {whole decimals : List Char} (hwhole : AllDigits whole)
    (hdecimals : AllDigits decimals) (some : decimals ≠ []) :
    (Decimal.read? (whole ++ '.' :: decimals)).isSome := by
  obtain ⟨m, front⟩ := takeDigits_append 0 0 hwhole ('.' :: decimals)
  obtain ⟨k, back⟩ := takeDigits_append m (0 + whole.length) hdecimals []
  have point : takeDigits m (0 + whole.length) ('.' :: decimals) =
      (m, 0 + whole.length, '.' :: decimals) := by
    have noDigit : digitValue? '.' = none := by decide
    simp [takeDigits, noDigit]
  have positive : 0 + whole.length + decimals.length ≠ 0 := by
    have := List.length_pos_iff.mpr some
    omega
  rw [List.append_nil, takeDigits] at back
  simp only [Decimal.read?, front, point, back, if_neg positive, Decimal.exponent?]
  rfl

/-- What is spelled as a double is read as a decimal. -/
theorem isSome_readDecimal {text : String} (h : AtomKind.double.Spells text) :
    (readDecimal text).isSome := by
  rcases h with ⟨sign, whole, decimals, split, hsign, hwhole, hdecimals, some⟩ | rfl | rfl | rfl
  · obtain ⟨negative, taken⟩ := takeSign_decimals hsign hwhole decimals
    have read := isSome_read? hwhole hdecimals some
    simp only [readDecimal, split, taken]
    cases found : Decimal.read? (whole ++ '.' :: decimals) with
    | none =>
      rw [found] at read
      cases read
    | some d => rfl
  · decide +kernel
  · decide +kernel
  · decide +kernel

end ListScript
