import ListScript.Builtin
import ListScript.Proofs.NumberTags

/-!
# How operands are read

Arithmetic and comparisons read the text of an operand as an integer first. The reading goes from
digit to digit and stops at the first one that leaves the range, before it has seen what follows. So
out of range are the texts that begin with an integer out of range, and not only the integers among
them. All others are read as the integer that they write, or as a decimal, or are refused as no
number.

Results:
1. `readInteger_eq_value_iff`, `readInteger_eq_outOfRange_iff`: what an integer reading finds, by
   the number that a sign and digits write.
2. `Arithmetic.apply_of_unread`, `Comparison.apply_of_unread`: an operand that cannot be read
   decides what a procedure gives.
3. `operand_reading`: how an operand is read, and `operand_reading_tail`, where digits out of range
   are followed by something else.
-/

namespace ListScript

/-! ## 1. Numbers that are written -/

/-- A number with or without a minus. -/
def signed (negative : Bool) (n : Nat) : Int :=
  if negative then -n else n

namespace Word

/-- The word is an optional sign and digits, and this is the number that they write. -/
def Denotes (word : List Char) (n : Int) : Prop :=
  ∃ sign digits, word = sign ++ digits ∧ IsSign sign ∧ AllDigits digits ∧ digits ≠ [] ∧
    n = signed (sign = ['-']) (Nat.ofDigitChars 10 digits 0)

/-- The word begins with an integer that is out of range. -/
def Overflows (word : List Char) : Prop :=
  ∃ front rest n, word = front ++ rest ∧ Denotes front n ∧ fitsInteger n = false

theorem isInteger_iff {word : List Char} : IsInteger word ↔ ∃ n, Denotes word n := by
  constructor
  · rintro ⟨sign, digits, same, hsign, hdigits, some⟩
    exact ⟨_, sign, digits, same, hsign, hdigits, some, rfl⟩
  · rintro ⟨n, sign, digits, same, hsign, hdigits, some, -⟩
    exact ⟨sign, digits, same, hsign, hdigits, some⟩

end Word

open Word SpellingLemmas

theorem fitsInteger_iff {n : Int} :
    fitsInteger n = true ↔ -9223372036854775808 ≤ n ∧ n < 9223372036854775808 := by
  simp [fitsInteger, fitsSigned]

/-- A number nearer to zero fits if the one farther away does. -/
theorem fitsInteger_signed_of_le {negative : Bool} {m n : Nat} (le : m ≤ n)
    (fits : fitsInteger (signed negative n) = true) : fitsInteger (signed negative m) = true := by
  rw [fitsInteger_iff] at fits ⊢
  unfold signed at fits ⊢
  cases negative <;> simp at fits ⊢ <;> omega

theorem appendDigit_signed (negative : Bool) (m digit : Nat) :
    appendDigit negative (signed negative m) digit = signed negative (10 * m + digit) := by
  unfold appendDigit signed
  cases negative <;> simp <;> omega

/-- More digits make a number larger. -/
theorem le_ofDigitChars (digits : List Char) (m : Nat) : m ≤ Nat.ofDigitChars 10 digits m := by
  induction digits generalizing m with
  | nil => exact Nat.le_refl m
  | cons c rest ih =>
    rw [Nat.ofDigitChars_cons]
    exact Nat.le_trans (by omega) (ih _)

/-! ## 2. Reading digits -/

namespace OperandLemmas

theorem digitValue?_eq {c : Char} (digit : c.isDigit = true) :
    digitValue? c = some (c.toNat - '0'.toNat) :=
  if_pos digit

theorem digitValue?_eq_none {c : Char} (other : ¬ c.isDigit = true) : digitValue? c = none :=
  if_neg other

section Digits

variable {negative : Bool} {m : Nat} {chars : List Char}

/-- One more digit. -/
theorem digits_cons {c : Char} (digit : c.isDigit = true) :
    IntegerReading.digits negative (signed negative m) (c :: chars) =
      if fitsInteger (signed negative (10 * m + (c.toNat - '0'.toNat))) then
        IntegerReading.digits negative (signed negative (10 * m + (c.toNat - '0'.toNat))) chars
      else .outOfRange := by
  simp only [IntegerReading.digits, digitValue?_eq digit, appendDigit_signed]

/-- Digits are read as the number that they write, if it fits. -/
theorem digits_eq_value_iff {n : Int} (fits : fitsInteger (signed negative m) = true) :
    IntegerReading.digits negative (signed negative m) chars = .value n ↔
      AllDigits chars ∧ n = signed negative (Nat.ofDigitChars 10 chars m) ∧
        fitsInteger n = true := by
  induction chars generalizing m with
  | nil =>
    constructor
    · intro read
      cases read
      exact ⟨fun _ mem => absurd mem List.not_mem_nil, rfl, fits⟩
    · rintro ⟨-, rfl, -⟩
      rfl
  | cons c rest ih =>
    by_cases digit : c.isDigit = true
    · rw [digits_cons digit, Nat.ofDigitChars_cons, AllDigits, List.forall_mem_cons]
      split
      · next next =>
        rw [ih next]
        exact ⟨fun ⟨all, same⟩ => ⟨⟨digit, all⟩, same⟩, fun ⟨⟨_, all⟩, same⟩ => ⟨all, same⟩⟩
      · next beyond =>
        -- The whole number would be even farther from zero.
        refine ⟨nofun, ?_⟩
        rintro ⟨-, rfl, whole⟩
        exact absurd (fitsInteger_signed_of_le (le_ofDigitChars rest _) whole) beyond
    · refine ⟨fun read => ?_, fun ⟨all, _⟩ => absurd (all c List.mem_cons_self) digit⟩
      rw [IntegerReading.digits, digitValue?_eq_none digit] at read
      cases read

/-- Reading stops where the digits so far write a number that does not fit. -/
theorem digits_eq_outOfRange_iff (fits : fitsInteger (signed negative m) = true) :
    IntegerReading.digits negative (signed negative m) chars = .outOfRange ↔
      ∃ front rest, chars = front ++ rest ∧ AllDigits front ∧
        fitsInteger (signed negative (Nat.ofDigitChars 10 front m)) = false := by
  induction chars generalizing m with
  | nil =>
    refine ⟨nofun, ?_⟩
    rintro ⟨front, rest, split, -, beyond⟩
    obtain ⟨rfl, -⟩ := List.append_eq_nil_iff.mp split.symm
    rw [Nat.ofDigitChars_nil, fits] at beyond
    cases beyond
  | cons c chars ih =>
    -- A front that does not fit has at least the first character.
    have first {front rest : List Char} (split : c :: chars = front ++ rest)
        (beyond : fitsInteger (signed negative (Nat.ofDigitChars 10 front m)) = false) :
        ∃ more, front = c :: more ∧ chars = more ++ rest := by
      rcases List.cons_eq_append_iff.mp split with ⟨rfl, -⟩ | ⟨more, rfl, same⟩
      · rw [Nat.ofDigitChars_nil, fits] at beyond
        cases beyond
      · exact ⟨more, rfl, same⟩
    by_cases digit : c.isDigit = true
    · rw [digits_cons digit]
      split
      · next next =>
        rw [ih next]
        constructor
        · rintro ⟨front, rest, rfl, all, beyond⟩
          exact ⟨c :: front, rest, rfl, List.forall_mem_cons.mpr ⟨digit, all⟩, beyond⟩
        · rintro ⟨front, rest, split, all, beyond⟩
          obtain ⟨more, rfl, same⟩ := first split beyond
          exact ⟨more, rest, same, (List.forall_mem_cons.mp all).2, beyond⟩
      · next beyond =>
        refine ⟨fun _ => ⟨[c], chars, rfl, ?_, ?_⟩, fun _ => rfl⟩
        · exact List.forall_mem_cons.mpr ⟨digit, fun _ mem => absurd mem List.not_mem_nil⟩
        · exact eq_false_of_ne_true beyond
    · constructor
      · intro read
        rw [IntegerReading.digits, digitValue?_eq_none digit] at read
        cases read
      · rintro ⟨front, rest, split, all, beyond⟩
        obtain ⟨more, rfl, -⟩ := first split beyond
        exact absurd (all c List.mem_cons_self) digit

end Digits

end OperandLemmas

open OperandLemmas

/-! ## 3. Reading integers -/

namespace OperandLemmas

/-- The sign that is taken from a word. -/
theorem exists_taken_sign (word : List Char) :
    ∃ sign, IsSign sign ∧ takeSign word = (decide (sign = ['-']), (takeSign word).2) ∧
      word = sign ++ (takeSign word).2 := by
  fun_cases takeSign word with
  | case1 rest => exact ⟨['-'], .minus, rfl, rfl⟩
  | case2 rest => exact ⟨['+'], .plus, rfl, rfl⟩
  | case3 => exact ⟨[], .none, rfl, rfl⟩

/-- A sign in front of a digit is taken, and tells whether the number is negative. -/
theorem takeSign_eq {sign rest : List Char} {c : Char} (hsign : IsSign sign)
    (digit : c.isDigit = true) :
    takeSign (sign ++ c :: rest) = (decide (sign = ['-']), c :: rest) := by
  obtain ⟨sign', -, same, split⟩ := exists_taken_sign (sign ++ c :: rest)
  obtain ⟨negative, taken⟩ : ∃ negative, takeSign (sign ++ c :: rest) = (negative, c :: rest) :=
    takeSign_append hsign (.inl digit)
  rw [taken] at same split
  rw [taken, same, List.append_cancel_right split]

theorem signed_zero (negative : Bool) : signed negative 0 = 0 := by
  cases negative <;> rfl

theorem fits_zero (negative : Bool) : fitsInteger (signed negative 0) = true := by
  cases negative <;> decide +kernel

/-- Reading an integer is reading the digits behind its sign. -/
theorem readInteger_eq {text : String} {sign digits rest : List Char} (hsign : IsSign sign)
    (hdigits : AllDigits digits) (some : digits ≠ [])
    (split : text.toList = sign ++ (digits ++ rest)) :
    readInteger text =
      IntegerReading.digits (sign = ['-']) (signed (sign = ['-']) 0) (digits ++ rest) := by
  obtain ⟨c, more, rfl⟩ := List.exists_cons_of_ne_nil some
  rw [readInteger, split, List.cons_append, takeSign_eq hsign (hdigits c List.mem_cons_self),
    signed_zero]

/-- A text that was not refused as no integer has something behind its sign, and that was read. -/
theorem exists_of_readInteger_ne {text : String} (read : readInteger text ≠ .notInteger) :
    ∃ sign c rest, IsSign sign ∧ text.toList = sign ++ c :: rest ∧
      readInteger text =
        IntegerReading.digits (sign = ['-']) (signed (sign = ['-']) 0) (c :: rest) := by
  obtain ⟨sign, hsign, taken, split⟩ := exists_taken_sign text.toList
  generalize (takeSign text.toList).2 = body at taken split
  cases body with
  | nil =>
    rw [readInteger, taken] at read
    exact absurd rfl read
  | cons c rest =>
    refine ⟨sign, c, rest, hsign, split, ?_⟩
    rw [readInteger, taken, signed_zero]

end OperandLemmas

/-- An integer is read exactly if a sign and digits write it and it is in range. -/
theorem readInteger_eq_value_iff {text : String} {n : Int} :
    readInteger text = .value n ↔ Denotes text.toList n ∧ fitsInteger n = true := by
  constructor
  · intro read
    have noted : readInteger text ≠ .notInteger := by simp [read]
    obtain ⟨sign, c, rest, hsign, split, same⟩ := exists_of_readInteger_ne noted
    rw [same, digits_eq_value_iff (fits_zero _)] at read
    obtain ⟨all, value, fits⟩ := read
    exact ⟨⟨sign, c :: rest, split, hsign, all, List.cons_ne_nil c rest, value⟩, fits⟩
  · rintro ⟨⟨sign, digits, split, hsign, all, some, value⟩, fits⟩
    rw [← List.append_nil digits] at split
    rw [readInteger_eq hsign all some split, List.append_nil, digits_eq_value_iff (fits_zero _)]
    exact ⟨all, value, fits⟩

/-- A text is out of range exactly if it begins with an integer that is. -/
theorem readInteger_eq_outOfRange_iff {text : String} :
    readInteger text = .outOfRange ↔ Overflows text.toList := by
  constructor
  · intro read
    have noted : readInteger text ≠ .notInteger := by simp [read]
    obtain ⟨sign, c, rest, hsign, split, same⟩ := exists_of_readInteger_ne noted
    rw [same, digits_eq_outOfRange_iff (fits_zero _)] at read
    obtain ⟨front, more, parts, all, beyond⟩ := read
    have some : front ≠ [] := by
      rintro rfl
      rw [Nat.ofDigitChars_nil, fits_zero] at beyond
      cases beyond
    refine ⟨sign ++ front, more, _, ?_, ⟨sign, front, rfl, hsign, all, some, rfl⟩, beyond⟩
    rw [split, parts, List.append_assoc]
  · rintro ⟨_, rest, n, split, ⟨sign, digits, rfl, hsign, all, some, rfl⟩, beyond⟩
    rw [readInteger_eq hsign all some (split.trans (List.append_assoc ..)),
      digits_eq_outOfRange_iff (fits_zero _)]
    exact ⟨digits, rest, rfl, all, beyond⟩

/-- A text is no integer exactly if it neither is an integer nor begins with one out of range. -/
theorem readInteger_eq_notInteger_iff {text : String} :
    readInteger text = .notInteger ↔ ¬ IsInteger text.toList ∧ ¬ Overflows text.toList := by
  constructor
  · intro read
    refine ⟨fun integer => readInteger_ne_notInteger integer read, fun overflows => ?_⟩
    cases read.symm.trans (readInteger_eq_outOfRange_iff.mpr overflows)
  · rintro ⟨noInteger, within⟩
    cases read : readInteger text with
    | notInteger => rfl
    | value n =>
      obtain ⟨denotes, -⟩ := readInteger_eq_value_iff.mp read
      exact absurd (isInteger_iff.mpr ⟨n, denotes⟩) noInteger
    | outOfRange => exact absurd (readInteger_eq_outOfRange_iff.mp read) within

/-- Of the integers, those begin with one out of range that are out of range themselves. -/
theorem overflows_iff_of_isInteger {word : List Char} (integer : IsInteger word) :
    Overflows word ↔ ∃ n, Denotes word n ∧ fitsInteger n = false := by
  constructor
  · intro overflows
    obtain ⟨n, denotes⟩ := isInteger_iff.mp integer
    refine ⟨n, denotes, ?_⟩
    by_contra fits
    -- Read as a text, the word would have two readings.
    have text : (String.ofList word).toList = word := String.toList_ofList
    have value := readInteger_eq_value_iff.mpr
      (⟨text.symm ▸ denotes, eq_true_of_ne_false fits⟩ :
        Denotes (String.ofList word).toList n ∧ fitsInteger n = true)
    have range := readInteger_eq_outOfRange_iff.mpr (text.symm ▸ overflows)
    cases value.symm.trans range
  · rintro ⟨n, denotes, beyond⟩
    exact ⟨word, [], n, (List.append_nil word).symm, denotes, beyond⟩

/-! ## 4. Reading operands -/

section Reading

variable {op : String} {v : Value}

/-- An integer in range is read as itself. -/
theorem ofValue_of_denotes (noDouble : v.tag ≠ .atom .double) {n : Int}
    (denotes : Denotes v.text.toList n) (fits : fitsInteger n = true) :
    Number.ofValue op v = .ok (.integer n) := by
  rw [Number.ofValue, if_neg noDouble, readInteger_eq_value_iff.mpr ⟨denotes, fits⟩]

/-- An operand is out of range exactly if its text begins with an integer that is. -/
theorem ofValue_eq_operandRange_iff (noDouble : v.tag ≠ .atom .double) :
    Number.ofValue op v = .error (.operandRange op v.text) ↔ Overflows v.text.toList := by
  rw [← readInteger_eq_outOfRange_iff, Number.ofValue, if_neg noDouble]
  cases readInteger v.text with
  | value n => simp
  | outOfRange => simp
  | notInteger => cases readDecimal v.text <;> simp

/-- What does not begin with a number out of range and is no integer is read as a decimal. -/
theorem ofValue_of_not_isInteger (noDouble : v.tag ≠ .atom .double)
    (noInteger : ¬ IsInteger v.text.toList) (within : ¬ Overflows v.text.toList) :
    (∀ x, readDecimal v.text = some x → Number.ofValue op v = .ok (.double x)) ∧
      (readDecimal v.text = none → Number.ofValue op v = .error (.notNumber op v.render)) := by
  have read := readInteger_eq_notInteger_iff.mpr ⟨noInteger, within⟩
  constructor
  · intro x found
    simp only [Number.ofValue, if_neg noDouble, read, found]
  · intro found
    simp only [Number.ofValue, if_neg noDouble, read, found]

end Reading

/-! ## 5. Operands among others -/

section Among

variable {before after : List Value} {v : Value} {e : Error}

/-- Arithmetic reads all of its operands before it computes anything. -/
theorem Arithmetic.apply_of_unread {op : Arithmetic}
    (earlier : ∀ u ∈ before, ∃ n, Number.ofValue op.name u = .ok n)
    (unread : Number.ofValue op.name v = .error e) :
    op.apply (before ++ v :: after) = .error e := by
  have stops : (before ++ v :: after).mapM (Number.ofValue op.name) = .error e := by
    induction before with
    | nil =>
      rw [List.nil_append, List.mapM_cons, unread]
      rfl
    | cons u before ih =>
      obtain ⟨⟨n, read⟩, earlier⟩ := List.forall_mem_cons.mp earlier
      rw [List.cons_append, List.mapM_cons, read, ih earlier]
      rfl
  rw [apply, stops]
  rfl

/-- A comparison reads its operands one after another, as long as they stand in the relation. -/
theorem Comparison.apply_of_unread {op : Comparison}
    (earlier : before = [] ∨ op.apply before = .ok (.truth true))
    (unread : Number.ofValue op.name v = .error e) :
    op.apply (before ++ v :: after) = .error e := by
  have stops (first : Number) (rest : List Value) (holds : op.against first rest = .ok true) :
      op.against first (rest ++ v :: after) = .error e := by
    induction rest with
    | nil =>
      rw [List.nil_append, against, unread]
      rfl
    | cons u rest ih =>
      rw [against] at holds
      obtain ⟨other, read, holds⟩ := exists_of_bind_eq_ok holds
      rw [List.cons_append, against, read]
      split at holds
      · next related =>
        rw [ih holds]
        exact if_pos related
      · cases holds
  cases before with
  | nil =>
    rw [List.nil_append, apply, unread]
    rfl
  | cons u rest =>
    have holds := earlier.resolve_left (List.cons_ne_nil u rest)
    obtain ⟨first, read, holds⟩ := exists_of_bind_eq_ok holds
    obtain ⟨outcome, related, same⟩ := exists_of_bind_eq_ok holds
    cases outcome with
    | true =>
      rw [List.cons_append, apply, read]
      change (op.against first (rest ++ v :: after) >>= _) = _
      rw [stops first rest related]
      rfl
    | false => simp [pure, Except.pure, Value.truth] at same

end Among

/-- The procedure reads one more operand after these. -/
def Builtin.ReadsOn (op : Builtin) (before : List Value) : Prop :=
  match op with
  | .gt | .lt | .le | .ge => before = [] ∨ op.apply before = .ok (.truth true)
  | _ => ∀ u ∈ before, ∃ n, Number.ofValue op.name u = .ok n

/-- An operand that a numeric procedure comes to and cannot read decides what it gives. -/
theorem apply_of_unread {op : Builtin} (numeric : op.isNumeric = true) {before after : List Value}
    {v : Value} {e : Error} (readsOn : op.ReadsOn before)
    (unread : Number.ofValue op.name v = .error e) :
    op.apply (before ++ v :: after) = .error e := by
  cases op with
  | add | sub | mul | div => exact Arithmetic.apply_of_unread readsOn unread
  | gt | lt | le | ge => exact Comparison.apply_of_unread readsOn unread
  | _ => cases numeric

/-! ## 6. All operands -/

/-- How arithmetic and comparisons read an operand that is not tagged as a double. It is out of
range exactly if its text begins with an integer that is. If nothing else follows such an integer,
this means that the text is an integer out of range. Then an integer in range is read as itself,
every other text is read as a decimal, and what is none is no number. A procedure that comes to an
operand that it cannot read gives the error. -/
theorem operand_reading {op : Builtin} (numeric : op.isNumeric = true) {v : Value}
    (noDouble : v.tag ≠ .atom .double) :
    let word := v.text.toList
    let reading := Number.ofValue op.name v
    (reading = .error (.operandRange op.name v.text) ↔ Overflows word) ∧
    ((Overflows word → IsInteger word) →
      (reading = .error (.operandRange op.name v.text) ↔
        ∃ n, Denotes word n ∧ fitsInteger n = false) ∧
      (∀ n, Denotes word n → fitsInteger n = true → reading = .ok (.integer n)) ∧
      (¬ IsInteger word →
        (∀ x, readDecimal v.text = some x → reading = .ok (.double x)) ∧
        (readDecimal v.text = none → reading = .error (.notNumber op.name v.render)))) ∧
    ∀ e, reading = .error e → ∀ before after, op.ReadsOn before →
      op.apply (before ++ v :: after) = .error e := by
  intro word reading
  have range : reading = .error (.operandRange op.name v.text) ↔ Overflows word :=
    ofValue_eq_operandRange_iff noDouble
  refine ⟨range, fun whole => ⟨?_, ?_, ?_⟩, ?_⟩
  · rw [range]
    constructor
    · intro overflows
      exact (overflows_iff_of_isInteger (whole overflows)).mp overflows
    · rintro ⟨n, denotes, beyond⟩
      exact (overflows_iff_of_isInteger (isInteger_iff.mpr ⟨n, denotes⟩)).mpr ⟨n, denotes, beyond⟩
  · exact fun n denotes fits => ofValue_of_denotes noDouble denotes fits
  · exact fun noInteger => ofValue_of_not_isInteger noDouble noInteger (mt whole noInteger)
  · exact fun e unread before after readsOn => apply_of_unread numeric readsOn unread

/-- Behind an operand that was read: a string that is an integer out of range, one that is a
decimal, and a symbol. -/
theorem operand_reading_kinds :
    let range := Value.string "-9223372036854775809"
    let decimal := Value.string "-1e3"
    let name := Value.symbol "x"
    let whole (v : Value) := Overflows v.text.toList → IsInteger v.text.toList
    (Builtin.sub.isNumeric = true ∧ Builtin.sub.ReadsOn [.integer "1"] ∧
      ∀ v ∈ [range, decimal, name], v.tag ≠ .atom .double ∧ whole v) ∧
    Builtin.sub.apply [.integer "1", range] = .error (.operandRange "-" range.text) ∧
    (∃ x, readDecimal decimal.text = some x ∧ Number.ofValue "-" decimal = .ok (.double x)) ∧
    Builtin.sub.apply [.integer "1", name] = .error (.notNumber "-" "x") := by
  intro range decimal name whole
  have numeric : Builtin.sub.isNumeric = true := rfl
  have readsOn : Builtin.sub.ReadsOn [.integer "1"] := by
    intro u mem
    cases List.mem_singleton.mp mem
    exact ⟨.integer 1, rfl⟩
  have rangeTag : range.tag ≠ .atom .double := by decide
  have decimalTag : decimal.tag ≠ .atom .double := by decide
  have nameTag : name.tag ≠ .atom .double := by decide
  have beyond : readInteger range.text = .outOfRange := by decide +kernel
  have rangeWhole : whole range := fun _ =>
    ⟨['-'], "9223372036854775809".toList, by decide +kernel, .minus, by decide +kernel, by decide⟩
  have decimalWord : readInteger decimal.text = .notInteger := by decide +kernel
  have nameWord : readInteger name.text = .notInteger := by decide +kernel
  have decimalOther := readInteger_eq_notInteger_iff.mp decimalWord
  have nameOther := readInteger_eq_notInteger_iff.mp nameWord
  have decimalWhole : whole decimal := fun overflows => absurd overflows decimalOther.2
  have nameWhole : whole name := fun overflows => absurd overflows nameOther.2
  obtain ⟨x, found⟩ : ∃ x, readDecimal decimal.text = some x :=
    Option.isSome_iff_exists.mp (by decide +kernel)
  have unreadable : readDecimal name.text = none := Option.isNone_iff_eq_none.mp (by decide +kernel)
  obtain ⟨refused, -, givenRange⟩ := operand_reading numeric rangeTag
  obtain ⟨-, decimals, -⟩ := operand_reading numeric decimalTag
  obtain ⟨-, names, givenName⟩ := operand_reading numeric nameTag
  refine ⟨⟨numeric, readsOn, ?_⟩, ?_, ⟨x, found, ?_⟩, ?_⟩
  · simp only [List.forall_mem_cons]
    exact ⟨⟨rangeTag, rangeWhole⟩, ⟨decimalTag, decimalWhole⟩, ⟨nameTag, nameWhole⟩,
      fun _ mem => absurd mem List.not_mem_nil⟩
  · exact givenRange _ (refused.mpr (readInteger_eq_outOfRange_iff.mp beyond)) _ [] readsOn
  · exact ((decimals decimalWhole).2.2 decimalOther.1).1 x found
  · exact givenName _ (((names nameWhole).2.2 nameOther.1).2 unreadable) _ [] readsOn

/-- Nineteen digits that are out of range and a letter are no integer and no decimal, but they are
refused as out of range. With a point and a digit behind them they are a decimal, and refused. -/
theorem operand_reading_tail :
    let letter := Value.string "9223372036854775808x"
    let decimal := Value.string "9223372036854775808.5"
    (Builtin.add.apply [letter] = .error (.operandRange "+" letter.text) ∧
      (¬ ∃ n, Denotes letter.text.toList n ∧ fitsInteger n = false) ∧
      readDecimal letter.text = none) ∧
    Builtin.add.apply [decimal] = .error (.operandRange "+" decimal.text) ∧
      (¬ ∃ n, Denotes decimal.text.toList n ∧ fitsInteger n = false) ∧
      (readDecimal decimal.text).isSome := by
  intro letter decimal
  have refused {v : Value} (noDouble : v.tag ≠ .atom .double)
      (read : readInteger v.text = .outOfRange) :
      Builtin.add.apply [v] = .error (.operandRange "+" v.text) := by
    have readsOn : Builtin.add.ReadsOn [] := fun _ mem => absurd mem List.not_mem_nil
    have unread : Number.ofValue Builtin.add.name v = .error (.operandRange "+" v.text) :=
      (ofValue_eq_operandRange_iff noDouble).mpr (readInteger_eq_outOfRange_iff.mp read)
    exact apply_of_unread rfl readsOn unread
  have noInteger {word : List Char} (other : ¬ IsInteger word) :
      ¬ ∃ n, Denotes word n ∧ fitsInteger n = false :=
    fun ⟨n, denotes, _⟩ => other (isInteger_iff.mpr ⟨n, denotes⟩)
  have letterOther : ¬ IsInteger letter.text.toList := by
    intro integer
    have numeral : isNumeral letter.text.toList = true := isNumeral_iff.mpr (.inl integer)
    exact absurd numeral (by decide +kernel)
  have decimalOther : ¬ IsInteger decimal.text.toList :=
    fun integer => not_mem_of_isInteger integer (by decide +kernel)
  refine ⟨⟨refused (by decide) (by decide +kernel), noInteger letterOther, ?_⟩,
    refused (by decide) (by decide +kernel), noInteger decimalOther, by decide +kernel⟩
  exact Option.isNone_iff_eq_none.mp (by decide +kernel)

end ListScript
