/-!
# Bytes

The bytes of a text are those of its characters in UTF-8. Texts are ordered character by character,
and their bytes are ordered in the same way.

Results:
1. `utf8EncodeChar_append_lt`: the bytes of characters are ordered as the characters are.
2. `utf8Bytes_lt_iff`: the order of texts is the order of their bytes.
-/

namespace ListScript

/-- The bytes of a text. -/
def utf8Bytes (text : String) : List UInt8 :=
  text.toByteArray.data.toList

theorem utf8Bytes_eq_flatMap (text : String) :
    utf8Bytes text = text.toList.flatMap String.utf8EncodeChar := by
  rw [utf8Bytes, ← String.utf8Encode_toList, List.utf8Encode, List.data_toByteArray]

namespace BytesLemmas

theorem ofNat_lt_iff {m n : Nat} (hm : m < 256) (hn : n < 256) :
    UInt8.ofNat m < UInt8.ofNat n ↔ m < n := by
  simp [UInt8.lt_iff_toNat_lt, Nat.mod_eq_of_lt hm, Nat.mod_eq_of_lt hn]

theorem ofNat_eq_iff {m n : Nat} (hm : m < 256) (hn : n < 256) :
    UInt8.ofNat m = UInt8.ofNat n ↔ m = n := by
  simp [← UInt8.toNat_inj, Nat.mod_eq_of_lt hm, Nat.mod_eq_of_lt hn]

end BytesLemmas

open BytesLemmas

/-- The bytes of a smaller character stand before those of a greater one, whatever follows them. -/
theorem utf8EncodeChar_append_lt {c d : Char} (before : c < d) (more more' : List UInt8) :
    String.utf8EncodeChar c ++ more < String.utf8EncodeChar d ++ more' := by
  have smaller : c.val.toNat < d.val.toNat := by
    simpa [Char.lt_def, UInt32.lt_iff_toNat_lt] using before
  have bounded : d.val.toNat < 0x110000 := by
    have valid := d.valid
    simp only [UInt32.isValidChar, Nat.isValidChar] at valid
    omega
  -- The bytes are digits to the base 64, so the quotients are taken one digit at a time.
  have two (k : Nat) : k / 4096 = k / 64 / 64 := by omega
  have three (k : Nat) : k / 262144 = k / 64 / 64 / 64 := by omega
  simp only [String.utf8EncodeChar, two, three]
  generalize c.val.toNat = m at *
  generalize d.val.toNat = n at *
  -- Each character takes one to four bytes. A first byte tells how many.
  repeat' split
  all_goals
    simp (disch := omega) only [List.cons_append, List.nil_append, List.cons_lt_cons_iff,
      ofNat_lt_iff, ofNat_eq_iff]
    omega

theorem flatMap_utf8EncodeChar_lt {chars others : List Char} (before : chars < others) :
    chars.flatMap String.utf8EncodeChar < others.flatMap String.utf8EncodeChar := by
  induction chars generalizing others with
  | nil =>
    cases others with
    | nil => cases before
    | cons d others =>
      obtain ⟨first, rest, split⟩ := List.exists_cons_of_ne_nil (@String.utf8EncodeChar_ne_nil d)
      rw [List.flatMap_cons, split]
      exact List.nil_lt_cons _ _
  | cons c chars ih =>
    cases others with
    | nil => cases before
    | cons d others =>
      rw [List.flatMap_cons, List.flatMap_cons]
      rcases List.cons_lt_cons_iff.mp before with decides | ⟨rfl, later⟩
      · exact utf8EncodeChar_append_lt decides _ _
      · exact List.append_left_lt (ih later)

/-- A text stands before another exactly if its bytes do. -/
theorem utf8Bytes_lt_iff {text other : String} : utf8Bytes text < utf8Bytes other ↔ text < other := by
  have mono {text other : String} (before : text < other) : utf8Bytes text < utf8Bytes other := by
    rw [utf8Bytes_eq_flatMap, utf8Bytes_eq_flatMap]
    exact flatMap_utf8EncodeChar_lt before
  constructor
  · intro before
    refine Decidable.byContradiction fun notBefore => ?_
    have behind : other ≤ text := String.not_lt.mp notBefore
    by_cases same : other = text
    · exact List.lt_irrefl _ (same ▸ before)
    · exact List.lt_asymm before (mono (Std.lt_of_le_of_ne behind same))
  · exact mono

end ListScript
