/-!
# Digits

The pieces that written numbers are made of.
-/

namespace ListScript

/-- The sign of a written number. A number that is not negative has none. -/
def signText (negative : Bool) : String :=
  if negative then "-" else ""

/-- An integer in base ten. -/
def integerText (n : Int) : String :=
  signText (n < 0) ++ Nat.repr n.natAbs

/-- The digits of `n` in base ten, with zeros in front up to `width` digits. -/
def paddedDigits (width n : Nat) : String :=
  let digits := Nat.repr n
  "".pushn '0' (width - digits.length) ++ digits

example : integerText (-120) = "-120" ∧ integerText 0 = "0" := by decide +kernel

example : paddedDigits 6 42 = "000042" := by decide +kernel

end ListScript
