import ListScript.Decimal.Binary64
import ListScript.Decimal.Digits

/-!
# Six decimals

A computed double is written with six decimals. The exact binary value is rounded to the nearest
millionth, a tie goes to the even one, and all digits of a large number are written. A negative sign
is kept even where only zeros follow it.
-/

namespace ListScript

/-- Decimals of a written double. -/
def places : Nat := 6

/-- A magnitude `num / den` with its whole part, a point and six decimals. -/
def placesText (num den : Nat) : String :=
  let units := roundTiesToEven (num * Nat.pow 10 places) den
  Nat.repr (units / Nat.pow 10 places) ++ "." ++ paddedDigits places (units % Nat.pow 10 places)

/-- A double as `-?digits.dddddd`, or as one of the words `inf`, `-inf` and `NaN`. -/
def Binary64.toPlaces : Binary64 → String
  | .nan => "NaN"
  | .infinite negative => signText negative ++ "inf"
  | .finite negative significand exponent =>
    let (num, den) := fraction significand exponent
    signText negative ++ placesText num den

example : placesText 7 2 = "3.500000" := by decide +kernel

/-- Five ten-millionths lie half way between no millionth and one. -/
example : placesText 5 (10 ^ 7) = "0.000000" := by decide +kernel

end ListScript
