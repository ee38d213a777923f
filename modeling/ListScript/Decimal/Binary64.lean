/-!
# Doubles as exact numbers

A double is read as a sign, a whole number and a power of two, so that its decimal texts can be
computed in whole numbers. The way back takes a fraction to the nearest double.

Rules:
* A quotient is rounded to the nearest whole number, and a tie goes to the even one.
* A double has at most 53 significant bits and no bit below `2 ^ (-1074)`.
* A magnitude that rounds to `2 ^ 1024` or more is infinite.
-/

namespace ListScript

/-- The nearest whole number to `num / den`; a tie goes to the even neighbour. -/
def roundTiesToEven (num den : Nat) : Nat :=
  let floor := num / den
  let twice := 2 * (num % den)
  if twice < den then floor
  else if twice = den then floor + floor % 2
  else floor + 1

/-- What a double stands for. A finite one is `± significand * 2 ^ exponent`. -/
inductive Binary64 where
  | nan
  | infinite (negative : Bool)
  | finite (negative : Bool) (significand : Nat) (exponent : Int)
deriving DecidableEq, Repr

namespace Binary64

/-- The exponent of the smallest positive double. -/
def minExponent : Int := -1074

/-- The fields of the 64 bits: one of sign, eleven of exponent, fifty-two of fraction. -/
def ofBits (bits : Nat) : Binary64 :=
  let negative : Bool := bits / Nat.pow 2 63 % 2 = 1
  let field : Nat := bits / Nat.pow 2 52 % Nat.pow 2 11
  let fraction : Nat := bits % Nat.pow 2 52
  if field = 0 then .finite negative fraction minExponent
  else if field < 2047 then
    .finite negative (Nat.pow 2 52 + fraction) ((field : Int) + minExponent - 1)
  else if fraction = 0 then .infinite negative
  else .nan

/-- What `x` stands for. -/
def ofFloat (x : Float) : Binary64 :=
  ofBits x.toBits.toNat

/-- The magnitude of a finite double as a fraction with a positive denominator. -/
def fraction (significand : Nat) (exponent : Int) : Nat × Nat :=
  if 0 ≤ exponent then (significand * Nat.pow 2 exponent.toNat, 1)
  else (significand, Nat.pow 2 (-exponent).toNat)

/-- Whether `num / den` is at least `2 ^ power`. -/
def reaches (num den : Nat) (power : Int) : Bool :=
  if 0 ≤ power then den * Nat.pow 2 power.toNat ≤ num else den ≤ num * Nat.pow 2 (-power).toNat

/-- The exponent at which `num / den` has 53 significant bits, or the smallest exponent of a double
if that is larger. -/
def exponentFor (num den : Nat) : Int :=
  let guess : Int := (num.log2 : Int) - den.log2
  let top := if reaches num den guess then guess else guess - 1
  max (top - 52) minExponent

/-- The bits of the double nearest to `num / den`, without a sign. A significand that rounds up to
`2 ^ 53` carries into the exponent field, and past the largest exponent the bits are those of
infinity. -/
def nearestBits (num den : Nat) : Nat :=
  if num = 0 then 0
  else
    let exponent := exponentFor num den
    let significand :=
      if 0 ≤ exponent then roundTiesToEven num (den * Nat.pow 2 exponent.toNat)
      else roundTiesToEven (num * Nat.pow 2 (-exponent).toNat) den
    min ((exponent - minExponent).toNat * Nat.pow 2 52 + significand) (2047 * Nat.pow 2 52)

/-- The double nearest to `± num / den`; a tie goes to the even significand. -/
def nearest (negative : Bool) (num den : Nat) : Float :=
  Float.ofBits (nearestBits num den + if negative then Nat.pow 2 63 else 0).toUInt64

/-- The whole part of a double, rounded toward zero. It is missing for what is not finite. -/
def truncate : Binary64 → Option Int
  | .nan => none
  | .infinite _ => none
  | .finite negative significand exponent =>
    let (num, den) := fraction significand exponent
    some (if negative then -((num / den : Nat) : Int) else (num / den : Nat))

end Binary64

/-- Ties go to the even neighbour. -/
example : [1, 3, 5, 7].map (roundTiesToEven · 2) = [0, 2, 2, 4] := by decide

/-- One is `2 ^ 52` units of `2 ^ (-52)`. -/
example : Binary64.ofBits (Binary64.nearestBits 1 1) = .finite false (2 ^ 52) (-52) := by
  decide +kernel

end ListScript
