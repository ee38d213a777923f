import ListScript.Decimal.Places

/-!
# Shortest digits

Inside a message a double is written with the fewest digits that read back as the same double, and
of those with the digits nearest to it. The digits are placed positionally, without an exponent, and
a whole number has no point.

Rules:
* The numbers that read back as a double form an interval. Its ends are the midpoints to the two
  neighbours, and they belong to it exactly when the significand is even.
* Below a power of two the neighbour is only half as far away.
* For one digit, two digits and so on, the two neighbours of the double on that decimal grid are
  tried. The first grid with a hit decides; of two hits the nearer is taken, and of two equally near
  the larger.
-/

namespace ListScript

namespace Shortest

/-- The numbers that read back as one double, as fractions over one denominator. -/
structure Span where
  low : Nat
  value : Nat
  high : Nat
  den : Nat
  closed : Bool

/-- The span of the double `significand * 2 ^ exponent`, counted in quarters of its last bit. -/
def Span.ofFinite (significand : Nat) (exponent : Int) : Span :=
  let (unit, den) := Binary64.fraction 1 (exponent - 2)
  let narrow : Bool := significand = Nat.pow 2 52 ∧ Binary64.minExponent < exponent
  ⟨(4 * significand - if narrow then 1 else 2) * unit, 4 * significand * unit,
    (4 * significand + 2) * unit, den, significand % 2 = 0⟩

/-- Whether `num / den` lies in the span. -/
def Span.holds (span : Span) (num den : Nat) : Bool :=
  let middle := num * span.den
  if span.closed then span.low * den ≤ middle ∧ middle ≤ span.high * den
  else span.low * den < middle ∧ middle < span.high * den

/-- The least `p` such that the positive value `num / den` is below `10 ^ p`. It counts the digits
before the point, or, where there are none, the zeros after it downwards from zero. -/
def magnitude (num den : Nat) : Int :=
  if den ≤ num then (Nat.repr (num / den)).length
  else
    let length := (Nat.repr (den / num)).length
    if den ≤ num * Nat.pow 10 (length - 1) then 2 - length else 1 - length

/-- `digits * 10 ^ power` as a fraction. -/
def scaled (digits : Nat) (power : Int) : Nat × Nat :=
  if 0 ≤ power then (digits * Nat.pow 10 power.toNat, 1)
  else (digits, Nat.pow 10 (-power).toNat)

/-- The neighbours of the value on the grid of step `10 ^ power` that lie in the span: the nearer
one, or the larger of two equally near. -/
def onGrid (span : Span) (power : Int) : Option Nat :=
  let (num, den) :=
    if 0 ≤ power then (span.value, span.den * Nat.pow 10 power.toNat)
    else (span.value * Nat.pow 10 (-power).toNat, span.den)
  let below := num / den
  let lower : Bool := let (n, d) := scaled below power; span.holds n d
  let upper : Bool := let (n, d) := scaled (below + 1) power; span.holds n d
  match lower, upper with
  | false, false => none
  | true, false => some below
  | false, true => some (below + 1)
  | true, true => some (if 2 * (num % den) < den then below else below + 1)

/-- The first grid with a hit among those of `digits`, `digits + 1` and so on. Seventeen digits
always suffice; the last grid tried gives the digits whether they hit or not. -/
def search (span : Span) (top : Int) (digits : Nat) : Nat → Nat × Int
  | 0 => ((onGrid span (top - digits)).getD 0, top - digits)
  | left + 1 =>
    match onGrid span (top - digits) with
    | some hit => (hit, top - digits)
    | none => search span top (digits + 1) left

/-- `digits * 10 ^ power` written positionally. -/
def positional (digits : Nat) (power : Int) : String :=
  let text := Nat.repr digits
  if 0 ≤ power then text.pushn '0' power.toNat
  else
    let after := (-power).toNat
    let padded := paddedDigits (after + 1) digits
    let whole := padded.length - after
    String.ofList (padded.toList.take whole) ++ "." ++ String.ofList (padded.toList.drop whole)

end Shortest

/-- A double with the fewest digits that read back. -/
def Binary64.toShortest : Binary64 → String
  | .nan => "NaN"
  | .infinite negative => signText negative ++ "inf"
  | .finite negative 0 _ => signText negative ++ "0"
  | .finite negative significand exponent =>
    let span := Shortest.Span.ofFinite significand exponent
    let (digits, power) := Shortest.search span (Shortest.magnitude span.value span.den) 1 16
    signText negative ++ Shortest.positional digits power

end ListScript
