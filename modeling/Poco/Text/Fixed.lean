import Poco.Text.Decimal

namespace Poco.Text

/-! A double is a fraction with a power of two, and is rounded to a number of
decimal places from its exact value.  Half a unit goes to the even neighbour. -/

/-- The quotient rounded to the nearest number, a tie to the even one. -/
def roundQuotient (numerator denominator : Nat) : Nat :=
  let quotient := numerator / denominator
  let excess := 2 * (numerator % denominator)
  if excess < denominator ∨ (excess = denominator ∧ quotient % 2 = 0) then
    quotient
  else
    quotient + 1

/-- A numeral with the last `places` digits behind a point. -/
def withPoint (places n : Nat) : String :=
  let numeral := digits n
  let padded := List.replicate (places + 1 - numeral.length) '0' ++ numeral
  let whole := padded.length - places
  String.ofList (padded.take whole ++ '.' :: padded.drop whole)

/-- The numerator and denominator of a finite double that is not negative. -/
def exactFraction (x : Float) : Nat × Nat :=
  let hidden := Nat.pow 2 52
  let bits := x.toBits.toNat
  let exponent := bits / hidden % Nat.pow 2 11
  let fraction := bits % hidden
  let significand := if exponent = 0 then fraction else hidden + fraction
  let power := max exponent 1
  if 1075 ≤ power then
    (significand * Nat.pow 2 (power - 1075), 1)
  else
    (significand, Nat.pow 2 (1075 - power))

/-- A finite double that is not negative, with `places` decimal places. -/
def fixed (places : Nat) (x : Float) : String :=
  let (numerator, denominator) := exactFraction x
  withPoint places (roundQuotient (numerator * Nat.pow 10 places) denominator)

end Poco.Text
