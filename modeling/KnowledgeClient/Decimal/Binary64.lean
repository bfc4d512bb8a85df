/-!
# Finite binary64 numbers

A number is kept as an integer significand times a power of two, with a sign of
its own so that zero has one too.  Rounding goes from an exact quotient of
integers to the nearest number, ties to the even significand.  A product or
quotient of two numbers is the exact one, rounded once.
-/

namespace KnowledgeClient
namespace Decimal

/-- A finite binary64 magnitude `significand * 2 ^ exponent`.  In normal form the
significand is below `2 ^ 53`, and it is at least `2 ^ 52` unless the exponent
is the least one, `-1074`. -/
structure Magnitude where
  significand : Nat
  exponent : Int
deriving DecidableEq, Repr, Inhabited

/-- A finite binary64 number. -/
structure Binary64 where
  negative : Bool
  magnitude : Magnitude
deriving DecidableEq, Repr, Inhabited

/-- The quotient rounded to the nearest integer, a half going to the even one. -/
def roundHalfEven (numerator denominator : Nat) : Nat :=
  let quotient := numerator / denominator
  let twice := 2 * (numerator % denominator)
  if twice < denominator then quotient
  else if denominator < twice then quotient + 1
  else if quotient % 2 == 0 then quotient
  else quotient + 1

/-- A quotient times a power of two, as a quotient of integers. -/
def scale (numerator denominator : Nat) (power : Int) : Nat × Nat :=
  (numerator * Nat.pow 2 power.toNat, denominator * Nat.pow 2 (-power).toNat)

namespace Magnitude

/-- The magnitude zero. -/
def zero : Magnitude := ⟨0, -1074⟩

/-- The exponent that a quotient's significand is rounded at: the quotient over that power
of two is in `[2 ^ 52, 2 ^ 53)`, unless the exponent is the least one. -/
def roundingExponent (numerator denominator : Nat) : Int :=
  let guess : Int := (numerator.log2 : Int) - (denominator.log2 : Int) - 52
  let (n, d) := scale numerator denominator (-guess)
  let exact := if n < d * Nat.pow 2 52 then guess - 1 else guess
  max exact (-1074)

/-- The magnitude nearest to a quotient, or none when that is beyond the largest one. -/
def ofQuotient? (numerator denominator : Nat) : Option Magnitude :=
  if numerator == 0 then some zero
  else
    let exponent := roundingExponent numerator denominator
    let (n, d) := scale numerator denominator (-exponent)
    let significand := roundHalfEven n d
    let rounded : Magnitude :=
      if significand == Nat.pow 2 53 then ⟨Nat.pow 2 52, exponent + 1⟩ else ⟨significand, exponent⟩
    if rounded.exponent ≤ 971 then some rounded else none

/-- The magnitude nearest to a natural number below the largest one. -/
def ofNat (n : Nat) : Magnitude :=
  (ofQuotient? n 1).getD zero

/-- The product of two magnitudes, or none when it is beyond the largest one. -/
def mul? (x y : Magnitude) : Option Magnitude :=
  let (n, d) := scale (x.significand * y.significand) 1 (x.exponent + y.exponent)
  ofQuotient? n d

/-- The quotient of two magnitudes, the second of them at least one. -/
def div (x y : Magnitude) : Magnitude :=
  let (n, d) := scale x.significand y.significand (x.exponent - y.exponent)
  (ofQuotient? n d).getD zero

/-- The magnitude nearest to `10 ^ k`, for `k` at most 308. -/
def pow10 (k : Nat) : Magnitude :=
  ofNat (Nat.pow 10 k)

/-- The magnitude that the significand and the decimal exponent of a written number stand
for: the significand is rounded, then multiplied or divided once by the rounded power of ten.
Below `10 ^ -308` that is done in steps, and above `10 ^ 308` only zero is in range. -/
def ofDecimal? (significand : Nat) (exponent : Int) : Option Magnitude :=
  let start := ofNat significand
  if 0 ≤ exponent then
    if exponent ≤ 308 then start.mul? (pow10 exponent.toNat)
    else if start == zero then some zero
    else none
  else some (descend ((-exponent).toNat / 308) start (-exponent).toNat)
where
  /-- Divides by `10 ^ 308` while the exponent is beyond it and the number is not yet zero. -/
  descend : Nat → Magnitude → Nat → Magnitude
    | 0, x, exponent => x.div (pow10 exponent)
    | steps + 1, x, exponent =>
      if exponent ≤ 308 then x.div (pow10 exponent)
      else if x == zero then x
      else descend steps (x.div (pow10 308)) (exponent - 308)

end Magnitude

end Decimal
end KnowledgeClient
