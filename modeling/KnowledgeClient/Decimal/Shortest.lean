import KnowledgeClient.Decimal.Binary64

/-!
# The shortest decimal that reads back

Of the decimals that round to a binary64 number the shortest is written; of several
equally short ones the nearest to the number, and of two equally near ones the even
one.  The digits are found in exact arithmetic: on the grid of one, two, … seventeen
digits only the number's two neighbours need to be tried.
-/

namespace KnowledgeClient
namespace Decimal

/-- The decimal `digits * 10 ^ exponent`. -/
structure Scientific where
  digits : Nat
  exponent : Int
deriving DecidableEq, Repr

/-- An interval of rationals `low / denominator` to `high / denominator` around
`middle / denominator`, with or without its two ends. -/
structure Interval where
  low : Nat
  middle : Nat
  high : Nat
  denominator : Nat
  closed : Bool

namespace Magnitude

/-- The rationals that round to a magnitude: half of the gap to each neighbour, the gap
below a power of two being half as wide. -/
def roundingInterval (x : Magnitude) : Interval :=
  let narrow := x.significand == Nat.pow 2 52 && -1074 < x.exponent
  let (unit, denominator) := scale 1 4 x.exponent
  { low := (4 * x.significand - (if narrow then 1 else 2)) * unit
    middle := 4 * x.significand * unit
    high := (4 * x.significand + 2) * unit
    denominator
    closed := x.significand % 2 == 0 }

end Magnitude

/-- The decimal exponent of the first digit of a positive quotient. -/
def leadingExponent (numerator denominator : Nat) : Int :=
  let digits (n : Nat) : Int := (Nat.toDigits 10 n).length
  let guess := digits numerator - digits denominator
  let atLeast : Bool :=
    if 0 ≤ guess then denominator * Nat.pow 10 guess.toNat ≤ numerator
    else denominator ≤ numerator * Nat.pow 10 (-guess).toNat
  if atLeast then guess else guess - 1

namespace Interval

/-- The quotient `n / denominator` lies in the interval. -/
def holds (i : Interval) (digits scaleUp scaleDown : Nat) : Bool :=
  let value := digits * scaleUp * i.denominator
  let low := i.low * scaleDown
  let high := i.high * scaleDown
  if i.closed then low ≤ value && value ≤ high else low < value && value < high

/-- The neighbour of the middle on the grid of multiples of `10 ^ exponent` that lies in
the interval, the nearer one if both do. -/
def onGrid? (i : Interval) (exponent : Int) : Option Scientific :=
  let scaleUp := Nat.pow 10 exponent.toNat
  let scaleDown := Nat.pow 10 (-exponent).toNat
  let numerator := i.middle * scaleDown
  let denominator := i.denominator * scaleUp
  let below := numerator / denominator
  let nearest := roundHalfEven numerator denominator
  let other := if nearest == below then below + 1 else below
  if i.holds nearest scaleUp scaleDown then some ⟨nearest, exponent⟩
  else if i.holds other scaleUp scaleDown then some ⟨other, exponent⟩
  else none

end Interval

/-- The first hit on the grids with ever more digits. -/
def searchGrids (i : Interval) : Nat → Int → Option Scientific
  | 0, _ => none
  | more + 1, exponent =>
    match i.onGrid? exponent with
    | some hit => some hit
    | none => searchGrids i more (exponent - 1)

/-- Moves trailing zeros of the digits into the exponent, at most `fuel` of them. -/
def Scientific.withoutZeros : Nat → Scientific → Scientific
  | 0, x => x
  | fuel + 1, x =>
    if x.digits != 0 && x.digits % 10 == 0 then
      Scientific.withoutZeros fuel ⟨x.digits / 10, x.exponent + 1⟩
    else x

/-- The shortest decimal that rounds to a magnitude. -/
def Magnitude.shortest (x : Magnitude) : Scientific :=
  if x.significand == 0 then ⟨0, 0⟩
  else
    let i := x.roundingInterval
    let exponent := leadingExponent i.middle i.denominator
    ((searchGrids i 17 exponent).getD ⟨0, 0⟩).withoutZeros 17

end Decimal
end KnowledgeClient
