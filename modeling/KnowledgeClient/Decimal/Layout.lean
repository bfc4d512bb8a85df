import KnowledgeClient.Decimal.Shortest

/-!
# How a number with a fraction is written

A number whose first digit has a decimal exponent from -5 to 15 is written
positionally and always with a fraction; any other as digits with an exponent
that carries its sign.
-/

namespace KnowledgeClient
namespace Decimal

/-- The least and the greatest exponent of the first digit that is written positionally. -/
structure Positional where
  least : Int
  greatest : Int

/-- Numbers are written positionally from `0.00001` up to below `10 ^ 16`. -/
def positional : Positional := ⟨-5, 15⟩

/-- The digits of a natural number. -/
def digitChars (n : Nat) : List Char :=
  Nat.toDigits 10 n

/-- Digits with the point after the first `whole` of them, filled up with zeros on either side. -/
def pointAfter (digits : List Char) (whole : Int) : List Char :=
  if whole ≤ 0 then
    ['0', '.'] ++ List.replicate (-whole).toNat '0' ++ digits
  else
    let count := whole.toNat
    if digits.length ≤ count then
      digits ++ List.replicate (count - digits.length) '0' ++ ['.', '0']
    else digits.take count ++ '.' :: digits.drop count

/-- The exponent mark, the sign and the digits of an exponent. -/
def exponentChars (exponent : Int) : List Char :=
  'e' :: (if exponent < 0 then '-' else '+') :: digitChars exponent.natAbs

/-- A decimal as it is written. -/
def Scientific.chars (x : Scientific) : List Char :=
  let digits := digitChars x.digits
  let leading := x.exponent + digits.length - 1
  if positional.least ≤ leading && leading ≤ positional.greatest then
    pointAfter digits (leading + 1)
  else
    match digits with
    | [] => []
    | [digit] => digit :: exponentChars leading
    | digit :: rest => digit :: '.' :: rest ++ exponentChars leading

/-- A binary64 number as it is written. -/
def Binary64.chars (x : Binary64) : List Char :=
  let written := x.magnitude.shortest.chars
  if x.negative then '-' :: written else written

end Decimal
end KnowledgeClient
