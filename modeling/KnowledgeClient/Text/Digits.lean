/-!
# Pieces and numbers of texts

Cutting a text at a character, and reading digits in a base up to sixteen.
-/

namespace KnowledgeClient
namespace Text

/-- The pieces between the occurrences of a character. -/
def cutAt (mark : Char) : List Char → List (List Char)
  | [] => [[]]
  | c :: rest =>
    if c == mark then [] :: cutAt mark rest
    else
      match cutAt mark rest with
      | piece :: pieces => (c :: piece) :: pieces
      | [] => [[c]]

/-- The value of a digit in some base up to sixteen. -/
def digitIn? (base : Nat) (c : Char) : Option Nat :=
  let value? : Option Nat :=
    if c.isDigit then some (c.toNat - 48)
    else if 'a' ≤ c && c ≤ 'f' then some (c.toNat - 87)
    else if 'A' ≤ c && c ≤ 'F' then some (c.toNat - 55)
    else none
  value?.filter (· < base)

/-- The number of digits in some base; no digits make zero. -/
def numberIn? (base : Nat) (digits : List Char) : Option Nat :=
  digits.foldlM (fun value c => (digitIn? base c).map (value * base + ·)) 0

end Text
end KnowledgeClient
