/-!
# Runs of characters

A set of characters is kept as the first and last code points of its runs.
-/

namespace KnowledgeClient
namespace Text

/-- A character of ASCII. -/
def isAscii (c : Char) : Bool :=
  c.toNat < 0x80

/-- A character outside ASCII that lies in one of some runs. -/
def isInRuns (runs : List (Nat × Nat)) (c : Char) : Bool :=
  if isAscii c then false
  else runs.any fun (first, last) => first ≤ c.toNat && c.toNat ≤ last

end Text
end KnowledgeClient
