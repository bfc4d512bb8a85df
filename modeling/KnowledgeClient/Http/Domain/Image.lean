import KnowledgeClient.Http.Domain.Presented
import KnowledgeClient.Http.Domain.Shifts
import KnowledgeClient.Http.Domain.Spelled
import KnowledgeClient.Text.CodeTable
import KnowledgeClient.Text.Marks
import KnowledgeClient.Text.Printable

/-!
# What characters stand for in a domain

Many characters stand for others in a domain: a capital letter for the small one, a
ligature for its letters, a full stop of another script for that of ASCII.  Some stand
for nothing, and some may not stand in a domain at all.
-/

namespace KnowledgeClient
namespace Http
namespace Domain

/-- Runs of characters that stand for nothing. -/
def ignoredRuns : List (Nat × Nat) :=
  [(0xAD, 0xAD), (0x34F, 0x34F), (0x115F, 0x1160), (0x17B4, 0x17B5), (0x180B, 0x180F),
    (0x200B, 0x200B), (0x2060, 0x2064), (0x206A, 0x206F), (0x3164, 0x3164), (0xFE00, 0xFE0F),
    (0xFEFF, 0xFEFF), (0xFFA0, 0xFFA0), (0x1BCA0, 0x1BCA3), (0x1D173, 0x1D17A),
    (0xE0100, 0xE01EF)]

/-- Runs of printable characters that may not stand in a domain: they stand for texts with a blank
or with a full stop that is no end of a label, or describe characters. -/
def refusedRuns : List (Nat × Nat) :=
  [(0xA8, 0xA8), (0xAF, 0xAF), (0xB4, 0xB4), (0xB8, 0xB8), (0x2D8, 0x2DD), (0x37A, 0x37A),
    (0x384, 0x385), (0x1FBD, 0x1FBD), (0x1FBF, 0x1FC1), (0x1FCD, 0x1FCF), (0x1FDD, 0x1FDF),
    (0x1FED, 0x1FEE), (0x1FFD, 0x1FFE), (0x2017, 0x2017), (0x2024, 0x2026), (0x203E, 0x203E),
    (0x2488, 0x249B), (0x2FF0, 0x2FFF), (0x309B, 0x309C), (0x31EF, 0x31EF), (0x33C2, 0x33C2),
    (0x33C7, 0x33C7), (0x33D8, 0x33D8), (0xFC5E, 0xFC63), (0xFDFA, 0xFDFB), (0xFE12, 0xFE12),
    (0xFE19, 0xFE19), (0xFE30, 0xFE30), (0xFE49, 0xFE4C), (0xFE52, 0xFE52), (0xFE70, 0xFE70),
    (0xFE72, 0xFE72), (0xFE74, 0xFE74), (0xFE76, 0xFE76), (0xFE78, 0xFE78), (0xFE7A, 0xFE7A),
    (0xFE7C, 0xFE7C), (0xFE7E, 0xFE7E), (0xFFE3, 0xFFE3), (0xFFFC, 0xFFFD), (0x1F100, 0x1F100)]

/-- The characters that stand for others in no regular way, and what they stand for. -/
def irregular : List (Nat × List Char) :=
  Text.readTable (spelledLines ++ presentedLines)

/-- What a character stands for in a domain. -/
def image (c : Char) : List Char :=
  if Text.isAscii c then [c.toLower]
  else if Text.isInRuns ignoredRuns c then []
  else
    match irregular.lookup c.toNat with
    | some image => image
    | none => [shifted c]

/-- A character of ASCII that no domain may hold. -/
def isForbidden (c : Char) : Bool :=
  c.toNat ≤ 0x20 || c.toNat == 0x7F || ['#', '/', ':', '<', '>', '?', '@', '[', '\\', ']', '^',
    '|', '%'].contains c

/-- A character that may be left in a domain: it stands for itself. -/
def isAllowed (c : Char) : Bool :=
  if Text.isAscii c then !isForbidden c
  else
    (Text.isPrintable c || Text.isJoiner c) && !Text.isInRuns refusedRuns c && image c == [c]

end Domain
end Http
end KnowledgeClient
