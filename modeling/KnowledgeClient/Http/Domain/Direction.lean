import KnowledgeClient.Text.Marks

/-!
# Directions of writing in domains

Some scripts are written from right to left.  In a domain that holds such a script,
or Arabic digits, every label keeps to one direction: it begins with a letter of its
direction, ends with such a letter or a digit, and holds no letter of the other
direction, so that no label can be taken for another when it is shown.
-/

namespace KnowledgeClient
namespace Http
namespace Domain

/-- What a character does to the direction of writing. -/
inductive Direction
  | left
  | right
  | arabicDigit
  | digit
  | mark
  | neutral
deriving DecidableEq, Repr

/-- Runs of the Arabic digits. -/
def arabicDigitRuns : List (Nat × Nat) :=
  [(0x660, 0x669), (0x66B, 0x66C), (0x10D30, 0x10D49), (0x10E60, 0x10E7E)]

/-- Runs of digits outside ASCII that are written like those of ASCII. -/
def digitRuns : List (Nat × Nat) :=
  [(0x6F0, 0x6F9), (0x102E1, 0x102FB)]

/-- Runs of the characters that may stand in a domain and have no direction; no other character
that lies in one of them may stand there, marks apart. -/
def neutralRuns : List (Nat × Nat) :=
  [(0xA1, 0xD7), (0xF7, 0xF7), (0x2B9, 0x2BA), (0x2C2, 0x2CF), (0x2D2, 0x2ED), (0x2EF, 0x2FF),
    (0x375, 0x375), (0x3F6, 0x3F6), (0x58A, 0x58F), (0x606, 0x607), (0x609, 0x60A),
    (0x60C, 0x60C), (0x60E, 0x60F), (0x66A, 0x66A), (0x6DE, 0x6DE), (0x6E9, 0x6E9),
    (0x7F6, 0x7F9), (0x9F2, 0x9F3), (0x9FB, 0x9FB), (0xAF1, 0xAF1), (0xBF3, 0xBFA),
    (0xC78, 0xC7E), (0xE3F, 0xE3F), (0xF3A, 0xF3D), (0x1390, 0x1399), (0x1400, 0x1400),
    (0x169B, 0x169C), (0x17DB, 0x17DB), (0x17F0, 0x180A), (0x1940, 0x1945), (0x19DE, 0x19FF),
    (0x200C, 0x214D), (0x218A, 0x2335), (0x237B, 0x2394), (0x2396, 0x26AB), (0x26AD, 0x27FF),
    (0x2900, 0x2BFF), (0x2CE5, 0x2CEA), (0x2CF9, 0x2CFF), (0x2E00, 0x3004), (0x3008, 0x3020),
    (0x3030, 0x3030), (0x3037, 0x3037), (0x303D, 0x303F), (0x30A0, 0x30A0), (0x30FB, 0x30FB),
    (0x31C0, 0x31E5), (0x4DC0, 0x4DFF), (0xA490, 0xA4C6), (0xA60D, 0xA60F), (0xA673, 0xA67F),
    (0xA700, 0xA721), (0xA788, 0xA788), (0xA828, 0xA82B), (0xA838, 0xA839), (0xA874, 0xA877),
    (0xAB6A, 0xAB6B), (0xFBC3, 0xFE46), (0x10101, 0x10101), (0x10140, 0x1018C),
    (0x10190, 0x101A0), (0x1091F, 0x1091F), (0x10B39, 0x10B3F), (0x10D6E, 0x10D6E),
    (0x10ED0, 0x10ED8), (0x11052, 0x11065), (0x11660, 0x1166C), (0x11FD5, 0x11FF1),
    (0x16FE2, 0x16FE2), (0x1CC00, 0x1CEF0), (0x1D1E9, 0x1D245), (0x1D300, 0x1D356),
    (0x1E2FF, 0x1E2FF), (0x1EEF0, 0x1F12F), (0x1F16D, 0x1F16F), (0x1F1AD, 0x1F1AD),
    (0x1F260, 0x1FBFA)]

/-- Runs of the scripts that are written from right to left. -/
def rightRuns : List (Nat × Nat) :=
  [(0x590, 0x8FF), (0xFB1D, 0xFDFF), (0xFE70, 0xFEFF), (0x10800, 0x10FFF), (0x1E800, 0x1EFFF)]

/-- Runs of nonspacing marks that are written from left to right like letters. -/
def leftMarkRuns : List (Nat × Nat) :=
  [(0xCBF, 0xCBF), (0xCC6, 0xCC6), (0x11A07, 0x11A08), (0x11C3F, 0x11C3F)]

/-- What a character that may stand in a domain does to the direction of writing. -/
def direction (c : Char) : Direction :=
  if c.isAlpha then .left
  else if c.isDigit || Text.isInRuns digitRuns c then .digit
  else if Text.isAscii c then .neutral
  else if Text.isNonspacing c && !Text.isInRuns leftMarkRuns c then .mark
  else if Text.isInRuns arabicDigitRuns c then .arabicDigit
  else if Text.isInRuns neutralRuns c then .neutral
  else if Text.isInRuns rightRuns c then .right
  else .left

/-- The character makes its domain one in which directions matter. -/
def Direction.matters : Direction → Bool
  | .right | .arabicDigit => true
  | _ => false

/-- A character may stand in a label of the direction `left` after the first. -/
def Direction.fitsLeft : Direction → Bool
  | .right | .arabicDigit => false
  | _ => true

/-- A label of the direction `left` may end with the character. -/
def Direction.endsLeft : Direction → Bool
  | .left | .digit => true
  | _ => false

/-- A label of the direction `right` may end with the character. -/
def Direction.endsRight : Direction → Bool
  | .right | .digit | .arabicDigit => true
  | _ => false

/-- Directions without the marks at their end. -/
def withoutLastMarks (directions : List Direction) : List Direction :=
  (directions.reverse.dropWhile (· == .mark)).reverse

/-- The directions of a label fit each other. -/
def keepsDirection (directions : List Direction) : Bool :=
  match directions with
  | [] => true
  | first :: rest =>
    let rest := withoutLastMarks rest
    if first == .left then
      rest.all Direction.fitsLeft && rest.getLast?.all Direction.endsLeft
    else if first == .right then
      !rest.contains .left && rest.getLast?.all Direction.endsRight &&
        !(rest.contains .digit && rest.contains .arabicDigit)
    else false

/-- Every label keeps to one direction, if directions matter in any of them. -/
def keepDirections (labels : List (List Char)) : Bool :=
  let directions := labels.map (·.map direction)
  !directions.any (·.any Direction.matters) || directions.all keepsDirection

end Domain
end Http
end KnowledgeClient
