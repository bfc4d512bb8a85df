import KnowledgeClient.Text.Combining
import KnowledgeClient.Text.Composites

/-!
# Composed texts

Texts that mean the same are brought to one form.  Every composite is taken apart,
marks on one character are put in the order of their classes, and then each starting
character is joined with what follows it wherever the two have a composite and
nothing of the same or a higher class stands between them.
-/

namespace KnowledgeClient
namespace Text

/-! ## Hangul syllables -/

/-- The first syllable. -/
def firstSyllable : Nat := 0xAC00

/-- The code points of the first letters that a syllable can begin with, go on with and end with;
the last of them stands for no ending. -/
def firstLead : Nat := 0x1100

/-- The first vowel. -/
def firstVowel : Nat := 0x1161

/-- The code point before the first ending. -/
def noEnding : Nat := 0x11A7

/-- The number of beginnings. -/
def leadCount : Nat := 19

/-- The number of vowels. -/
def vowelCount : Nat := 21

/-- The number of endings, no ending among them. -/
def endingCount : Nat := 28

/-- A character is a syllable. -/
def isSyllable (c : Char) : Bool :=
  firstSyllable ≤ c.toNat && c.toNat < firstSyllable + leadCount * vowelCount * endingCount

/-- The two characters of a syllable: a shorter syllable and an ending, or a beginning and a
vowel. -/
def syllableParts (c : Char) : Char × Char :=
  let place := c.toNat - firstSyllable
  if place % endingCount == 0 then
    (Char.ofNat (firstLead + place / endingCount / vowelCount),
      Char.ofNat (firstVowel + place / endingCount % vowelCount))
  else
    (Char.ofNat (c.toNat - place % endingCount), Char.ofNat (noEnding + place % endingCount))

/-- The syllable of two characters. -/
def syllable? (a b : Char) : Option Char :=
  if firstLead ≤ a.toNat && a.toNat < firstLead + leadCount &&
      firstVowel ≤ b.toNat && b.toNat < firstVowel + vowelCount then
    let place := (a.toNat - firstLead) * vowelCount + (b.toNat - firstVowel)
    some (Char.ofNat (firstSyllable + place * endingCount))
  else if isSyllable a && (a.toNat - firstSyllable) % endingCount == 0 &&
      noEnding < b.toNat && b.toNat < noEnding + endingCount then
    some (Char.ofNat (a.toNat + (b.toNat - noEnding)))
  else none

/-! ## Composites -/

/-- The two characters that a composite stands for. -/
def parts? (c : Char) : Option (Char × Char) :=
  if isAscii c then none
  else if isSyllable c then some (syllableParts c)
  else
    match composites.lookup c.toNat with
    | some [a, b] => some (a, b)
    | _ => none

/-- The composite of two characters. -/
def composite? (a b : Char) : Option Char :=
  if isAscii b then none
  else
    (syllable? a b).or
      ((composites.find? fun (_, parts) => parts == [a, b]).map fun (code, _) => Char.ofNat code)

/-- A character taken apart, as many layers deep as told. -/
def takenApart : Nat → Char → List Char
  | 0, c => [c]
  | layers + 1, c =>
    match parts? c with
    | some (a, b) => takenApart layers a ++ takenApart layers b
    | none => [c]

/-- No composite has more layers than this. -/
def greatestLayers : Nat := 4

/-- Puts a character in front of others, after the marks among them that come before it by class. -/
def insertByClass (c : Char) : List Char → List Char
  | [] => [c]
  | d :: rest =>
    if 0 < combiningClass d && combiningClass d < combiningClass c then
      d :: insertByClass c rest
    else c :: d :: rest

/-- The text with the marks on each character in the order of their classes. -/
def inClassOrder (text : List Char) : List Char :=
  text.foldr insertByClass []

/-- The text that follows a starting character, the marks held back between the two, the last of
which has the given class, with everything joined that has a composite. -/
def joinFrom (starter : Char) (held : List Char) (lastClass : Nat) : List Char → List Char
  | [] => starter :: held.reverse
  | c :: rest =>
    let composite :=
      if held.isEmpty || lastClass < combiningClass c then composite? starter c else none
    match composite with
    | some composite => joinFrom composite held lastClass rest
    | none =>
      if combiningClass c == 0 then starter :: held.reverse ++ joinFrom c [] 0 rest
      else joinFrom starter (c :: held) (combiningClass c) rest

/-- The text with everything joined that has a composite; marks at its start are left alone. -/
def joined : List Char → List Char
  | [] => []
  | c :: rest => if combiningClass c == 0 then joinFrom c [] 0 rest else c :: joined rest

/-- The composed form of a text; a text in ASCII is composed. -/
def composed (text : List Char) : List Char :=
  if text.all isAscii then text
  else joined (inClassOrder (text.flatMap (takenApart greatestLayers)))

end Text
end KnowledgeClient
