import KnowledgeClient.Text.Digits

/-!
# Tables of characters

A table gives characters a run of characters each.  It is written in lines of code
points in base sixteen.  A line names one code point and, after a colon, what belongs
to it and to the code points after it in turn, with commas between; where nothing
stands between two commas the table has no entry.
-/

namespace KnowledgeClient
namespace Text

/-- The code point of a word of the table. -/
def codeOf (word : List Char) : Nat :=
  (numberIn? 16 word).getD 0

/-- The characters of an entry, written with blanks between them. -/
def charactersOf (entry : List Char) : List Char :=
  ((cutAt ' ' entry).filter (!·.isEmpty)).map fun word => Char.ofNat (codeOf word)

/-- The entries of a line. -/
def entriesOf (line : String) : List (Nat × List Char) :=
  let start := codeOf (line.toList.takeWhile (· != ':'))
  let entries := cutAt ',' ((line.toList.dropWhile (· != ':')).drop 1)
  (entries.mapIdx fun place entry => (start + place, charactersOf entry)).filter (!·.2.isEmpty)

/-- The table written in some lines. -/
def readTable (lines : List String) : List (Nat × List Char) :=
  lines.flatMap entriesOf

end Text
end KnowledgeClient
