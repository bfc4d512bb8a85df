/-!
# White space and letter case

The blank characters are those of the Unicode property White_Space.  Trimming
removes them from both ends of a text and touches nothing between.  Lowering
changes the letters A to Z only, whatever else the text holds.
-/

namespace KnowledgeClient
namespace Text

/-- A character with the Unicode property White_Space. -/
def isBlank (c : Char) : Bool :=
  let code := c.toNat
  (9 ≤ code && code ≤ 13) || code == 0x20 || code == 0x85 || code == 0xA0 ||
    code == 0x1680 || (0x2000 ≤ code && code ≤ 0x200A) || code == 0x2028 ||
    code == 0x2029 || code == 0x202F || code == 0x205F || code == 0x3000

/-- The characters left after the last run of characters with a property is dropped. -/
def dropWhileEnd (property : Char → Bool) (text : List Char) : List Char :=
  (text.reverse.dropWhile property).reverse

/-- The text without the blank characters at its two ends. -/
def trim (text : String) : String :=
  String.ofList (dropWhileEnd isBlank (text.toList.dropWhile isBlank))

/-- A text of blank characters only, the empty text among them. -/
def isAllBlank (text : String) : Bool :=
  text.toList.all isBlank

/-- The text with A to Z replaced by a to z. -/
def lower (text : String) : String :=
  String.ofList (text.toList.map Char.toLower)

end Text
end KnowledgeClient
