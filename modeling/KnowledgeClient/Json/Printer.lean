import KnowledgeClient.Decimal.Layout
import KnowledgeClient.Json.Value

/-!
# JSON texts of values

The compact form has no blanks at all.  The indented form puts each item and each
member on a line of its own, two spaces deeper than its bracket; empty brackets
stay closed.  In strings only the quote, the backslash and the control characters
below U+0020 are escaped.
-/

namespace KnowledgeClient
namespace Json

/-- The digit of a number below sixteen, with small letters. -/
def hexDigit (n : Nat) : Char :=
  Nat.digitChar n

/-- A character inside a JSON string. -/
def escapedChar (c : Char) : List Char :=
  if c == '"' then ['\\', '"']
  else if c == '\\' then ['\\', '\\']
  else if c == '\x08' then ['\\', 'b']
  else if c == '\x0C' then ['\\', 'f']
  else if c == '\n' then ['\\', 'n']
  else if c == '\r' then ['\\', 'r']
  else if c == '\t' then ['\\', 't']
  else if c.toNat < 0x20 then
    ['\\', 'u', '0', '0', hexDigit (c.toNat / 16), hexDigit (c.toNat % 16)]
  else [c]

/-- The JSON string of a text. -/
def stringChars (text : String) : List Char :=
  '"' :: text.toList.flatMap escapedChar ++ ['"']

/-- The text of an integer. -/
def integerChars (value : Int) : List Char :=
  if value < 0 then '-' :: Decimal.digitChars value.natAbs
  else Decimal.digitChars value.natAbs

/-- The text of a number. -/
def Number.chars : Number → List Char
  | .integer value => integerChars value
  | .fraction value => value.chars

/-- The text of a truth value. -/
def flagChars (value : Bool) : List Char :=
  if value then ['t', 'r', 'u', 'e'] else ['f', 'a', 'l', 's', 'e']

/-- The text of the null value. -/
def nullChars : List Char := ['n', 'u', 'l', 'l']

/-- Texts with commas between them. -/
def commaSeparated : List (List Char) → List Char
  | [] => []
  | [text] => text
  | text :: rest => text ++ ',' :: commaSeparated rest

/-- The compact text of a list whose items have the given texts. -/
def listChars (items : List (List Char)) : List Char :=
  '[' :: commaSeparated items ++ [']']

/-- The compact text of an object whose members have the given keys and texts, in their order. -/
def objectChars (members : List (String × List Char)) : List Char :=
  '\x7b' :: commaSeparated (members.map fun (key, text) => stringChars key ++ ':' :: text) ++
    ['\x7d']

namespace Value

mutual

/-- The compact text of a value. -/
def compactChars : Value → List Char
  | .null => nullChars
  | .flag value => flagChars value
  | .number value => value.chars
  | .text value => stringChars value
  | .list items => '[' :: compactItems items ++ [']']
  | .object members => '\x7b' :: compactMembers members ++ ['\x7d']

/-- The items of a list with commas between them. -/
def compactItems : List Value → List Char
  | [] => []
  | [item] => compactChars item
  | item :: rest => compactChars item ++ ',' :: compactItems rest

/-- The members of an object with commas between them. -/
def compactMembers : List (String × Value) → List Char
  | [] => []
  | [(key, value)] => stringChars key ++ ':' :: compactChars value
  | (key, value) :: rest =>
    stringChars key ++ ':' :: compactChars value ++ ',' :: compactMembers rest

end

/-- The compact text of a value. -/
def compact (value : Value) : String :=
  String.ofList value.compactChars

/-- A line end and the blanks that a line at some depth begins with. -/
def newLine (depth : Nat) : List Char :=
  '\n' :: List.replicate (2 * depth) ' '

mutual

/-- The indented text of a value that begins on a line at some depth. -/
def indentedChars (depth : Nat) : Value → List Char
  | .null => nullChars
  | .flag value => flagChars value
  | .number value => value.chars
  | .text value => stringChars value
  | .list [] => ['[', ']']
  | .list (item :: rest) =>
    '[' :: newLine (depth + 1) ++ indentedChars (depth + 1) item ++
      indentedItems (depth + 1) rest ++ newLine depth ++ [']']
  | .object [] => ['\x7b', '\x7d']
  | .object ((key, value) :: rest) =>
    '\x7b' :: newLine (depth + 1) ++ stringChars key ++ ':' :: ' ' ::
      indentedChars (depth + 1) value ++
      indentedMembers (depth + 1) rest ++ newLine depth ++ ['\x7d']

/-- The further items of a list, each after a comma and on a line of its own. -/
def indentedItems (depth : Nat) : List Value → List Char
  | [] => []
  | item :: rest => ',' :: newLine depth ++ indentedChars depth item ++ indentedItems depth rest

/-- The further members of an object, each after a comma and on a line of its own. -/
def indentedMembers (depth : Nat) : List (String × Value) → List Char
  | [] => []
  | (key, value) :: rest =>
    ',' :: newLine depth ++ stringChars key ++ ':' :: ' ' :: indentedChars depth value ++
      indentedMembers depth rest

end

/-- The indented text of a value. -/
def indented (value : Value) : String :=
  String.ofList (value.indentedChars 0)

end Value

end Json
end KnowledgeClient
