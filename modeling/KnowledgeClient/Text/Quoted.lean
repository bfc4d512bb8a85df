import KnowledgeClient.Text.Extending
import KnowledgeClient.Text.Printable

/-!
# Quoted texts

The form in which a text appears inside a diagnostic: between double quotes, on
one line, with everything that would not show itself written as an escape.
-/

namespace KnowledgeClient
namespace Text

/-- The digits of a number in base sixteen, with small letters and no leading zeros. -/
def hexDigits (code : Nat) : List Char :=
  Nat.toDigits 16 code

/-- A character as it appears in a quoted text. -/
def quotedChar (c : Char) : List Char :=
  if c == '"' then ['\\', '"']
  else if c == '\\' then ['\\', '\\']
  else if c == '\t' then ['\\', 't']
  else if c == '\r' then ['\\', 'r']
  else if c == '\n' then ['\\', 'n']
  else if c == '\x00' then ['\\', '0']
  else if isPrintable c && !isExtending c then [c]
  else ['\\', 'u', '\x7b'] ++ hexDigits c.toNat ++ ['\x7d']

/-- The quoted form of a text. -/
def quoted (text : String) : String :=
  String.ofList ('"' :: text.toList.flatMap quotedChar ++ ['"'])

end Text
end KnowledgeClient
