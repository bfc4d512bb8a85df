import KnowledgeClient.Text.Utf8

/-!
# Escapes in URLs

Characters that may not stand in a part of a URL are written as the bytes of their
UTF-8 form, each as a percent sign and two capital hexadecimal digits.  Which
characters these are depends on the part.  A percent sign itself is left alone.
-/

namespace KnowledgeClient
namespace Http

/-- A control character or a character outside ASCII, escaped in every part. -/
def isControlOrForeign (c : Char) : Bool :=
  c.toNat < 0x20 || 0x7F ≤ c.toNat

/-- A character that is escaped in a fragment. -/
def escapedInFragment (c : Char) : Bool :=
  isControlOrForeign c || c == ' ' || c == '"' || c == '<' || c == '>' || c.toNat == 0x60

/-- A character that is escaped in a segment of a path. -/
def escapedInPath (c : Char) : Bool :=
  escapedInFragment c || c == '#' || c == '?' || c == '\x7b' || c == '\x7d'

/-- A character that is escaped in the name or the password of a user. -/
def escapedInUser (c : Char) : Bool :=
  escapedInPath c || ['/', ':', ';', '=', '@', '[', '\\', ']', '^', '|'].contains c

/-- A character that is escaped in a query; the apostrophe only where the scheme is special. -/
def escapedInQuery (special : Bool) (c : Char) : Bool :=
  isControlOrForeign c || c == ' ' || c == '"' || c == '#' || c == '<' || c == '>' ||
    (special && c.toNat == 0x27)

/-- The capital hexadecimal digit of a number below sixteen. -/
def capitalHexDigit (n : Nat) : Char :=
  (Nat.digitChar n).toUpper

/-- A byte as a percent sign and two digits. -/
def escapedByte (b : UInt8) : List Char :=
  ['%', capitalHexDigit (b.toNat / 16), capitalHexDigit (b.toNat % 16)]

/-- The characters with those of a set escaped. -/
def escape (set : Char → Bool) (cs : List Char) : List Char :=
  cs.flatMap fun c =>
    if set c then (String.utf8EncodeChar c).flatMap escapedByte else [c]

/-- The value of a hexadecimal digit given as a byte. -/
def byteHexValue? (b : UInt8) : Option Nat :=
  if 0x30 ≤ b && b ≤ 0x39 then some (b.toNat - 0x30)
  else if 0x41 ≤ b && b ≤ 0x46 then some (b.toNat - 0x37)
  else if 0x61 ≤ b && b ≤ 0x66 then some (b.toNat - 0x57)
  else none

/-- The bytes with their escapes resolved. -/
def unescape : Bytes → Bytes
  | [] => []
  | [a] => [a]
  | [a, b] => [a, b]
  | a :: b :: c :: rest =>
    if a == 0x25 then
      match byteHexValue? b, byteHexValue? c with
      | some high, some low => UInt8.ofNat (high * 16 + low) :: unescape rest
      | _, _ => a :: unescape (b :: c :: rest)
    else a :: unescape (b :: c :: rest)

end Http
end KnowledgeClient
