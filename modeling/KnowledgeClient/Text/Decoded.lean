import KnowledgeClient.Text.Utf8

/-!
# Texts that may begin with a byte order mark

A byte order mark selects the encoding and is not part of the text; without one
the bytes are UTF-8.  In each encoding a malformed part becomes U+FFFD: in UTF-16
that is a surrogate without its partner, and a last unit that is cut short.
-/

namespace KnowledgeClient
namespace Text

/-- Which of the two bytes of a unit comes first. -/
inductive ByteOrder
  | littleEndian
  | bigEndian
deriving DecidableEq, Repr

/-- The unit of two bytes in the order they stand in. -/
def ByteOrder.unit : ByteOrder → UInt8 → UInt8 → Nat
  | .littleEndian, first, second => second.toNat * 256 + first.toNat
  | .bigEndian, first, second => first.toNat * 256 + second.toNat

/-- A unit that begins a pair of surrogates. -/
def isHighSurrogate (unit : Nat) : Bool := 0xD800 ≤ unit && unit ≤ 0xDBFF

/-- A unit that ends a pair of surrogates. -/
def isLowSurrogate (unit : Nat) : Bool := 0xDC00 ≤ unit && unit ≤ 0xDFFF

/-- The character of a pair of surrogates. -/
def surrogatePair (high low : Nat) : Char :=
  Char.ofNat (0x10000 + (high - 0xD800) * 0x400 + (low - 0xDC00))

/-- Decodes UTF-16 with at most one pending high surrogate. -/
def decodeUnits (order : ByteOrder) : Option Nat → Bytes → List Char
  | pending, first :: second :: rest =>
    let unit := order.unit first second
    match pending with
    | none =>
      if isHighSurrogate unit then decodeUnits order (some unit) rest
      else if isLowSurrogate unit then '\uFFFD' :: decodeUnits order none rest
      else Char.ofNat unit :: decodeUnits order none rest
    | some high =>
      if isLowSurrogate unit then surrogatePair high unit :: decodeUnits order none rest
      else if isHighSurrogate unit then '\uFFFD' :: decodeUnits order (some unit) rest
      else '\uFFFD' :: Char.ofNat unit :: decodeUnits order none rest
  | _, [_] => ['\uFFFD']
  | some _, [] => ['\uFFFD']
  | none, [] => []

/-- The text of bytes that may begin with a byte order mark. -/
def decodeMarked : Bytes → String
  | 0xEF :: 0xBB :: 0xBF :: rest => decodeLossy rest
  | 0xFF :: 0xFE :: rest => String.ofList (decodeUnits .littleEndian none rest)
  | 0xFE :: 0xFF :: rest => String.ofList (decodeUnits .bigEndian none rest)
  | bytes => decodeLossy bytes

end Text
end KnowledgeClient
