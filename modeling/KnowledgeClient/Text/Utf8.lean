/-!
# UTF-8

Texts as bytes.  Encoding is total.  Decoding goes part by part: a part is either
one well-formed sequence or a maximal malformed run, that is, the longest start
of a well-formed sequence found where the next byte does not continue it.
Strict decoding refuses a malformed part, lossy decoding puts U+FFFD in its place.
-/

namespace KnowledgeClient

/-- A run of bytes. -/
abbrev Bytes := List UInt8

namespace Text

/-- The UTF-8 bytes of a text. -/
def encode (text : String) : Bytes :=
  text.toList.flatMap String.utf8EncodeChar

/-- The number of UTF-8 bytes of a run of characters. -/
def byteCount (text : List Char) : Nat :=
  text.foldr (fun c count => c.utf8Size + count) 0

/-- What a leading byte announces: how many bytes continue it, the bits it
carries itself, and the bounds of the first byte that continues it. -/
structure Lead where
  continuing : Nat
  bits : Nat
  low : UInt8
  high : UInt8

/-- The announcement of a byte that begins a sequence of two or more bytes. -/
def lead? (b : UInt8) : Option Lead :=
  if 0xC2 ≤ b && b ≤ 0xDF then some ⟨1, (b &&& 0x1F).toNat, 0x80, 0xBF⟩
  else if b == 0xE0 then some ⟨2, 0, 0xA0, 0xBF⟩
  else if b == 0xED then some ⟨2, 0xD, 0x80, 0x9F⟩
  else if 0xE1 ≤ b && b ≤ 0xEF then some ⟨2, (b &&& 0x0F).toNat, 0x80, 0xBF⟩
  else if b == 0xF0 then some ⟨3, 0, 0x90, 0xBF⟩
  else if 0xF1 ≤ b && b ≤ 0xF3 then some ⟨3, (b &&& 0x07).toNat, 0x80, 0xBF⟩
  else if b == 0xF4 then some ⟨3, 4, 0x80, 0x8F⟩
  else none

/-- Reads the continuing bytes of a sequence; without a code point the bytes
read so far are a malformed part. -/
def continueSequence : Nat → UInt8 → UInt8 → Nat → Bytes → Option Nat × Bytes
  | 0, _, _, code, rest => (some code, rest)
  | _ + 1, _, _, _, [] => (none, [])
  | count + 1, low, high, code, b :: rest =>
    if low ≤ b && b ≤ high then
      continueSequence count 0x80 0xBF (code * 64 + (b &&& 0x3F).toNat) rest
    else (none, b :: rest)

/-- The first part of the bytes after the byte `b`, and what follows the part. -/
def firstPart (b : UInt8) (rest : Bytes) : Option Char × Bytes :=
  if b < 0x80 then (some (Char.ofNat b.toNat), rest)
  else
    match lead? b with
    | none => (none, rest)
    | some lead =>
      let (code, rest) := continueSequence lead.continuing lead.low lead.high lead.bits rest
      (code.map Char.ofNat, rest)

/-- The parts of the bytes, at most `fuel` of them, malformed ones as `none`. -/
def partsUpTo : Nat → Bytes → List (Option Char)
  | 0, _ => []
  | _ + 1, [] => []
  | fuel + 1, b :: rest =>
    let (part, rest) := firstPart b rest
    part :: partsUpTo fuel rest

/-- The parts of the bytes: each takes at least one byte, so there are no more parts than bytes. -/
def parts (bytes : Bytes) : List (Option Char) :=
  partsUpTo bytes.length bytes

/-- The text of well-formed bytes. -/
def decode? (bytes : Bytes) : Option String :=
  ((parts bytes).mapM id).map String.ofList

/-- The text of any bytes, with U+FFFD for each malformed part. -/
def decodeLossy (bytes : Bytes) : String :=
  String.ofList ((parts bytes).map (·.getD '\uFFFD'))

end Text
end KnowledgeClient
