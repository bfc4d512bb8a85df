import KnowledgeClient.Json.Fault
import KnowledgeClient.Text.Decoded

/-!
# Reading the words of a JSON text

Each reader takes the characters not yet read and gives what it read together with
the characters left, or stops.  A stop names the byte it was noticed at by the
bytes that are left there; a stop at the next byte counts that byte as read.
-/

namespace KnowledgeClient
namespace Json

/-- The outcome of a reader: what was read and the characters left. -/
abbrev Read (α : Type) := Except Stop (α × List Char)

/-- Stops before the given characters. -/
def stopAt {α : Type} (problem : Problem) (unread : List Char) : Except Stop α :=
  .error ⟨problem, Text.byteCount unread⟩

/-- Stops after the first byte of the given characters, or at their end if there are none. -/
def stopPast {α : Type} (problem : Problem) (unread : List Char) : Except Stop α :=
  .error ⟨problem, Text.byteCount unread - 1⟩

/-- The blanks of JSON. -/
def isSpace (c : Char) : Bool :=
  c == ' ' || c == '\t' || c == '\n' || c == '\r'

/-- The characters after the blanks. -/
def skipSpace (cs : List Char) : List Char :=
  cs.dropWhile isSpace

/-- The value of a decimal digit. -/
def digitValue (c : Char) : Nat :=
  c.toNat - 48

/-- The next character is a digit. -/
def startsWithDigit : List Char → Bool
  | [] => false
  | c :: _ => c.isDigit

/-- Reads the rest of a word letter by letter. -/
def readWord : List Char → List Char → Except Stop (List Char)
  | [], cs => .ok cs
  | _ :: _, [] => stopAt .endOfValue []
  | letter :: word, c :: rest =>
    if c == letter then readWord word rest else stopPast .expectedIdentifier (c :: rest)

/-! ## Strings -/

/-- The value of a hexadecimal digit. -/
def hexValue? (c : Char) : Option Nat :=
  if c.isDigit then some (digitValue c)
  else if 'a' ≤ c && c ≤ 'f' then some (c.toNat - 87)
  else if 'A' ≤ c && c ≤ 'F' then some (c.toNat - 55)
  else none

/-- Stops after four bytes that are not all hexadecimal digits, or at the end of fewer bytes. -/
def stopInHex {α : Type} (cs : List Char) : Except Stop α :=
  if Text.byteCount cs < 4 then .error ⟨.endOfString, 0⟩
  else .error ⟨.invalidEscape, Text.byteCount cs - 4⟩

/-- Reads four hexadecimal digits. -/
def readHex : List Char → Read Nat
  | a :: b :: c :: d :: rest =>
    match hexValue? a, hexValue? b, hexValue? c, hexValue? d with
    | some x, some y, some z, some w => .ok (((x * 16 + y) * 16 + z) * 16 + w, rest)
    | _, _, _, _ => stopInHex (a :: b :: c :: d :: rest)
  | cs => stopInHex cs

/-- The character of an escape by one letter. -/
def letterEscape? (c : Char) : Option Char :=
  if c == '"' || c == '\\' || c == '/' then some c
  else if c == 'b' then some '\x08'
  else if c == 'f' then some '\x0C'
  else if c == 'n' then some '\n'
  else if c == 'r' then some '\r'
  else if c == 't' then some '\t'
  else none

/-- Reads one wanted character of the second half of a pair of surrogates. -/
def readPairMark (mark : Char) : List Char → Except Stop (List Char)
  | [] => stopAt .endOfString []
  | c :: rest => if c == mark then .ok rest else stopPast .unfinishedPair (c :: rest)

/-- Reads the rest of an escape by code, after its letter. -/
def readCodeEscape (cs : List Char) : Except Stop (Char × List Char) := do
  let (code, cs) ← readHex cs
  if Text.isLowSurrogate code then stopAt .loneSurrogate cs
  else if Text.isHighSurrogate code then
    let cs ← readPairMark '\\' cs
    let cs ← readPairMark 'u' cs
    let (low, cs) ← readHex cs
    if Text.isLowSurrogate low then .ok (Text.surrogatePair code low, cs)
    else stopAt .loneSurrogate cs
  else .ok (Char.ofNat code, cs)

/-- Reads the rest of an escape, after its backslash. -/
def readEscape : List Char → Read Char
  | [] => stopAt .endOfString []
  | c :: rest =>
    if c == 'u' then readCodeEscape rest
    else
      match letterEscape? c with
      | some meant => .ok (meant, rest)
      | none => stopPast .invalidEscape (c :: rest)

/-- Reads the rest of a string onto the characters read before, in reverse.  Each step takes at
least one character, so as many steps are allowed as the budget has. -/
def readStringOnto : List Char → List Char → List Char → Read String
  | [], _, _ => stopAt .endOfString []
  | _ :: _, _, [] => stopAt .endOfString []
  | _ :: budget, before, c :: rest =>
    if c == '"' then .ok (String.ofList before.reverse, rest)
    else if c == '\\' then
      match readEscape rest with
      | .ok (meant, rest) => readStringOnto budget (meant :: before) rest
      | .error stop => .error stop
    else if c.toNat < 0x20 then stopAt .controlCharacter rest
    else readStringOnto budget (c :: before) rest

/-- Reads the rest of a string, after its opening quote. -/
def readString (cs : List Char) : Read String :=
  readStringOnto cs [] cs

/-! ## Numbers -/

/-- Reads digits onto a significand as long as it stays below `2 ^ 64`; the digits read are
counted. -/
def readSignificand : Nat → Nat → List Char → (Nat × Nat) × List Char
  | significand, count, [] => ((significand, count), [])
  | significand, count, c :: rest =>
    if c.isDigit && significand * 10 + digitValue c < Nat.pow 2 64 then
      readSignificand (significand * 10 + digitValue c) (count + 1) rest
    else ((significand, count), c :: rest)

/-- The number of digits at the start, and what follows them. -/
def skipDigits : Nat → List Char → Nat × List Char
  | count, [] => (count, [])
  | count, c :: rest => if c.isDigit then skipDigits (count + 1) rest else (count, c :: rest)

/-- The number of a significand and a decimal exponent. -/
def finishNumber (negative : Bool) (significand : Nat) (exponent : Int) (cs : List Char) :
    Read Number :=
  match Decimal.Magnitude.ofDecimal? significand exponent with
  | some magnitude => .ok (.fraction ⟨negative, magnitude⟩, cs)
  | none => stopAt .numberOutOfRange cs

/-- The greatest exponent that is read as a number. -/
def greatestExponent : Nat := Nat.pow 2 31 - 1

/-- Reads the digits of an exponent, or nothing from the digit on that takes it beyond the greatest
one. -/
def readExponentDigits : Nat → List Char → Option Nat × List Char
  | exponent, [] => (some exponent, [])
  | exponent, c :: rest =>
    if c.isDigit then
      if exponent * 10 + digitValue c ≤ greatestExponent then
        readExponentDigits (exponent * 10 + digitValue c) rest
      else (none, rest)
    else (some exponent, c :: rest)

/-- Reads the sign of an exponent. -/
def readExponentSign : List Char → Bool × List Char
  | '+' :: rest => (false, rest)
  | '-' :: rest => (true, rest)
  | cs => (false, cs)

/-- Reads an exponent, after its mark, and finishes the number.  An exponent beyond the
greatest one leaves zero or is out of range. -/
def readExponent (negative : Bool) (significand : Nat) (exponent : Int) (cs : List Char) :
    Read Number :=
  let (downward, cs) := readExponentSign cs
  match cs with
  | [] => stopAt .endOfValue []
  | c :: rest =>
    if c.isDigit then
      match readExponentDigits (digitValue c) rest with
      | (some written, rest) =>
        finishNumber negative significand
          (if downward then exponent - written else exponent + written) rest
      | (none, rest) =>
        if significand != 0 && !downward then stopAt .numberOutOfRange rest
        else .ok (.fraction ⟨negative, .zero⟩, (skipDigits 0 rest).2)
    else stopPast .invalidNumber (c :: rest)

/-- Reads the digits of a fraction, after its point, and finishes the number.  Digits that
the significand has no room for are passed over. -/
def readFraction (negative : Bool) (significand : Nat) (exponent : Int) (cs : List Char) :
    Read Number :=
  let ((significand, count), rest) := readSignificand significand 0 cs
  if count == 0 && !startsWithDigit rest then
    stopPast (if rest.isEmpty then .endOfValue else .invalidNumber) rest
  else
    match (skipDigits 0 rest).2 with
    | 'e' :: rest => readExponent negative significand (exponent - count) rest
    | 'E' :: rest => readExponent negative significand (exponent - count) rest
    | rest => finishNumber negative significand (exponent - count) rest

/-- The number of an integer without fraction and exponent: beyond 64 bits, and minus zero,
it is a binary64 number. -/
def integerNumber (negative : Bool) (significand : Nat) : Number :=
  if negative then
    if significand == 0 || Nat.pow 2 63 < significand then
      .fraction ⟨true, Decimal.Magnitude.ofNat significand⟩
    else .integer (-significand)
  else .integer significand

/-- Reads what follows the integer part of a number, of which `dropped` digits are not in
the significand. -/
def readAfterInteger (negative : Bool) (significand dropped : Nat) (cs : List Char) :
    Read Number :=
  match cs with
  | '.' :: rest => readFraction negative significand dropped rest
  | 'e' :: rest => readExponent negative significand dropped rest
  | 'E' :: rest => readExponent negative significand dropped rest
  | cs =>
    if dropped == 0 then .ok (integerNumber negative significand, cs)
    else finishNumber negative significand dropped cs

/-- Reads a number, after its sign. -/
def readNumber (negative : Bool) (cs : List Char) : Read Number :=
  match cs with
  | [] => stopAt .endOfValue []
  | '0' :: rest =>
    if startsWithDigit rest then stopPast .invalidNumber rest
    else readAfterInteger negative 0 0 rest
  | c :: rest =>
    if c.isDigit then
      let ((significand, _), rest) := readSignificand (digitValue c) 1 rest
      let (dropped, rest) := skipDigits 0 rest
      readAfterInteger negative significand dropped rest
    else stopPast .invalidNumber (c :: rest)

/-- Reads a number, with its sign. -/
def readSignedNumber : List Char → Read Number
  | '-' :: rest => readNumber true rest
  | cs => readNumber false cs

/-! ## Brackets, commas and colons -/

/-- Looks for the next item of a list: it is there, or the closing bracket is next. -/
def nextItem (first : Bool) (cs : List Char) : Read Bool :=
  match skipSpace cs with
  | [] => stopPast .endOfList []
  | ']' :: rest => .ok (false, ']' :: rest)
  | c :: rest =>
    if first then .ok (true, c :: rest)
    else if c == ',' then
      match skipSpace rest with
      | [] => stopPast .endOfValue []
      | ']' :: rest => stopPast .trailingComma (']' :: rest)
      | cs => .ok (true, cs)
    else stopPast .expectedCommaOrBracket (c :: rest)

/-- Reads the bracket that closes a list. -/
def closeList (cs : List Char) : Except Stop (List Char) :=
  match skipSpace cs with
  | [] => stopPast .endOfList []
  | ']' :: rest => .ok rest
  | ',' :: rest =>
    match skipSpace rest with
    | ']' :: rest => stopPast .trailingComma (']' :: rest)
    | cs => stopPast .trailingCharacters cs
  | cs => stopPast .trailingCharacters cs

/-- Looks for the next member of an object: its key is read, or the closing brace is next. -/
def nextKey (first : Bool) (cs : List Char) : Read (Option String) :=
  match skipSpace cs with
  | [] => stopPast .endOfObject []
  | '\x7d' :: rest => .ok (none, '\x7d' :: rest)
  | c :: rest =>
    if first then key (c :: rest)
    else if c == ',' then
      match skipSpace rest with
      | [] => stopPast .endOfValue []
      | '\x7d' :: rest => stopPast .trailingComma ('\x7d' :: rest)
      | cs => key cs
    else stopPast .expectedCommaOrBrace (c :: rest)
where
  /-- Reads a key at its opening quote. -/
  key : List Char → Except Stop (Option String × List Char)
    | '"' :: rest => do
      let (name, rest) ← readString rest
      .ok (some name, rest)
    | cs => stopPast .keyNotString cs

/-- Reads the brace that closes an object, where the members have ended. -/
def closeObject (cs : List Char) : Except Stop (List Char) :=
  match skipSpace cs with
  | [] => stopPast .endOfObject []
  | '\x7d' :: rest => .ok rest
  | ',' :: rest => stopPast .trailingComma (',' :: rest)
  | cs => stopPast .trailingCharacters cs

/-- Reads the colon between a key and its value. -/
def readColon (cs : List Char) : Except Stop (List Char) :=
  match skipSpace cs with
  | [] => stopPast .endOfObject []
  | ':' :: rest => .ok rest
  | cs => stopPast .expectedColon cs

end Json
end KnowledgeClient
