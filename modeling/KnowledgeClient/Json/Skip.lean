import KnowledgeClient.Json.Scan

/-!
# Passing over JSON values

A value that nobody wants is only checked for its form: numbers have no range,
escapes by code no partner, and brackets no greatest depth.  The brackets that
are open are kept as a list, innermost first, so passing over a value is one loop.
-/

namespace KnowledgeClient
namespace Json

/-- An open bracket. -/
inductive Frame
  | list
  | object
deriving DecidableEq, Repr

/-- Passes over the rest of an escape, after its backslash. -/
def skipEscape : List Char → Except Stop (List Char)
  | [] => stopAt .endOfString []
  | c :: rest =>
    if c == 'u' then (readHex rest).map (·.2)
    else if (letterEscape? c).isSome then .ok rest
    else stopPast .invalidEscape (c :: rest)

/-- Passes over the rest of a string, in at most as many steps as the budget has. -/
def skipStringUpTo : List Char → List Char → Except Stop (List Char)
  | [], _ => stopAt .endOfString []
  | _ :: _, [] => stopAt .endOfString []
  | _ :: budget, c :: rest =>
    if c == '"' then .ok rest
    else if c == '\\' then
      match skipEscape rest with
      | .ok rest => skipStringUpTo budget rest
      | .error stop => .error stop
    else if c.toNat < 0x20 then stopAt .controlCharacter (c :: rest)
    else skipStringUpTo budget rest

/-- Passes over the rest of a string, after its opening quote. -/
def skipString (cs : List Char) : Except Stop (List Char) :=
  skipStringUpTo cs cs

/-- Passes over an exponent, after its mark. -/
def skipExponent (cs : List Char) : Except Stop (List Char) :=
  let (_, cs) := readExponentSign cs
  if startsWithDigit cs then .ok (skipDigits 0 cs).2 else stopPast .invalidNumber cs

/-- Passes over an exponent, if there is one. -/
def skipAnyExponent : List Char → Except Stop (List Char)
  | 'e' :: rest => skipExponent rest
  | 'E' :: rest => skipExponent rest
  | cs => .ok cs

/-- Passes over a fraction and an exponent, if there are any. -/
def skipAfterInteger : List Char → Except Stop (List Char)
  | '.' :: rest =>
    if startsWithDigit rest then skipAnyExponent (skipDigits 0 rest).2
    else stopPast .invalidNumber rest
  | cs => skipAnyExponent cs

/-- Passes over a number, after its sign. -/
def skipNumber : List Char → Except Stop (List Char)
  | '0' :: rest =>
    if startsWithDigit rest then stopPast .invalidNumber rest else skipAfterInteger rest
  | cs =>
    if startsWithDigit cs then skipAfterInteger (skipDigits 0 cs).2
    else stopPast .invalidNumber cs

/-- Passes over a value without brackets, or over an opening bracket, which is added to the
open ones. -/
def skipStart (frames : List Frame) (cs : List Char) :
    Except Stop ((Bool × List Frame) × List Char) :=
  match skipSpace cs with
  | [] => stopPast .endOfValue []
  | c :: rest =>
    if c == 'n' then (readWord ['u', 'l', 'l'] rest).map ((true, frames), ·)
    else if c == 't' then (readWord ['r', 'u', 'e'] rest).map ((true, frames), ·)
    else if c == 'f' then (readWord ['a', 'l', 's', 'e'] rest).map ((true, frames), ·)
    else if c == '-' then (skipNumber rest).map ((true, frames), ·)
    else if c.isDigit then (skipNumber (c :: rest)).map ((true, frames), ·)
    else if c == '"' then (skipString rest).map ((true, frames), ·)
    else if c == '[' then .ok ((false, .list :: frames), rest)
    else if c == '\x7b' then .ok ((false, .object :: frames), rest)
    else stopPast .expectedValue (c :: rest)

/-- Passes over the closing brackets that follow, and over the comma after them.  A comma may
come only after a value, not right after an opening bracket. -/
def skipClosing : Bool → List Frame → List Char → Except Stop (List Frame × List Char)
  | _, [], cs => .ok ([], cs)
  | afterValue, frame :: outer, cs =>
    match skipSpace cs with
    | [] => stopPast (if frame == .list then .endOfList else .endOfObject) []
    | c :: rest =>
      if c == ',' && afterValue then .ok (frame :: outer, rest)
      else if c == ']' && frame == .list then skipClosing true outer rest
      else if c == '\x7d' && frame == .object then skipClosing true outer rest
      else if afterValue then
        stopPast (if frame == .list then .expectedCommaOrBracket else .expectedCommaOrBrace)
          (c :: rest)
      else .ok (frame :: outer, c :: rest)

/-- Passes over a key and its colon where the innermost open bracket is that of an object. -/
def skipKey : List Frame → List Char → Except Stop (List Char)
  | .object :: _, cs =>
    match skipSpace cs with
    | [] => stopPast .endOfObject []
    | c :: rest =>
      if c == '"' then do
        let rest ← skipString rest
        readColon rest
      else stopPast .keyNotString (c :: rest)
  | _, cs => .ok cs

/-- Passes over a value inside the open brackets, in at most as many steps as the budget has. -/
def skipValueUpTo : List Char → List Frame → List Char → Except Stop (List Char)
  | [], _, cs => stopPast .endOfValue cs
  | _ :: budget, frames, cs => do
    let ((afterValue, frames), cs) ← skipStart frames cs
    let (frames, cs) ← skipClosing afterValue frames cs
    if frames.isEmpty then .ok cs
    else
      let cs ← skipKey frames cs
      skipValueUpTo budget frames cs

/-- Passes over a value: every step takes at least one character, so the text itself is budget
enough. -/
def skipValue (cs : List Char) : Except Stop (List Char) :=
  skipValueUpTo cs [] cs

end Json
end KnowledgeClient
