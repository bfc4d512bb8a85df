import KnowledgeClient.Decimal.Layout
import KnowledgeClient.Http.Domain
import KnowledgeClient.Http.Escaped
import KnowledgeClient.Text.Digits

/-!
# Hosts

A host is a domain, an address of four numbers, or an address of eight pieces
between square brackets.  A domain is written in ASCII, with small letters only;
one whose last label is a number is an address.
-/

namespace KnowledgeClient
namespace Http

/-- Why a URL is refused. -/
inductive UrlFault
  | noScheme
  | emptyHost
  | badDomain
  | badHostCharacter
  | badPort
  | badNumericHost
  | badBracketedHost
deriving DecidableEq, Repr

/-- A reason in words. -/
def UrlFault.message : UrlFault → String
  | .noScheme => "relative URL without a base"
  | .emptyHost => "empty host"
  | .badDomain => "invalid international domain name"
  | .badHostCharacter => "invalid domain character"
  | .badPort => "invalid port number"
  | .badNumericHost => "invalid IPv4 address"
  | .badBracketedHost => "invalid IPv6 address"

namespace Host

/-! ## Addresses of four numbers -/

/-- A number in base ten, in base eight after a zero, or in base sixteen after `0x`. -/
def number? : List Char → Option Nat
  | [] => none
  | '0' :: 'x' :: digits => Text.numberIn? 16 digits
  | '0' :: 'X' :: digits => Text.numberIn? 16 digits
  | ['0'] => some 0
  | '0' :: digits => Text.numberIn? 8 digits
  | digits => Text.numberIn? 10 digits

/-- The labels of a domain, an empty last one put aside. -/
def labels (domain : List Char) : List (List Char) :=
  let pieces := Text.cutAt '.' domain
  if 1 < pieces.length && pieces.getLast? == some [] then pieces.dropLast else pieces

/-- The last label of a domain is a number. -/
def endsInNumber (domain : List Char) : Bool :=
  match (labels domain).getLast? with
  | none => false
  | some label =>
    !label.isEmpty &&
      (label.all Char.isDigit ||
        match label with
        | '0' :: 'x' :: digits => (Text.numberIn? 16 digits).isSome
        | '0' :: 'X' :: digits => (Text.numberIn? 16 digits).isSome
        | _ => false)

/-- The address of up to four numbers: each but the last is a byte, and the last fills the rest. -/
def address? (domain : List Char) : Option Nat := do
  let pieces := labels domain
  if 4 < pieces.length then none
  else
    let numbers ← pieces.mapM number?
    let last ← numbers.getLast?
    let others := numbers.dropLast
    if others.all (· < 256) && last < Nat.pow 256 (5 - numbers.length) then
      let high := others.foldl (fun value byte => value * 256 + byte) 0
      some (high * Nat.pow 256 (5 - numbers.length) + last)
    else none

/-- The four bytes of an address with points between them. -/
def addressChars (address : Nat) : List Char :=
  let bytes :=
    [address / Nat.pow 256 3, address / Nat.pow 256 2 % 256, address / 256 % 256, address % 256]
  ['.'].intercalate (bytes.map Decimal.digitChars)

/-! ## Addresses of eight pieces -/

/-- A piece of one to four hexadecimal digits. -/
def piece? (digits : List Char) : Option Nat :=
  if 1 ≤ digits.length && digits.length ≤ 4 then Text.numberIn? 16 digits else none

/-- A byte in base ten without leading zeros. -/
def byte? (digits : List Char) : Option Nat :=
  if digits.isEmpty || (1 < digits.length && digits.head? == some '0') then none
  else (Text.numberIn? 10 digits).filter (· < 256)

/-- The pieces between colons; at the very end four bytes may stand for two pieces. -/
def pieces? (mayEndInBytes : Bool) (text : List Char) : Option (List Nat) :=
  if text.isEmpty then some []
  else
    let parts := Text.cutAt ':' text
    match parts.getLast? with
    | none => none
    | some last =>
      if last.contains '.' then
        if mayEndInBytes then do
          let before ← parts.dropLast.mapM piece?
          match ← (Text.cutAt '.' last).mapM byte? with
          | [a, b, c, d] => some (before ++ [a * 256 + b, c * 256 + d])
          | _ => none
        else none
      else parts.mapM piece?

/-- The parts before and after the first two colons in a row. -/
def cutAtColons : List Char → Option (List Char × List Char)
  | ':' :: ':' :: rest => some ([], rest)
  | c :: rest => (cutAtColons rest).map fun (before, after) => (c :: before, after)
  | [] => none

/-- The eight pieces of an address; two colons in a row stand for pieces of zero. -/
def eightPieces? (text : List Char) : Option (List Nat) :=
  match cutAtColons text with
  | none => (pieces? true text).filter (·.length == 8)
  | some (before, after) => do
    let before ← pieces? false before
    let after ← pieces? true after
    let count := before.length + after.length
    if count ≤ 7 then some (before ++ List.replicate (8 - count) 0 ++ after) else none

/-- The length of the run of zeros at the start. -/
def zeroRun (pieces : List Nat) : Nat :=
  (pieces.takeWhile (· == 0)).length

/-- The first place and the length of the longest run of zeros, the first of equally long ones. -/
def longestZeroRun (pieces : List Nat) : Nat × Nat :=
  (List.range pieces.length).foldl (fun best start =>
    let length := zeroRun (pieces.drop start)
    if best.2 < length then (start, length) else best) (0, 0)

/-- The eight pieces of an address between brackets, the longest run of zeros left out. -/
def eightPiecesChars (pieces : List Nat) : List Char :=
  let written (pieces : List Nat) := [':'].intercalate (pieces.map (Nat.toDigits 16))
  let (start, length) := longestZeroRun pieces
  let inner :=
    if 2 ≤ length then
      written (pieces.take start) ++ [':', ':'] ++ written (pieces.drop (start + length))
    else written pieces
  '[' :: inner ++ [']']

/-! ## Hosts -/

/-- The address between brackets, after the opening one. -/
def ofBracketed (text : List Char) : Except UrlFault (List Char) :=
  match text.getLast?, eightPieces? text.dropLast with
  | some ']', some pieces => .ok (eightPiecesChars pieces)
  | _, _ => .error .badBracketedHost

/-- The host of a special scheme. -/
def ofSpecial (text : List Char) : Except UrlFault (List Char) :=
  match text with
  | [] => .error .emptyHost
  | '[' :: rest => ofBracketed rest
  | text =>
    let decoded := (Text.decodeLossy (unescape (Text.encode (String.ofList text)))).toList
    match Domain.read? decoded with
    | none => .error .badDomain
    | some domain =>
      if domain.isEmpty then .error .emptyHost
      else if endsInNumber domain then
        match address? domain with
        | some address => .ok (addressChars address)
        | none => .error .badNumericHost
      else .ok domain

/-- A character that the host of another scheme may not hold. -/
def isRefused (c : Char) : Bool :=
  c.toNat == 0 || (Domain.isForbidden c && c != '%' && 0x20 ≤ c.toNat && c.toNat != 0x7F)

/-- The host of any other scheme. -/
def ofOther (text : List Char) : Except UrlFault (List Char) :=
  match text with
  | '[' :: rest => ofBracketed rest
  | text =>
    if text.any isRefused then .error .badHostCharacter else .ok (escape isControlOrForeign text)

end Host

end Http
end KnowledgeClient
