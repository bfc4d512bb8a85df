/-!
# Labels outside ASCII

A label of a domain that holds characters outside ASCII is written with the ASCII
ones first and then, for the others in increasing order, how far each lies after
the one before it, in digits of base 36 of varying weight.  A label that is written
so is read back character by character.  The characters are taken as they are:
nothing is folded or composed here.
-/

namespace KnowledgeClient
namespace Http
namespace Punycode

/-- The digit of a number below 36. -/
def digit (n : Nat) : Char :=
  if n < 26 then Char.ofNat (0x61 + n) else Char.ofNat (0x30 + (n - 26))

/-- The least value at which a place of the number is not the last. -/
def threshold (place bias : Nat) : Nat :=
  min 26 (max 1 (place - bias))

/-- A distance in digits, from some place on, at most `fuel` of them. -/
def distanceChars (bias : Nat) : Nat → Nat → Nat → List Char
  | 0, _, _ => []
  | fuel + 1, place, distance =>
    let least := threshold place bias
    if distance < least then [digit distance]
    else
      digit (least + (distance - least) % (36 - least)) ::
        distanceChars bias fuel (place + 36) ((distance - least) / (36 - least))

/-- Divides the distance until it is small, counting the places, at most `fuel` times. -/
def shrink : Nat → Nat → Nat → Nat
  | 0, places, distance => places + 36 * distance / (distance + 38)
  | fuel + 1, places, distance =>
    if 455 < distance then shrink fuel (places + 36) (distance / 35)
    else places + 36 * distance / (distance + 38)

/-- The bias after a distance was written. -/
def adapt (distance written : Nat) (first : Bool) : Nat :=
  let halved := if first then distance / 700 else distance / 2
  shrink halved 0 (halved + halved / written)

/-- What has been written of a label. -/
structure State where
  output : List Char
  distance : Nat
  bias : Nat
  written : Nat

/-- Passes one character of the label while the given code point is being written. -/
def State.pass (basic code : Nat) (state : State) (c : Char) : State :=
  if c.toNat < code then { state with distance := state.distance + 1 }
  else if c.toNat == code then
    { output := state.output ++ distanceChars state.bias (state.distance + 1) 36 state.distance
      distance := 0
      bias := adapt state.distance (state.written + 1) (state.written == basic)
      written := state.written + 1 }
  else state

/-- Writes the code points, which increase; `next` is the least one that can still come. -/
def writeCodes (label : List Char) (basic : Nat) : List Nat → Nat → State → State
  | [], _, state => state
  | code :: codes, next, state =>
    let state := { state with distance := state.distance + (code - next) * (state.written + 1) }
    let state := label.foldl (State.pass basic code) state
    writeCodes label basic codes (code + 1) { state with distance := state.distance + 1 }

/-- Puts a number at its place among increasing ones, unless it is there. -/
def insertCode (code : Nat) : List Nat → List Nat
  | [] => [code]
  | other :: rest =>
    if code < other then code :: other :: rest
    else if code == other then other :: rest
    else other :: insertCode code rest

/-- The ASCII form of a label that holds characters outside ASCII. -/
def encode (label : List Char) : List Char :=
  let basic := label.filter (·.toNat < 0x80)
  let codes := (label.filter (0x80 ≤ ·.toNat)).foldl (fun codes c => insertCode c.toNat codes) []
  let written := writeCodes label basic.length codes 0x80 ⟨[], 0, 72, basic.length⟩
  basic ++ (if basic.isEmpty then [] else ['-']) ++ written.output

/-! ## Reading -/

/-- The value of a digit. -/
def digitValue? (c : Char) : Option Nat :=
  if c.isLower then some (c.toNat - 0x61)
  else if c.isDigit then some (c.toNat - 0x30 + 26)
  else none

/-- What has been read of a label: its characters, the code point that was put in last, and the
distance that is being read, from where it started, with the place of its next digit. -/
structure Progress where
  label : List Char
  code : Nat
  bias : Nat
  start : Nat
  distance : Nat
  place : Nat
  weight : Nat

/-- What has been read after the ASCII characters of a label. -/
def Progress.initial (basic : List Char) : Progress :=
  ⟨basic, 0x80, 72, 0, 0, 36, 1⟩

/-- Puts the character in that the distance leads to. -/
def Progress.put (progress : Progress) (distance : Nat) : Option Progress :=
  let count := progress.label.length + 1
  let code := progress.code + distance / count
  let place := distance % count
  if code.isValidChar then
    some
      { label := progress.label.take place ++ Char.ofNat code :: progress.label.drop place
        code
        bias := adapt (distance - progress.start) count (progress.start == 0)
        start := place + 1
        distance := place + 1
        place := 36
        weight := 1 }
  else none

/-- Reads a digit: the last one of a distance is below the threshold of its place. -/
def Progress.read (progress : Progress) (c : Char) : Option Progress := do
  let value ← digitValue? c
  let distance := progress.distance + value * progress.weight
  let least := threshold progress.place progress.bias
  if value < least then progress.put distance
  else
    some
      { progress with
        distance
        place := progress.place + 36
        weight := progress.weight * (36 - least) }

/-- The ASCII characters of a written label, which end before its last dash, and the digits after
it.  A dash that ends no characters is taken for a digit. -/
def cutAtLastDash (written : List Char) : List Char × List Char :=
  let digits := (written.reverse.takeWhile (· != '-')).reverse
  let basic := written.take (written.length - digits.length - 1)
  if basic.isEmpty then ([], written) else (basic, digits)

/-- The label that is written so; there is none if its last distance is cut short. -/
def decode? (written : List Char) : Option (List Char) := do
  let (basic, digits) := cutAtLastDash written
  let progress ← digits.foldlM Progress.read (.initial basic)
  if progress.weight == 1 then some progress.label else none

end Punycode
end Http
end KnowledgeClient
