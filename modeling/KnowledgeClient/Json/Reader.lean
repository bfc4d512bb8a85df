import KnowledgeClient.Json.Scan

/-!
# Reading JSON values

A value may hold at most 127 brackets open at a time; the next one is refused.
Lists and objects are read by loops over the reader of their items or members,
so that the value reader recurses only from a bracket to what it holds.  A loop's
budget is the text it reads: every item and every member takes at least one
character of it, so that the budget lasts.
-/

namespace KnowledgeClient
namespace Json

/-- Reads the items of a list up to its closing bracket, at most as many as the budget has. -/
def readItemsUpTo {α : Type} (item : List Char → Read α) :
    List Char → Bool → List Char → Except Stop (List α × List Char)
  | [], _, cs => stopPast .endOfList cs
  | _ :: budget, first, cs => do
    let (more, cs) ← nextItem first cs
    if more then
      let (value, cs) ← item cs
      let (values, cs) ← readItemsUpTo item budget false cs
      .ok (value :: values, cs)
    else .ok ([], cs)

/-- Reads a list, after its opening bracket. -/
def readList {α : Type} (item : List Char → Read α) (cs : List Char) :
    Except Stop (List α × List Char) := do
  let (values, cs) ← readItemsUpTo item cs true cs
  let cs ← closeList cs
  .ok (values, cs)

/-- Reads the members of an object up to its closing brace, at most as many as the budget has,
each onto what the ones before it left. -/
def readMembersUpTo {σ : Type} (member : σ → String → List Char → Read σ) :
    List Char → Bool → σ → List Char → Except Stop (σ × List Char)
  | [], _, _, cs => stopPast .endOfObject cs
  | _ :: budget, first, state, cs => do
    let (key?, cs) ← nextKey first cs
    match key? with
    | some key =>
      let (state, cs) ← member state key cs
      readMembersUpTo member budget false state cs
    | none => .ok (state, cs)

/-- Reads the members of an object, after its opening brace and up to its closing one. -/
def readMembers {σ : Type} (member : σ → String → List Char → Read σ) (start : σ)
    (cs : List Char) : Read σ :=
  readMembersUpTo member cs true start cs

/-- Reads a value whose brackets, if it has any, are read by `bracket`. -/
def readValueWith (bracket : List Char → Read Value) (cs : List Char) :
    Except Stop (Value × List Char) :=
  match skipSpace cs with
  | [] => stopPast .endOfValue []
  | c :: rest =>
    if c == 'n' then do
      let rest ← readWord ['u', 'l', 'l'] rest
      .ok (.null, rest)
    else if c == 't' then do
      let rest ← readWord ['r', 'u', 'e'] rest
      .ok (.flag true, rest)
    else if c == 'f' then do
      let rest ← readWord ['a', 'l', 's', 'e'] rest
      .ok (.flag false, rest)
    else if c == '-' || c.isDigit then do
      let (number, rest) ← readSignedNumber (c :: rest)
      .ok (.number number, rest)
    else if c == '"' then do
      let (text, rest) ← readString rest
      .ok (.text text, rest)
    else if c == '[' || c == '\x7b' then bracket (c :: rest)
    else stopPast .expectedValue (c :: rest)

/-- Reads the value of a member, after its key, and puts it among the members. -/
def readMemberOnto (value : List Char → Read Value) (members : List (String × Value))
    (key : String) (cs : List Char) : Except Stop (List (String × Value) × List Char) := do
  let cs ← readColon cs
  let (held, cs) ← value cs
  .ok (insertMember key held members, cs)

/-- Reads a list or an object at its opening bracket. -/
def readBracket (value : List Char → Read Value) :
    List Char → Except Stop (Value × List Char)
  | '[' :: rest => do
    let (items, rest) ← readList value rest
    .ok (.list items, rest)
  | cs => do
    let (members, rest) ← readMembers (readMemberOnto value) [] (cs.drop 1)
    let rest ← closeObject rest
    .ok (.object members, rest)

/-- Reads a value with at most `depth` brackets open at a time. -/
def readValue : Nat → List Char → Read Value
  | 0 => readValueWith (stopPast .tooDeep)
  | depth + 1 => readValueWith (readBracket (readValue depth))

/-- The number of brackets that may be open at a time. -/
def greatestDepth : Nat := 127

/-- Reads a whole text, of which only blanks may follow what the reader takes. -/
def readAll {α : Type} (reader : List Char → Read α) (text : String) : Except Fault α :=
  let outcome : Except Stop α := do
    let (value, rest) ← reader text.toList
    match skipSpace rest with
    | [] => .ok value
    | rest => stopPast .trailingCharacters rest
  outcome.mapError (·.fault text.toList)

/-- The value of a text. -/
def Value.read (text : String) : Except Fault Value :=
  readAll (readValue greatestDepth) text

end Json
end KnowledgeClient
