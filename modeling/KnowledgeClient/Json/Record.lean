import KnowledgeClient.Json.Reader
import KnowledgeClient.Json.Skip

/-!
# Reading records

A record is written as an object, its members in any order and unknown members
passed over, or as a list of its fields in the order of their declaration.  A
field that is not required may be absent.  What has been read so far is a draft;
each field says how its content is read and where in the draft it is kept.
-/

namespace KnowledgeClient
namespace Json

/-! ## Contents of fields -/

/-- Stops at a value of a type that is not wanted.  A value without brackets is read first,
and what is wrong with it comes before what is wrong with its type. -/
def stopAtType {α : Type} (wanted : Wanted) (cs : List Char) : Except Stop α :=
  match cs with
  | [] => stopPast .expectedValue []
  | c :: rest =>
    if c == '[' then stopAt (.wrongType .list wanted) (c :: rest)
    else if c == '\x7b' then stopAt (.wrongType .object wanted) (c :: rest)
    else do
      let (value, rest) ← readValueWith (stopPast .expectedValue) (c :: rest)
      match value with
      | .flag value => stopAt (.wrongType (.flag value) wanted) rest
      | .number value => stopAt (.wrongType (.number value) wanted) rest
      | .text value => stopAt (.wrongType (.text value) wanted) rest
      | _ => stopAt (.wrongType .null wanted) rest

/-- Reads a text. -/
def readText (cs : List Char) : Read String :=
  match skipSpace cs with
  | [] => stopPast .endOfValue []
  | '"' :: rest => readString rest
  | cs => stopAtType .text cs

/-- Reads a truth value. -/
def readFlag (cs : List Char) : Read Bool :=
  match skipSpace cs with
  | [] => stopPast .endOfValue []
  | 't' :: rest => (readWord ['r', 'u', 'e'] rest).map (true, ·)
  | 'f' :: rest => (readWord ['a', 'l', 's', 'e'] rest).map (false, ·)
  | cs => stopAtType .flag cs

/-- The integer has 64 bits, one of them for the sign. -/
def fitsSigned (value : Int) : Bool :=
  -0x8000000000000000 ≤ value && value < 0x8000000000000000

/-- Reads an integer of 64 bits, one of them for the sign. -/
def readInteger (cs : List Char) : Except Stop (Int × List Char) :=
  match skipSpace cs with
  | [] => stopPast .endOfValue []
  | c :: rest =>
    if c == '-' || c.isDigit then do
      let (number, rest) ← readSignedNumber (c :: rest)
      match number with
      | .integer value =>
        if fitsSigned value then .ok (value, rest) else stopAt (.integerOutOfRange value) rest
      | number => stopAt (.wrongType (.number number) .integer) rest
    else stopAtType .integer (c :: rest)

/-- Reads the null value. -/
def readUnit (cs : List Char) : Read Unit :=
  match skipSpace cs with
  | [] => stopPast .endOfValue []
  | 'n' :: rest => (readWord ['u', 'l', 'l'] rest).map ((), ·)
  | cs => stopAtType .unit cs

/-- Reads a content that may be the null value instead. -/
def readOptional {α : Type} (item : List Char → Read α) (cs : List Char) : Read (Option α) :=
  match skipSpace cs with
  | 'n' :: rest => (readWord ['u', 'l', 'l'] rest).map (none, ·)
  | cs => (item cs).map fun (value, rest) => (some value, rest)

/-- Reads a list of items. -/
def readItems {α : Type} (item : List Char → Read α) (cs : List Char) : Read (List α) :=
  match skipSpace cs with
  | [] => stopPast .endOfValue []
  | '[' :: rest => readList item rest
  | cs => stopAtType .list cs

/-- Reads a name of a variant, as a string or as the only member of an object with the null
value. -/
def readVariant {α : Type} (variant : String → Except Problem α) (cs : List Char) :
    Except Stop (α × List Char) :=
  match skipSpace cs with
  | [] => stopPast .endOfValue []
  | c :: rest =>
    if c == '"' then named rest
    else if c == '\x7b' then
      match skipSpace rest with
      | [] => stopPast .endOfObject []
      | c :: rest =>
        if c == '"' then do
          let (value, rest) ← named rest
          let rest ← readColon rest
          let (_, rest) ← readUnit rest
          match skipSpace rest with
          | [] => stopAt .endOfObject []
          | c :: rest =>
            if c == '\x7d' then .ok (value, rest) else stopAt .expectedValue (c :: rest)
        else stopPast (if c == '\x7d' then .expectedValue else .keyNotString) (c :: rest)
    else stopPast .expectedValue (c :: rest)
where
  /-- Reads the name, after its opening quote. -/
  named (cs : List Char) : Except Stop (α × List Char) := do
    let (name, rest) ← readString cs
    match variant name with
    | .ok value => .ok (value, rest)
    | .error problem => stopAt problem rest

/-! ## Fields and records -/

/-- A field of the records whose drafts are of the type `σ`. -/
structure Field (σ : Type) where
  Content : Type
  name : String
  required : Bool
  read : List Char → Read Content
  get? : σ → Option Content
  set : Content → σ → σ

/-- A kind of record: its name, its fields in the order of their declaration, the draft to
start from, and the record of a draft that has all required fields. -/
structure Schema (σ α : Type) where
  name : String
  fields : List (Field σ)
  start : σ
  finish : σ → α

namespace Schema

variable {σ α : Type}

/-- Reads the content of a field into the draft. -/
def readField (field : Field σ) (draft : σ) (cs : List Char) : Except Stop (σ × List Char) := do
  let (content, cs) ← field.read cs
  .ok (field.set content draft, cs)

/-- Reads the value of a member, after its key: a field not yet read goes into the draft, and
an unknown member is passed over.  A field that was read before is noticed at once, but told
only after a closing brace that may be there. -/
def readMember (schema : Schema σ α) (draft : σ) (key : String) (cs : List Char) :
    Except Stop (σ × List Char) :=
  match schema.fields.find? (·.name == key) with
  | some field =>
    if (field.get? draft).isSome then stopAfter '\x7d' (.duplicateField key) cs
    else do
      let cs ← readColon cs
      readField field draft cs
  | none => do
    let cs ← readColon cs
    let cs ← skipValue cs
    .ok (draft, cs)
where
  /-- Stops after a closing bracket, if it comes next. -/
  stopAfter (bracket : Char) (problem : Problem) (cs : List Char) :
      Except Stop (σ × List Char) :=
    match skipSpace cs with
    | [] => stopAt problem []
    | c :: rest => stopAt problem (if c == bracket then rest else c :: rest)

/-- The first required field that the draft lacks. -/
def missing? (schema : Schema σ α) (draft : σ) : Option String :=
  (schema.fields.find? fun field => field.required && (field.get? draft).isNone).map (·.name)

/-- Reads a record written as an object, after its opening brace. -/
def readObject (schema : Schema σ α) (cs : List Char) : Except Stop (α × List Char) := do
  let (draft, cs) ← readMembers schema.readMember schema.start cs
  let cs ← closeObject cs
  match schema.missing? draft with
  | some name => stopAt (.missingField name) cs
  | none => .ok (schema.finish draft, cs)

/-- Reads fields from the items of a list, the first of them being the field number `count`. -/
def readFields (schema : Schema σ α) :
    List (Field σ) → Nat → σ → List Char → Except Stop (σ × List Char)
  | [], _, draft, cs => .ok (draft, cs)
  | field :: fields, count, draft, cs => do
    let (more, cs) ← nextItem (count == 0) cs
    if more then
      let (draft, cs) ← readField field draft cs
      readFields schema fields (count + 1) draft cs
    else if field.required then do
      let cs ← closeList cs
      stopAt (.wrongLength count schema.name schema.fields.length) cs
    else readFields schema fields (count + 1) draft cs

/-- Reads a record written as a list, after its opening bracket. -/
def readArray (schema : Schema σ α) (cs : List Char) : Except Stop (α × List Char) := do
  let (draft, cs) ← readFields schema schema.fields 0 schema.start cs
  let cs ← closeList cs
  .ok (schema.finish draft, cs)

/-- Reads a record. -/
def read (schema : Schema σ α) (cs : List Char) : Read α :=
  match skipSpace cs with
  | [] => stopPast .endOfValue []
  | '\x7b' :: rest => schema.readObject rest
  | '[' :: rest => schema.readArray rest
  | cs => stopAtType (.record schema.name) cs

end Schema

end Json
end KnowledgeClient
