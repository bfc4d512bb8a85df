import KnowledgeClient.Decimal.Layout
import KnowledgeClient.Json.Printer
import KnowledgeClient.Text.Quoted
import KnowledgeClient.Text.Utf8

/-!
# Why a JSON text is refused, and where

A reader stops with a problem and with the number of bytes it has not read.  The
place is then told as a line and a column: the line counts the line ends before
it, the column the bytes after the last of them.
-/

namespace KnowledgeClient
namespace Json

/-- What stands in a text where something else was wanted. -/
inductive Found
  | null
  | flag (value : Bool)
  | number (value : Number)
  | text (value : String)
  | list
  | object
deriving DecidableEq, Repr

/-- What a reader wants. -/
inductive Wanted
  | text
  | flag
  | integer
  | unit
  | list
  | record (name : String)
deriving DecidableEq, Repr

/-- A reason to refuse a text. -/
inductive Problem
  | endOfValue
  | endOfString
  | endOfList
  | endOfObject
  | expectedValue
  | expectedIdentifier
  | expectedColon
  | expectedCommaOrBracket
  | expectedCommaOrBrace
  | keyNotString
  | trailingComma
  | trailingCharacters
  | invalidNumber
  | numberOutOfRange
  | invalidEscape
  | controlCharacter
  | loneSurrogate
  | unfinishedPair
  | tooDeep
  | wrongType (found : Found) (wanted : Wanted)
  | integerOutOfRange (value : Int)
  | wrongLength (count : Nat) (record : String) (size : Nat)
  | missingField (name : String)
  | duplicateField (name : String)
  | unknownVariant (name : String) (first second : String)
deriving DecidableEq, Repr

/-- A reason to refuse a text, with the line and the column it was noticed at. -/
structure Fault where
  problem : Problem
  line : Nat
  column : Nat
deriving DecidableEq, Repr

/-- The text between marks that set it off from the sentence around it. -/
def marked (text : String) : String := "`" ++ text ++ "`"

/-- A found thing as the message names it. -/
def Found.description : Found → String
  | .null => "null"
  | .flag value => "boolean " ++ marked (String.ofList (flagChars value))
  | .number (.integer value) => "integer " ++ marked (String.ofList (integerChars value))
  | .number (.fraction value) => "floating point " ++ marked (String.ofList value.chars)
  | .text value => "string " ++ Text.quoted value
  | .list => "sequence"
  | .object => "map"

/-- A wanted thing as the message names it. -/
def Wanted.description : Wanted → String
  | .text => "a string"
  | .flag => "a boolean"
  | .integer => "i64"
  | .unit => "unit"
  | .list => "a sequence"
  | .record name => "struct " ++ name

/-- A reason in words. -/
def Problem.message : Problem → String
  | .endOfValue => "EOF while parsing a value"
  | .endOfString => "EOF while parsing a string"
  | .endOfList => "EOF while parsing a list"
  | .endOfObject => "EOF while parsing an object"
  | .expectedValue => "expected value"
  | .expectedIdentifier => "expected ident"
  | .expectedColon => "expected " ++ marked ":"
  | .expectedCommaOrBracket => "expected " ++ marked "," ++ " or " ++ marked "]"
  | .expectedCommaOrBrace => "expected " ++ marked "," ++ " or " ++ marked "\x7d"
  | .keyNotString => "key must be a string"
  | .trailingComma => "trailing comma"
  | .trailingCharacters => "trailing characters"
  | .invalidNumber => "invalid number"
  | .numberOutOfRange => "number out of range"
  | .invalidEscape => "invalid escape"
  | .controlCharacter =>
    "control character (\\u0000-\\u001F) found while parsing a string"
  | .loneSurrogate => "lone leading surrogate in hex escape"
  | .unfinishedPair => "unexpected end of hex escape"
  | .tooDeep => "recursion limit exceeded"
  | .wrongType found wanted =>
    "invalid type: " ++ found.description ++ ", expected " ++ wanted.description
  | .integerOutOfRange value =>
    "invalid value: " ++ (Found.number (.integer value)).description ++
      ", expected " ++ Wanted.integer.description
  | .wrongLength count record size =>
    "invalid length " ++ toString count ++ ", expected " ++ (Wanted.record record).description ++
      " with " ++ toString size ++ (if size == 1 then " element" else " elements")
  | .missingField name => "missing field " ++ marked name
  | .duplicateField name => "duplicate field " ++ marked name
  | .unknownVariant name first second =>
    "unknown variant " ++ marked name ++ ", expected " ++ marked first ++ " or " ++ marked second

/-- A fault in words. -/
def Fault.message (fault : Fault) : String :=
  fault.problem.message ++ " at line " ++ toString fault.line ++
    " column " ++ toString fault.column

/-- Where a reader stopped: the problem and the number of bytes not yet read. -/
structure Stop where
  problem : Problem
  unread : Nat
deriving DecidableEq, Repr

/-- The line and the column after a number of bytes of a text, counted on from a line and a
column. -/
def placeAfter : Nat → Nat → Nat → List Char → Nat × Nat
  | _, line, column, [] => (line, column)
  | bytes, line, column, c :: rest =>
    if bytes == 0 then (line, column)
    else if c == '\n' then placeAfter (bytes - 1) (line + 1) 0 rest
    else placeAfter (bytes - c.utf8Size) line (column + min bytes c.utf8Size) rest

/-- The fault of a stop in a text. -/
def Stop.fault (text : List Char) (stop : Stop) : Fault :=
  let (line, column) := placeAfter (Text.byteCount text - stop.unread) 1 0 text
  ⟨stop.problem, line, column⟩

end Json
end KnowledgeClient
