import KnowledgeClient.Decimal.Binary64

/-!
# JSON values

An object keeps its members in strictly increasing order of their keys, so that
a value has one form whatever order it was written in.  Numbers are integers of
64 bits, signed or unsigned, or binary64 numbers.
-/

namespace KnowledgeClient
namespace Json

/-- A number as it was read. -/
inductive Number
  | integer (value : Int)
  | fraction (value : Decimal.Binary64)
deriving DecidableEq, Repr

/-- A JSON value. -/
inductive Value
  | null
  | flag (value : Bool)
  | number (value : Number)
  | text (value : String)
  | list (items : List Value)
  | object (members : List (String × Value))
deriving Inhabited

/-- Puts a member at its place among members in increasing order of their keys; a member with
the same key is replaced. -/
def insertMember (key : String) (value : Value) :
    List (String × Value) → List (String × Value)
  | [] => [(key, value)]
  | (other, held) :: rest =>
    if key < other then (key, value) :: (other, held) :: rest
    else if key = other then (key, value) :: rest
    else (other, held) :: insertMember key value rest

namespace Value

/-- The member of an object with a key; other values have no members. -/
def member? (key : String) : Value → Option Value
  | .object members => members.lookup key
  | _ => none

/-- The text of a text value. -/
def text? : Value → Option String
  | .text value => some value
  | _ => none

/-- The items of a list value. -/
def list? : Value → Option (List Value)
  | .list items => some items
  | _ => none

end Value

end Json
end KnowledgeClient
