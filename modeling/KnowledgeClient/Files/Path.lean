import KnowledgeClient.Text.Utf8

/-!
# Paths

A path is a run of bytes, cut into names by slashes.  Empty names and single dots
stand for nothing; two dots stand for the folder above.
-/

namespace KnowledgeClient
namespace Files

/-- A name in a folder. -/
abbrev Name := Bytes

/-- A path as it was given. -/
structure Path where
  bytes : Bytes
deriving DecidableEq, Repr, Inhabited

/-- The byte between the names of a path. -/
def slash : UInt8 := 0x2F

/-- The byte that a dot is written as. -/
def dot : UInt8 := 0x2E

/-- The name that stands for the folder it is in. -/
def hereName : Name := [dot]

/-- The name that stands for the folder above. -/
def aboveName : Name := [dot, dot]

/-- The pieces between the slashes, empty ones included. -/
def cutAtSlashes : Bytes → List Name
  | [] => [[]]
  | b :: rest =>
    if b == slash then [] :: cutAtSlashes rest
    else
      match cutAtSlashes rest with
      | piece :: pieces => (b :: piece) :: pieces
      | [] => [[b]]

namespace Path

/-- The path of a text. -/
def ofText (text : String) : Path := ⟨Text.encode text⟩

/-- The path as it is shown, with U+FFFD for what is no text. -/
def display (path : Path) : String := Text.decodeLossy path.bytes

/-- The pieces of the path that stand for something. -/
def names (path : Path) : List Name :=
  (cutAtSlashes path.bytes).filter fun name => !name.isEmpty && name != hereName

/-- The name of the file that the path leads to, unless it leads nowhere or to a folder above. -/
def fileName? (path : Path) : Option Name :=
  path.names.getLast?.filter (· != aboveName)

/-- The part of the file name after its last dot, unless that dot is its first byte. -/
def extension? (path : Path) : Option Bytes := do
  let name ← path.fileName?
  let fromEnd := name.reverse
  let extension := (fromEnd.takeWhile (· != dot)).reverse
  let before := (fromEnd.dropWhile (· != dot)).drop 1
  if fromEnd.contains dot && !before.isEmpty then some extension else none

/-- The path begins at the topmost folder. -/
def isAbsolute (path : Path) : Bool :=
  path.bytes.head? == some slash

/-- The path of a name in the folder that a path leads to. -/
def join (folder : Path) (name : Name) : Path :=
  if folder.bytes.isEmpty || folder.bytes.getLast? == some slash then ⟨folder.bytes ++ name⟩
  else ⟨folder.bytes ++ slash :: name⟩

end Path

end Files
end KnowledgeClient
