import KnowledgeClient.Files.Path

/-!
# Trees of files

A tree holds files and folders, each at a place: the names from the topmost folder
down to it.  One folder is the working folder, where paths start that do not start
at the top.  A path is followed name by name, and every name but the last must be
that of a folder.
-/

namespace KnowledgeClient
namespace Files

/-- Why a file cannot be read, or a folder cannot be made. -/
inductive Fault
  | missing
  | notFolder
  | isFolder
  | taken
  | nameTooLong
  | nulByte
  | notText
  | other (reason : String)
deriving DecidableEq, Repr

/-- A reason in words. -/
def Fault.message : Fault → String
  | .missing => "No such file or directory (os error 2)"
  | .notFolder => "Not a directory (os error 20)"
  | .isFolder => "Is a directory (os error 21)"
  | .taken => "File exists (os error 17)"
  | .nameTooLong => "File name too long (os error 36)"
  | .nulByte => "file name contained an unexpected NUL byte"
  | .notText => "stream did not contain valid UTF-8"
  | .other reason => reason

/-- A file with its content, or a folder. -/
inductive Entry
  | file (content : Bytes)
  | folder
deriving DecidableEq, Repr

/-- A place in a tree: the names from the topmost folder down.  Above the topmost folder is the
topmost folder itself. -/
abbrev Place := List Name

/-- Files and folders by their places, and the place of the working folder. -/
structure Tree where
  working : Place
  entries : List (Place × Entry)
deriving DecidableEq, Repr

/-- The greatest number of bytes of a name. -/
def greatestName : Nat := 255

/-- The number of bytes that a path must stay below. -/
def pathLimit : Nat := 4096

namespace Tree

/-- The tree of nothing but an empty working folder and the folders it is in. -/
def empty (working : Place) : Tree :=
  ⟨working, (List.range working.length).map fun depth => (working.take (depth + 1), .folder)⟩

/-- What is at some place. -/
def entry? (tree : Tree) (place : Place) : Option Entry :=
  if place.isEmpty then some .folder else tree.entries.lookup place

/-- The tree with something put at some place. -/
def put (tree : Tree) (place : Place) (entry : Entry) : Tree :=
  { tree with entries := (place, entry) :: tree.entries.filter (·.1 != place) }

/-- The place that a path starts at. -/
def start (tree : Tree) (path : Path) : Place :=
  if path.isAbsolute then [] else tree.working

/-- Follows the pieces of a path from a place.  The place reached need not hold anything, but
every piece needs a folder to start from. -/
def follow (tree : Tree) : Place → List Name → Except Fault Place
  | place, [] => .ok place
  | place, name :: rest =>
    match tree.entry? place with
    | none => .error .missing
    | some (.file _) => .error .notFolder
    | some .folder =>
      if name.isEmpty || name == hereName then tree.follow place rest
      else if name == aboveName then tree.follow place.dropLast rest
      else if greatestName < name.length then .error .nameTooLong
      else tree.follow (place ++ [name]) rest

/-- The place that a path leads to. -/
def locate (tree : Tree) (path : Path) : Except Fault Place :=
  if path.bytes.contains 0 then .error .nulByte
  else if path.bytes.isEmpty then .error .missing
  else if pathLimit ≤ path.bytes.length then .error .nameTooLong
  else tree.follow (tree.start path) (cutAtSlashes path.bytes)

/-- What a path leads to. -/
def find (tree : Tree) (path : Path) : Except Fault Entry := do
  let place ← tree.locate path
  match tree.entry? place with
  | some entry => .ok entry
  | none => .error .missing

/-- The content of the file that a path leads to. -/
def read (tree : Tree) (path : Path) : Except Fault Bytes := do
  match ← tree.find path with
  | .file content => .ok content
  | .folder => .error .isFolder

/-- The text in the file that a path leads to. -/
def readText (tree : Tree) (path : Path) : Except Fault String := do
  let content ← tree.read path
  match Text.decode? content with
  | some text => .ok text
  | none => .error .notText

/-- The path leads to a file or a folder. -/
def holds (tree : Tree) (path : Path) : Bool :=
  (tree.find path).toOption.isSome

/-! ## Changing a tree -/

/-- Makes the folders of the names that follow a folder, as far as nothing is in the way; tells
the place reached, or that something was. -/
def makeFolders (tree : Tree) : Place → List Name → Tree × Option Place
  | place, [] => (tree, some place)
  | place, name :: rest =>
    if name == aboveName then tree.makeFolders place.dropLast rest
    else if greatestName < name.length then (tree, none)
    else
      let place := place ++ [name]
      match tree.entry? place with
      | some .folder => tree.makeFolders place rest
      | some (.file _) => (tree, none)
      | none => (tree.put place .folder).makeFolders place rest

/-- The path names its folder by a dot at the end. -/
def endsWithDot (path : Path) : Bool :=
  ((cutAtSlashes path.bytes).filter (!·.isEmpty)).getLast? == some hereName

/-- Makes the folder that a path leads to, and the folders above it.  A folder named by a dot at
the end of the path is not made, only those above it.  What was made stays even if something
further on is in the way. -/
def makeFolder (tree : Tree) (path : Path) : Tree :=
  if path.bytes.contains 0 || pathLimit ≤ path.bytes.length then tree
  else
    let names := if endsWithDot path then path.names.dropLast else path.names
    (tree.makeFolders (tree.start path) names).1

/-- The tree with bytes put at the end of the file that a path leads to; the file is made if its
folder is there.  Nothing changes where there can be no file. -/
def append (tree : Tree) (path : Path) (bytes : Bytes) : Tree :=
  match tree.locate path with
  | .ok place =>
    match tree.entry? place with
    | some (.file content) => tree.put place (.file (content ++ bytes))
    | some .folder => tree
    | none => tree.put place (.file bytes)
  | .error _ => tree

/-- The tree with a file or folder at a path, the folders above it made too. -/
def plant (tree : Tree) (path : Path) (entry : Entry) : Tree :=
  match tree.makeFolders (tree.start path) path.names.dropLast, path.names.getLast? with
  | (tree, some place), some name => tree.put (place ++ [name]) entry
  | (tree, _), _ => tree

end Tree

end Files
end KnowledgeClient
