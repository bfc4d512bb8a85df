import KnowledgeClient.CommandLine.Run

/-!
# The program

The outer layer of the command line: it gathers the environment and the files that
the words name, runs the words, prints what the run left, and stores the journal.
It has no connection to any network, so that every request fails as out of reach.
-/

namespace KnowledgeClient
namespace CommandLine

/-- The variables of the environment that are looked at. -/
def readEnvironment : IO Environment :=
  let names :=
    [Config.tokenVariable, Config.endpointVariable, Config.acceptAnyVariable, directiveVariable]
  names.filterMapM fun name => do
    return (← IO.getEnv name).map fun value => (name, Text.encode value)

/-- The code of the error that a folder is no file. -/
def isFolderCode : UInt32 := 21

/-- What stands at a path, if anything does. -/
def readEntry (path : Files.Path) : IO (Option Files.Entry) := do
  try
    let content ← IO.FS.readBinFile path.display
    return some (.file content.toList)
  catch
    | .inappropriateType _ code _ => return if code == isFolderCode then some .folder else none
    | _ => return none

/-- The paths that lead to the folders on the way of a path, and the path itself. -/
def pathsTo (path : Files.Path) : List Files.Path :=
  let start : Files.Path := ⟨if path.isAbsolute then [Files.slash] else []⟩
  (List.range path.names.length).map fun depth =>
    (path.names.take (depth + 1)).foldl Files.Path.join start

/-- The tree with what stands at the paths and on the way to them. -/
def readFiles (tree : Files.Tree) (paths : List Files.Path) : IO Files.Tree :=
  (paths.flatMap pathsTo).foldlM (fun tree path => do
    match ← readEntry path with
    | some entry => return tree.plant path entry
    | none => return tree) tree

/-- The world of a run: nothing is within reach over the network. -/
def readWorld (words : List String) : IO World := do
  let journal := Journal.initial
  let named := ((Invocation.read words).toOption.map Invocation.paths).getD []
  let here := (← IO.currentDir).toString
  let files ← readFiles (.empty (Files.Path.ofText here).names) (journal.file :: named)
  return ⟨.plain, .unreachable, [], files, journal, "", []⟩

/-- Stores the journal, if the run put records into it. -/
def storeJournal (before after : World) : IO Unit := do
  let text := after.journal.read? after.files
  if text != before.journal.read? before.files then
    IO.FS.createDirAll after.journal.folder.display
    IO.FS.writeFile after.journal.file.display (text.getD "")

end CommandLine
end KnowledgeClient

open KnowledgeClient CommandLine in
/-- Runs the words of the command line. -/
def main (words : List String) : IO UInt32 := do
  let environment ← readEnvironment
  let before ← readWorld words
  let (output, after) := run words environment before
  storeJournal before after
  IO.print output.stdout
  IO.eprint output.stderr
  return output.exitCode.toUInt32
