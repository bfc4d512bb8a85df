import KnowledgeClient.Client
import KnowledgeClient.CommandLine.Scan

/-!
# Invocations

What a command line asks for.  Two options hold for all commands and may be given on
any level: which model to work with, where the innermost level wins, and whether to
keep the journal.
-/

namespace KnowledgeClient
namespace CommandLine

/-- Where the prompt of a chat comes from. -/
inductive PromptSource
  | text (content : String)
  | file (path : Files.Path)
deriving DecidableEq, Repr

/-- What a chat is asked on the command line. -/
structure QueryArguments where
  prompt : PromptSource
  systemFile : Option Files.Path
  model : LanguageModel
  stream : Bool
  acceptAnyStatus : Bool
  raw : Bool
deriving DecidableEq, Repr

/-- A command. -/
inductive Command
  | alive
  | models
  | languageModels
  | createModel (proposal : ModelProposal)
  | listDocuments
  | upload (paths : List Files.Path)
  | removeDocument (id : String)
  | clearDocuments
  | query (arguments : QueryArguments)
deriving DecidableEq, Repr

/-- A command with the options that hold for all commands. -/
structure Invocation where
  model : Option ModelId
  journal : Bool
  command : Command
deriving DecidableEq, Repr

/-- The paths of the files that an invocation may read. -/
def Invocation.paths (invocation : Invocation) : List Files.Path :=
  match invocation.command with
  | .upload paths => paths
  | .query arguments =>
    arguments.systemFile.toList ++
      match arguments.prompt with
      | .file path => [path]
      | .text _ => []
  | _ => []

/-! ## Levels -/

/-- An option that accepts any value. -/
def anyValue (name : String) : ValuedOption := ⟨name, fun _ => true⟩

/-- An option that accepts a path, which must not be empty. -/
def pathValue (name : String) : ValuedOption := ⟨name, fun value => !value.isEmpty⟩

/-- An option that accepts a word for whom a model is shared with. -/
def sharingValue (name : String) : ValuedOption :=
  ⟨name, fun value => (Sharing.ofRequest value).toOption.isSome⟩

/-- A level with options of its own besides those for all commands. -/
def levelWith (valued : List ValuedOption) (flags : List String) (operandLimit : Option Nat) :
    Level where
  valued := anyValue "model-id" :: valued
  flags := "journal" :: flags
  hasVersion := false
  commands := []
  operandLimit
  acceptsOperand := fun _ => true

/-- A level that leads to further ones. -/
def levelOf (commands : List (String × List String)) (hasVersion : Bool) : Level :=
  { levelWith [] [] (some 0) with commands, hasVersion }

/-- The commands on documents. -/
def documentsCommands : List String := ["list", "upload", "rm", "clear"]

/-- The first level. -/
def topLevel : Level :=
  levelOf
    [("alive", []), ("models", []), ("language-models", []), ("create-model", []),
      ("docs", documentsCommands), ("query", [])] true

/-- The level of commands on documents. -/
def documentsLevel : Level :=
  levelOf (documentsCommands.map (·, [])) false

/-- The level of a command without options of its own. -/
def bareLevel : Level := levelWith [] [] (some 0)

/-- The level of making a model. -/
def createModelLevel : Level :=
  levelWith [anyValue "name", anyValue "description", sharingValue "shared-type"] [] (some 0)

/-- The level of uploading files. -/
def uploadLevel : Level :=
  { levelWith [] [] none with acceptsOperand := fun word => !word.isEmpty }

/-- The level of removing a document. -/
def removeLevel : Level := levelWith [] [] (some 1)

/-- The level of a chat. -/
def queryLevel : Level :=
  levelWith
    [anyValue "prompt", pathValue "prompt-file", pathValue "system-file", anyValue "model"]
    ["stream", "accept-any-status", "raw"] (some 0)

/-! ## Reading -/

/-- The value of an option. -/
def Found.value? (found : Found) (name : String) : Option String :=
  found.values.lookup name

/-- The flag was given. -/
def Found.has (found : Found) (name : String) : Bool :=
  found.flags.contains name

/-- Scans a level that leads no further. -/
def scanLast (level : Level) (words : List String) : Except Halt Found := do
  let (found, _) ← level.scan .nothing words
  .ok found

/-- The invocation of a command found on the last of some levels, outermost first. -/
def invocation (levels : List Found) (command : Command) : Invocation where
  model := levels.reverse.findSome? (·.value? "model-id")
  journal := levels.any (·.has "journal")
  command

/-- The proposal that the options of making a model give. -/
def proposalOf (found : Found) : Except Halt ModelProposal := do
  let name ← orRefused (found.value? "name")
  let sharing ← orRefused (Sharing.ofRequest ((found.value? "shared-type").getD "private")).toOption
  .ok ⟨name, (found.value? "description").getD "", sharing⟩
where
  /-- A value that must be there. -/
  orRefused {α : Type} (value : Option α) : Except Halt α :=
    value.elim (.error .refused) .ok

/-- Where the prompt comes from: exactly one of a text and a file. -/
def promptOf (found : Found) : Except Halt PromptSource :=
  match found.value? "prompt", found.value? "prompt-file" with
  | some content, none => .ok (.text content)
  | none, some path => .ok (.file (.ofText path))
  | _, _ => .error .refused

/-- The chat that the options of a query give. -/
def queryOf (found : Found) : Except Halt QueryArguments := do
  let prompt ← promptOf found
  .ok
    { prompt
      systemFile := (found.value? "system-file").map .ofText
      model := ((found.value? "model").map LanguageModel.ofCode).getD .usual
      stream := found.has "stream"
      acceptAnyStatus := found.has "accept-any-status"
      raw := found.has "raw" }

/-- Reads the words after a command on documents. -/
def readDocuments (top documents : Found) (name : String) (words : List String) :
    Except Halt Invocation := do
  if name == "upload" then
    let found ← scanLast uploadLevel words
    if found.operands.isEmpty then .error .refused
    else .ok (invocation [top, documents, found] (.upload (found.operands.map .ofText)))
  else if name == "rm" then
    let found ← scanLast removeLevel words
    match found.operands with
    | [id] => .ok (invocation [top, documents, found] (.removeDocument id))
    | _ => .error .refused
  else
    let found ← scanLast bareLevel words
    .ok (invocation [top, documents, found]
      (if name == "clear" then .clearDocuments else .listDocuments))

/-- Reads the words after a command. -/
def readCommand (top : Found) (name : String) (words : List String) :
    Except Halt Invocation := do
  if name == "docs" then
    match ← documentsLevel.scan .nothing words with
    | (documents, some (name, words)) => readDocuments top documents name words
    | (_, none) => .error .refused
  else if name == "create-model" then
    let found ← scanLast createModelLevel words
    let proposal ← proposalOf found
    .ok (invocation [top, found] (.createModel proposal))
  else if name == "query" then
    let found ← scanLast queryLevel words
    let arguments ← queryOf found
    .ok (invocation [top, found] (.query arguments))
  else
    let found ← scanLast bareLevel words
    .ok (invocation [top, found]
      (if name == "alive" then .alive else if name == "models" then .models else .languageModels))

/-- Reads the words of a command line. -/
def Invocation.read (words : List String) : Except Halt Invocation := do
  match ← topLevel.scan .nothing words with
  | (top, some (name, words)) => readCommand top name words
  | (_, none) => .error .refused

end CommandLine
end KnowledgeClient
