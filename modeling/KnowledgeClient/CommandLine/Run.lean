import KnowledgeClient.CommandLine.Invocation

/-!
# Running an invocation

A run prints lines on one channel, says what it does on another, and ends well or with
one error.  The error is printed last on the channel of what is said, with what it was
doing when it failed and what that came from.  The words of a command line are texts: a
path that is no text cannot be given.
-/

namespace KnowledgeClient
namespace CommandLine

/-- What a run is ended by: what it was doing, and what failed, nearest first. -/
structure RunError where
  message : String
  causes : List String
deriving DecidableEq, Repr

/-- What a run prints, line by line, and the error that ends it, if any. -/
structure Report where
  printed : List String
  error : Option RunError
deriving DecidableEq, Repr

/-- What a run leaves on its two channels, and its exit code. -/
structure Output where
  exitCode : Nat
  stdout : String
  stderr : String
deriving DecidableEq, Repr

namespace RunError

/-- The error of a failure met while doing something. -/
def ofFailure (doing : String) (failure : Failure) : RunError :=
  ⟨doing, failure.message :: failure.causes⟩

/-- A text with its line ends followed by blanks. -/
def indented (blanks : String) (text : String) : String :=
  String.ofList (text.toList.flatMap fun c => if c == '\n' then '\n' :: blanks.toList else [c])

/-- A number that ends five places from the left. -/
def place (number : Nat) : String :=
  let digits := toString number
  String.ofList (List.replicate (5 - digits.length) ' ') ++ digits

/-- The line of a cause among several. -/
def numberedCause (number : Nat) (cause : String) : String :=
  "\n" ++ place number ++ ": " ++ indented "       " cause

/-- The lines that tell what an error comes from: a single cause bare, several with numbers. -/
def causeText : List String → String
  | [] => ""
  | [cause] => "\n\nCaused by:\n    " ++ indented "    " cause
  | causes => "\n\nCaused by:" ++ String.join (causes.mapIdx numberedCause)

/-- An error as it is printed. -/
def text (error : RunError) : String :=
  "Error: " ++ error.message ++ causeText error.causes ++ "\n"

end RunError

namespace Report

/-- A run that prints lines and ends well. -/
def lines (printed : List String) : Report := ⟨printed, none⟩

/-- A run that prints nothing and ends with an error. -/
def failed (error : RunError) : Report := ⟨[], some error⟩

/-- Lines as they are printed. -/
def joined (lines : List String) : String :=
  String.join (lines.map (· ++ "\n"))

/-- What a run leaves on its channels, where some complaints were shown before its error. -/
def output (report : Report) (complaints : String) : Output where
  exitCode := if report.error.isSome then 1 else 0
  stdout := joined report.printed
  stderr := complaints ++ (report.error.map RunError.text).getD ""

end Report

variable {α : Type}

/-- The report on what an operation gave, told as doing something if it failed. -/
def reportOn (doing : String) (report : α → Report) :
    Except Failure α × Situation → Report × World
  | (.ok value, situation) => (report value, situation.world)
  | (.error failure, situation) => (.failed (.ofFailure doing failure), situation.world)

/-- The line of a probe. -/
def healthLine (health : Health) : String :=
  (if health.isAlive then "alive" else "not alive") ++ " (" ++ health.status.text ++ ")"

/-- The line of a knowledge model. -/
def modelLine (model : KnowledgeModel) : String :=
  model.id ++ "\t" ++ model.name ++ "\t" ++ model.description.getD ""

/-- The lines of knowledge models. -/
def modelLines (models : List KnowledgeModel) : List String :=
  if models.isEmpty then ["No knowledge model available"] else models.map modelLine

/-- The line of a language model. -/
def languageModelLine (model : LanguageModelInfo) : String :=
  model.code ++ "\t" ++ model.name ++ "\t" ++ ((model.hostedBy.map (·.name)).getD "")

/-- The line of a document. -/
def documentLine (document : Document) : String :=
  document.filename ++ ", " ++ String.ofList (Json.flagChars document.inUse) ++ ", " ++
    document.indexingStatus.word ++ ", " ++ document.id

/-- The text of a chat's response: its contents, or the whole of it if asked for or if it has
none. -/
def responseText (raw : Bool) (response : ChatResponse) : String :=
  if raw || response.contents.isEmpty then response.value.indented
  else "\n".intercalate response.contents

/-! ## Commands -/

/-- What uploading files leaves: a line for each that was uploaded, and how many were not. -/
structure UploadTally where
  printed : List String
  failures : Nat
deriving DecidableEq, Repr

/-- The line of a file that was uploaded. -/
def uploadedLine (path : Files.Path) (document : Document) : String :=
  "Uploaded " ++ path.display ++ " -> id=" ++ document.id

/-- The line of a file that was not uploaded. -/
def uploadFailedLine (path : Files.Path) (failure : Failure) : String :=
  "Failed to upload " ++ path.display ++ ": " ++ failure.message

/-- Uploads files one after the other, whatever becomes of each; each leaves one line. -/
def uploadEach : List Files.Path → Situation → UploadTally × Situation
  | [], situation => (⟨[], 0⟩, situation)
  | path :: paths, situation =>
    match Client.upload path situation with
    | (.ok document, situation) =>
      let (tally, situation) := uploadEach paths situation
      ({ tally with printed := uploadedLine path document :: tally.printed }, situation)
    | (.error failure, situation) =>
      let world := situation.world.say [.line (uploadFailedLine path failure)]
      let (tally, situation) := uploadEach paths { situation with world }
      ({ tally with failures := tally.failures + 1 }, situation)

/-- Uploads files and tells how many of them failed, if any did. -/
def runUpload (paths : List Files.Path) (situation : Situation) : Report × World :=
  let (tally, situation) := uploadEach paths situation
  let message := toString tally.failures ++ " of " ++ toString paths.length ++ " uploads failed"
  (⟨tally.printed, if tally.failures = 0 then none else some ⟨message, []⟩⟩, situation.world)

/-- Removes a document; a refusal of the service is told but is no error. -/
def runRemove (id : String) (situation : Situation) : Report × World :=
  match Client.removeDocument id situation with
  | (.ok (), situation) => (.lines ["Removed " ++ id], situation.world)
  | (.error failure, situation) =>
    if failure.isNonFatal then (.lines [], situation.world.say [.line failure.message])
    else (.failed (.ofFailure "remove document failed" failure), situation.world)

/-- The line of a document that was not removed. -/
def removalFailedLine (id : String) (failure : Failure) : String :=
  "Failed to remove " ++ id ++ ": " ++ failure.message

/-- The event that a removal of all documents is over. -/
def clearedEvent (report : RemovalReport) : Event :=
  ⟨.info, Event.commandOrigin, "clear finished",
    [("removed", .number report.removed.length), ("failed", .number report.failed.length)]⟩

/-- Removes all documents and tells what became of each. -/
def runClear (situation : Situation) : Report × World :=
  match Client.removeAllDocuments situation with
  | (.ok report, situation) =>
    let lines := report.failed.map fun (id, failure) =>
      Diagnostic.line (removalFailedLine id failure)
    (.lines (report.removed.map ("Removed " ++ ·)),
      situation.world.say (lines ++ [.event (clearedEvent report)]))
  | (.error failure, situation) =>
    (.failed (.ofFailure "list documents failed" failure), situation.world)

/-- Asks a chat, after the file of the system's message is read. -/
def runQuery (arguments : QueryArguments) (situation : Situation) : Report × World :=
  let systemContent :=
    arguments.systemFile.mapM (Prompt.load situation.world.files)
  match systemContent with
  | .error fault =>
    (.failed ⟨"load system prompt failed", fault.message :: fault.causes⟩, situation.world)
  | .ok systemContent =>
    let options : ChatOptions :=
      { ChatOptions.usual with
        systemContent, model := arguments.model, stream := arguments.stream }
    let operation :=
      match arguments.prompt with
      | .text content => Client.query content options
      | .file path => Client.queryFile path options
    reportOn "chat completion failed"
      (fun response => .lines [responseText arguments.raw response]) (operation situation)

/-- Runs a command that works with an open client. -/
def runOpen (command : Command) (situation : Situation) : Report × World :=
  match command with
  | .alive =>
    reportOn "alive probe failed" (fun health => .lines [healthLine health])
      (Client.checkAlive situation)
  | .models =>
    reportOn "list knowledge models failed" (fun models => .lines (modelLines models))
      (Client.listModels situation)
  | .languageModels =>
    reportOn "list language models failed"
      (fun models => .lines (models.map languageModelLine)) (Client.listLanguageModels situation)
  | .createModel _ => (.lines [], situation.world)
  | .listDocuments =>
    reportOn "list documents failed" (fun documents => .lines (documents.map documentLine))
      (Client.listDocuments situation)
  | .upload paths => runUpload paths situation
  | .removeDocument id => runRemove id situation
  | .clearDocuments => runClear situation
  | .query arguments => runQuery arguments situation

/-- The configuration that a command works with: a chat may let any status pass. -/
def commandConfig (config : Config) : Command → Config
  | .query arguments =>
    if arguments.acceptAnyStatus then { config with policy := .acceptAny } else config
  | _ => config

/-- Makes a model and tells its id. -/
def runCreateModel (config : Config) (proposal : ModelProposal) (world : World) :
    Report × World :=
  match Client.openedByCreating config proposal world with
  | (.ok client, world) =>
    (.lines (client.bound.toList.map ("Created knowledge model id=" ++ ·)), world)
  | (.error failure, world) =>
    (.failed (.ofFailure "create knowledge model failed" failure), world)

/-- Runs a command with a configuration. -/
def runCommand (config : Config) (invocation : Invocation) (world : World) : Report × World :=
  match invocation.command with
  | .createModel proposal => runCreateModel config proposal world
  | command =>
    match Client.opened (commandConfig config command) invocation.model with
    | .error failure => (.failed (.ofFailure "build client failed" failure), world)
    | .ok client => runOpen command ⟨client, world⟩

/-- The variable that holds the directive which tells what events to show. -/
def directiveVariable : String := "RUST_LOG"

/-- Runs an invocation, before which nothing was said: the journal is switched, then the
configuration is taken from the environment. -/
def runInvocation (invocation : Invocation) (environment : Environment) (world : World) :
    Report × World :=
  let world := { world.hushed with journal := { world.journal with enabled := invocation.journal } }
  match Config.ofEnvironment environment with
  | .error failure => (.failed (.ofFailure "load configuration failed" failure), world)
  | .ok config => runCommand config invocation world

/-- The line that tells the version. -/
def versionLine : String := "kmforge 0.1.0"

/-- What is left where a command line asks for nothing to be run. -/
def Halt.output : Halt → Output
  | .refused => ⟨2, "", ""⟩
  | .help => ⟨0, "", ""⟩
  | .version => ⟨0, versionLine ++ "\n", ""⟩

/-- Runs a command line. -/
def run (words : List String) (environment : Environment) (world : World) : Output × World :=
  match Invocation.read words with
  | .error halt => (halt.output, world)
  | .ok invocation =>
    let (report, world) := runInvocation invocation environment world
    (report.output (world.complaints (environment.text? directiveVariable)), world)

end CommandLine
end KnowledgeClient
