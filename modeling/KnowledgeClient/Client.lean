import KnowledgeClient.Config
import KnowledgeClient.Prompt
import KnowledgeClient.Service.Chat
import KnowledgeClient.Service.Document
import KnowledgeClient.Service.KnowledgeModel
import KnowledgeClient.Service.Listing
import KnowledgeClient.World

/-!
# The client

A client has a configuration and works with one knowledge model: a given one, or
the first that the service lists, found when it is first needed and kept from then
on.  Operations on documents and chats are about that model.  Every operation
either gives its result or one failure; what it did to the world before failing stays.
-/

namespace KnowledgeClient

/-- A client and the model it is bound to, if it is yet. -/
structure Client where
  config : Config
  bound : Option ModelId
deriving DecidableEq, Repr

/-- A client in a world. -/
structure Situation where
  client : Client
  world : World

/-- An operation of a client: it gives a result or fails, and changes the situation either way. -/
abbrev Operation (α : Type) := ExceptT Failure (StateM Situation) α

/-- The situation of health that a probe found. -/
structure Health where
  status : Http.Status
deriving DecidableEq, Repr

/-- The service is alive: it answered with a status that tells success. -/
def Health.isAlive (health : Health) : Bool :=
  health.status.isSuccess

/-- What became of the documents that were to be removed, in their order. -/
structure RemovalReport where
  removed : List String
  failed : List (String × Failure)
deriving DecidableEq, Repr

namespace RemovalReport

/-- The report before any document is removed. -/
def empty : RemovalReport := ⟨[], []⟩

/-- The report with what became of one more document, which came before the others. -/
def telling (report : RemovalReport) (document : String) : Except Failure Unit → RemovalReport
  | .ok () => { report with removed := document :: report.removed }
  | .error failure => { report with failed := (document, failure) :: report.failed }

/-- Every document was removed. -/
def isComplete (report : RemovalReport) : Bool :=
  report.failed.isEmpty

end RemovalReport

/-- What a chat is asked besides the user's message. -/
structure ChatOptions where
  systemContent : Option String
  systemName : String
  model : LanguageModel
  stream : Bool
deriving DecidableEq, Repr

/-- The options that are used unless others are given. -/
def ChatOptions.usual : ChatOptions :=
  ⟨none, Prompt.usualName, .usual, false⟩

namespace Operation

variable {α : Type}

/-- Runs an operation and gives its failure as a result. -/
def attempt (operation : Operation α) : Operation (Except Failure α) :=
  fun situation =>
    let (outcome, situation) := operation situation
    (.ok outcome, situation)

/-- Notes something. -/
def note (note : Note) : Operation Unit :=
  modify fun situation => { situation with world := situation.world.note note }

/-- Writes a record to the journal. -/
def record (level : Level) (category message : String) : Operation Unit :=
  note (.record ⟨level, category, message⟩)

/-- Says that an event of the client happened. -/
def tell (severity : Severity) (message : String) (values : List (String × EventValue)) :
    Operation Unit :=
  note (.ofClient severity message values)

/-- Sends a request to an address below the endpoint; without a payload it breaks off. -/
def sendAny (method : Http.Method) (path : String) (payload : Option Http.Payload) :
    Operation Http.Reply := do
  let situation ← get
  let config := situation.client.config
  let (outcome, world) := situation.world.send config.accessHeader method (config.url path) payload
  set { situation with world }
  match outcome with
  | .ok reply => return reply
  | .error fault => throw (.requestFailed fault)

/-- Sends a request with its payload to an address below the endpoint. -/
def send (method : Http.Method) (path : String) (payload : Http.Payload) : Operation Http.Reply :=
  sendAny method path (some payload)

/-- The text of a reply's body, which must have arrived to its end. -/
def bodyText (reply : Http.Reply) : Operation String :=
  match reply.text? with
  | some text => return text
  | none => throw (.requestFailed .cutOff)

/-- What a text reads as. -/
def parse (read : String → Except Json.Fault α) (text : String) : Operation α :=
  match read text with
  | .ok value => return value
  | .error fault => throw (.invalidPayload fault)

/-- What the body of a reply reads as, if its status tells success. -/
def readReply (read : String → Except Json.Fault α) (reply : Http.Reply) : Operation α := do
  let text ← bodyText reply
  if reply.status.isSuccess then parse read text
  else throw (.unexpectedStatus reply.status text)

end Operation

namespace Client

open Operation

/-! ## Addresses below the endpoint -/

/-- The address of the knowledge models. -/
def modelsPath : String := "knowledge-models"

/-- The address of the language models. -/
def languageModelsPath : String := "language_models"

/-- The address that tells whether the service is alive. -/
def alivePath : String := "alive"

/-- The address of a knowledge model's documents. -/
def documentsPath (model : ModelId) : String :=
  modelsPath ++ "/" ++ model ++ "/files"

/-- The address of a document. -/
def documentPath (model : ModelId) (document : String) : String :=
  documentsPath model ++ "/" ++ document

/-- The address of a knowledge model's chat. -/
def chatPath (model : ModelId) : String :=
  modelsPath ++ "/" ++ model ++ "/chat/completions"

/-! ## Opening a client -/

/-- A client that is bound to a model or not; its token must be usable. -/
def opened (config : Config) (bound : Option ModelId) : Except Failure Client :=
  if config.hasUsableToken then .ok ⟨config, bound⟩
  else .error (.configuration .tokenRefused)

/-! ## Operations that need no model -/

/-- The number of records in all as an event shows it, if the listing tells it. -/
def totalText : Option Int → String
  | some total => "Some(" ++ toString total ++ ")"
  | none => "None"

/-- The knowledge models that the service lists. -/
def listModels : Operation (List KnowledgeModel) := do
  let reply ← send .get modelsPath .nothing
  let listing ← readReply (Listing.read KnowledgeModel.schema.read) reply
  tell .debug "listed knowledge models"
    [("count", .number listing.results.length), ("total", .bare (totalText listing.total))]
  return listing.results

/-- Makes a new knowledge model. -/
def createModel (proposal : ModelProposal) : Operation KnowledgeModel := do
  let reply ← send .post modelsPath (.json (String.ofList proposal.jsonChars))
  readReply KnowledgeModel.read reply

/-- The language models that the service offers. -/
def listLanguageModels : Operation (List LanguageModelInfo) := do
  let reply ← send .get languageModelsPath .nothing
  let listing ← readReply (Listing.read LanguageModelInfo.schema.read) reply
  return listing.results

/-- Probes whether the service is alive; any answer will do. -/
def checkAlive : Operation Health := do
  let reply ← send .post alivePath .nothing
  tell .debug "alive probe" [("status", .bare reply.status.text)]
  return ⟨reply.status⟩

/-! ## The model that the client is bound to -/

/-- Binds the client to a model. -/
def bind (model : ModelId) : Operation Unit := do
  tell .info "resolved knowledge model" [("model_id", .bare model)]
  modify fun situation => { situation with client := { situation.client with bound := some model } }

/-- Binds the client to the first model that the service lists. -/
def bindFirst : Operation ModelId := do
  match ← listModels with
  | [] => throw .noModelAvailable
  | first :: _ =>
    bind first.id
    return first.id

/-- The model that the client is bound to: the first that the service lists, if it was not bound. -/
def resolve : Operation ModelId := do
  match (← get).client.bound with
  | some model => return model
  | none => bindFirst

/-- Resolves the model a number of times, one after the other. -/
def resolveMany : Nat → Operation (List (Except Failure ModelId))
  | 0 => return []
  | count + 1 => do
    let outcome ← attempt resolve
    let outcomes ← resolveMany count
    return outcome :: outcomes

/-! ## Documents -/

/-- The name that a file is uploaded under. -/
def uploadName (path : Files.Path) : String :=
  match path.fileName? with
  | some name => Text.decodeLossy name
  | none => "upload"

/-- The form that a file is uploaded in; a folder can be opened but gives no content. -/
def uploadPayload (platform : Platform) (path : Files.Path) : Files.Entry → Option Http.Payload
  | .file content =>
    some (.form ⟨"file", uploadName path, platform.mediaType path, content⟩)
  | .folder => none

/-- Uploads the file that a path leads to into a model. -/
def uploadInto (path : Files.Path) (model : ModelId) : Operation Document := do
  let world := (← get).world
  match world.files.find path with
  | .error reason => throw (.unreadable path reason)
  | .ok entry =>
    let reply ← sendAny .post (documentsPath model) (uploadPayload world.platform path entry)
    let text ← bodyText reply
    if reply.status = .ok then
      let document ← parse Document.read text
      tell .info "document uploaded"
        [("document_id", .bare document.id), ("file", .bare (uploadName path))]
      record .info "client.upload" (uploadName path ++ " -> " ++ document.id)
      return document
    else
      tell .warning "upload rejected"
        [("status", .bare reply.status.text), ("file", .bare (uploadName path))]
      record .error "client.upload" (uploadName path ++ " -> " ++ reply.status.text)
      throw (.uploadFailed reply.status text)

/-- Uploads the file that a path leads to. -/
def upload (path : Files.Path) : Operation Document := do
  let model ← resolve
  uploadInto path model

/-- The documents of a model. -/
def documentsOf (model : ModelId) : Operation (List Document) := do
  let reply ← send .get (documentsPath model) .nothing
  let listing ← readReply (Listing.read Document.schema.read) reply
  return listing.results

/-- The documents of the model. -/
def listDocuments : Operation (List Document) := do
  let model ← resolve
  documentsOf model

/-- Removes a document from a model. -/
def removeFrom (document : String) (model : ModelId) : Operation Unit := do
  let reply ← send .delete (documentPath model document) .nothing
  let about := [("status", EventValue.bare reply.status.text), ("document_id", .quoted document)]
  if reply.status.isSuccess then tell .debug "document removed" about
  else
    tell .warning "document removal failed" about
    record .error "client.remove" (document ++ " -> " ++ reply.status.text)
    throw (.deleteFailed document reply.status)

/-- Removes a document. -/
def removeDocument (document : String) : Operation Unit := do
  let model ← resolve
  removeFrom document model

/-- Removes documents one after the other, whatever becomes of each. -/
def removeEach (remove : String → Operation Unit) : List String → Operation RemovalReport
  | [] => return .empty
  | document :: documents => do
    let outcome ← attempt (remove document)
    let report ← removeEach remove documents
    return report.telling document outcome

/-- Says that removing documents one after the other is over, and hands on the report. -/
def announceRemoval (report : RemovalReport) : Operation RemovalReport := do
  tell .info "bulk document removal finished"
    [("removed", .number report.removed.length), ("failed", .number report.failed.length)]
  return report

/-- Removes all documents that the service lists. -/
def removeAllDocuments : Operation RemovalReport := do
  let documents ← listDocuments
  let report ← removeEach removeDocument (documents.map (·.id))
  announceRemoval report

/-! ## Chats -/

/-- The request of a chat that asks the user's message. -/
def chatRequest (content : String) (options : ChatOptions) : ChatRequest where
  model := options.model
  messages :=
    openingMessages content (options.systemContent.getD Prompt.usualText) options.systemName
  stream := options.stream

/-- Asks the chat of a model.  An answer with a status that tells failure is a failure or is
read like any other, as the policy says. -/
def askOf (content : String) (options : ChatOptions) (model : ModelId) :
    Operation ChatResponse := do
  let request := chatRequest content options
  let code := request.model.code
  let length := (Text.encode content).length
  tell .debug "sending chat completion" [("model", .bare code), ("prompt_len", .number length)]
  let reply ← send .post (chatPath model) (.json (String.ofList request.jsonChars))
  let text ← bodyText reply
  if reply.status.isSuccess then
    record .info "client.query" ("model=" ++ code ++ " prompt_len=" ++ toString length)
    parse ChatResponse.read text
  else
    record .error "client.query" ("model=" ++ code ++ " status=" ++ reply.status.text)
    match (← get).client.config.policy with
    | .requireSuccess => throw (.chatFailed reply.status text)
    | .acceptAny =>
      tell .warning "chat completion returned error status, passing body through"
        [("status", .bare reply.status.text)]
      parse ChatResponse.read text

/-- Asks the chat of the model. -/
def query (content : String) (options : ChatOptions) : Operation ChatResponse := do
  let model ← resolve
  askOf content options model

/-- Asks the chat of the model what the file that a path leads to holds. -/
def queryFile (path : Files.Path) (options : ChatOptions) : Operation ChatResponse := do
  match (← get).world.files.readText path with
  | .error reason => throw (.unreadable path reason)
  | .ok content => query content options

/-! ## Opening a client by making its model -/

/-- Makes a new knowledge model and says so. -/
def announceModel (proposal : ModelProposal) : Operation KnowledgeModel := do
  let model ← createModel proposal
  tell .info "knowledge model created" [("model_id", .bare model.id), ("name", .bare model.name)]
  return model

/-- A client bound to a model that it makes. -/
def openedByCreating (config : Config) (proposal : ModelProposal) (world : World) :
    Except Failure Client × World :=
  match opened config none with
  | .error failure => (.error failure, world)
  | .ok client =>
    match announceModel proposal ⟨client, world⟩ with
    | (.ok model, situation) => (.ok { client with bound := some model.id }, situation.world)
    | (.error failure, situation) => (.error failure, situation.world)

end Client

end KnowledgeClient
