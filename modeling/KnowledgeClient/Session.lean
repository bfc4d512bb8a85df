import KnowledgeClient.Client

/-!
# Sessions

A session is a run of steps with at most one client at a time.  A step opens a
client, acts with the client that is open, or is about the journal.  An opening
that fails leaves the client that was open.
-/

namespace KnowledgeClient

/-- What a client can be asked to do. -/
inductive Action
  | resolve
  | resolveMany (count : Nat)
  | checkAlive
  | listModels
  | createModel (proposal : ModelProposal)
  | listLanguageModels
  | upload (path : Files.Path)
  | listDocuments
  | removeDocument (id : String)
  | removeAllDocuments
  | query (content : String) (options : ChatOptions)
  | queryFile (path : Files.Path) (options : ChatOptions)
deriving DecidableEq, Repr

/-- What an action gives. -/
inductive Outcome
  | done
  | model (id : ModelId)
  | models (ids : List (Except Failure ModelId))
  | health (health : Health)
  | knowledgeModel (model : KnowledgeModel)
  | knowledgeModels (models : List KnowledgeModel)
  | languageModels (models : List LanguageModelInfo)
  | document (document : Document)
  | documents (documents : List Document)
  | removal (report : RemovalReport)
  | chat (response : ChatResponse)

/-- The operation of an action. -/
def Action.operation : Action → Operation Outcome
  | .resolve => Outcome.model <$> Client.resolve
  | .resolveMany count => Outcome.models <$> Client.resolveMany count
  | .checkAlive => Outcome.health <$> Client.checkAlive
  | .listModels => Outcome.knowledgeModels <$> Client.listModels
  | .createModel proposal => Outcome.knowledgeModel <$> Client.createModel proposal
  | .listLanguageModels => Outcome.languageModels <$> Client.listLanguageModels
  | .upload path => Outcome.document <$> Client.upload path
  | .listDocuments => Outcome.documents <$> Client.listDocuments
  | .removeDocument id => (fun _ => Outcome.done) <$> Client.removeDocument id
  | .removeAllDocuments => Outcome.removal <$> Client.removeAllDocuments
  | .query content options => Outcome.chat <$> Client.query content options
  | .queryFile path options => Outcome.chat <$> Client.queryFile path options

/-- How a client is opened. -/
inductive Opening
  | unbound
  | bound (model : ModelId)
  | creating (proposal : ModelProposal)
deriving DecidableEq, Repr

/-- Opens a client. -/
def Opening.client (opening : Opening) (config : Config) (world : World) :
    Except Failure Client × World :=
  match opening with
  | .unbound => (Client.opened config none, world)
  | .bound model => (Client.opened config (some model), world)
  | .creating proposal => Client.openedByCreating config proposal world

/-- A step of a session. -/
inductive Step
  | opening (opening : Opening)
  | showConfig
  | action (action : Action)
  | switchJournal (on : Bool)
  | readJournal
deriving DecidableEq, Repr

/-- What a step gives. -/
inductive StepResult
  | opened (model : Option ModelId)
  | failed (failure : Failure)
  | noClient
  | config (config : Config)
  | outcome (outcome : Outcome)
  | journalSwitched (on : Bool)
  | journal (text : Option String)

/-- The state of a session: the configuration of its clients, the client that is open and the
world. -/
structure Session where
  config : Config
  client : Option Client
  world : World

namespace Session

/-- The model that the open client is bound to. -/
def boundModel? (session : Session) : Option ModelId :=
  session.client.bind Client.bound

/-- Takes a step. -/
def step (session : Session) : Step → StepResult × Session
  | .opening opening =>
    match opening.client session.config session.world with
    | (.ok client, world) =>
      (.opened client.bound, { session with client := some client, world })
    | (.error failure, world) => (.failed failure, { session with world })
  | .showConfig =>
    match session.client with
    | some client => (.config client.config, session)
    | none => (.noClient, session)
  | .action action =>
    match session.client with
    | some client =>
      let (result, situation) := action.operation ⟨client, session.world⟩
      let session := { session with client := some situation.client, world := situation.world }
      match result with
      | .ok outcome => (.outcome outcome, session)
      | .error failure => (.failed failure, session)
    | none => (.noClient, session)
  | .switchJournal on =>
    (.journalSwitched on,
      { session with
        world := { session.world with journal := { session.world.journal with enabled := on } } })
  | .readJournal => (.journal (session.world.journal.read? session.world.files), session)

end Session

end KnowledgeClient
