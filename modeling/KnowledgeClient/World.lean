import KnowledgeClient.Failure
import KnowledgeClient.Http.Request
import KnowledgeClient.Http.Url
import KnowledgeClient.Journal

/-!
# The world of a run

What operations read and change besides the client: the platform, which never
changes, the network and the exchanges held over it so far, the files, the journal, the
time, and what was said so far.  A request is sent at most once.  Only a request that
reaches the service becomes an exchange, and only such a request uses up an answer.
-/

namespace KnowledgeClient

/-- What operations read and change besides the client. -/
structure World where
  platform : Platform
  network : Http.Network
  exchanges : List Http.Exchange
  files : Files.Tree
  journal : Journal
  time : String
  said : List Diagnostic

/-- What an operation notes: a record for the journal, or an event that it says. -/
inductive Note
  | record (record : JournalRecord)
  | event (event : Event)
deriving DecidableEq, Repr

/-- The note that an event of the client happened. -/
def Note.ofClient (severity : Severity) (message : String) (values : List (String × EventValue)) :
    Note :=
  .event ⟨severity, Event.clientOrigin, message, values⟩

namespace World

/-- The world after an exchange that leaves further answers. -/
def record (world : World) (exchange : Http.Exchange) (further : List Http.Answer) : World :=
  { world with
    network := .reachable further
    exchanges := world.exchanges ++ [exchange] }

/-- Holds one exchange: the next answer is taken, or the connection is dropped. -/
def exchange (world : World) (request : Http.Request) :
    List Http.Answer → Option Http.Reply × World
  | .reply reply :: further => (some reply, world.record ⟨request, .reply reply⟩ further)
  | .dropped :: further => (none, world.record ⟨request, .dropped⟩ further)
  | [] => (none, world.record ⟨request, .dropped⟩ [])

/-- Why a request to a URL is not sent, if it is not: the scheme is none of the web, no request
can be sent to the URL, the network is out of reach, or there is no payload because a file could
not be read. -/
def obstacle? (world : World) (url : Http.Url) (payload : Option Http.Payload) :
    Option TransportFault :=
  if !url.isWeb then some (.badScheme url.text)
  else if !url.isAddress then some (.badAddress url.text)
  else if world.network = .unreachable then some (.unreachable url.text)
  else if payload.isNone then some (.bodyUnreadable url.text)
  else none

/-- Sends a request to an address. -/
def send (world : World) (access : Http.Header) (method : Http.Method) (address : String)
    (payload : Option Http.Payload) : Except TransportFault Http.Reply × World :=
  match Http.Url.read address with
  | .error fault => (.error (.badUrl fault), world)
  | .ok url =>
    let url := url.withoutUser
    match world.obstacle? url payload with
    | some fault => (.error fault, world)
    | none =>
      let request : Http.Request :=
        ⟨method, url.requestText, access, payload.getD .nothing⟩
      match world.exchange request world.network.answers with
      | (some reply, world) => (.ok reply, world)
      | (none, world) => (.error (.dropped url.text), world)

/-- The world after some things are said. -/
def say (world : World) (diagnostics : List Diagnostic) : World :=
  { world with said := world.said ++ diagnostics }

/-- The world after something is noted.  Where a record cannot be written, that is said. -/
def note (world : World) : Note → World
  | .record record =>
    { world.say ((world.journal.loss? world.files).map .event).toList with
      files := world.journal.write world.time record world.files }
  | .event event => world.say [.event event]

/-- The world before anything is said in it. -/
def hushed (world : World) : World :=
  { world with said := [] }

/-- What is shown of all that was said, to whoever gave a directive or gave none. -/
def complaints (world : World) (directive : Option String) : String :=
  String.join (world.said.map (world.platform.shown directive world.time))

end World

end KnowledgeClient
