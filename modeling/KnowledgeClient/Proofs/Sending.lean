import KnowledgeClient.Proofs.Operation

/-!
# Sending requests

A request is refused before it leaves, or it becomes exactly one exchange, with the
next answer that the network has.  Which of the two is decided by the address and
the payload alone: `World.target` tells it.  Every request that a client sends asks
for something; `Call` lists what there is to ask for, and `Config.address` where.
-/

namespace KnowledgeClient

/-! ## The answers of a network -/

namespace Http

/-- The answer that a network gives to the request at a position: a drop, if none is left. -/
def Network.answer (network : Network) (position : Nat) : Answer :=
  network.answers.getD position .dropped

/-- The answer that a network gives to the next request. -/
def Network.next (network : Network) : Answer :=
  network.answer 0

/-- The network after it gave an answer. -/
def Network.rest : Network → Network
  | .unreachable => .unreachable
  | .reachable answers => .reachable answers.tail

/-- The answers that a network gives to a number of requests. -/
def Network.upcoming (count : Nat) (network : Network) : List Answer :=
  (List.range count).map network.answer

@[simp] theorem Network.rest_answer
    (network : Network)
    (position : Nat) :
    network.rest.answer position = network.answer (position + 1) := by
  cases network with
  | unreachable => rfl
  | reachable answers => cases answers <;> rfl

@[simp] theorem Network.upcoming_zero (network : Network) :
    network.upcoming 0 = [] := rfl

@[simp] theorem Network.upcoming_succ
    (count : Nat)
    (network : Network) :
    network.upcoming (count + 1) = network.next :: network.rest.upcoming count := by
  have shifted : network.answer ∘ Nat.succ = network.rest.answer := by
    funext position
    exact (network.rest_answer position).symm
  simp [upcoming, List.range_succ_eq_map, next, shifted]

@[simp] theorem Network.length_upcoming
    (count : Nat)
    (network : Network) :
    (network.upcoming count).length = count := by
  simp [upcoming]

@[simp] theorem Network.rest_eq_unreachable_iff (network : Network) :
    network.rest = .unreachable ↔ network = .unreachable := by
  cases network <;> simp [rest]

/-- What a request sent to a URL gives when it is answered. -/
def Answer.outcome (url : Url) : Answer → Except TransportFault Reply
  | .reply given => .ok given
  | .dropped => .error (.dropped url.text)

/-- What an operation gets that sent a request to a URL. -/
def Answer.received (url : Url) : Answer → Except Failure Reply
  | .reply given => .ok given
  | .dropped => .error (.requestFailed (.dropped url.text))

end Http

/-! ## What becomes of a request -/

namespace World

/-- The URL that a request to an address goes out to, or why it does not go out. -/
def target
    (world : World)
    (address : String)
    (payload : Option Http.Payload) :
    Except TransportFault Http.Url :=
  match Http.Url.read address with
  | .error fault => .error (.badUrl fault)
  | .ok url =>
    match world.obstacle? url.withoutUser payload with
    | some fault => .error fault
    | none => .ok url.withoutUser

/-- The request that goes out to a URL. -/
def requestTo
    (access : Http.Header)
    (method : Http.Method)
    (url : Http.Url)
    (payload : Option Http.Payload) :
    Http.Request :=
  ⟨method, url.requestText, access, payload.getD .nothing⟩

/-- The world after a request got the next answer. -/
def answering (world : World) (request : Http.Request) : World :=
  world.record ⟨request, world.network.next⟩ world.network.answers.tail

/-- A request is refused and changes nothing, or it gets the next answer. -/
theorem send_eq
    (world : World)
    (access : Http.Header)
    (method : Http.Method)
    (address : String)
    (payload : Option Http.Payload) :
    world.send access method address payload =
      match world.target address payload with
      | .error fault => (.error fault, world)
      | .ok url =>
        (world.network.next.outcome url,
          world.answering (requestTo access method url payload)) := by
  unfold send target
  cases Http.Url.read address with
  | error fault => rfl
  | ok url =>
      cases obstacle : world.obstacle? url.withoutUser payload with
      | some fault => simp [obstacle]
      | none =>
          simp only [obstacle, requestTo, answering, Http.Network.next, Http.Network.answer]
          cases world.network.answers with
          | nil => rfl
          | cons answer further => cases answer <;> rfl

/-- Only whether the network can be reached at all bears on where a request goes. -/
theorem target_congr
    {first second : World}
    (same : first.network = .unreachable ↔ second.network = .unreachable)
    (address : String)
    (payload : Option Http.Payload) :
    first.target address payload = second.target address payload := by
  simp only [target, obstacle?, same]

/-- Where a request goes does not depend on what it carries. -/
theorem target_payload
    (world : World)
    (address : String)
    (first second : Http.Payload) :
    world.target address (some first) = world.target address (some second) := by
  simp only [target, obstacle?, Option.isNone_some]

/-- A request goes out to the URL that its address reads as, without the user. -/
theorem read_of_target_eq_ok
    {world : World}
    {address : String}
    {payload : Option Http.Payload}
    {url : Http.Url}
    (goes : world.target address payload = .ok url) :
    ∃ given, Http.Url.read address = .ok given ∧ url = given.withoutUser := by
  unfold target at goes
  cases reading : Http.Url.read address with
  | error fault => simp [reading] at goes
  | ok given =>
      refine ⟨given, rfl, ?_⟩
      cases obstacle : world.obstacle? given.withoutUser payload with
      | some fault => simp [reading, obstacle] at goes
      | none => simpa [reading, obstacle] using goes.symm

/-- A request goes out only where the network can be reached. -/
theorem reachable_of_target_eq_ok
    {world : World}
    {address : String}
    {payload : Option Http.Payload}
    {url : Http.Url}
    (goes : world.target address payload = .ok url) :
    world.network ≠ .unreachable := by
  intro unreachable
  obtain ⟨given, reading, rfl⟩ := read_of_target_eq_ok goes
  simp only [target, reading, obstacle?, unreachable] at goes
  split at goes
  · cases goes
  · rename_i obstacle
    split at obstacle
    · cases obstacle
    · split at obstacle <;> simp_all

/-- A request goes out where its address reads as a URL that can be sent to, the network
can be reached, and there is a payload. -/
theorem target_eq_ok
    {world : World}
    {address : String}
    {url : Http.Url}
    (reading : Http.Url.read address = .ok url)
    (isWeb : url.withoutUser.isWeb = true)
    (isAddress : url.withoutUser.isAddress = true)
    (reachable : world.network ≠ .unreachable)
    (payload : Http.Payload) :
    world.target address (some payload) = .ok url.withoutUser := by
  simp [target, reading, obstacle?, isWeb, isAddress, reachable]

@[simp] theorem answering_exchanges
    (world : World)
    (request : Http.Request) :
    (world.answering request).exchanges =
      world.exchanges ++ [⟨request, world.network.next⟩] := rfl

/-- A network that can be reached goes on to its next answers. -/
theorem answering_network
    {world : World}
    (reachable : world.network ≠ .unreachable)
    (request : Http.Request) :
    (world.answering request).network = world.network.rest := by
  cases network : world.network with
  | unreachable => exact absurd network reachable
  | reachable answers => simp [answering, record, network, Http.Network.answers, Http.Network.rest]

end World

/-! ## What requests ask for -/

/-- What a client asks the service for. -/
inductive Call
  | models
  | newModel
  | languageModels
  | probe
  | upload (model : ModelId)
  | documents (model : ModelId)
  | removal (model : ModelId) (document : String)
  | chat (model : ModelId)
deriving DecidableEq, Repr

namespace Call

/-- The method of the request. -/
def method : Call → Http.Method
  | .models | .languageModels | .documents _ => .get
  | .newModel | .probe | .upload _ | .chat _ => .post
  | .removal _ _ => .delete

/-- The path below the endpoint that the request goes to. -/
def path : Call → String
  | .models | .newModel => Client.modelsPath
  | .languageModels => Client.languageModelsPath
  | .probe => Client.alivePath
  | .upload model | .documents model => Client.documentsPath model
  | .removal model document => Client.documentPath model document
  | .chat model => Client.chatPath model

/-- The knowledge model that the path is built from, if it is built from any. -/
def model? : Call → Option ModelId
  | .models | .newModel | .languageModels | .probe => none
  | .upload model | .documents model | .removal model _ | .chat model => some model

/-- What stands below the endpoint in the address of the call, cut at its slashes where ids are
taken for one segment each. -/
def segments : Call → List (List Char)
  | .models | .newModel => ["knowledge-models".toList]
  | .languageModels => ["language_models".toList]
  | .probe => ["alive".toList]
  | .upload model | .documents model =>
    ["knowledge-models".toList, model.toList, "files".toList]
  | .removal model document =>
    ["knowledge-models".toList, model.toList, "files".toList, document.toList]
  | .chat model =>
    ["knowledge-models".toList, model.toList, "chat".toList, "completions".toList]

/-- The path of a call has a slash before each segment but the first. -/
theorem slash_path (call : Call) :
    '/' :: call.path.toList = call.segments.flatMap ('/' :: ·) := by
  cases call <;>
    simp [path, segments, Client.modelsPath, Client.languageModelsPath, Client.alivePath,
      Client.documentsPath, Client.documentPath, Client.chatPath]

/-- The path of a call does not begin with a slash. -/
theorem dropWhile_path (call : Call) :
    call.path.toList.dropWhile (· == '/') = call.path.toList := by
  cases call <;>
    simp [path, Client.modelsPath, Client.languageModelsPath, Client.alivePath,
      Client.documentsPath, Client.documentPath, Client.chatPath]

end Call

namespace Config

/-- The endpoint without the slashes at its end. -/
def base (config : Config) : List Char :=
  Text.dropWhileEnd (· == '/') config.endpoint.toList

/-- The address of a call: the endpoint without the slashes at its end, and then the segments of
the call with a slash before each. -/
def address (config : Config) (call : Call) : String :=
  String.ofList (config.base ++ call.segments.flatMap ('/' :: ·))

theorem url_eq_base_path
    (config : Config)
    (call : Call) :
    (config.url call.path).toList = config.base ++ '/' :: call.path.toList := by
  rw [url, join, String.toList_ofList, call.dropWhile_path]
  rfl

theorem url_eq_base_segments
    (config : Config)
    (call : Call) :
    (config.url call.path).toList = config.base ++ call.segments.flatMap ('/' :: ·) := by
  rw [url_eq_base_path, call.slash_path]

/-- What the path of a call is joined to the endpoint to is the address of the call. -/
@[simp] theorem url_path
    (config : Config)
    (call : Call) :
    config.url call.path = config.address call := by
  rw [address, ← url_eq_base_segments, String.ofList_toList]

end Config

/-- The request of the exchange is the one by which a client with the configuration
asks for something: its URL is the text of what the call's address reads as, and its header
carries the token. -/
def Http.Exchange.IsFor
    (exchange : Http.Exchange)
    (config : Config)
    (call : Call) : Prop :=
  ∃ url, Http.Url.read (config.address call) = .ok url ∧
    exchange.request.method = call.method ∧
    exchange.request.url = url.withoutUser.requestText ∧
    exchange.request.access = ⟨"x-km-accesskey", "Bearer " ++ config.token⟩

/-- A request that went out to the address of a call is one for that call. -/
theorem Http.Exchange.isFor_of_target
    {world : World}
    {config : Config}
    {call : Call}
    {payload : Option Http.Payload}
    {url : Http.Url}
    (goes : world.target (config.address call) payload = .ok url)
    (answer : Http.Answer) :
    Http.Exchange.IsFor
      ⟨World.requestTo config.accessHeader call.method url payload, answer⟩ config call := by
  obtain ⟨given, reading, rfl⟩ := World.read_of_target_eq_ok goes
  exact ⟨given, reading, rfl, rfl, rfl⟩

/-! ## Situations after a request -/

namespace Situation

/-- The situation after a request got the next answer. -/
def answering (situation : Situation) (request : Http.Request) : Situation :=
  { situation with world := situation.world.answering request }

/-- Where a request goes does not depend on what was noted. -/
@[simp] theorem noting_target
    (situation : Situation)
    (notes : List Note)
    (address : String)
    (payload : Option Http.Payload) :
    (situation.noting notes).world.target address payload =
      situation.world.target address payload :=
  World.target_congr (by rw [noting_network]) address payload

@[simp] theorem answering_world
    (situation : Situation)
    (request : Http.Request) :
    (situation.answering request).world = situation.world.answering request := rfl

end Situation

/-- Sending from an operation: a refusal is a failure that changes nothing, an answer
makes one exchange. -/
theorem Operation.sendAny_apply
    (method : Http.Method)
    (path : String)
    (payload : Option Http.Payload)
    (situation : Situation) :
    Operation.sendAny method path payload situation =
      match situation.world.target (situation.client.config.url path) payload with
      | .error fault => (.error (.requestFailed fault), situation)
      | .ok url =>
        (situation.world.network.next.received url,
          situation.answering
            (World.requestTo situation.client.config.accessHeader method url payload)) := by
  unfold Operation.sendAny
  rw [get_bind_apply]
  simp only [World.send_eq]
  cases situation.world.target (situation.client.config.url path) payload with
  | error fault => rfl
  | ok url => cases situation.world.network.next <;> rfl

/-- Sending the request of a call. -/
theorem Operation.sendAny_call
    (call : Call)
    (payload : Option Http.Payload)
    (situation : Situation) :
    Operation.sendAny call.method call.path payload situation =
      match situation.world.target (situation.client.config.address call) payload with
      | .error fault => (.error (.requestFailed fault), situation)
      | .ok url =>
        (situation.world.network.next.received url,
          situation.answering
            (World.requestTo situation.client.config.accessHeader call.method url payload)) := by
  rw [sendAny_apply, Config.url_path]

/-- Only a network that can be reached gives a reply. -/
theorem Operation.reachable_of_sendAny_eq_ok
    {method : Http.Method}
    {path : String}
    {payload : Option Http.Payload}
    {situation after : Situation}
    {given : Http.Reply}
    (sends : Operation.sendAny method path payload situation = (.ok given, after)) :
    after.world.network ≠ .unreachable := by
  rw [Operation.sendAny_apply] at sends
  cases goes : situation.world.target (situation.client.config.url path) payload with
  | error fault =>
      rw [goes] at sends
      cases sends
  | ok url =>
      have reachable := World.reachable_of_target_eq_ok goes
      rw [goes] at sends
      rw [← (Prod.mk.inj sends).2, Situation.answering_world, World.answering_network reachable,
        ne_eq, Http.Network.rest_eq_unreachable_iff]
      exact reachable

end KnowledgeClient
