import KnowledgeClient.Proofs.Lockstep
import KnowledgeClient.Proofs.Turn

/-!
# Runs of clients that are configured otherwise

A disguise gives every client another configuration with the same endpoint, and shows
every exchange as the one that the disguised client would have held.  Whatever runs
without asking a chat runs the same in disguise: it gives the same, and what it leaves
is what it would have left, in the same disguise.  So does a chat, if the disguise
keeps the policy.
-/

namespace KnowledgeClient

/-- Another configuration with the same endpoint for every client, and the exchanges
that its requests become. -/
structure Disguise where
  config : Config → Config
  exchange : Http.Exchange → Http.Exchange
  endpoint_eq : ∀ given, (config given).endpoint = given.endpoint
  exchange_eq : ∀ given method url payload answer,
    exchange ⟨World.requestTo given.accessHeader method url payload, answer⟩ =
      ⟨World.requestTo (config given).accessHeader method url payload, answer⟩

/-- The step asks a chat. -/
def Step.isChat : Step → Bool
  | .action taken => taken.isChat
  | _ => false

/-- The turn asks a chat. -/
def Turn.isChat (turn : Turn) : Bool :=
  turn.step.isChat

/-- No step changes the configuration of its session. -/
theorem Session.step_config
    (session : Session)
    (step : Step) :
    (session.step step).2.config = session.config := by
  cases step with
  | opening opening =>
      simp only [Session.step]
      rcases opening.client session.config session.world with ⟨failure | client, after⟩ <;> rfl
  | showConfig =>
      simp only [Session.step]
      cases session.client <;> rfl
  | action action =>
      simp only [Session.step]
      cases session.client with
      | none => rfl
      | some client =>
          rcases ran : action.operation ⟨client, session.world⟩ with ⟨failure | outcome, after⟩ <;>
            simp only [ran]
  | switchJournal on => rfl
  | readJournal => rfl

namespace Disguise

/-- The client with its configuration in disguise. -/
def client (disguise : Disguise) (given : Client) : Client :=
  { given with config := disguise.config given.config }

/-- The world with its exchanges in disguise. -/
def world (disguise : Disguise) (given : World) : World :=
  { given with exchanges := given.exchanges.map disguise.exchange }

/-- The situation with its client and its world in disguise. -/
def situation (disguise : Disguise) (given : Situation) : Situation :=
  ⟨disguise.client given.client, disguise.world given.world⟩

/-- The session with its configuration, its client and its world in disguise. -/
def session (disguise : Disguise) (given : Session) : Session where
  config := disguise.config given.config
  client := given.client.map disguise.client
  world := disguise.world given.world

/-- The result of a step, where a configuration that is shown is in disguise. -/
def result (disguise : Disguise) : StepResult → StepResult
  | .config given => .config (disguise.config given)
  | other => other

/-- What is seen of a turn, with a configuration that is shown and the exchanges in disguise. -/
def observation (disguise : Disguise) (given : Observation) : Observation :=
  { given with
    result := disguise.result given.result
    exchanges := given.exchanges.map disguise.exchange }

/-- The disguise keeps the policy of every configuration. -/
def KeepsPolicy (disguise : Disguise) : Prop :=
  ∀ given, (disguise.config given).policy = given.policy

/-- The disguised configuration has a token that can be used exactly if the given one has. -/
def KeepsUsable (disguise : Disguise) (given : Config) : Prop :=
  (disguise.config given).hasUsableToken = given.hasUsableToken

variable {α β : Type} (disguise : Disguise)

@[simp] theorem client_config (given : Client) :
    (disguise.client given).config = disguise.config given.config := rfl

@[simp] theorem situation_client (given : Situation) :
    (disguise.situation given).client = disguise.client given.client := rfl

@[simp] theorem situation_world (given : Situation) :
    (disguise.situation given).world = disguise.world given.world := rfl

@[simp] theorem world_network (given : World) :
    (disguise.world given).network = given.network := rfl

@[simp] theorem world_exchanges (given : World) :
    (disguise.world given).exchanges = given.exchanges.map disguise.exchange := rfl

/-! ## Operations -/

@[simp] theorem url_config
    (given : Config)
    (path : String) :
    (disguise.config given).url path = given.url path := by
  unfold Config.url
  rw [disguise.endpoint_eq]

@[simp] theorem address_config
    (given : Config)
    (call : Call) :
    (disguise.config given).address call = given.address call := by
  rw [← Config.url_path, url_config, Config.url_path]

theorem situation_answering
    (given : Situation)
    (method : Http.Method)
    (url : Http.Url)
    (payload : Option Http.Payload) :
    (disguise.situation given).answering
        (World.requestTo (disguise.config given.client.config).accessHeader method url payload) =
      disguise.situation (given.answering
        (World.requestTo given.client.config.accessHeader method url payload)) := by
  have shown := disguise.exchange_eq given.client.config method url payload
    given.world.network.next
  simp only [situation, Situation.answering, World.answering, World.record, world, List.map_append,
    List.map_singleton, shown]

/-- A request in disguise meets the same, and leaves the same in disguise. -/
theorem sendAny_situation
    (method : Http.Method)
    (path : String)
    (payload : Option Http.Payload)
    (given : Situation) :
    Operation.sendAny method path payload (disguise.situation given) =
      ((Operation.sendAny method path payload given).1,
        disguise.situation (Operation.sendAny method path payload given).2) := by
  have target : ∀ address, (disguise.world given.world).target address payload =
      given.world.target address payload :=
    fun address => World.target_congr (by rw [world_network]) address payload
  rw [Operation.sendAny_apply, Operation.sendAny_apply]
  simp only [situation_client, situation_world, client_config, url_config, target, world_network]
  cases given.world.target (given.client.config.url path) payload with
  | error fault => rfl
  | ok url =>
      simp only [situation_answering]

/-- Being in disguise is carried along by everything that an operation does. -/
theorem shared : Operation.Shared fun one other => other = disguise.situation one where
  sendAny method path payload := by
    rintro given _ rfl
    simp only [sendAny_situation, and_self]
  note noted := by
    rintro given _ rfl
    rw [Operation.note_apply, Operation.note_apply]
    cases noted <;> exact ⟨rfl, rfl⟩
  platform_eq := by
    rintro given _ rfl
    rfl
  withBound := by
    rintro given _ model rfl
    rfl
  bound_eq := by
    rintro given _ rfl
    rfl

/-- Nothing is found otherwise in disguise. -/
theorem findsAlike (path : Files.Path) :
    Operation.FindsAlike (fun one other => other = disguise.situation one) path := by
  rintro given _ rfl
  rfl

variable {disguise} in
/-- An operation that agrees with itself in disguise gives the same, and leaves the same
in disguise. -/
theorem apply_situation
    {operation : Operation α}
    (agree : Operation.Agree (fun one other => other = disguise.situation one)
      operation operation)
    (given : Situation) :
    operation (disguise.situation given) =
      ((operation given).1, disguise.situation (operation given).2) := by
  obtain ⟨result, left⟩ := agree given (disguise.situation given) rfl
  exact Prod.ext result.symm left

/-- An action is the same in disguise; an action that asks a chat, if the policy is kept. -/
theorem operation_situation
    (action : Action)
    (keeps : action.isChat = true → disguise.KeepsPolicy)
    (given : Situation) :
    action.operation (disguise.situation given) =
      ((action.operation given).1, disguise.situation (action.operation given).2) := by
  have found : ∀ path ∈ action.paths, Operation.FindsAlike _ path :=
    fun path _ => disguise.findsAlike path
  refine apply_situation (action.operation_agree disguise.shared found fun isChat => ?_) given
  rintro one _ rfl
  exact (keeps isChat one.client.config).symm

/-! ## Openings -/

variable {disguise} in
/-- A client is opened in disguise as it is opened without. -/
theorem opened_config
    {given : Config}
    (usable : disguise.KeepsUsable given)
    (bound : Option ModelId) :
    Client.opened (disguise.config given) bound =
      (Client.opened given bound).map disguise.client := by
  unfold Client.opened
  rw [usable]
  cases given.hasUsableToken <;> rfl

variable {disguise} in
theorem openedByCreating_config
    {given : Config}
    (usable : disguise.KeepsUsable given)
    (proposal : ModelProposal)
    (before : World) :
    Client.openedByCreating (disguise.config given) proposal (disguise.world before) =
      ((Client.openedByCreating given proposal before).1.map disguise.client,
        disguise.world (Client.openedByCreating given proposal before).2) := by
  unfold Client.openedByCreating
  rw [opened_config usable]
  cases Client.opened given none with
  | error failure => rfl
  | ok client =>
      have announced := apply_situation
        (Client.announceModel_agree disguise.shared.toCarried proposal) ⟨client, before⟩
      have inDisguise : disguise.situation ⟨client, before⟩ =
          ⟨disguise.client client, disguise.world before⟩ := rfl
      simp only [Except.map, ← inDisguise, announced]
      rcases Client.announceModel proposal ⟨client, before⟩ with ⟨failure | model, after⟩ <;> rfl

variable {disguise} in
theorem client_opening
    {given : Config}
    (usable : disguise.KeepsUsable given)
    (opening : Opening)
    (before : World) :
    opening.client (disguise.config given) (disguise.world before) =
      ((opening.client given before).1.map disguise.client,
        disguise.world (opening.client given before).2) := by
  cases opening with
  | unbound => exact Prod.ext (opened_config usable none) rfl
  | bound model => exact Prod.ext (opened_config usable (some model)) rfl
  | creating proposal => exact openedByCreating_config usable proposal before

/-! ## Sessions -/

@[simp] theorem session_config (given : Session) :
    (disguise.session given).config = disguise.config given.config := rfl

@[simp] theorem session_client (given : Session) :
    (disguise.session given).client = given.client.map disguise.client := rfl

@[simp] theorem session_world (given : Session) :
    (disguise.session given).world = disguise.world given.world := rfl

/-- A session in disguise takes the same step and is left in disguise; a step that asks a
chat, if the policy is kept. -/
theorem step_session
    {given : Session}
    (usable : disguise.KeepsUsable given.config)
    (step : Step)
    (keeps : step.isChat = true → disguise.KeepsPolicy) :
    (disguise.session given).step step =
      (disguise.result (given.step step).1, disguise.session (given.step step).2) := by
  cases step with
  | opening opening =>
      have opens := client_opening usable opening given.world
      simp only [Session.step, session_config, session_world, opens]
      rcases opening.client given.config given.world with ⟨failure | client, after⟩ <;> rfl
  | showConfig =>
      simp only [Session.step, session_client]
      cases given.client <;> rfl
  | action action =>
      simp only [Session.step, session_client, session_world]
      cases given.client with
      | none => rfl
      | some client =>
          have same := disguise.operation_situation action keeps ⟨client, given.world⟩
          have inDisguise : disguise.situation ⟨client, given.world⟩ =
              ⟨disguise.client client, disguise.world given.world⟩ := rfl
          simp only [Option.map_some, ← inDisguise, same]
          rcases action.operation ⟨client, given.world⟩ with ⟨failure | outcome, after⟩ <;> rfl
  | switchJournal on => rfl
  | readJournal => rfl

/-- A session in disguise takes the same turn and is left in disguise; a turn that asks a
chat, if the policy is kept. -/
theorem take_session
    {given : Session}
    (usable : disguise.KeepsUsable given.config)
    (turn : Turn)
    (keeps : turn.isChat = true → disguise.KeepsPolicy) :
    (disguise.session given).take turn =
      (disguise.result (given.take turn).1, disguise.session (given.take turn).2) := by
  have usableFacing : disguise.KeepsUsable (given.facing turn.network).config := usable
  exact disguise.step_session usableFacing turn.step keeps

@[simp] theorem boundModel?_session (given : Session) :
    (disguise.session given).boundModel? = given.boundModel? := by
  cases isOpen : given.client <;> simp [Session.boundModel?, isOpen, client]

/-- A session in disguise shows the same in all its turns, with what is seen in disguise,
if the policy is kept. -/
theorem observations_session
    (keeps : disguise.KeepsPolicy)
    {given : Session}
    (usable : disguise.KeepsUsable given.config)
    (turns : List Turn) :
    (disguise.session given).observations turns =
      (given.observations turns).map disguise.observation := by
  induction turns generalizing given with
  | nil => rfl
  | cons turn turns inductionHypothesis =>
      have taken := disguise.take_session usable turn fun _ => keeps
      have usableAfter : disguise.KeepsUsable (given.take turn).2.config := by
        rw [Session.take, Session.step_config]
        exact usable
      rw [Session.observations_cons, Session.observations_cons, List.map_cons, Session.observe,
        taken, inductionHypothesis usableAfter, boundModel?_session]
      rfl

end Disguise
end KnowledgeClient
