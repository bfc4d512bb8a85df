import KnowledgeClient.Proofs.Actions

/-!
# Turns of a session

A turn is a step of a session together with the network that it meets.  What can be
seen of a turn is what the step gives, which exchanges it holds, what it says, and what
model the client is bound to and what the files are when it ends.  A session that takes turns
that open no client keeps the client that it has, with its configuration.
-/

namespace KnowledgeClient

/-- A step and the network that it meets. -/
structure Turn where
  step : Step
  network : Http.Network

/-- The step opens a client. -/
def Step.isOpening : Step → Bool
  | .opening _ => true
  | _ => false

/-- The turn opens a client. -/
def Turn.isOpening (turn : Turn) : Bool :=
  turn.step.isOpening

/-- The turn resolves the model, where the files are these. -/
def Turn.needsModel (turn : Turn) (files : Files.Tree) : Bool :=
  match turn.step with
  | .action action => action.needsModel files
  | _ => false

/-- What a step gives that is an action with some result. -/
def StepResult.ofAction : Except Failure Outcome → StepResult
  | .ok given => .outcome given
  | .error failure => .failed failure

/-- What can be seen of a turn. -/
structure Observation where
  result : StepResult
  exchanges : List Http.Exchange
  bound : Option ModelId
  files : Files.Tree
  said : List Diagnostic

namespace Session

/-- The session before a network, with no exchange held over it and nothing said yet. -/
def facing (session : Session) (network : Http.Network) : Session :=
  { session with world := { session.world with network, exchanges := [], said := [] } }

/-- The situation in which a client of the session meets a network. -/
def meeting (session : Session) (client : Client) (network : Http.Network) : Situation :=
  ⟨client, { session.world with network, exchanges := [], said := [] }⟩

/-- Takes a turn. -/
def take (session : Session) (turn : Turn) : StepResult × Session :=
  (session.facing turn.network).step turn.step

/-- The session after an opening. -/
def openedBy (session : Session) (opening : Opening) (network : Http.Network) : Session :=
  (session.take ⟨.opening opening, network⟩).2

/-- What can be seen of a turn that the session takes. -/
def observe (session : Session) (turn : Turn) : Observation :=
  ⟨(session.take turn).1, (session.take turn).2.world.exchanges,
    (session.take turn).2.boundModel?, (session.take turn).2.world.files,
    (session.take turn).2.world.said⟩

/-- The session after some turns. -/
def after (session : Session) : List Turn → Session
  | [] => session
  | turn :: turns => after (session.take turn).2 turns

/-- What can be seen of some turns, one after the other. -/
def observations (session : Session) : List Turn → List Observation
  | [] => []
  | turn :: turns => session.observe turn :: observations (session.take turn).2 turns

/-- The session with its client bound otherwise. -/
def rebound (session : Session) (bound : Option ModelId) : Session :=
  { session with client := session.client.map fun client => { client with bound } }

@[simp] theorem after_nil (session : Session) : session.after [] = session := rfl

@[simp] theorem after_cons
    (session : Session)
    (turn : Turn)
    (turns : List Turn) :
    session.after (turn :: turns) = (session.take turn).2.after turns := rfl

theorem after_append
    (session : Session)
    (earlier later : List Turn) :
    session.after (earlier ++ later) = (session.after earlier).after later := by
  induction earlier generalizing session with
  | nil => rfl
  | cons turn earlier inductionHypothesis => exact inductionHypothesis (session.take turn).2

@[simp] theorem observations_nil (session : Session) : session.observations [] = [] := rfl

@[simp] theorem observations_cons
    (session : Session)
    (turn : Turn)
    (turns : List Turn) :
    session.observations (turn :: turns) =
      session.observe turn :: (session.take turn).2.observations turns := rfl

@[simp] theorem length_observations
    (session : Session)
    (turns : List Turn) :
    (session.observations turns).length = turns.length := by
  induction turns generalizing session with
  | nil => rfl
  | cons turn turns inductionHypothesis => simp [inductionHypothesis]

theorem observations_append
    (session : Session)
    (earlier later : List Turn) :
    session.observations (earlier ++ later) =
      session.observations earlier ++ (session.after earlier).observations later := by
  induction earlier generalizing session with
  | nil => rfl
  | cons turn earlier inductionHypothesis =>
      rw [List.cons_append, observations_cons, observations_cons, inductionHypothesis, after_cons,
        List.cons_append]

/-! ## Single turns -/

variable {session : Session} {client : Client}

theorem boundModel?_eq
    (isOpen : session.client = some client) :
    session.boundModel? = client.bound := by
  rw [boundModel?, isOpen]
  rfl

/-- An action is taken in the situation in which the client meets the network. -/
theorem take_action
    (isOpen : session.client = some client)
    (action : Action)
    (network : Http.Network) :
    session.take ⟨.action action, network⟩ =
      (StepResult.ofAction (action.operation (session.meeting client network)).1,
        { session with
          client := some (action.operation (session.meeting client network)).2.client
          world := (action.operation (session.meeting client network)).2.world }) := by
  have isOpenFacing : (session.facing network).client = some client := isOpen
  have meets : (⟨client, (session.facing network).world⟩ : Situation) =
      session.meeting client network := rfl
  simp only [take, step, isOpenFacing, meets]
  rcases action.operation (session.meeting client network) with ⟨failure | outcome, after⟩ <;> rfl

/-- A turn that neither opens a client nor acts sends nothing and keeps the client. -/
theorem take_other
    (session : Session)
    {turn : Turn}
    (notOpening : turn.isOpening = false)
    (noAction : ∀ action, turn.step ≠ .action action) :
    (session.take turn).2.client = session.client ∧
      (session.take turn).2.world.exchanges = [] := by
  obtain ⟨step, network⟩ := turn
  cases step with
  | opening opening => simp [Turn.isOpening, Step.isOpening] at notOpening
  | showConfig =>
      cases binding : session.client <;> simp [take, Session.step, facing, binding]
  | action action => exact absurd rfl (noAction action)
  | switchJournal on => exact ⟨rfl, rfl⟩
  | readJournal => exact ⟨rfl, rfl⟩

/-- A turn that opens no client keeps the client that is open, its configuration and
the model that it is bound to. -/
theorem take_client
    (isOpen : session.client = some client)
    {turn : Turn}
    (notOpening : turn.isOpening = false) :
    ∃ later, (session.take turn).2.client = some later ∧
      later.config = client.config ∧
      ∀ model, client.bound = some model → later.bound = some model := by
  by_cases isAction : ∃ action, turn.step = .action action
  · obtain ⟨action, isAction⟩ := isAction
    obtain ⟨step, network⟩ := turn
    subst isAction
    obtain ⟨listing, own, takes⟩ := action.takes (session.meeting client network)
    rw [take_action isOpen]
    exact ⟨_, rfl, takes.config_eq, takes.kept⟩
  · obtain ⟨same, _⟩ := take_other session notOpening (not_exists.mp isAction)
    exact ⟨client, same.trans isOpen, rfl, fun _ isBound => isBound⟩

/-- Turns that open no client keep the client that is open, its configuration and the
model that it is bound to. -/
theorem after_client
    (isOpen : session.client = some client)
    {turns : List Turn}
    (noOpening : ∀ turn ∈ turns, turn.isOpening = false) :
    ∃ later, (session.after turns).client = some later ∧
      later.config = client.config ∧
      ∀ model, client.bound = some model → later.bound = some model := by
  induction turns generalizing session client with
  | nil => exact ⟨client, isOpen, rfl, fun _ isBound => isBound⟩
  | cons turn turns inductionHypothesis =>
      obtain ⟨next, nextOpen, nextConfig, nextKept⟩ :=
        take_client isOpen (noOpening turn List.mem_cons_self)
      obtain ⟨last, lastOpen, lastConfig, lastKept⟩ :=
        inductionHypothesis nextOpen fun later member =>
          noOpening later (List.mem_cons_of_mem turn member)
      exact ⟨last, lastOpen, lastConfig.trans nextConfig,
        fun model isBound => lastKept model (nextKept model isBound)⟩

/-- A turn that does not resolve the model is the same for a client that is bound
otherwise, and leaves it so. -/
theorem take_rebound
    (isOpen : session.client = some client)
    {turn : Turn}
    (notOpening : turn.isOpening = false)
    (unneeded : turn.needsModel session.world.files = false)
    (bound : Option ModelId) :
    (session.rebound bound).take turn =
      ((session.take turn).1, (session.take turn).2.rebound bound) := by
  obtain ⟨step, network⟩ := turn
  have isOpenRebound : (session.rebound bound).client = some { client with bound } := by
    simp [rebound, isOpen]
  cases step with
  | opening opening => cases notOpening
  | showConfig => simp [take, Session.step, facing, rebound, isOpen]
  | action action =>
      have same := Action.operation_rebound (session.meeting client network) unneeded bound
      have meets : (session.rebound bound).meeting { client with bound } network =
          ⟨{ (session.meeting client network).client with bound },
            (session.meeting client network).world⟩ := rfl
      rw [take_action isOpen, take_action isOpenRebound, meets, same]
      rfl
  | switchJournal on => rfl
  | readJournal => rfl

/-! ## Openings -/

theorem opened_of_usable
    {config : Config}
    (usable : config.hasUsableToken = true)
    (bound : Option ModelId) :
    Client.opened config bound = .ok ⟨config, bound⟩ := by
  rw [Client.opened, if_pos usable]

/-- A client can be opened only with a token that can be used, and is bound as told. -/
theorem opened_eq_ok
    {config : Config}
    {bound : Option ModelId}
    (opens : Client.opened config bound = .ok client) :
    config.hasUsableToken = true ∧ client = ⟨config, bound⟩ := by
  unfold Client.opened at opens
  split at opens
  · rename_i usable
    exact ⟨usable, (Except.ok.inj opens).symm⟩
  · cases opens

/-- Making a model changes the network and the exchanges at most. -/
theorem createModel_frame
    (proposal : ModelProposal)
    (situation : Situation) :
    ∃ network exchanges, (Client.createModel proposal situation).2 =
      ⟨situation.client, { situation.world with network, exchanges }⟩ := by
  unfold Client.createModel Operation.send
  rw [Operation.bind_apply, Operation.sendAny_apply]
  cases situation.world.target (situation.client.config.url Client.modelsPath)
      (some (.json (String.ofList proposal.jsonChars))) with
  | error fault => exact ⟨_, _, rfl⟩
  | ok url =>
      cases situation.world.network.next with
      | dropped => exact ⟨_, _, rfl⟩
      | reply given =>
          simp only [Http.Answer.received, Operation.readReply_apply]
          exact ⟨_, _, rfl⟩

/-- Making a model and saying so changes the network, the exchanges and what was said at most. -/
theorem announceModel_frame
    (proposal : ModelProposal)
    (situation : Situation) :
    ∃ network exchanges said, (Client.announceModel proposal situation).2 =
      ⟨situation.client, { situation.world with network, exchanges, said }⟩ := by
  obtain ⟨network, exchanges, frame⟩ := createModel_frame proposal situation
  unfold Client.announceModel
  rw [Operation.bind_apply]
  rcases created : Client.createModel proposal situation with ⟨failure | model, after⟩
  · rw [created] at frame
    exact ⟨network, exchanges, situation.world.said, frame⟩
  · rw [created] at frame
    simp only at frame
    subst frame
    exact ⟨network, exchanges, _, rfl⟩

/-- A client that makes its model is bound to it; besides the network, the exchanges and what
was said, the world stays as it was. -/
theorem openedByCreating_eq_ok
    {config : Config}
    {proposal : ModelProposal}
    {before after : World}
    (opens : Client.openedByCreating config proposal before = (.ok client, after)) :
    config.hasUsableToken = true ∧
      ∃ model network exchanges said,
        client = ⟨config, some model⟩ ∧ after = { before with network, exchanges, said } := by
  unfold Client.openedByCreating at opens
  cases openedFirst : Client.opened config none with
  | error failure => simp [openedFirst] at opens
  | ok first =>
      obtain ⟨usable, rfl⟩ := opened_eq_ok openedFirst
      obtain ⟨network, exchanges, said, frame⟩ :=
        announceModel_frame proposal ⟨⟨config, none⟩, before⟩
      simp only [openedFirst] at opens
      rcases announced : Client.announceModel proposal ⟨⟨config, none⟩, before⟩ with
        ⟨failure | model, situation⟩
      · simp [announced] at opens
      · rw [announced] at frame
        simp only [announced, Prod.mk.injEq, Except.ok.injEq] at opens
        obtain ⟨rfl, rfl⟩ := opens
        exact ⟨usable, model.id, network, exchanges, said, rfl, congrArg Situation.world frame⟩

/-- A client is opened with the session's configuration and a token that can be used;
besides the network, the exchanges and what was said, the world stays as it was. -/
theorem opening_eq_ok
    {opening : Opening}
    {config : Config}
    {before after : World}
    (opens : opening.client config before = (.ok client, after)) :
    config.hasUsableToken = true ∧ client.config = config ∧
      ∃ network exchanges said, after = { before with network, exchanges, said } := by
  unfold Opening.client at opens
  split at opens
  · obtain ⟨result, rfl⟩ := Prod.mk.inj opens
    obtain ⟨usable, rfl⟩ := opened_eq_ok result
    exact ⟨usable, rfl, before.network, before.exchanges, before.said, rfl⟩
  · obtain ⟨result, rfl⟩ := Prod.mk.inj opens
    obtain ⟨usable, rfl⟩ := opened_eq_ok result
    exact ⟨usable, rfl, before.network, before.exchanges, before.said, rfl⟩
  · obtain ⟨usable, model, network, exchanges, said, rfl, world⟩ := openedByCreating_eq_ok opens
    exact ⟨usable, rfl, network, exchanges, said, world⟩

/-- An opening that succeeds leaves a client with the session's configuration, bound as
the opening tells; besides the network, the exchanges and what was said, the world stays as
it was. -/
theorem openedBy_eq
    {opening : Opening}
    {network : Http.Network}
    {bound : Option ModelId}
    (opens : (session.take ⟨.opening opening, network⟩).1 = .opened bound) :
    session.config.hasUsableToken = true ∧
      ∃ left exchanges said, session.openedBy opening network =
        { session with
          client := some ⟨session.config, bound⟩
          world := { session.world with network := left, exchanges, said } } := by
  have sameConfig : (session.facing network).config = session.config := rfl
  simp only [openedBy, take, step, sameConfig] at opens ⊢
  rcases opened : opening.client session.config (session.facing network).world with
    ⟨failure | client, world⟩
  · simp [opened] at opens
  · obtain ⟨usable, config, left, exchanges, said, rfl⟩ := opening_eq_ok opened
    simp only [opened, StepResult.opened.injEq] at opens
    refine ⟨usable, left, exchanges, said, ?_⟩
    rw [← config, ← opens]
    rfl

/-- An opening that succeeds leaves a client with the session's configuration, bound as
the opening tells. -/
theorem client_of_opened
    {opening : Opening}
    {network : Http.Network}
    {bound : Option ModelId}
    (opens : (session.take ⟨.opening opening, network⟩).1 = .opened bound) :
    (session.openedBy opening network).client = some ⟨session.config, bound⟩ := by
  obtain ⟨_, left, exchanges, said, opened⟩ := openedBy_eq opens
  rw [opened]

/-- A session without a client, whose configuration can be used. -/
def sample : Session := ⟨.sample, none, .sample []⟩

end Session
end KnowledgeClient
