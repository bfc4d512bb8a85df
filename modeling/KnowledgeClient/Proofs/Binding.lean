import KnowledgeClient.Proofs.Turn

/-!
# The model that a client is bound to

A client is bound at most once.  Once it is bound it stays bound to the same model;
it becomes bound only in an action that needs the model, by an answer that lists the
model first; a resolution that fails leaves it unbound and ends the action; what an
action asks about a model is about the one that the client is bound to when the
action ends; and actions that have nothing to do with the model neither change what
the client is bound to nor depend on it.
-/

namespace KnowledgeClient
namespace Session

/-- What a turn of a session does with the model that the client is bound to. -/
structure BindingLaw (session : Session) (client : Client) (turn : Turn) : Prop where
  /-- A model that the client is bound to is kept. -/
  kept : ∀ model, client.bound = some model →
    (session.take turn).2.boundModel? = some model
  /-- A model is gained in an action that needs it, by an answer that lists it first. -/
  gained : ∀ model, client.bound = none → (session.take turn).2.boundModel? = some model →
    ∃ action, turn.step = .action action ∧
      action.needsModel session.world.files = true ∧
      ∃ exchange ∈ (session.take turn).2.world.exchanges,
        exchange.IsFor client.config .models ∧ exchange.answer.Lists model
  /-- An action that does something with the model does it with the one that the
  client is bound to at the end. -/
  resolved : ∀ action next model, turn.step = .action action →
    action.withModel? session.world.files = some next →
    (session.take turn).2.boundModel? = some model →
      ∃ after, Client.resolve (session.meeting client turn.network) = (.ok model, after) ∧
        (session.take turn).1 = StepResult.ofAction (next model after).1
  /-- A resolution that fails ends the action with its failure; the client stays
  unbound, and at most the request for the knowledge models was sent. -/
  unresolved : ∀ action next failure after, turn.step = .action action →
    action.withModel? session.world.files = some next →
    Client.resolve (session.meeting client turn.network) = (.error failure, after) →
      (session.take turn).1 = .failed failure ∧
        (session.take turn).2.boundModel? = none ∧
        (((session.take turn).2.world.exchanges = [] ∧
            ∃ fault, failure = .requestFailed fault) ∨
          ∃ exchange url, (session.take turn).2.world.exchanges = [exchange] ∧
            exchange.IsFor client.config .models ∧
            exchange.answer.resolution url = .error failure)
  /-- Among many resolutions, each one that fails leaves the client unbound. -/
  unresolvedAmongMany : ∀ count, turn.step = .action (.resolveMany count) →
    ∃ outcomes, (session.take turn).1 = .outcome (.models outcomes) ∧
      outcomes.length = count ∧
      ∀ position failure, outcomes[position]? = some (.error failure) →
        (Client.resolutions (position + 1)
          (session.meeting client turn.network)).2.client.bound = none
  /-- Every exchange is for a call that the action may ask for, about the model that
  the client is bound to at the end, or lists the models for a client that is unbound. -/
  asked : ∀ exchange ∈ (session.take turn).2.world.exchanges,
    ∃ action call, turn.step = .action action ∧
      exchange.IsFor client.config call ∧
      (client.bound = none ∧ call = .models ∨
        action.MayAsk (session.take turn).2.boundModel? call) ∧
      ∀ model, call.model? = some model → (session.take turn).2.boundModel? = some model
  /-- Actions that have nothing to do with the model neither change nor depend on what
  the client is bound to. -/
  independent : ∀ action, turn.step = .action action → action.isIndependent = true →
    (session.take turn).2.boundModel? = client.bound ∧
      ∀ bound, (session.rebound bound).observe turn = { session.observe turn with bound }

variable {session : Session} {client : Client}

/-- A turn that does not resolve the model shows the same for a client that is bound
otherwise. -/
theorem observe_rebound
    (isOpen : session.client = some client)
    {turn : Turn}
    (notOpening : turn.isOpening = false)
    (unneeded : turn.needsModel session.world.files = false)
    (bound : Option ModelId) :
    (session.rebound bound).observe turn = { session.observe turn with bound } := by
  obtain ⟨later, laterOpen, _⟩ := take_client isOpen notOpening
  have isBound : ((session.take turn).2.rebound bound).boundModel? = bound := by
    simp [boundModel?, rebound, laterOpen]
  rw [observe, take_rebound isOpen notOpening unneeded, isBound]
  rfl

/-! ## What becomes of an action -/

theorem boundModel?_take_action
    (isOpen : session.client = some client)
    (action : Action)
    (network : Http.Network) :
    (session.take ⟨.action action, network⟩).2.boundModel? =
      (action.operation (session.meeting client network)).2.client.bound := by
  rw [take_action isOpen]
  rfl

/-- An action that does something with the model does it with the one that is resolved,
and the client is bound to that one when it ends. -/
theorem take_of_resolved
    (isOpen : session.client = some client)
    {action : Action}
    {network : Http.Network}
    {next : ModelId → Operation Outcome}
    {model : ModelId}
    {after : Situation}
    (form : action.withModel? session.world.files = some next)
    (resolved : Client.resolve (session.meeting client network) = (.ok model, after)) :
    (session.take ⟨.action action, network⟩).1 = StepResult.ofAction (next model after).1 ∧
      (session.take ⟨.action action, network⟩).2.boundModel? = some model := by
  have resolution := Client.resolution (session.meeting client network)
  rw [resolved] at resolution
  have ran : action.operation (session.meeting client network) = next model after :=
    Action.operation_of_resolved form resolved
  have sameClient := (Action.withModel?_asks form model after).1
  constructor
  · rw [take_action isOpen, ran]
  · rw [boundModel?_take_action isOpen, ran, sameClient, resolution.bound_of_ok]

/-- An action that does something with the model ends with the failure of a resolution
that fails.  The client stays unbound, and at most the request for the knowledge models
was sent. -/
theorem take_of_unresolved
    (isOpen : session.client = some client)
    {action : Action}
    {network : Http.Network}
    {next : ModelId → Operation Outcome}
    {failure : Failure}
    {after : Situation}
    (form : action.withModel? session.world.files = some next)
    (unresolved : Client.resolve (session.meeting client network) = (.error failure, after)) :
    (session.take ⟨.action action, network⟩).1 = .failed failure ∧
      (session.take ⟨.action action, network⟩).2.boundModel? = none ∧
      (((session.take ⟨.action action, network⟩).2.world.exchanges = [] ∧
          ∃ fault, failure = .requestFailed fault) ∨
        ∃ exchange url,
          (session.take ⟨.action action, network⟩).2.world.exchanges = [exchange] ∧
          exchange.IsFor client.config .models ∧
          exchange.answer.resolution url = .error failure) := by
  have resolution := Client.resolution (session.meeting client network)
  rw [unresolved] at resolution
  have ran : action.operation (session.meeting client network) = (.error failure, after) :=
    Action.operation_of_unresolved form unresolved
  have unbound : after.client.bound = none := by
    rw [resolution.client_eq_of_error, resolution.unbound_of_error]
  rw [boundModel?_take_action isOpen, take_action isOpen, ran]
  refine ⟨rfl, unbound, ?_⟩
  rcases resolution.cause_of_error with ⟨none, fault, isFault⟩ | ⟨exchange, url, one, isFor, fails⟩
  · exact .inl ⟨none, fault, isFault⟩
  · exact .inr ⟨exchange, url, one, isFor, fails⟩

/-- Many resolutions give as many outcomes, and after each that fails the client is
unbound. -/
theorem take_resolveMany
    (isOpen : session.client = some client)
    (count : Nat)
    (network : Http.Network) :
    ∃ outcomes, (session.take ⟨.action (.resolveMany count), network⟩).1 =
        .outcome (.models outcomes) ∧
      outcomes.length = count ∧
      ∀ position failure, outcomes[position]? = some (.error failure) →
        (Client.resolutions (position + 1)
          (session.meeting client network)).2.client.bound = none := by
  refine ⟨(Client.resolutions count (session.meeting client network)).1, ?_, by simp, ?_⟩
  · rw [take_action isOpen, Action.resolveMany_operation]
    rfl
  · intro position failure fails
    have before : position < count := by
      have inside := (List.getElem?_eq_some_iff.mp fails).1
      simpa using inside
    obtain ⟨outcome, isOutcome, resolution⟩ :=
      Client.resolution_of_resolutions before (session.meeting client network)
    rw [fails] at isOutcome
    obtain rfl := Option.some.inj isOutcome
    rw [resolution.client_eq_of_error, resolution.unbound_of_error]

/-! ## The law -/

/-- Every action obeys the law. -/
theorem bindingLaw_of_action
    (isOpen : session.client = some client)
    (action : Action)
    (network : Http.Network) :
    session.BindingLaw client ⟨.action action, network⟩ := by
  obtain ⟨listing, own, takes⟩ := action.takes (session.meeting client network)
  have bound := boundModel?_take_action isOpen action network
  have exchanges : (session.take ⟨.action action, network⟩).2.world.exchanges =
      listing ++ own := by
    rw [take_action isOpen, takes.exchanges_eq]
    rfl
  constructor
  case kept =>
    intro model isBound
    rw [bound, takes.kept model isBound]
  case gained =>
    intro model unbound isBound
    rw [bound] at isBound
    obtain ⟨exchange, member, lists⟩ := takes.gained model unbound isBound
    obtain ⟨needed, _, isFor⟩ := takes.asked exchange member
    refine ⟨action, rfl, needed, exchange, ?_, isFor, lists⟩
    rw [exchanges]
    exact List.mem_append_left own member
  case resolved =>
    intro _ next model same form isBound
    cases same
    rcases resolved : Client.resolve (session.meeting client network) with ⟨failure | found, after⟩
    · obtain ⟨_, unbound, _⟩ := take_of_unresolved isOpen form resolved
      rw [unbound] at isBound
      cases isBound
    · obtain ⟨result, isFound⟩ := take_of_resolved isOpen form resolved
      rw [isFound] at isBound
      obtain rfl := Option.some.inj isBound
      exact ⟨after, rfl, result⟩
  case unresolved =>
    intro _ next failure after same form unresolved
    cases same
    exact take_of_unresolved isOpen form unresolved
  case unresolvedAmongMany =>
    intro count same
    cases same
    exact take_resolveMany isOpen count network
  case asked =>
    intro exchange member
    rw [exchanges] at member
    rw [bound]
    rcases List.mem_append.mp member with inListing | inOwn
    · obtain ⟨_, unbound, isFor⟩ := takes.asked exchange inListing
      exact ⟨action, .models, rfl, isFor, .inl ⟨unbound, rfl⟩, by simp [Call.model?]⟩
    · obtain ⟨call, mayAsk, isFor⟩ := takes.asksOwn exchange inOwn
      exact ⟨action, call, rfl, isFor, .inr mayAsk, fun model about => mayAsk.bound_eq about⟩
  case independent =>
    intro _ same independent
    cases same
    have unneeded : action.needsModel session.world.files = false := by
      cases action <;> simp_all [Action.isIndependent, Action.needsModel, Action.withModel?]
    refine ⟨?_, observe_rebound isOpen rfl unneeded⟩
    rw [bound, (Action.asks_of_isIndependent independent none _).1]
    rfl

/-- Every turn that opens no client obeys the law. -/
theorem bindingLaw
    (isOpen : session.client = some client)
    {turn : Turn}
    (notOpening : turn.isOpening = false) :
    session.BindingLaw client turn := by
  by_cases isAction : ∃ action, turn.step = .action action
  · obtain ⟨action, isAction⟩ := isAction
    obtain ⟨step, network⟩ := turn
    subst isAction
    exact bindingLaw_of_action isOpen action network
  · have noAction := not_exists.mp isAction
    obtain ⟨same, none⟩ := take_other session notOpening noAction
    have bound : (session.take turn).2.boundModel? = client.bound :=
      boundModel?_eq (same.trans isOpen)
    constructor
    case kept =>
      intro model isBound
      rw [bound, isBound]
    case gained =>
      intro model unbound isBound
      rw [bound, unbound] at isBound
      cases isBound
    case asked =>
      intro exchange member
      rw [none] at member
      cases member
    case resolved => exact fun action _ _ isAction => absurd isAction (noAction action)
    case unresolved => exact fun action _ _ _ isAction => absurd isAction (noAction action)
    case unresolvedAmongMany => exact fun count isAction => absurd isAction (noAction _)
    case independent => exact fun action isAction => absurd isAction (noAction action)

/-- However a client was opened and whatever it did since, every turn obeys the law, and
a model that it is bound to stays the same through all later turns. -/
theorem bindingLaw_after_opening
    (session : Session)
    (opening : Opening)
    (network : Http.Network)
    (bound : Option ModelId)
    (opens : (session.take ⟨.opening opening, network⟩).1 = .opened bound)
    (earlier : List Turn)
    (noOpeningEarlier : ∀ turn ∈ earlier, turn.isOpening = false) :
    ∃ client,
      ((session.openedBy opening network).after earlier).client = some client ∧
      client.config = session.config ∧
      (∀ model, bound = some model → client.bound = some model) ∧
      (∀ turn, turn.isOpening = false →
        ((session.openedBy opening network).after earlier).BindingLaw client turn) ∧
      ∀ later : List Turn, (∀ turn ∈ later, turn.isOpening = false) →
        ∀ model, client.bound = some model →
          ((session.openedBy opening network).after (earlier ++ later)).boundModel? =
            some model := by
  obtain ⟨client, isOpen, config, kept⟩ :=
    after_client (client_of_opened opens) noOpeningEarlier
  refine ⟨client, isOpen, config, kept, ?_, ?_⟩
  · intro turn notOpening
    exact bindingLaw isOpen notOpening
  · intro later noOpeningLater model isBound
    obtain ⟨last, lastOpen, _, lastKept⟩ := after_client isOpen noOpeningLater
    rw [after_append, boundModel?_eq lastOpen]
    exact lastKept model isBound

/-- A client that found its model keeps it, though it can reach nothing any more. -/
theorem bindingLaw_after_opening_sample :
    (sample.take ⟨.opening .unbound, .unreachable⟩).1 = .opened none ∧
      ((sample.openedBy .unbound .unreachable).after
        ([⟨.action .resolve, .reachable [.sample]⟩] ++
          [⟨.action .listDocuments, .unreachable⟩])).boundModel? = some "m" := by
  have opens : (sample.take ⟨.opening .unbound, .unreachable⟩).1 = .opened none := rfl
  refine ⟨opens, ?_⟩
  obtain ⟨client, isOpen, _, _, _, stays⟩ :=
    bindingLaw_after_opening sample .unbound .unreachable none opens
      [⟨.action .resolve, .reachable [.sample]⟩] (by simp [Turn.isOpening, Step.isOpening])
  have found : ((sample.openedBy .unbound .unreachable).after
      [⟨.action .resolve, .reachable [.sample]⟩]).client = some ⟨.sample, some "m"⟩ := by
    decide +kernel
  rw [found] at isOpen
  obtain rfl := Option.some.inj isOpen
  exact stays [⟨.action .listDocuments, .unreachable⟩]
    (by simp [Turn.isOpening, Step.isOpening]) "m" rfl

end Session
end KnowledgeClient
