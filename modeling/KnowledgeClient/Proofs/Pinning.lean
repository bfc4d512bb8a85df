import KnowledgeClient.Proofs.Turn

/-!
# Clients that find their model and clients that are given it

A client that is opened without a model and finds it at its first attempt cannot be
told from one that was given the model at once, but for the one request by which it
found the model.  A client that made its model cannot be told from one that was given
the model it made.
-/

namespace KnowledgeClient

/-! ## Actions of clients that were given their model -/

namespace Action

/-- Once the model is found, an action goes on as it does for a client that is bound to
that model and is alike in all else. -/
theorem operation_pinned
    (situation : Situation)
    {action : Action}
    {after pinned : Situation}
    {model : ModelId}
    {past : List Http.Exchange}
    {saidBefore : List Diagnostic}
    (needed : action.needsModel situation.world.files = true)
    (resolved : Client.resolve situation = (.ok model, after))
    (likewise : Situation.Likewise past saidBefore after pinned)
    (isBound : pinned.client.bound = some model) :
    (action.operation situation).1 = (action.operation pinned).1 ∧
      Situation.Likewise past saidBefore (action.operation situation).2
        (action.operation pinned).2 ∧
      (action.operation situation).2.client = after.client ∧
      (action.operation pinned).2.client = pinned.client := by
  have resolution := Client.resolution situation
  rw [resolved] at resolution
  have files : pinned.world.files = situation.world.files := by
    rw [← likewise.files_eq, resolution.files_eq]
  rcases withModel?_or action situation.world.files with
    ⟨next, form⟩ | independent | ⟨count, rfl⟩ | ⟨path, options, reason, rfl, unreadable⟩
  · have ran : action.operation situation = next model after :=
      operation_of_resolved form resolved
    have ranPinned : action.operation pinned = next model pinned :=
      operation_of_resolved (files ▸ form) (Client.resolve_of_bound isBound)
    obtain ⟨sameResult, stillLikewise⟩ :=
      withModel?_agree (Situation.respected_likewise past saidBefore)
        (fun path _ => Situation.findsAlike_likewise past saidBefore path) form model after pinned
        likewise
    have asks := withModel?_asks form model
    rw [ran, ranPinned]
    exact ⟨sameResult, stillLikewise, (asks after).1, (asks pinned).1⟩
  · cases action <;> simp_all [isIndependent, needsModel, withModel?]
  · cases count with
    | zero => simp [needsModel] at needed
    | succ count =>
        rw [resolveMany_operation, resolveMany_operation, Client.resolutions_succ, resolved,
          Client.resolutions_of_bound resolution.bound_of_ok, Client.resolutions_of_bound isBound]
        exact ⟨rfl, likewise, rfl, rfl⟩
  · simp [needsModel, withModel?, unreadable] at needed

end Action

/-- The turn without the first answer of its network. -/
def Turn.withoutFirst (turn : Turn) : Turn :=
  { turn with network := turn.network.rest }

namespace Session

/-! ## Sessions that cannot be told apart -/

/-- Sessions are alike when they are the same before every network. -/
def Alike (first second : Session) : Prop :=
  ∀ network, first.facing network = second.facing network

theorem Alike.take_eq
    {first second : Session}
    (alike : first.Alike second)
    (turn : Turn) :
    first.take turn = second.take turn := by
  rw [take, take, alike turn.network]

theorem Alike.observations_eq
    {first second : Session}
    (alike : first.Alike second)
    (turns : List Turn) :
    first.observations turns = second.observations turns := by
  cases turns with
  | nil => rfl
  | cons turn turns => rw [observations_cons, observations_cons, observe, observe, alike.take_eq]

/-! ## Turns before the model is needed -/

/-- None of the turns resolves the model. -/
def NeverResolves (session : Session) : List Turn → Prop
  | [] => True
  | turn :: turns =>
    turn.needsModel session.world.files = false ∧ NeverResolves (session.take turn).2 turns

variable {session : Session} {client : Client}

/-- Turns that do not resolve the model are the same for a client that is bound
otherwise, and leave it so. -/
theorem observations_rebound
    (isOpen : session.client = some client)
    {turns : List Turn}
    (noOpening : ∀ turn ∈ turns, turn.isOpening = false)
    (never : session.NeverResolves turns)
    (bound : Option ModelId) :
    (session.rebound bound).observations turns =
        (session.observations turns).map ({ · with bound }) ∧
      (session.rebound bound).after turns = (session.after turns).rebound bound := by
  induction turns generalizing session client with
  | nil => exact ⟨rfl, rfl⟩
  | cons turn turns inductionHypothesis =>
      obtain ⟨unneeded, neverLater⟩ := never
      have notOpening := noOpening turn List.mem_cons_self
      obtain ⟨later, laterOpen, _⟩ := take_client isOpen notOpening
      obtain ⟨observed, left⟩ := inductionHypothesis laterOpen
        (fun other member => noOpening other (List.mem_cons_of_mem turn member)) neverLater
      have taken := take_rebound isOpen notOpening unneeded bound
      have isBound : ((session.take turn).2.rebound bound).boundModel? = bound := by
        simp [boundModel?, rebound, laterOpen]
      constructor
      · rw [observations_cons, observations_cons, observe, taken, observed, isBound]
        rfl
      · rw [after_cons, after_cons, taken, left]

/-- A client that is not bound stays so through turns that do not resolve the model. -/
theorem after_of_neverResolves
    (isOpen : session.client = some client)
    (unbound : client.bound = none)
    {turns : List Turn}
    (noOpening : ∀ turn ∈ turns, turn.isOpening = false)
    (never : session.NeverResolves turns) :
    (session.after turns).client = some client ∧
      ∀ observation ∈ session.observations turns, observation.bound = none := by
  have same : session.rebound none = session := by
    obtain ⟨config, bound⟩ := client
    obtain ⟨sessionConfig, sessionClient, world⟩ := session
    cases isOpen
    cases unbound
    rfl
  obtain ⟨observed, left⟩ := observations_rebound isOpen noOpening never none
  rw [same] at observed left
  obtain ⟨later, laterOpen, config, _⟩ := after_client isOpen noOpening
  constructor
  · rw [left]
    simp [rebound, laterOpen, config, ← unbound]
  · intro observation member
    rw [observed] at member
    obtain ⟨other, _, rfl⟩ := List.mem_map.mp member
    rfl

/-- A client that is bound shows its model in all turns that open no client. -/
theorem bound_observations
    {model : ModelId}
    (isOpen : session.client = some client)
    (isBound : client.bound = some model)
    {turns : List Turn}
    (noOpening : ∀ turn ∈ turns, turn.isOpening = false) :
    ∀ observation ∈ session.observations turns, observation.bound = some model := by
  induction turns generalizing session client with
  | nil => simp
  | cons turn turns inductionHypothesis =>
      obtain ⟨later, laterOpen, _, kept⟩ :=
        take_client isOpen (noOpening turn List.mem_cons_self)
      have stillBound := kept model isBound
      intro observation member
      rcases List.mem_cons.mp member with rfl | inLater
      · exact (boundModel?_eq laterOpen).trans stillBound
      · exact inductionHypothesis laterOpen stillBound
          (fun other member => noOpening other (List.mem_cons_of_mem turn member))
          observation inLater

/-! ## The turn in which the model is found -/

/-- A client that has found its model is like one that is given it and never gets the answer that
lists it, but for the one exchange and the events that tell of it. -/
theorem likewise_of_found
    {network : Http.Network}
    {url : Http.Url}
    (goes : (session.meeting client network).listingTarget = .ok url)
    (model : ModelId) :
    ∃ found : List Event,
      found.map Note.event = network.next.listingNotes ++ Situation.bindingNotes model ∧
      Situation.Likewise
        [⟨(session.meeting client network).listingRequest url, network.next⟩]
        (found.map .event)
        (((session.meeting client network).listing url).binding model)
        ((session.rebound (some model)).meeting { client with bound := some model }
          network.rest) := by
  obtain ⟨found, noted, leaves⟩ := (session.meeting client network).binding_listing url model
  have leftNetwork := World.answering_network (World.reachable_of_target_eq_ok goes)
    ((session.meeting client network).listingRequest url)
  refine ⟨found, noted, ?_⟩
  rw [leaves]
  exact ⟨rfl, rfl, leftNetwork, rfl, rfl, rfl, rfl, (List.append_nil _).symm⟩

/-- The turn in which a client finds its model is the same for a client that is given
the model, but for the request that found it and what is said of that; the sessions are alike
after it. -/
theorem take_withoutFirst
    (isOpen : session.client = some client)
    (unbound : client.bound = none)
    {turn : Turn}
    (needed : turn.needsModel session.world.files = true)
    {model : ModelId}
    (resolves : (Client.resolve (session.meeting client turn.network)).1 = .ok model) :
    ∃ (exchange : Http.Exchange) (found : List Event),
      exchange.IsFor client.config .models ∧
      exchange.answer.Lists model ∧
      found.map Note.event = exchange.answer.listingNotes ++ Situation.bindingNotes model ∧
      ((session.rebound (some model)).observe turn.withoutFirst).bound = some model ∧
      session.observe turn =
        { (session.rebound (some model)).observe turn.withoutFirst with
          exchanges := exchange ::
            ((session.rebound (some model)).observe turn.withoutFirst).exchanges
          said := found.map .event ++
            ((session.rebound (some model)).observe turn.withoutFirst).said } ∧
      (session.take turn).2.Alike ((session.rebound (some model)).take turn.withoutFirst).2 := by
  obtain ⟨step, network⟩ := turn
  cases step with
  | action action =>
      have resolution := Client.resolution (session.meeting client network)
      rcases resolved : Client.resolve (session.meeting client network) with ⟨result, after⟩
      rw [resolved] at resolution resolves
      simp only at resolves resolution
      subst resolves
      cases resolution with
      | bound _ isBound => exact absurd (isBound.symm.trans unbound) (by simp)
      | found url _ _ goes finds =>
          have isOpenPinned : (session.rebound (some model)).client =
              some { client with bound := some model } := by
            simp [rebound, isOpen]
          obtain ⟨found, noted, likewise⟩ := likewise_of_found goes model
          obtain ⟨sameResult, stillLikewise, foundClient, pinnedClient⟩ :=
            Action.operation_pinned (session.meeting client network) needed resolved likewise rfl
          have taken := take_action isOpen action network
          have takenPinned := take_action isOpenPinned action network.rest
          have without : (⟨.action action, network⟩ : Turn).withoutFirst =
              ⟨.action action, network.rest⟩ := rfl
          refine ⟨⟨(session.meeting client network).listingRequest url, network.next⟩, found,
            Situation.isFor_listingRequest goes _,
            (Http.Answer.resolution_eq_ok_iff _ _ _).mp finds, noted, ?_, ?_, ?_⟩
          · rw [without, observe, takenPinned]
            simp only [boundModel?, Option.bind_some, pinnedClient]
            rfl
          · rw [without, observe, observe, taken, takenPinned]
            simp only [boundModel?, Option.bind_some, sameResult, stillLikewise.exchanges_eq,
              stillLikewise.files_eq, stillLikewise.said_eq, foundClient, pinnedClient]
            rfl
          · intro network
            rw [without, taken, takenPinned]
            simp only [facing, stillLikewise.platform_eq, stillLikewise.files_eq,
              stillLikewise.journal_eq, stillLikewise.time_eq, foundClient, pinnedClient]
            rfl
  | _ => cases needed

/-! ## Whole runs -/

/-- The turn is the first one that resolves the model of the client, and finds it. -/
structure FindsFirst
    (session : Session)
    (client : Client)
    (earlier : List Turn)
    (turn : Turn)
    (model : ModelId) : Prop where
  never : session.NeverResolves earlier
  needed : turn.needsModel (session.after earlier).world.files = true
  finds : (Client.resolve ((session.after earlier).meeting client turn.network)).1 = .ok model

/-- A client that is not bound and finds its model in one of its turns shows the same as
one that is given the model and never gets the answer that lists it, but for the one
request that found the model and what is said of that. -/
theorem observations_of_findsFirst
    (isOpen : session.client = some client)
    (unbound : client.bound = none)
    {earlier later : List Turn}
    {turn : Turn}
    {model : ModelId}
    (noOpening : ∀ other ∈ earlier ++ turn :: later, other.isOpening = false)
    (first : session.FindsFirst client earlier turn model) :
    ∃ (before after : List Observation) (here : Observation) (exchange : Http.Exchange)
        (found : List Event),
      exchange.IsFor client.config .models ∧
      exchange.answer.Lists model ∧
      found.map Note.event = exchange.answer.listingNotes ++ Situation.bindingNotes model ∧
      before.length = earlier.length ∧
      (∀ observation ∈ before, observation.bound = none) ∧
      (∀ observation ∈ here :: after, observation.bound = some model) ∧
      session.observations (earlier ++ turn :: later) =
        before ++ { here with
          exchanges := exchange :: here.exchanges
          said := found.map .event ++ here.said } :: after ∧
      (session.rebound (some model)).observations (earlier ++ turn.withoutFirst :: later) =
        before.map ({ · with bound := some model }) ++ here :: after := by
  have noOpeningEarlier : ∀ other ∈ earlier, other.isOpening = false := fun other member =>
    noOpening other (List.mem_append_left _ member)
  have noOpeningLater : ∀ other ∈ later, other.isOpening = false := fun other member =>
    noOpening other (List.mem_append_right _ (List.mem_cons_of_mem turn member))
  have notOpening : turn.withoutFirst.isOpening = false :=
    noOpening turn (List.mem_append_right _ List.mem_cons_self)
  obtain ⟨isOpenHere, unboundEarlier⟩ :=
    after_of_neverResolves isOpen unbound noOpeningEarlier first.never
  obtain ⟨observedEarlier, leftEarlier⟩ :=
    observations_rebound isOpen noOpeningEarlier first.never (some model)
  obtain ⟨exchange, found, isFor, lists, noted, boundHere, observedHere, alikeLater⟩ :=
    take_withoutFirst isOpenHere unbound first.needed first.finds
  have isOpenPinned : ((session.after earlier).rebound (some model)).client =
      some { client with bound := some model } := by
    simp [rebound, isOpenHere]
  obtain ⟨clientLater, isOpenLater, _, kept⟩ := take_client isOpenPinned notOpening
  have boundLater := bound_observations isOpenLater (kept model rfl) noOpeningLater
  refine ⟨session.observations earlier,
    (((session.after earlier).rebound (some model)).take turn.withoutFirst).2.observations later,
    ((session.after earlier).rebound (some model)).observe turn.withoutFirst,
    exchange, found, isFor, lists, noted, length_observations _ earlier, unboundEarlier,
    ?_, ?_, ?_⟩
  · exact List.forall_mem_cons.mpr ⟨boundHere, boundLater⟩
  · rw [observations_append, observations_cons, observedHere, alikeLater.observations_eq]
  · rw [observations_append, observations_cons, observedEarlier, leftEarlier]

/-- A session with a usable token that is opened with a given model is like one that
differs from it in nothing but the network, the exchanges and what was said. -/
theorem alike_openedBy_bound
    (model : ModelId)
    (left network : Http.Network)
    (exchanges : List Http.Exchange)
    (said : List Diagnostic)
    (usable : session.config.hasUsableToken = true) :
    (session.take ⟨.opening (.bound model), network⟩).1 = .opened (some model) ∧
      Alike
        { session with
          client := some ⟨session.config, some model⟩
          world := { session.world with network := left, exchanges, said } }
        (session.openedBy (.bound model) network) := by
  have opened : Opening.client (.bound model) (session.facing network).config
      (session.facing network).world =
        (.ok ⟨session.config, some model⟩, (session.facing network).world) :=
    congrArg (·, (session.facing network).world) (opened_of_usable usable (some model))
  have taken : session.take ⟨.opening (.bound model), network⟩ =
      (.opened (some model),
        { session.facing network with client := some ⟨session.config, some model⟩ }) := by
    simp only [take, step, opened]
  rw [openedBy, taken]
  exact ⟨rfl, fun _ => rfl⟩

/-- A client that is opened without a model and finds it at its first attempt shows the
same as one that is given the model and never gets the answer that lists it: the same
results, files, exchanges and events in every turn, but for the one request that found the
model and the two events that tell of it.  A client that made its model shows the same as one
that is given it. -/
theorem observations_of_pinned
    (session : Session)
    (network pinnedNetwork : Http.Network)
    (model : ModelId) :
    (∀ earlier turn later,
      (session.take ⟨.opening .unbound, network⟩).1 = .opened none →
      (∀ other ∈ earlier ++ turn :: later, other.isOpening = false) →
      (session.openedBy .unbound network).FindsFirst ⟨session.config, none⟩ earlier turn model →
      (session.take ⟨.opening (.bound model), pinnedNetwork⟩).1 = .opened (some model) ∧
        ∃ (before after : List Observation) (here : Observation) (exchange : Http.Exchange)
            (found : List Event),
          exchange.IsFor session.config .models ∧
          exchange.answer.Lists model ∧
          found.map Note.event = exchange.answer.listingNotes ++ Situation.bindingNotes model ∧
          before.length = earlier.length ∧
          (∀ observation ∈ before, observation.bound = none) ∧
          (∀ observation ∈ here :: after, observation.bound = some model) ∧
          (session.openedBy .unbound network).observations (earlier ++ turn :: later) =
            before ++ { here with
              exchanges := exchange :: here.exchanges
              said := found.map .event ++ here.said } :: after ∧
          (session.openedBy (.bound model) pinnedNetwork).observations
              (earlier ++ turn.withoutFirst :: later) =
            before.map ({ · with bound := some model }) ++ here :: after) ∧
    ∀ proposal,
      (session.take ⟨.opening (.creating proposal), network⟩).1 = .opened (some model) →
      (session.take ⟨.opening (.bound model), pinnedNetwork⟩).1 = .opened (some model) ∧
        ∀ turns,
          (session.openedBy (.creating proposal) network).observations turns =
            (session.openedBy (.bound model) pinnedNetwork).observations turns := by
  constructor
  · intro earlier turn later opens noOpening first
    obtain ⟨usable, left, exchanges, said, opened⟩ := openedBy_eq opens
    obtain ⟨opensPinned, alike⟩ :=
      alike_openedBy_bound model left pinnedNetwork exchanges said usable
    have isRebound : (session.openedBy .unbound network).rebound (some model) =
        { session with
          client := some ⟨session.config, some model⟩
          world := { session.world with network := left, exchanges, said } } := by
      rw [opened]
      rfl
    rw [← isRebound] at alike
    obtain ⟨before, after, here, exchange, found, isFor, lists, noted, length, unbound, bound,
        seen, seenPinned⟩ :=
      observations_of_findsFirst (client_of_opened opens) rfl noOpening first
    refine ⟨opensPinned, before, after, here, exchange, found, isFor, lists, noted, length,
      unbound, bound, seen, ?_⟩
    rw [← alike.observations_eq, seenPinned]
  · intro proposal opens
    obtain ⟨usable, left, exchanges, said, opened⟩ := openedBy_eq opens
    obtain ⟨opensPinned, alike⟩ :=
      alike_openedBy_bound model left pinnedNetwork exchanges said usable
    refine ⟨opensPinned, fun turns => ?_⟩
    rw [opened]
    exact alike.observations_eq turns

set_option maxRecDepth 4000 in
/-- A client that lists its documents, and finds its model first, does so by one
request more than one that is given the model. -/
theorem observations_of_pinned_sample :
    (sample.take ⟨.opening .unbound, .unreachable⟩).1 = .opened none ∧
      ∃ (here : Observation) (exchange : Http.Exchange) (found : List Event),
        exchange.answer.Lists "m" ∧
        (sample.openedBy .unbound .unreachable).observations
            [⟨.action .listDocuments, .reachable [.sample]⟩] =
          [{ here with
              exchanges := exchange :: here.exchanges
              said := found.map .event ++ here.said }] ∧
        (sample.openedBy (.bound "m") .unreachable).observations
            [⟨.action .listDocuments, .reachable []⟩] = [here] := by
  have opens : (sample.take ⟨.opening .unbound, .unreachable⟩).1 = .opened none := rfl
  have first : (sample.openedBy .unbound .unreachable).FindsFirst ⟨sample.config, none⟩ []
      ⟨.action .listDocuments, .reachable [.sample]⟩ "m" :=
    ⟨trivial, rfl, by rfl⟩
  obtain ⟨_, before, after, here, exchange, found, _, lists, _, isEmpty, _, _, seen,
      seenPinned⟩ :=
    (observations_of_pinned sample .unreachable .unreachable "m").1 []
      ⟨.action .listDocuments, .reachable [.sample]⟩ [] opens
      (by simp [Turn.isOpening, Step.isOpening]) first
  obtain rfl := List.length_eq_zero_iff.mp isEmpty
  have count := congrArg List.length seen
  rw [length_observations] at count
  obtain rfl : after = [] := List.length_eq_zero_iff.mp (by simpa using count)
  exact ⟨opens, here, exchange, found, lists, seen, seenPinned⟩

end Session
end KnowledgeClient
