import KnowledgeClient.Proofs.Sending

/-!
# Resolving the model

A client that is bound answers from its cell and does nothing else.  A client that
is not bound sends one request for the knowledge models; only a listing that
arrives whole, with a status that tells success, and that has a first model, binds
it.  `Resolution` lists all that a resolution can do.  Resolutions one after the
other fail until the first such listing and agree on its first model from then on.
-/

namespace KnowledgeClient

/-! ## Answers to the request for the models -/

namespace Http

/-- What is noted of a reply to the request for the knowledge models. -/
def Reply.listingNotes (reply : Reply) : List Note :=
  match Operation.contentOf (Listing.read KnowledgeModel.schema.read) reply with
  | .error _ => []
  | .ok listing =>
    [.ofClient .debug "listed knowledge models"
      [("count", .number listing.results.length),
        ("total", .bare (Client.totalText listing.total))]]

theorem Reply.filterMap_listingNotes (reply : Reply) :
    reply.listingNotes.filterMap Note.record? = [] := by
  unfold listingNotes
  split <;> rfl

namespace Answer

/-- The answer is a whole listing of knowledge models, with a status that tells
success, and its first model has the id. -/
def Lists (answer : Answer) (model : ModelId) : Prop :=
  ∃ given text listing,
    answer = .reply given ∧
    given.status.isSuccess = true ∧
    given.text? = some text ∧
    Listing.read KnowledgeModel.schema.read text = .ok listing ∧
    listing.results.head?.map (·.id) = some model

/-- The id of the first of some knowledge models. -/
def firstOf : List KnowledgeModel → Except Failure ModelId
  | [] => .error .noModelAvailable
  | first :: _ => .ok first.id

/-- What is noted of the answer to the request for the knowledge models. -/
def listingNotes : Answer → List Note
  | .dropped => []
  | .reply given => given.listingNotes

theorem filterMap_listingNotes (answer : Answer) :
    answer.listingNotes.filterMap Note.record? = [] := by
  cases answer with
  | dropped => rfl
  | reply given => exact given.filterMap_listingNotes

/-- What a resolution makes of the answer to its request to a URL. -/
def resolution (url : Url) : Answer → Except Failure ModelId
  | .dropped => .error (.requestFailed (.dropped url.text))
  | .reply given =>
    match Operation.contentOf (Listing.read KnowledgeModel.schema.read) given with
    | .error failure => .error failure
    | .ok listing => firstOf listing.results

theorem firstOf_eq_ok_iff
    (models : List KnowledgeModel)
    (model : ModelId) :
    firstOf models = .ok model ↔ models.head?.map (·.id) = some model := by
  cases models <;> simp [firstOf]

/-- A resolution finds a model exactly in an answer that lists it first. -/
theorem resolution_eq_ok_iff
    (url : Url)
    (answer : Answer)
    (model : ModelId) :
    answer.resolution url = .ok model ↔ answer.Lists model := by
  cases answer with
  | dropped => simp [resolution, Lists]
  | reply given =>
      simp only [resolution, Lists, Answer.reply.injEq]
      constructor
      · intro found
        cases content : Operation.contentOf (Listing.read KnowledgeModel.schema.read) given with
        | error failure => simp [content] at found
        | ok listing =>
            obtain ⟨text, arrived, success, reading⟩ :=
              (Operation.contentOf_eq_ok_iff _ _ _).mp content
            refine ⟨given, text, listing, rfl, success, arrived, reading, ?_⟩
            rw [content] at found
            exact (firstOf_eq_ok_iff _ _).mp found
      · rintro ⟨_, text, listing, rfl, success, arrived, reading, first⟩
        have content : Operation.contentOf (Listing.read KnowledgeModel.schema.read) given =
            .ok listing :=
          (Operation.contentOf_eq_ok_iff _ _ _).mpr ⟨text, arrived, success, reading⟩
        rw [content]
        exact (firstOf_eq_ok_iff _ _).mpr first

end Answer
end Http

/-! ## What a resolution does -/

namespace Situation

/-- What is noted of the model that was found. -/
def bindingNotes (model : ModelId) : List Note :=
  [.ofClient .info "resolved knowledge model" [("model_id", .bare model)]]

/-- The situation with the client bound to a model. -/
def withBound (situation : Situation) (model : ModelId) : Situation :=
  { situation with client := { situation.client with bound := some model } }

/-- The situation after the client is bound to a model that was found. -/
def binding (situation : Situation) (model : ModelId) : Situation :=
  (situation.noting (bindingNotes model)).withBound model

@[simp] theorem binding_bound
    (situation : Situation)
    (model : ModelId) :
    (situation.binding model).client.bound = some model := rfl

/-- Where the request for the knowledge models goes out to, if it does. -/
def listingTarget (situation : Situation) : Except TransportFault Http.Url :=
  situation.world.target (situation.client.config.address .models) (some .nothing)

/-- The request for the knowledge models at a URL. -/
def listingRequest (situation : Situation) (url : Http.Url) : Http.Request :=
  World.requestTo situation.client.config.accessHeader Call.models.method url (some .nothing)

/-- The situation after the request for the knowledge models got the next answer. -/
def listing (situation : Situation) (url : Http.Url) : Situation :=
  (situation.answering (situation.listingRequest url)).noting
    situation.world.network.next.listingNotes

@[simp] theorem listing_client
    (situation : Situation)
    (url : Http.Url) :
    (situation.listing url).client = situation.client := rfl

@[simp] theorem listing_exchanges
    (situation : Situation)
    (url : Http.Url) :
    (situation.listing url).world.exchanges =
      situation.world.exchanges ++
        [⟨situation.listingRequest url, situation.world.network.next⟩] := by
  rw [listing, noting_exchanges]
  rfl

@[simp] theorem listing_files
    (situation : Situation)
    (url : Http.Url) :
    (situation.listing url).world.files = situation.world.files :=
  noting_files _ (Http.Answer.filterMap_listingNotes _)

theorem listing_journal
    (situation : Situation)
    (url : Http.Url) :
    (situation.listing url).world.journal = situation.world.journal :=
  noting_journal _ _

theorem listing_time
    (situation : Situation)
    (url : Http.Url) :
    (situation.listing url).world.time = situation.world.time :=
  noting_time _ _

theorem listing_network
    {situation : Situation}
    {url : Http.Url}
    (goes : situation.listingTarget = .ok url) :
    (situation.listing url).world.network = situation.world.network.rest := by
  rw [listing, noting_network]
  exact World.answering_network (World.reachable_of_target_eq_ok goes) _

/-- A network that could be reached can be reached again. -/
theorem listing_listingTarget
    {situation : Situation}
    {url : Http.Url}
    (goes : situation.listingTarget = .ok url) :
    (situation.listing url).listingTarget = .ok url := by
  rw [← goes]
  apply World.target_congr
  rw [listing_network goes]
  exact Http.Network.rest_eq_unreachable_iff _

/-- A client that finds its model says so, and changes nothing else but its model. -/
theorem binding_listing
    (situation : Situation)
    (url : Http.Url)
    (model : ModelId) :
    ∃ found : List Event,
      found.map Note.event = situation.world.network.next.listingNotes ++ bindingNotes model ∧
        (situation.listing url).binding model =
          ⟨{ situation.client with bound := some model },
            (situation.world.answering (situation.listingRequest url)).say
              (found.map .event)⟩ := by
  obtain ⟨found, said⟩ := Note.eq_map_event (show (situation.world.network.next.listingNotes ++
      bindingNotes model).filterMap Note.record? = [] by
    rw [List.filterMap_append, Http.Answer.filterMap_listingNotes]
    rfl)
  refine ⟨found, said.symm, ?_⟩
  rw [binding, listing, noting_noting, said, noting_map_event]
  rfl

theorem isFor_listingRequest
    {situation : Situation}
    {url : Http.Url}
    (goes : situation.listingTarget = .ok url)
    (answer : Http.Answer) :
    Http.Exchange.IsFor ⟨situation.listingRequest url, answer⟩ situation.client.config .models :=
  Http.Exchange.isFor_of_target goes answer

end Situation

/-- What a resolution gives and leaves. -/
inductive Resolution (situation : Situation) : Except Failure ModelId → Situation → Prop
  | bound
      (model : ModelId)
      (isBound : situation.client.bound = some model) :
      Resolution situation (.ok model) situation
  | refused
      (fault : TransportFault)
      (unbound : situation.client.bound = none)
      (refuses : situation.listingTarget = .error fault) :
      Resolution situation (.error (.requestFailed fault)) situation
  | failed
      (url : Http.Url)
      (failure : Failure)
      (unbound : situation.client.bound = none)
      (goes : situation.listingTarget = .ok url)
      (fails : situation.world.network.next.resolution url = .error failure) :
      Resolution situation (.error failure) (situation.listing url)
  | found
      (url : Http.Url)
      (model : ModelId)
      (unbound : situation.client.bound = none)
      (goes : situation.listingTarget = .ok url)
      (finds : situation.world.network.next.resolution url = .ok model) :
      Resolution situation (.ok model) ((situation.listing url).binding model)

namespace Client

/-- Listing the models: a refusal, or one exchange whose answer is read. -/
theorem listModels_apply (situation : Situation) :
    listModels situation =
      match situation.listingTarget with
      | .error fault => (.error (.requestFailed fault), situation)
      | .ok url =>
        match situation.world.network.next with
        | .dropped => (.error (.requestFailed (.dropped url.text)), situation.listing url)
        | .reply given =>
          ((Operation.contentOf (Listing.read KnowledgeModel.schema.read) given).map
              Listing.results,
            situation.listing url) := by
  have sends : Operation.send .get modelsPath .nothing =
      Operation.sendAny Call.models.method Call.models.path (some .nothing) := rfl
  unfold listModels Situation.listing
  rw [sends, Operation.bind_apply, Operation.sendAny_call, Situation.listingTarget]
  cases situation.world.target (situation.client.config.address .models) (some .nothing) with
  | error fault => rfl
  | ok url =>
      cases situation.world.network.next with
      | dropped => rfl
      | reply given =>
          simp only [Http.Answer.received, Http.Answer.listingNotes, Http.Reply.listingNotes]
          rw [Operation.bind_apply, Operation.readReply_apply]
          cases Operation.contentOf (Listing.read KnowledgeModel.schema.read) given <;> rfl

/-- Binding to the first model of the list, by where the request goes and what the
answer to it says. -/
theorem bindFirst_apply (situation : Situation) :
    bindFirst situation =
      match situation.listingTarget with
      | .error fault => (.error (.requestFailed fault), situation)
      | .ok url =>
        match situation.world.network.next.resolution url with
        | .error failure => (.error failure, situation.listing url)
        | .ok model => (.ok model, (situation.listing url).binding model) := by
  unfold bindFirst
  rw [Operation.bind_apply, listModels_apply]
  cases situation.listingTarget with
  | error fault => rfl
  | ok url =>
      cases situation.world.network.next with
      | dropped => rfl
      | reply given =>
          simp only [Http.Answer.resolution]
          cases Operation.contentOf (Listing.read KnowledgeModel.schema.read) given with
          | error failure => rfl
          | ok listing =>
              simp only [Except.map]
              cases listing.results <;> rfl

theorem resolve_of_bound
    {situation : Situation}
    {model : ModelId}
    (isBound : situation.client.bound = some model) :
    resolve situation = (.ok model, situation) := by
  unfold resolve
  rw [Operation.get_bind_apply, isBound]
  rfl

theorem resolve_of_unbound
    {situation : Situation}
    (unbound : situation.client.bound = none) :
    resolve situation = bindFirst situation := by
  unfold resolve
  rw [Operation.get_bind_apply, unbound]

/-- Every resolution is one of those listed. -/
theorem resolution (situation : Situation) :
    Resolution situation (resolve situation).1 (resolve situation).2 := by
  cases binding : situation.client.bound with
  | some model =>
      rw [resolve_of_bound binding]
      exact .bound model binding
  | none =>
      rw [resolve_of_unbound binding, bindFirst_apply]
      cases goes : situation.listingTarget with
      | error fault => exact .refused fault binding goes
      | ok url =>
          simp only
          cases finds : situation.world.network.next.resolution url with
          | error failure => exact .failed url failure binding goes finds
          | ok model => exact .found url model binding goes finds

end Client

/-! ## What resolutions change -/

/-- How resolutions lead from one situation to another: they send requests for the
knowledge models only, and only for a client that is not bound; an answer to one of
them lists the model that the client is bound to from then on. -/
structure Situation.Resolves
    (before : Situation)
    (listing : List Http.Exchange)
    (after : Situation) : Prop where
  config_eq : after.client.config = before.client.config
  kept : ∀ model, before.client.bound = some model → after.client.bound = some model
  exchanges_eq : after.world.exchanges = before.world.exchanges ++ listing
  asked : ∀ exchange ∈ listing,
    before.client.bound = none ∧ exchange.IsFor before.client.config .models
  gained : ∀ model, before.client.bound = none → after.client.bound = some model →
    ∃ exchange ∈ listing, exchange.answer.Lists model

namespace Situation
namespace Resolves

theorem refl (situation : Situation) : situation.Resolves [] situation where
  config_eq := rfl
  kept _ isBound := isBound
  exchanges_eq := by simp
  asked := by simp
  gained model unbound isBound := by simp [unbound] at isBound

theorem trans
    {before middle after : Situation}
    {firstListing secondListing : List Http.Exchange}
    (first : before.Resolves firstListing middle)
    (second : middle.Resolves secondListing after) :
    before.Resolves (firstListing ++ secondListing) after where
  config_eq := second.config_eq.trans first.config_eq
  kept model isBound := second.kept model (first.kept model isBound)
  exchanges_eq := by rw [second.exchanges_eq, first.exchanges_eq, List.append_assoc]
  asked exchange member := by
    rcases List.mem_append.mp member with inFirst | inSecond
    · exact first.asked exchange inFirst
    · obtain ⟨unbound, isFor⟩ := second.asked exchange inSecond
      refine ⟨?_, first.config_eq ▸ isFor⟩
      cases binding : before.client.bound with
      | none => rfl
      | some model => simp [first.kept model binding] at unbound
  gained model unbound isBound := by
    cases binding : middle.client.bound with
    | none =>
        obtain ⟨exchange, member, lists⟩ := second.gained model binding isBound
        exact ⟨exchange, List.mem_append_right _ member, lists⟩
    | some found =>
        obtain ⟨exchange, member, lists⟩ := first.gained found unbound binding
        have same : found = model :=
          Option.some.inj ((second.kept found binding).symm.trans isBound)
        exact ⟨exchange, List.mem_append_left _ member, same ▸ lists⟩

end Resolves
end Situation

namespace Resolution

variable
  {situation after : Situation}
  {outcome : Except Failure ModelId}
  {model : ModelId}
  {failure : Failure}

/-- A resolution that gives a model leaves the client bound to it. -/
theorem bound_of_ok (resolution : Resolution situation (.ok model) after) :
    after.client.bound = some model := by
  cases resolution with
  | bound _ isBound => exact isBound
  | found => rfl

theorem files_eq (resolution : Resolution situation outcome after) :
    after.world.files = situation.world.files := by
  cases resolution with
  | bound => rfl
  | refused => rfl
  | failed url => exact situation.listing_files url
  | found url => exact situation.listing_files url

/-- Only a client that is not bound fails to resolve. -/
theorem unbound_of_error (resolution : Resolution situation (.error failure) after) :
    situation.client.bound = none := by
  cases resolution with
  | refused _ unbound => exact unbound
  | failed _ _ unbound => exact unbound

/-- A resolution that fails leaves the client as it was. -/
theorem client_eq_of_error (resolution : Resolution situation (.error failure) after) :
    after.client = situation.client := by
  cases resolution <;> rfl

/-- A resolution that fails was refused before it sent anything, or sent one request
for the knowledge models, and the failure is what the answer to it is worth. -/
theorem cause_of_error (resolution : Resolution situation (.error failure) after) :
    (after.world.exchanges = situation.world.exchanges ∧
        ∃ fault, failure = .requestFailed fault) ∨
      ∃ exchange url, after.world.exchanges = situation.world.exchanges ++ [exchange] ∧
        exchange.IsFor situation.client.config .models ∧
        exchange.answer.resolution url = .error failure := by
  cases resolution with
  | refused fault => exact .inl ⟨rfl, fault, rfl⟩
  | failed url _ _ goes fails =>
      exact .inr ⟨_, url, situation.listing_exchanges url,
        Situation.isFor_listingRequest goes _, fails⟩

/-- Every resolution leads to the situation that it leaves as resolutions do. -/
theorem resolves (resolution : Resolution situation outcome after) :
    ∃ listing, situation.Resolves listing after := by
  cases resolution with
  | bound => exact ⟨[], .refl _⟩
  | refused => exact ⟨[], .refl _⟩
  | failed url _ unbound goes =>
      refine ⟨_, rfl, ?_, situation.listing_exchanges url, ?_, ?_⟩
      · simp [unbound]
      · intro exchange member
        rw [List.mem_singleton] at member
        subst member
        exact ⟨unbound, Situation.isFor_listingRequest goes _⟩
      · simp [unbound]
  | found url model unbound goes finds =>
      refine ⟨_, rfl, ?_, situation.listing_exchanges url, ?_, ?_⟩
      · simp [unbound]
      · intro exchange member
        rw [List.mem_singleton] at member
        subst member
        exact ⟨unbound, Situation.isFor_listingRequest goes _⟩
      · intro found _ isBound
        have same : model = found := Option.some.inj isBound
        subst same
        exact ⟨_, List.mem_singleton_self _, (Http.Answer.resolution_eq_ok_iff _ _ _).mp finds⟩

end Resolution

/-! ## A situation to look at -/

/-- An answer that lists one knowledge model, with the id `m`. -/
def Http.Answer.sample : Http.Answer :=
  .reply ⟨.ok, Text.encode "\x7b\"results\":[\x7b\"id\":\"m\"\x7d]\x7d", true⟩

/-- A configuration whose addresses can be sent to. -/
def Config.sample : Config :=
  ⟨"http://127.0.0.1/v1", "token", .requireSuccess⟩

/-- A world without files, with the answers that its network gives. -/
def World.sample (answers : List Http.Answer) : World :=
  ⟨.plain, .reachable answers, [], .empty [], .initial, "", []⟩

/-- A client that is not bound yet, with the answers that it gets. -/
def Situation.sample (answers : List Http.Answer) : Situation :=
  ⟨⟨.sample, none⟩, .sample answers⟩

end KnowledgeClient
