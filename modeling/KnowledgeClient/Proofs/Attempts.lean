import KnowledgeClient.Proofs.Resolution

/-!
# Resolutions one after the other

A client that is not bound may be resolved many times in a row.  Resolutions fail,
each with what its own answer is worth, until an answer lists a model; from then on
every resolution gives that model and no request is sent.
-/

namespace KnowledgeClient

/-! ## Requests for the models in a row -/

namespace Situation

/-- The situation after a number of requests for the knowledge models were answered. -/
def listings (url : Http.Url) : Nat → Situation → Situation
  | 0, situation => situation
  | count + 1, situation => listings url count (situation.listing url)

@[simp] theorem listings_zero
    (url : Http.Url)
    (situation : Situation) :
    situation.listings url 0 = situation := rfl

@[simp] theorem listings_succ
    (url : Http.Url)
    (count : Nat)
    (situation : Situation) :
    situation.listings url (count + 1) = (situation.listing url).listings url count := rfl

theorem listings_succ_last
    (url : Http.Url)
    (count : Nat)
    (situation : Situation) :
    situation.listings url (count + 1) = (situation.listings url count).listing url := by
  induction count generalizing situation with
  | zero => rfl
  | succ count inductionHypothesis =>
      rw [listings_succ, inductionHypothesis, listings_succ]

@[simp] theorem listings_client
    (url : Http.Url)
    (count : Nat)
    (situation : Situation) :
    (situation.listings url count).client = situation.client := by
  induction count generalizing situation with
  | zero => rfl
  | succ count inductionHypothesis =>
      rw [listings_succ, inductionHypothesis, listing_client]

variable {situation : Situation} {url : Http.Url}

theorem listings_listingTarget
    (goes : situation.listingTarget = .ok url)
    (count : Nat) :
    (situation.listings url count).listingTarget = .ok url := by
  induction count generalizing situation with
  | zero => exact goes
  | succ count inductionHypothesis => exact inductionHypothesis (listing_listingTarget goes)

theorem listings_answer
    (goes : situation.listingTarget = .ok url)
    (count position : Nat) :
    (situation.listings url count).world.network.answer position =
      situation.world.network.answer (count + position) := by
  induction count generalizing situation with
  | zero => simp
  | succ count inductionHypothesis =>
      have shifted : count + position + 1 = count + 1 + position := by omega
      rw [listings_succ, inductionHypothesis (listing_listingTarget goes), listing_network goes,
        Http.Network.rest_answer, shifted]

/-- Requests in a row hold one exchange each, with the answers in their order. -/
theorem listings_exchanges
    (goes : situation.listingTarget = .ok url)
    (count : Nat) :
    (situation.listings url count).world.exchanges =
      situation.world.exchanges ++
        (situation.world.network.upcoming count).map (⟨situation.listingRequest url, ·⟩) := by
  induction count generalizing situation with
  | zero => simp
  | succ count inductionHypothesis =>
      have request : (situation.listing url).listingRequest url =
          situation.listingRequest url := rfl
      rw [listings_succ, inductionHypothesis (listing_listingTarget goes), listing_exchanges,
        listing_network goes, request, Http.Network.upcoming_succ]
      simp

end Situation

/-! ## Many resolutions -/

namespace Client

/-- What a number of resolutions one after the other give, and the situation they leave. -/
def resolutions : Nat → Situation → List (Except Failure ModelId) × Situation
  | 0, situation => ([], situation)
  | count + 1, situation =>
    ((resolve situation).1 :: (resolutions count (resolve situation).2).1,
      (resolutions count (resolve situation).2).2)

@[simp] theorem resolutions_zero (situation : Situation) :
    resolutions 0 situation = ([], situation) := rfl

theorem resolutions_succ
    (count : Nat)
    (situation : Situation) :
    resolutions (count + 1) situation =
      ((resolve situation).1 :: (resolutions count (resolve situation).2).1,
        (resolutions count (resolve situation).2).2) := rfl

/-- Resolving many times never fails as a whole. -/
theorem resolveMany_apply
    (count : Nat)
    (situation : Situation) :
    resolveMany count situation =
      (.ok (resolutions count situation).1, (resolutions count situation).2) := by
  induction count generalizing situation with
  | zero => rfl
  | succ count inductionHypothesis =>
      unfold resolveMany
      rw [Operation.bind_of_ok (Operation.attempt_apply _ _),
        Operation.bind_of_ok (inductionHypothesis _)]
      rfl

@[simp] theorem length_resolutions
    (count : Nat)
    (situation : Situation) :
    (resolutions count situation).1.length = count := by
  induction count generalizing situation with
  | zero => rfl
  | succ count inductionHypothesis => simp [resolutions_succ, inductionHypothesis]

/-- Any number of resolutions leads to the situation that it leaves as resolutions do. -/
theorem resolutions_resolves
    (count : Nat)
    (situation : Situation) :
    ∃ listing, situation.Resolves listing (resolutions count situation).2 := by
  induction count generalizing situation with
  | zero => exact ⟨[], .refl situation⟩
  | succ count inductionHypothesis =>
      obtain ⟨firstListing, first⟩ := (resolution situation).resolves
      obtain ⟨furtherListing, further⟩ := inductionHypothesis (resolve situation).2
      exact ⟨firstListing ++ furtherListing, first.trans further⟩

/-- Each of many resolutions is a resolution in the situation that those before it leave. -/
theorem resolution_of_resolutions
    {position count : Nat}
    (before : position < count)
    (situation : Situation) :
    ∃ outcome, (resolutions count situation).1[position]? = some outcome ∧
      Resolution (resolutions position situation).2 outcome
        (resolutions (position + 1) situation).2 := by
  induction position generalizing count situation with
  | zero =>
      cases count with
      | zero => omega
      | succ count => exact ⟨_, rfl, resolution situation⟩
  | succ position inductionHypothesis =>
      cases count with
      | zero => omega
      | succ count =>
          exact inductionHypothesis (by omega) (resolve situation).2

theorem resolutions_add
    (first second : Nat)
    (situation : Situation) :
    resolutions (first + second) situation =
      ((resolutions first situation).1 ++
          (resolutions second (resolutions first situation).2).1,
        (resolutions second (resolutions first situation).2).2) := by
  induction first generalizing situation with
  | zero => simp
  | succ first inductionHypothesis =>
      rw [Nat.succ_add, resolutions_succ, inductionHypothesis, resolutions_succ]
      rfl

theorem resolutions_succ_last
    (count : Nat)
    (situation : Situation) :
    resolutions (count + 1) situation =
      ((resolutions count situation).1 ++ [(resolve (resolutions count situation).2).1],
        (resolve (resolutions count situation).2).2) := by
  rw [resolutions_add]
  rfl

variable {situation : Situation} {url : Http.Url} {model : ModelId}

/-- Every resolution of a client that is bound gives its model and does nothing. -/
theorem resolutions_of_bound
    (isBound : situation.client.bound = some model)
    (count : Nat) :
    resolutions count situation = (List.replicate count (.ok model), situation) := by
  induction count with
  | zero => rfl
  | succ count inductionHypothesis =>
      rw [resolutions_succ, resolve_of_bound isBound, inductionHypothesis]
      rfl

/-- Where the request for the models is refused, every resolution fails alike and
does nothing. -/
theorem resolutions_of_refused
    {fault : TransportFault}
    (unbound : situation.client.bound = none)
    (refused : situation.listingTarget = .error fault)
    (count : Nat) :
    resolutions count situation =
      (List.replicate count (.error (.requestFailed fault)), situation) := by
  induction count with
  | zero => rfl
  | succ count inductionHypothesis =>
      rw [resolutions_succ, resolve_of_unbound unbound, bindFirst_apply, refused]
      simp only [inductionHypothesis]
      rfl

/-- As long as no answer lists a model, every resolution fails with what its own
answer is worth, and the client stays as it is. -/
theorem resolutions_of_failing
    (unbound : situation.client.bound = none)
    (goes : situation.listingTarget = .ok url)
    (count : Nat)
    (failing : ∀ position < count, ∃ failure,
      (situation.world.network.answer position).resolution url = .error failure) :
    resolutions count situation =
      ((situation.world.network.upcoming count).map (·.resolution url),
        situation.listings url count) := by
  induction count with
  | zero => rfl
  | succ count inductionHypothesis =>
      have earlier := inductionHypothesis fun position before => failing position (by omega)
      obtain ⟨failure, fails⟩ := failing count (by omega)
      have last : resolve (situation.listings url count) =
          (.error failure, (situation.listings url count).listing url) := by
        rw [resolve_of_unbound (by rw [Situation.listings_client, unbound]), bindFirst_apply,
          Situation.listings_listingTarget goes]
        simp only [Http.Network.next, Situation.listings_answer goes, Nat.add_zero, fails]
      rw [resolutions_succ_last, earlier, last, Situation.listings_succ_last]
      simp [Http.Network.upcoming, List.range_succ, fails]

/-- The first answer that lists a model binds the client to it; every resolution from
that one on gives the model, and no further request is sent. -/
theorem resolutions_of_found
    (unbound : situation.client.bound = none)
    (goes : situation.listingTarget = .ok url)
    (position : Nat)
    (failing : ∀ earlier < position, ∃ failure,
      (situation.world.network.answer earlier).resolution url = .error failure)
    (finds : (situation.world.network.answer position).resolution url = .ok model)
    (further : Nat) :
    resolutions (position + (1 + further)) situation =
      ((situation.world.network.upcoming position).map (·.resolution url) ++
          List.replicate (1 + further) (.ok model),
        (situation.listings url (position + 1)).binding model) := by
  have found : resolve (situation.listings url position) =
      (.ok model, (situation.listings url (position + 1)).binding model) := by
    rw [resolve_of_unbound (by rw [Situation.listings_client, unbound]), bindFirst_apply,
      Situation.listings_listingTarget goes]
    simp only [Http.Network.next, Situation.listings_answer goes, Nat.add_zero, finds,
      Situation.listings_succ_last]
  have rest : resolutions (1 + further) (situation.listings url position) =
      (List.replicate (1 + further) (.ok model),
        (situation.listings url (position + 1)).binding model) := by
    rw [Nat.add_comm 1, resolutions_succ, found,
      resolutions_of_bound (Situation.binding_bound _ model)]
    rfl
  rw [resolutions_add, resolutions_of_failing unbound goes position failing, rest]

end Client

/-! ## What many resolutions come to -/

/-- From the first situation to the second, a number of requests for the knowledge models
were sent and got the next answers. -/
def Situation.AsksForModels (before : Situation) (count : Nat) (after : Situation) : Prop :=
  ∃ held, after.world.exchanges = before.world.exchanges ++ held ∧
    held.length = count ∧
    (∀ exchange ∈ held, exchange.IsFor before.client.config .models) ∧
    held.map (·.answer) = before.world.network.upcoming count

theorem Situation.listings_asksForModels
    {situation : Situation}
    {url : Http.Url}
    (goes : situation.listingTarget = .ok url)
    (count : Nat) :
    situation.AsksForModels count (situation.listings url count) := by
  refine ⟨_, situation.listings_exchanges goes count, by simp, ?_, ?_⟩
  · intro exchange member
    obtain ⟨answer, _, rfl⟩ := List.mem_map.mp member
    exact isFor_listingRequest goes answer
  · rw [List.map_map]
    exact List.map_id _

/-- What a number of resolutions come to whose requests go out to a URL, by the first of
the next answers that lists a model. -/
structure Situation.Attempted
    (before : Situation)
    (url : Http.Url)
    (count : Nat)
    (outcomes : List (Except Failure ModelId))
    (after : Situation) : Prop where
  /-- Each answer before the one that lists a model makes one resolution fail; all other
  resolutions give the model, the client is bound to it, and no more is asked. -/
  found : ∀ position < count, ∀ model,
    (∀ earlier < position, ∀ other, ¬ (before.world.network.answer earlier).Lists other) →
    (before.world.network.answer position).Lists model →
      ∃ failures : List Failure,
        (before.world.network.upcoming position).map (·.resolution url) =
          failures.map .error ∧
        outcomes = failures.map .error ++ List.replicate (count - position) (.ok model) ∧
        before.AsksForModels (position + 1) after ∧
        after.client.bound = some model
  /-- If none of the answers lists a model, each makes one resolution fail. -/
  failed : (∀ position < count, ∀ model,
      ¬ (before.world.network.answer position).Lists model) →
    ∃ failures : List Failure,
      (before.world.network.upcoming count).map (·.resolution url) = failures.map .error ∧
      outcomes = failures.map .error ∧
      before.AsksForModels count after ∧
      after.client.bound = none

/-- An answer that lists no model makes a resolution fail. -/
theorem Http.Answer.exists_failure
    {answer : Answer}
    (url : Url)
    (listsNone : ∀ model, ¬ answer.Lists model) :
    ∃ failure, answer.resolution url = .error failure := by
  cases result : answer.resolution url with
  | error failure => exact ⟨failure, rfl⟩
  | ok model => exact absurd ((resolution_eq_ok_iff url answer model).mp result) (listsNone model)

/-- Answers that list no model make as many resolutions fail. -/
theorem Http.Network.exists_failures
    {network : Network}
    (url : Url)
    {count : Nat}
    (failing : ∀ position < count, ∃ failure,
      (network.answer position).resolution url = .error failure) :
    ∃ failures : List Failure,
      (network.upcoming count).map (·.resolution url) = failures.map .error := by
  induction count with
  | zero => exact ⟨[], rfl⟩
  | succ count inductionHypothesis =>
      obtain ⟨failures, earlier⟩ := inductionHypothesis fun position before =>
        failing position (by omega)
      obtain ⟨failure, fails⟩ := failing count (by omega)
      refine ⟨failures ++ [failure], ?_⟩
      rw [List.map_append, ← earlier]
      simp [upcoming, List.range_succ, fails]

/-- Resolutions of a client that is not bound come to this. -/
theorem Client.resolutions_attempted
    {situation : Situation}
    {url : Http.Url}
    (unbound : situation.client.bound = none)
    (goes : situation.listingTarget = .ok url)
    (count : Nat) :
    situation.Attempted url count (resolutions count situation).1
      (resolutions count situation).2 where
  found position before model listsNone lists := by
    have failing : ∀ earlier < position, ∃ failure,
        (situation.world.network.answer earlier).resolution url = .error failure :=
      fun earlier isEarlier => Http.Answer.exists_failure url (listsNone earlier isEarlier)
    have finds := (Http.Answer.resolution_eq_ok_iff url _ model).mpr lists
    obtain ⟨failures, fails⟩ := Http.Network.exists_failures url failing
    obtain ⟨further, rfl⟩ : ∃ further, count = position + (1 + further) :=
      ⟨count - position - 1, by omega⟩
    have others : position + (1 + further) - position = 1 + further := by omega
    rw [resolutions_of_found unbound goes position failing finds, fails, others]
    exact ⟨failures, rfl, rfl, Situation.listings_asksForModels goes (position + 1), rfl⟩
  failed listsNone := by
    have failing : ∀ position < count, ∃ failure,
        (situation.world.network.answer position).resolution url = .error failure :=
      fun position before => Http.Answer.exists_failure url (listsNone position before)
    obtain ⟨failures, fails⟩ := Http.Network.exists_failures url failing
    rw [resolutions_of_failing unbound goes count failing, fails]
    refine ⟨failures, rfl, rfl, Situation.listings_asksForModels goes count, ?_⟩
    simp only [Situation.listings_client, unbound]

end KnowledgeClient
