import KnowledgeClient.Proofs.Judging
import Mathlib.Data.List.Forall2

/-!
# Removing all documents

Removing all documents fails only if the model cannot be resolved or its documents
cannot be listed, and then nothing is removed.  Otherwise it asks once for the
removal of each document, in the order of the listing and whatever became of those
before, and reports every document once: as removed if its own request was answered
with a status that tells success, and else as failed.
-/

namespace KnowledgeClient

/-! ## Answers to the request for a removal -/

namespace Http

/-- The answer is a reply with a status that tells success, whatever its body. -/
def Answer.tellsSuccess : Answer → Bool
  | .reply given => given.status.isSuccess
  | .dropped => false

end Http

/-- The fault of a request for a call whose connection is dropped. -/
def Config.dropFault (config : Config) (call : Call) : TransportFault :=
  match Http.Url.read (config.address call) with
  | .ok url => .dropped url.withoutUser.text
  | .error fault => .badUrl fault

/-- Why a document was not removed, by the answer to the request for its removal. -/
def Config.removalFailure
    (config : Config)
    (model : ModelId)
    (document : String) : Http.Answer → Failure
  | .reply given => .deleteFailed document given.status
  | .dropped => .requestFailed (config.dropFault (.removal model document))

/-- The address of a call reads as a URL that requests can be sent to. -/
def Config.Accepts (config : Config) (call : Call) : Prop :=
  ∃ url, Http.Url.read (config.address call) = .ok url ∧
    url.withoutUser.isWeb = true ∧
    url.withoutUser.isAddress = true

instance (config : Config) (call : Call) : Decidable (config.Accepts call) :=
  match reading : Http.Url.read (config.address call) with
  | .ok url =>
    decidable_of_iff (url.withoutUser.isWeb = true ∧ url.withoutUser.isAddress = true)
      (by simp [Config.Accepts, reading])
  | .error _ => .isFalse (by simp [Config.Accepts, reading])

/-- The usual endpoint is one that requests can be sent below. -/
example : (Config.requiring Config.usualEndpoint "token").Accepts (.removal "m" "a") := by
  decide +kernel

namespace Client

/-! ## Single removals -/

/-- What the removal of a document gives, by the answer to its request. -/
def removalOutcome
    (config : Config)
    (model : ModelId)
    (document : String) : Http.Answer → Except Failure Unit
  | .reply given =>
    if given.status.isSuccess then .ok () else .error (.deleteFailed document given.status)
  | .dropped => .error (.requestFailed (config.dropFault (.removal model document)))

/-- A removal that goes out gives what its answer is worth; besides holding the exchange, it
notes things at most. -/
theorem removeFrom_of_target
    {situation : Situation}
    {model : ModelId}
    {document : String}
    {url : Http.Url}
    (goes : situation.world.target
      (situation.client.config.address (.removal model document)) (some .nothing) = .ok url) :
    ∃ notes, removeFrom document model situation =
      (removalOutcome situation.client.config model document situation.world.network.next,
        (situation.answering (World.requestTo situation.client.config.accessHeader .delete url
          (some .nothing))).noting notes) := by
  rw [removeFrom_calling, Situation.calling, goes]
  cases situation.world.network.next with
  | dropped =>
      obtain ⟨given, reading, rfl⟩ := World.read_of_target_eq_ok goes
      refine ⟨[], ?_⟩
      simp only [removalOutcome, Config.dropFault, reading]
      rfl
  | reply given =>
      refine ⟨documentNotes document given, ?_⟩
      simp only [removalOutcome, Call.judge, Call.accepts]
      cases given.status.isSuccess <;> rfl

/-- A removal that goes out holds one exchange, which is for it and has the next answer. -/
theorem removeFrom_of_accepts
    {situation : Situation}
    {model : ModelId}
    {document : String}
    (reachable : situation.world.network ≠ .unreachable)
    (accepts : situation.client.config.Accepts (.removal model document)) :
    ∃ exchange after,
      removeFrom document model situation =
        (removalOutcome situation.client.config model document situation.world.network.next,
          after) ∧
      after.client = situation.client ∧
      after.world.network = situation.world.network.rest ∧
      after.world.exchanges = situation.world.exchanges ++ [exchange] ∧
      exchange.IsFor situation.client.config (.removal model document) ∧
      exchange.answer = situation.world.network.next := by
  obtain ⟨url, reading, isWeb, isAddress⟩ := accepts
  have goes := World.target_eq_ok reading isWeb isAddress reachable .nothing
  obtain ⟨notes, removes⟩ := removeFrom_of_target goes
  have network := World.answering_network reachable
    (World.requestTo situation.client.config.accessHeader .delete url.withoutUser (some .nothing))
  refine ⟨_, _, removes, rfl, ?_, ?_, Http.Exchange.isFor_of_target goes _, rfl⟩
  · rw [Situation.noting_network]
    exact network
  · rw [Situation.noting_exchanges]
    rfl

/-- The outcome of a removal is success or the failure that its answer is worth. -/
theorem removalOutcome_eq
    (config : Config)
    (model : ModelId)
    (document : String)
    (answer : Http.Answer) :
    removalOutcome config model document answer =
      if answer.tellsSuccess = true then .ok ()
      else .error (config.removalFailure model document answer) := by
  cases answer <;> rfl

end Client

/-! ## Reports -/

/-- Documents were asked to be removed, each by one exchange, and the report tells what
their answers are worth. -/
structure Config.Removes
    (config : Config)
    (model : ModelId)
    (documents : List String)
    (answers : List Http.Answer)
    (held : List Http.Exchange)
    (report : RemovalReport) : Prop where
  /-- The exchanges are for the removals of the documents, one for each, in their order. -/
  asked : List.Forall₂ (fun exchange document => exchange.IsFor config (.removal model document))
    held documents
  /-- The exchanges have the answers, in their order. -/
  answered : held.map (·.answer) = answers
  /-- The documents whose answers tell success are removed. -/
  removed : report.removed =
    ((documents.zip answers).filter (·.2.tellsSuccess)).map (·.1)
  /-- The other documents have failed, with what their answers are worth. -/
  failed : report.failed =
    ((documents.zip answers).filter (!·.2.tellsSuccess)).map
      fun pair => (pair.1, config.removalFailure model pair.1 pair.2)

namespace Config
namespace Removes

variable
  {config : Config}
  {model : ModelId}
  {document : String}
  {documents : List String}
  {answer : Http.Answer}
  {answers : List Http.Answer}
  {exchange : Http.Exchange}
  {held : List Http.Exchange}
  {report : RemovalReport}

theorem nil : config.Removes model [] [] [] .empty where
  asked := .nil
  answered := rfl
  removed := rfl
  failed := rfl

/-- A report on some documents, told of one more, is the report on all of them. -/
theorem cons
    (isFor : exchange.IsFor config (.removal model document))
    (hasAnswer : exchange.answer = answer)
    (removes : config.Removes model documents answers held report) :
    config.Removes model (document :: documents) (answer :: answers) (exchange :: held)
      (report.telling document (Client.removalOutcome config model document answer)) where
  asked := .cons isFor removes.asked
  answered := by rw [List.map_cons, hasAnswer, removes.answered]
  removed := by
    rw [Client.removalOutcome_eq, List.zip_cons_cons, List.filter_cons]
    cases answer.tellsSuccess with
    | true => exact congrArg (document :: ·) removes.removed
    | false => exact removes.removed
  failed := by
    rw [Client.removalOutcome_eq, List.zip_cons_cons, List.filter_cons]
    cases answer.tellsSuccess with
    | true => exact removes.failed
    | false =>
        exact congrArg ((document, config.removalFailure model document answer) :: ·) removes.failed

theorem length_answers (removes : config.Removes model documents answers held report) :
    answers.length = documents.length := by
  rw [← removes.answered, List.length_map, removes.asked.length_eq]

/-- Every document is reported once. -/
theorem length_report (removes : config.Removes model documents answers held report) :
    report.removed.length + report.failed.length = documents.length := by
  have zipped : (documents.zip answers).length = documents.length := by
    rw [List.length_zip, removes.length_answers, Nat.min_self]
  rw [removes.removed, removes.failed, List.length_map, List.length_map, ← zipped]
  exact (List.length_eq_length_filter_add _).symm

/-- The removal is complete exactly if every answer tells success. -/
theorem isComplete_iff (removes : config.Removes model documents answers held report) :
    report.isComplete = true ↔ ∀ answer ∈ answers, answer.tellsSuccess = true := by
  have answers_eq : answers = (documents.zip answers).map (·.2) :=
    (List.map_snd_zip (Nat.le_of_eq removes.length_answers)).symm
  rw [RemovalReport.isComplete, removes.failed, List.isEmpty_iff, List.map_eq_nil_iff,
    List.filter_eq_nil_iff]
  constructor
  · intro all answer member
    rw [answers_eq] at member
    obtain ⟨pair, inZip, rfl⟩ := List.mem_map.mp member
    simpa using all pair inZip
  · intro all pair inZip
    have member : pair.2 ∈ answers := (List.of_mem_zip inZip).2
    simp [all pair.2 member]

end Removes
end Config

/-! ## Runs of removals -/

/-- Only requests that read were sent from the first situation to the second. -/
def Situation.Reads (before after : Situation) : Prop :=
  ∃ held, after.world.exchanges = before.world.exchanges ++ held ∧
    ∀ exchange ∈ held, exchange.request.method = .get

namespace Client

open Operation

/-- Removals that go out hold one exchange each, with the answers in their order. -/
theorem removals_of_accepts
    {situation : Situation}
    {model : ModelId}
    {documents : List String}
    (reachable : situation.world.network ≠ .unreachable)
    (accepts : ∀ document ∈ documents,
      situation.client.config.Accepts (.removal model document)) :
    ∃ held,
      (removals (removeFrom · model) documents situation).2.world.exchanges =
        situation.world.exchanges ++ held ∧
      situation.client.config.Removes model documents
        (situation.world.network.upcoming documents.length) held
        (removals (removeFrom · model) documents situation).1 := by
  induction documents generalizing situation with
  | nil => exact ⟨[], by simp, .nil⟩
  | cons document documents inductionHypothesis =>
      obtain ⟨exchange, after, removes, client, network, exchanges, isFor, hasAnswer⟩ :=
        removeFrom_of_accepts reachable (accepts document List.mem_cons_self)
      have stillReachable : after.world.network ≠ .unreachable := by
        rw [network, ne_eq, Http.Network.rest_eq_unreachable_iff]
        exact reachable
      have stillAccepts : ∀ later ∈ documents,
          after.client.config.Accepts (.removal model later) := by
        intro later member
        rw [client]
        exact accepts later (List.mem_cons_of_mem document member)
      obtain ⟨held, heldExchanges, heldRemoves⟩ :=
        inductionHypothesis stillReachable stillAccepts
      rw [removals_cons, removes]
      refine ⟨exchange :: held, ?_, ?_⟩
      · rw [heldExchanges, exchanges, List.append_assoc, List.singleton_append]
      · rw [client, network] at heldRemoves
        rw [List.length_cons, Http.Network.upcoming_succ]
        exact .cons isFor hasAnswer heldRemoves

/-- Documents are listed only over a network that can be reached. -/
theorem reachable_of_documentsOf
    (model : ModelId)
    (situation : Situation)
    {documents : List Document}
    (lists : (documentsOf model situation).1 = .ok documents) :
    (documentsOf model situation).2.world.network ≠ .unreachable := by
  unfold documentsOf send at lists ⊢
  rw [bind_apply] at lists ⊢
  rcases sends : sendAny .get (documentsPath model) (some .nothing) situation with
    ⟨failure | given, sent⟩
  · rw [sends] at lists
    cases lists
  · rw [sends] at lists
    simp only [bind_apply, readReply_apply] at lists ⊢
    cases content : contentOf (Listing.read Document.schema.read) given with
    | error failure =>
        rw [content] at lists
        cases lists
    | ok listing => exact reachable_of_sendAny_eq_ok sends

/-- Listing the documents only sends requests that read; if it succeeds, the client is
bound and the network can be reached. -/
theorem listDocuments_reads (situation : Situation) :
    situation.Reads (listDocuments situation).2 ∧
      ∀ documents, (listDocuments situation).1 = .ok documents →
        (∃ model, (listDocuments situation).2.client.bound = some model) ∧
          (listDocuments situation).2.world.network ≠ .unreachable := by
  have resolution := Client.resolution situation
  obtain ⟨listing, resolves⟩ := resolution.resolves
  have listingReads : ∀ exchange ∈ listing, exchange.request.method = .get := by
    intro exchange member
    obtain ⟨_, _, _, method, _⟩ := resolves.asked exchange member
    exact method
  rcases resolved : resolve situation with ⟨failure | model, after⟩
  · have fails : listDocuments situation = (.error failure, after) :=
      bind_of_error resolved documentsOf
    rw [resolved] at resolves
    rw [fails]
    refine ⟨⟨listing, resolves.exchanges_eq, listingReads⟩, ?_⟩
    intro documents succeeds
    cases succeeds
  · have goesOn : listDocuments situation = documentsOf model after :=
      bind_of_ok resolved documentsOf
    rw [resolved] at resolution resolves
    obtain ⟨client, own, exchanges, asks⟩ := documentsOf_asks model after
    rw [goesOn]
    refine ⟨⟨listing ++ own, ?_, ?_⟩, ?_⟩
    · rw [exchanges, resolves.exchanges_eq, List.append_assoc]
    · intro exchange member
      rcases List.mem_append.mp member with inListing | inOwn
      · exact listingReads exchange inListing
      · obtain ⟨_, rfl, _, _, method, _⟩ := asks exchange inOwn
        exact method
    · intro documents succeeds
      have reachable := reachable_of_documentsOf model after succeeds
      rw [client]
      exact ⟨⟨model, resolution.bound_of_ok⟩, reachable⟩

/-- If the documents cannot be listed, their removal ends there. -/
theorem removeAllDocuments_of_unlisted
    {situation listed : Situation}
    {failure : Failure}
    (fails : listDocuments situation = (.error failure, listed)) :
    removeAllDocuments situation = (.error failure, listed) := by
  unfold removeAllDocuments
  rw [bind_of_error fails]

/-- Once the documents are listed, a client that is bound reports their removals. -/
theorem removeAllDocuments_of_listed
    {situation listed : Situation}
    {documents : List Document}
    {model : ModelId}
    (lists : listDocuments situation = (.ok documents, listed))
    (isBound : listed.client.bound = some model) :
    removeAllDocuments situation =
      (.ok (removals (removeFrom · model) (documents.map (·.id)) listed).1,
        (removals (removeFrom · model) (documents.map (·.id)) listed).2.noting
          (removalNotes (removals (removeFrom · model) (documents.map (·.id)) listed).1)) := by
  unfold removeAllDocuments
  rw [bind_of_ok lists, bind_of_ok (removeEach_apply _ _ _), removals_of_bound isBound]
  rfl

theorem removals_client
    (model : ModelId)
    (documents : List String)
    (situation : Situation) :
    (removals (removeFrom · model) documents situation).2.client = situation.client := by
  have asks : (removeEach (removeFrom · model) documents).Asks (fun _ => True) :=
    removeEach_asks
      (fun document => Asks.mono (removeFrom_asks document model) fun _ _ => trivial) _
  have client := (asks situation).1
  rw [removeEach_apply] at client
  exact client

/-- Removing all documents fails only with the failure of resolving the model or of
listing its documents, after nothing but requests that read.  Otherwise it gives a
report, and if requests can be sent to the documents' addresses, it sends one for each
listed document, in their order, whatever their answers, and each document is reported
once, by its own answer. -/
theorem removeAllDocuments_reports (situation : Situation) :
    (∀ failure, (resolve situation).1 = .error failure ∨
        (listDocuments situation).1 = .error failure →
      (removeAllDocuments situation).1 = .error failure ∧
        situation.Reads (removeAllDocuments situation).2) ∧
    ∀ documents listed, listDocuments situation = (.ok documents, listed) →
      situation.Reads listed ∧
      ∃ model report after,
        listed.client.bound = some model ∧
        removeAllDocuments situation = (.ok report, after) ∧
        after.client = listed.client ∧
        ((∀ document ∈ documents,
            listed.client.config.Accepts (.removal model document.id)) →
          ∃ held,
            after.world.exchanges = listed.world.exchanges ++ held ∧
            listed.client.config.Removes model (documents.map (·.id))
              (listed.world.network.upcoming documents.length) held report ∧
            report.removed.length + report.failed.length = documents.length ∧
            (report.isComplete = true ↔
              ∀ answer ∈ listed.world.network.upcoming documents.length,
                answer.tellsSuccess = true)) := by
  obtain ⟨reads, binds⟩ := listDocuments_reads situation
  constructor
  · intro failure fails
    have listingFails : (listDocuments situation).1 = .error failure := by
      rcases fails with unresolved | unlisted
      · unfold listDocuments
        rw [bind_of_error (Prod.ext unresolved rfl)]
      · exact unlisted
    rw [removeAllDocuments_of_unlisted (Prod.ext listingFails rfl)]
    exact ⟨rfl, reads⟩
  · intro documents listed lists
    rw [lists] at reads binds
    obtain ⟨⟨model, isBound⟩, reachable⟩ := binds documents rfl
    refine ⟨reads, model, _, _, isBound, removeAllDocuments_of_listed lists isBound,
      removals_client model _ listed, ?_⟩
    intro accepts
    have allAccept : ∀ id ∈ documents.map (·.id),
        listed.client.config.Accepts (.removal model id) := by
      intro id member
      obtain ⟨document, listedDocument, rfl⟩ := List.mem_map.mp member
      exact accepts document listedDocument
    obtain ⟨held, exchanges, removes⟩ := removals_of_accepts reachable allAccept
    rw [List.length_map] at removes
    refine ⟨held, (Situation.noting_exchanges _ _).trans exchanges, removes, ?_,
      removes.isComplete_iff⟩
    rw [removes.length_report, List.length_map]

/-- An answer that lists the document `a`. -/
def sampleListing : Http.Answer :=
  .reply ⟨.ok, Text.encode "\x7b\"results\":[\x7b\"id\":\"a\",\"filename\":\"\"\x7d]\x7d", true⟩

/-- A client that is bound to the model `m` and gets the listing; the removal is
answered with success, by a body that is cut off. -/
def sampleRemoval : Situation :=
  (Situation.sample [sampleListing, .reply ⟨.ok, [], false⟩]).binding "m"

/-- The document `a`. -/
def sampleDocuments : List Document :=
  [⟨"a", "", false, .pending⟩]

theorem listDocuments_sampleRemoval :
    (listDocuments sampleRemoval).1.toOption = some sampleDocuments ∧
      (listDocuments sampleRemoval).2.client = ⟨.sample, some "m"⟩ ∧
      (listDocuments sampleRemoval).2.world.network =
        .reachable [.reply ⟨.ok, [], false⟩] ∧
      ∀ document ∈ sampleDocuments, Config.sample.Accepts (.removal "m" document.id) := by
  decide +kernel

/-- The document whose removal was answered with success is removed. -/
theorem removeAllDocuments_reports_sample :
    ∃ report after,
      removeAllDocuments sampleRemoval = (.ok report, after) ∧
      report.removed = ["a"] ∧ report.isComplete = true := by
  have facts := listDocuments_sampleRemoval
  rcases lists : listDocuments sampleRemoval with ⟨failure | documents, listed⟩
  · rw [lists] at facts
    cases facts.1
  · rw [lists] at facts
    obtain ⟨isListed, client, network, accepts⟩ := facts
    obtain rfl := Option.some.inj isListed
    obtain ⟨_, model, report, after, isBound, removes, _, reported⟩ :=
      (removeAllDocuments_reports sampleRemoval).2 sampleDocuments listed lists
    rw [client] at isBound reported
    obtain rfl := Option.some.inj isBound
    obtain ⟨held, _, outcome, _, complete⟩ := reported accepts
    refine ⟨report, after, removes, ?_, ?_⟩
    · rw [outcome.removed, network]
      rfl
    · rw [complete, network]
      decide

end Client
end KnowledgeClient
