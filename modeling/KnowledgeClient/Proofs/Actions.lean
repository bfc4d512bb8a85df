import KnowledgeClient.Proofs.Coupling

/-!
# Actions and the model they are about

Most actions resolve the model first and then do one thing with it.  This module
writes these actions in that form and tells, for every action, which exchanges it
may hold: requests for the list of models while the client is not bound, and then
requests for the action's own calls, about the model that the client is bound to
when the action ends.
-/

namespace KnowledgeClient

/-! ## Removing documents one after the other -/

namespace Client

/-- What removing documents one after the other reports, and the situation it leaves. -/
def removals (remove : String → Operation Unit) :
    List String → Situation → RemovalReport × Situation
  | [], situation => (.empty, situation)
  | document :: documents, situation =>
    let (outcome, after) := remove document situation
    let (report, last) := removals remove documents after
    (report.telling document outcome, last)

@[simp] theorem removals_nil
    (remove : String → Operation Unit)
    (situation : Situation) :
    removals remove [] situation = (.empty, situation) := rfl

theorem removals_cons
    (remove : String → Operation Unit)
    (document : String)
    (documents : List String)
    (situation : Situation) :
    removals remove (document :: documents) situation =
      ((removals remove documents (remove document situation).2).1.telling document
          (remove document situation).1,
        (removals remove documents (remove document situation).2).2) := rfl

/-- Removing documents one after the other never fails as a whole. -/
theorem removeEach_apply
    (remove : String → Operation Unit)
    (documents : List String)
    (situation : Situation) :
    removeEach remove documents situation =
      (.ok (removals remove documents situation).1, (removals remove documents situation).2) := by
  induction documents generalizing situation with
  | nil => rfl
  | cons document documents inductionHypothesis =>
      unfold removeEach
      rw [Operation.bind_of_ok (Operation.attempt_apply _ _),
        Operation.bind_of_ok (inductionHypothesis _)]
      rfl

theorem removeEach_asks
    {calls : Call → Prop}
    {remove : String → Operation Unit}
    (asks : ∀ document, (remove document).Asks calls)
    (documents : List String) :
    (removeEach remove documents).Asks calls := by
  induction documents with
  | nil => exact Operation.Asks.pure _
  | cons document documents inductionHypothesis =>
      unfold removeEach
      refine Operation.Asks.bind (Operation.Asks.attempt (asks document)) fun outcome => ?_
      exact Operation.Asks.bind inductionHypothesis fun report => Operation.Asks.pure _

/-- What is noted of a removal of documents that is over. -/
def removalNotes (report : RemovalReport) : List Note :=
  [.ofClient .info "bulk document removal finished"
    [("removed", .number report.removed.length), ("failed", .number report.failed.length)]]

theorem announceRemoval_apply
    (report : RemovalReport)
    (situation : Situation) :
    announceRemoval report situation =
      (.ok report, situation.noting (removalNotes report)) := rfl

theorem announceRemoval_asks
    {calls : Call → Prop}
    (report : RemovalReport) :
    (announceRemoval report).Asks calls := by
  unfold announceRemoval
  exact Operation.Asks.bind (Operation.Asks.tell _ _ _) fun _ => Operation.Asks.pure _

theorem announceRemoval_agree
    {related : Situation → Situation → Prop}
    (carried : Operation.Carried related)
    (report : RemovalReport) :
    Operation.Agree related (announceRemoval report) (announceRemoval report) := by
  unfold announceRemoval
  exact Operation.Agree.bind (carried.tell _ _ _) fun _ => Operation.Agree.pure _

theorem removeEach_agree
    {related : Situation → Situation → Prop}
    {remove : String → Operation Unit}
    (agree : ∀ document, Operation.Agree related (remove document) (remove document))
    (documents : List String) :
    Operation.Agree related (removeEach remove documents) (removeEach remove documents) := by
  induction documents with
  | nil => exact Operation.Agree.pure _
  | cons document documents inductionHypothesis =>
      unfold removeEach
      refine Operation.Agree.bind (Operation.Agree.attempt (agree document)) fun outcome => ?_
      exact Operation.Agree.bind inductionHypothesis fun report => Operation.Agree.pure _

/-- A client that is bound removes from its model. -/
theorem removeDocument_of_bound
    {situation : Situation}
    {model : ModelId}
    (isBound : situation.client.bound = some model)
    (document : String) :
    removeDocument document situation = removeFrom document model situation := by
  unfold removeDocument
  exact Operation.bind_of_ok (resolve_of_bound isBound) _

/-- A client that is bound removes every document from its model. -/
theorem removals_of_bound
    {situation : Situation}
    {model : ModelId}
    (isBound : situation.client.bound = some model)
    (documents : List String) :
    removals removeDocument documents situation =
      removals (removeFrom · model) documents situation := by
  induction documents generalizing situation with
  | nil => rw [removals_nil, removals_nil]
  | cons document documents inductionHypothesis =>
      have client := (removeFrom_asks document model situation).1
      have removes := removeDocument_of_bound isBound document
      rw [removals_cons, removals_cons, removes]
      generalize removeFrom document model situation = removal at client ⊢
      rw [inductionHypothesis (client ▸ isBound)]

/-- Removes all documents that the service lists from a model. -/
def removeAllFrom (model : ModelId) : Operation RemovalReport := do
  let documents ← documentsOf model
  let report ← removeEach (removeFrom · model) (documents.map (·.id))
  announceRemoval report

/-- Removing all documents resolves the model once and then removes from it. -/
theorem removeAllDocuments_apply (situation : Situation) :
    removeAllDocuments situation = (resolve >>= removeAllFrom) situation := by
  unfold removeAllDocuments listDocuments
  rw [Operation.bind_apply, Operation.bind_apply, Operation.bind_apply]
  have resolves := resolution situation
  rcases resolved : resolve situation with ⟨failure | model, after⟩
  · rfl
  · rw [resolved] at resolves
    have isBound := resolves.bound_of_ok
    have client := (documentsOf_asks model after).1
    simp only [removeAllFrom, Operation.bind_apply]
    rcases listed : documentsOf model after with ⟨failure | documents, last⟩
    · rfl
    · rw [listed] at client
      have stillBound : last.client.bound = some model := by rw [client, isBound]
      simp only [removeEach_apply, removals_of_bound stillBound]

end Client

/-! ## The form of an action -/

namespace Action

/-- What an action does with the model, once it is resolved: nothing is told of the
actions that need no model, that resolve it many times, or whose file cannot be read. -/
def withModel? (files : Files.Tree) : Action → Option (ModelId → Operation Outcome)
  | .resolve => some fun model => return .model model
  | .upload path => some fun model => Outcome.document <$> Client.uploadInto path model
  | .listDocuments => some fun model => Outcome.documents <$> Client.documentsOf model
  | .removeDocument id => some fun model => (fun _ => Outcome.done) <$> Client.removeFrom id model
  | .removeAllDocuments => some fun model => Outcome.removal <$> Client.removeAllFrom model
  | .query content options => some fun model => Outcome.chat <$> Client.askOf content options model
  | .queryFile path options =>
    match files.readText path with
    | .ok content => some fun model => Outcome.chat <$> Client.askOf content options model
    | .error _ => none
  | .resolveMany _ | .checkAlive | .listModels | .createModel _ | .listLanguageModels => none

/-- The action resolves the model. -/
def needsModel (files : Files.Tree) : Action → Bool
  | .resolveMany count => 0 < count
  | action => (action.withModel? files).isSome

/-- The paths that the action is given. -/
def paths : Action → List Files.Path
  | .upload path | .queryFile path _ => [path]
  | _ => []

/-- The action has nothing to do with the model that the client is bound to. -/
def isIndependent : Action → Bool
  | .checkAlive | .listModels | .createModel _ | .listLanguageModels => true
  | _ => false

/-- What an action may ask for besides the list of models that resolves the model: a
call about a model only if the client is bound to that model. -/
def MayAsk (action : Action) (bound : Option ModelId) (call : Call) : Prop :=
  match action with
  | .resolve | .resolveMany _ => False
  | .checkAlive => call = .probe
  | .listModels => call = .models
  | .createModel _ => call = .newModel
  | .listLanguageModels => call = .languageModels
  | .upload _ => ∃ model, bound = some model ∧ call = .upload model
  | .listDocuments => ∃ model, bound = some model ∧ call = .documents model
  | .removeDocument document => ∃ model, bound = some model ∧ call = .removal model document
  | .removeAllDocuments =>
    ∃ model, bound = some model ∧
      (call = .documents model ∨ ∃ document, call = .removal model document)
  | .query _ _ | .queryFile _ _ => ∃ model, bound = some model ∧ call = .chat model

/-- A call that an action may ask for is about no model or about the one that the
client is bound to. -/
theorem MayAsk.bound_eq
    {action : Action}
    {bound : Option ModelId}
    {call : Call}
    {model : ModelId}
    (mayAsk : action.MayAsk bound call)
    (about : call.model? = some model) :
    bound = some model := by
  cases action with
  | resolve => exact mayAsk.elim
  | resolveMany count => exact mayAsk.elim
  | checkAlive | listModels | createModel | listLanguageModels =>
      subst mayAsk
      cases about
  | removeAllDocuments =>
      obtain ⟨found, isBound, rfl | ⟨document, rfl⟩⟩ := mayAsk
      · exact isBound.trans about
      · exact isBound.trans about
  | upload | listDocuments | removeDocument | query | queryFile =>
      obtain ⟨found, isBound, rfl⟩ := mayAsk
      exact isBound.trans about

theorem map_resolve_bind_apply
    {α β : Type}
    (function : α → β)
    (next : ModelId → Operation α)
    (situation : Situation) :
    (function <$> (Client.resolve >>= next)) situation =
      (Client.resolve >>= fun model => function <$> next model) situation := by
  rw [Operation.map_apply, Operation.bind_apply, Operation.bind_apply]
  rcases Client.resolve situation with ⟨failure | model, after⟩
  · rfl
  · exact (Operation.map_apply function (next model) after).symm

/-- An action that does one thing with the model resolves it and then does so. -/
theorem operation_apply
    {action : Action}
    {situation : Situation}
    {next : ModelId → Operation Outcome}
    (form : action.withModel? situation.world.files = some next) :
    action.operation situation = (Client.resolve >>= next) situation := by
  cases action with
  | resolve =>
      obtain rfl := Option.some.inj form
      rfl
  | upload path =>
      obtain rfl := Option.some.inj form
      exact map_resolve_bind_apply _ _ _
  | listDocuments =>
      obtain rfl := Option.some.inj form
      exact map_resolve_bind_apply _ _ _
  | removeDocument id =>
      obtain rfl := Option.some.inj form
      exact map_resolve_bind_apply _ _ _
  | removeAllDocuments =>
      obtain rfl := Option.some.inj form
      rw [← map_resolve_bind_apply, Operation.map_apply, ← Client.removeAllDocuments_apply]
      exact Operation.map_apply _ _ _
  | query content options =>
      obtain rfl := Option.some.inj form
      exact map_resolve_bind_apply _ _ _
  | queryFile path options =>
      simp only [withModel?] at form
      cases reading : situation.world.files.readText path with
      | error reason => simp [reading] at form
      | ok content =>
          simp only [reading, Option.some.injEq] at form
          subst form
          have asks : (Action.queryFile path options).operation situation =
              (Action.query content options).operation situation := by
            change (Outcome.chat <$> Client.queryFile path options) situation =
              (Outcome.chat <$> Client.query content options) situation
            unfold Client.queryFile
            rw [Operation.map_apply, Operation.map_apply, Operation.get_bind_apply, reading]
          rw [asks]
          exact map_resolve_bind_apply _ _ _
  | _ => simp [withModel?] at form

/-- What an action does with the model asks for the action's own calls, about that model. -/
theorem withModel?_asks
    {action : Action}
    {files : Files.Tree}
    {next : ModelId → Operation Outcome}
    (form : action.withModel? files = some next)
    (model : ModelId) :
    (next model).Asks (action.MayAsk (some model)) := by
  cases action with
  | resolve =>
      obtain rfl := Option.some.inj form
      exact Operation.Asks.pure _
  | upload path =>
      obtain rfl := Option.some.inj form
      refine Operation.Asks.map (Operation.Asks.mono (Client.uploadInto_asks path model) ?_) _
      rintro call rfl
      exact ⟨model, rfl, rfl⟩
  | listDocuments =>
      obtain rfl := Option.some.inj form
      refine Operation.Asks.map (Operation.Asks.mono (Client.documentsOf_asks model) ?_) _
      rintro call rfl
      exact ⟨model, rfl, rfl⟩
  | removeDocument id =>
      obtain rfl := Option.some.inj form
      refine Operation.Asks.map (Operation.Asks.mono (Client.removeFrom_asks id model) ?_) _
      rintro call rfl
      exact ⟨model, rfl, rfl⟩
  | removeAllDocuments =>
      obtain rfl := Option.some.inj form
      refine Operation.Asks.map ?_ _
      unfold Client.removeAllFrom
      refine Operation.Asks.bind
        (Operation.Asks.mono (Client.documentsOf_asks model) ?_) fun documents => ?_
      · rintro call rfl
        exact ⟨model, rfl, .inl rfl⟩
      · refine Operation.Asks.bind (Client.removeEach_asks (fun document => ?_) _) fun report =>
          Client.announceRemoval_asks report
        refine Operation.Asks.mono (Client.removeFrom_asks document model) ?_
        rintro call rfl
        exact ⟨model, rfl, .inr ⟨document, rfl⟩⟩
  | query content options =>
      obtain rfl := Option.some.inj form
      refine Operation.Asks.map (Operation.Asks.mono (Client.askOf_asks content options model) ?_) _
      rintro call rfl
      exact ⟨model, rfl, rfl⟩
  | queryFile path options =>
      simp only [withModel?] at form
      cases reading : files.readText path with
      | error reason => simp [reading] at form
      | ok content =>
          simp only [reading, Option.some.injEq] at form
          subst form
          refine Operation.Asks.map
            (Operation.Asks.mono (Client.askOf_asks content options model) ?_) _
          rintro call rfl
          exact ⟨model, rfl, rfl⟩
  | _ => simp [withModel?] at form

/-- An action that has nothing to do with the model asks for its own call. -/
theorem asks_of_isIndependent
    {action : Action}
    (independent : action.isIndependent = true)
    (bound : Option ModelId) :
    action.operation.Asks (action.MayAsk bound) := by
  cases action with
  | checkAlive => exact Operation.Asks.map Client.checkAlive_asks _
  | listModels => exact Operation.Asks.map Client.listModels_asks _
  | createModel proposal => exact Operation.Asks.map (Client.createModel_asks proposal) _
  | listLanguageModels => exact Operation.Asks.map Client.listLanguageModels_asks _
  | _ => simp [isIndependent] at independent

/-! ## Actions in two situations -/

section Agreement

variable {related : Situation → Situation → Prop}

/-- What an action does with the model is the same in related situations that find the same
where its paths lead. -/
theorem withModel?_agree
    (respected : Operation.Respected related)
    {action : Action}
    {files : Files.Tree}
    {next : ModelId → Operation Outcome}
    (found : ∀ path ∈ action.paths, Operation.FindsAlike related path)
    (form : action.withModel? files = some next)
    (model : ModelId) :
    Operation.Agree related (next model) (next model) := by
  cases action with
  | resolve =>
      obtain rfl := Option.some.inj form
      exact Operation.Agree.pure _
  | upload path =>
      obtain rfl := Option.some.inj form
      have foundFile := found path (List.mem_singleton_self path)
      exact Operation.Agree.map (Client.uploadInto_agree respected.toCarried foundFile model) _
  | listDocuments =>
      obtain rfl := Option.some.inj form
      exact Operation.Agree.map (Client.documentsOf_agree respected.toCarried model) _
  | removeDocument id =>
      obtain rfl := Option.some.inj form
      exact Operation.Agree.map (Client.removeFrom_agree respected.toCarried id model) _
  | removeAllDocuments =>
      obtain rfl := Option.some.inj form
      refine Operation.Agree.map ?_ _
      unfold Client.removeAllFrom
      have carried := respected.toCarried
      refine Operation.Agree.bind (Client.documentsOf_agree carried model) fun documents => ?_
      refine Operation.Agree.bind (Client.removeEach_agree
        (fun document => Client.removeFrom_agree carried document model) _) fun report => ?_
      exact Client.announceRemoval_agree carried report
  | query content options =>
      obtain rfl := Option.some.inj form
      exact Operation.Agree.map (Client.askOf_agree respected content options model) _
  | queryFile path options =>
      simp only [withModel?] at form
      cases reading : files.readText path with
      | error reason => simp [reading] at form
      | ok content =>
          simp only [reading, Option.some.injEq] at form
          subst form
          exact Operation.Agree.map (Client.askOf_agree respected content options model) _
  | _ => simp [withModel?] at form

/-- An action that has nothing to do with the model is the same in related situations. -/
theorem agree_of_isIndependent
    (carried : Operation.Carried related)
    {action : Action}
    (independent : action.isIndependent = true) :
    Operation.Agree related action.operation action.operation := by
  cases action with
  | checkAlive => exact Operation.Agree.map (Client.checkAlive_agree carried) _
  | listModels => exact Operation.Agree.map (Client.listModels_agree carried) _
  | createModel proposal =>
      exact Operation.Agree.map (Client.createModel_agree carried proposal) _
  | listLanguageModels => exact Operation.Agree.map (Client.listLanguageModels_agree carried) _
  | _ => simp [isIndependent] at independent

end Agreement

/-! ## The forms of actions -/

/-- Every action does one thing with the model, has nothing to do with it, resolves it
many times, or asks what a file holds that cannot be read. -/
theorem withModel?_or
    (action : Action)
    (files : Files.Tree) :
    (∃ next, action.withModel? files = some next) ∨
      action.isIndependent = true ∨
      (∃ count, action = .resolveMany count) ∨
      ∃ path options reason,
        action = .queryFile path options ∧ files.readText path = .error reason := by
  cases action with
  | resolveMany count => exact .inr (.inr (.inl ⟨count, rfl⟩))
  | checkAlive => exact .inr (.inl rfl)
  | listModels => exact .inr (.inl rfl)
  | createModel proposal => exact .inr (.inl rfl)
  | listLanguageModels => exact .inr (.inl rfl)
  | queryFile path options =>
      cases reading : files.readText path with
      | error reason => exact .inr (.inr (.inr ⟨path, options, reason, rfl, reading⟩))
      | ok content =>
          refine .inl ⟨fun model => Outcome.chat <$> Client.askOf content options model, ?_⟩
          simp only [withModel?, reading]
  | _ => exact .inl ⟨_, rfl⟩

/-- An action that does one thing with the model fails with the failure of the
resolution, and does nothing more. -/
theorem operation_of_unresolved
    {action : Action}
    {situation after : Situation}
    {next : ModelId → Operation Outcome}
    {failure : Failure}
    (form : action.withModel? situation.world.files = some next)
    (unresolved : Client.resolve situation = (.error failure, after)) :
    action.operation situation = (.error failure, after) := by
  rw [operation_apply form]
  exact Operation.bind_of_error unresolved next

/-- An action that does one thing with the model does it once the model is resolved. -/
theorem operation_of_resolved
    {action : Action}
    {situation after : Situation}
    {next : ModelId → Operation Outcome}
    {model : ModelId}
    (form : action.withModel? situation.world.files = some next)
    (resolved : Client.resolve situation = (.ok model, after)) :
    action.operation situation = next model after := by
  rw [operation_apply form]
  exact Operation.bind_of_ok resolved next

theorem resolveMany_operation
    (count : Nat)
    (situation : Situation) :
    (Action.resolveMany count).operation situation =
      (.ok (.models (Client.resolutions count situation).1),
        (Client.resolutions count situation).2) := by
  have mapped := Operation.map_apply Outcome.models (Client.resolveMany count) situation
  rw [Client.resolveMany_apply] at mapped
  exact mapped

theorem queryFile_operation_of_unreadable
    (situation : Situation)
    {path : Files.Path}
    {reason : Files.Fault}
    (unreadable : situation.world.files.readText path = .error reason)
    (options : ChatOptions) :
    (Action.queryFile path options).operation situation =
      (.error (.unreadable path reason), situation) := by
  have mapped := Operation.map_apply Outcome.chat (Client.queryFile path options) situation
  unfold Client.queryFile at mapped
  rw [Operation.get_bind_apply, unreadable] at mapped
  exact mapped

theorem needsModel_of_withModel?
    {action : Action}
    {files : Files.Tree}
    {next : ModelId → Operation Outcome}
    (form : action.withModel? files = some next) :
    action.needsModel files = true := by
  cases action <;> simp_all [needsModel, withModel?]

/-- An action that does not resolve the model does the same for a client that is bound
otherwise, and leaves it so. -/
theorem operation_rebound
    (situation : Situation)
    {action : Action}
    (unneeded : action.needsModel situation.world.files = false)
    (bound : Option ModelId) :
    action.operation ⟨{ situation.client with bound }, situation.world⟩ =
      ((action.operation situation).1,
        ⟨{ (action.operation situation).2.client with bound },
          (action.operation situation).2.world⟩) := by
  rcases withModel?_or action situation.world.files with
    ⟨next, form⟩ | independent | ⟨count, rfl⟩ | ⟨path, options, reason, rfl, unreadable⟩
  · rw [needsModel_of_withModel? form] at unneeded
    cases unneeded
  · have likewise : Situation.Likewise [] []
        ⟨{ situation.client with bound }, situation.world⟩ situation :=
      ⟨rfl, rfl, rfl, rfl, rfl, rfl, rfl, rfl⟩
    obtain ⟨sameResult, stillLikewise⟩ :=
      agree_of_isIndependent (Situation.respected_likewise [] []).toCarried independent _ _ likewise
    have reboundClient := (asks_of_isIndependent independent none
      ⟨{ situation.client with bound }, situation.world⟩).1
    have client := (asks_of_isIndependent independent none situation).1
    have world := stillLikewise.world_eq
    rcases rebound : action.operation ⟨{ situation.client with bound }, situation.world⟩ with
      ⟨result, after⟩
    rw [rebound] at sameResult reboundClient world
    rw [client, ← sameResult, ← world]
    exact congrArg (fun client => (result, (⟨client, after.world⟩ : Situation))) reboundClient
  · cases count with
    | zero => rfl
    | succ count => simp [needsModel] at unneeded
  · have rebound := queryFile_operation_of_unreadable
      ⟨{ situation.client with bound }, situation.world⟩ unreadable options
    rw [queryFile_operation_of_unreadable situation unreadable, rebound]

/-! ## What an action changes -/

/-- How an action leads from one situation to another: it sends requests for the
knowledge models, if it resolves the model of a client that is not bound, and then
requests for its own calls, about the model that the client is bound to at the end. -/
structure Takes
    (action : Action)
    (before : Situation)
    (listing own : List Http.Exchange)
    (after : Situation) : Prop where
  config_eq : after.client.config = before.client.config
  kept : ∀ model, before.client.bound = some model → after.client.bound = some model
  exchanges_eq : after.world.exchanges = before.world.exchanges ++ (listing ++ own)
  asked : ∀ exchange ∈ listing, action.needsModel before.world.files = true ∧
    before.client.bound = none ∧ exchange.IsFor before.client.config .models
  gained : ∀ model, before.client.bound = none → after.client.bound = some model →
    ∃ exchange ∈ listing, exchange.answer.Lists model
  asksOwn : ∀ exchange ∈ own, ∃ call,
    action.MayAsk after.client.bound call ∧ exchange.IsFor before.client.config call

/-- Resolving the model and then asking for the action's own calls is how an action
leads to the situation that it leaves. -/
theorem Takes.of_resolves
    {action : Action}
    {before middle after : Situation}
    {listing own : List Http.Exchange}
    (resolves : before.Resolves listing middle)
    (needed : listing ≠ [] → action.needsModel before.world.files = true)
    (client : after.client = middle.client)
    (exchanges : after.world.exchanges = middle.world.exchanges ++ own)
    (asks : ∀ exchange ∈ own, ∃ call,
      action.MayAsk middle.client.bound call ∧ exchange.IsFor middle.client.config call) :
    action.Takes before listing own after where
  config_eq := by rw [client, resolves.config_eq]
  kept model isBound := by rw [client, resolves.kept model isBound]
  exchanges_eq := by rw [exchanges, resolves.exchanges_eq, List.append_assoc]
  asked exchange member := ⟨needed (List.ne_nil_of_mem member), resolves.asked exchange member⟩
  gained model unbound isBound := resolves.gained model unbound (client ▸ isBound)
  asksOwn := by
    rw [client, ← resolves.config_eq]
    exact asks

/-- Every action takes its client from one situation to another like this. -/
theorem takes
    (action : Action)
    (situation : Situation) :
    ∃ listing own, action.Takes situation listing own (action.operation situation).2 := by
  rcases withModel?_or action situation.world.files with
    ⟨next, form⟩ | independent | ⟨count, rfl⟩ | ⟨path, options, reason, rfl, unreadable⟩
  · have needed := needsModel_of_withModel? form
    have resolution := Client.resolution situation
    obtain ⟨listing, resolves⟩ := resolution.resolves
    rcases resolved : Client.resolve situation with ⟨failure | model, middle⟩
    · rw [operation_of_unresolved form resolved]
      rw [resolved] at resolves
      exact ⟨listing, [], .of_resolves resolves (fun _ => needed) rfl (by simp) (by simp)⟩
    · rw [operation_of_resolved form resolved]
      rw [resolved] at resolution resolves
      obtain ⟨client, own, exchanges, asks⟩ := withModel?_asks form model middle
      rw [← resolution.bound_of_ok] at asks
      exact ⟨listing, own, .of_resolves resolves (fun _ => needed) client exchanges asks⟩
  · obtain ⟨client, own, exchanges, asks⟩ :=
      asks_of_isIndependent independent situation.client.bound situation
    exact ⟨[], own, .of_resolves (.refl situation) (by simp) client exchanges asks⟩
  · rw [resolveMany_operation]
    cases count with
    | zero => exact ⟨[], [], .of_resolves (.refl situation) (by simp) rfl (by simp) (by simp)⟩
    | succ count =>
        obtain ⟨listing, resolves⟩ := Client.resolutions_resolves (count + 1) situation
        have needed : (Action.resolveMany (count + 1)).needsModel situation.world.files = true := by
          simp [needsModel]
        exact ⟨listing, [], .of_resolves resolves (fun _ => needed) rfl (by simp) (by simp)⟩
  · rw [queryFile_operation_of_unreadable situation unreadable]
    exact ⟨[], [], .of_resolves (.refl situation) (by simp) rfl (by simp) (by simp)⟩

end Action
end KnowledgeClient
