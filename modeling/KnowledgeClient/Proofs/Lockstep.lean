import KnowledgeClient.Proofs.Actions
import KnowledgeClient.Proofs.Places

/-!
# Whole operations in two situations

A relation that sending and noting respect need not be respected by an
operation that resolves the model: that depends on what the client is bound to, and
binds it.  A relation between clients that are bound to the same model, which binding
them respects, is kept by every operation from its start to its end.  Only a chat
depends on the policy as well.
-/

namespace KnowledgeClient

/-- A relation that is carried along by binding the client too, between clients that
are bound to the same model. -/
structure Operation.Shared (related : Situation → Situation → Prop) : Prop
    extends Carried related where
  /-- Binding the clients to a model respects the relation. -/
  withBound : ∀ one other model, related one other →
    related (one.withBound model) (other.withBound model)
  /-- Related clients are bound to the same model. -/
  bound_eq : ∀ one other, related one other → one.client.bound = other.client.bound

namespace Client

open Operation

variable
  {related : Situation → Situation → Prop}
  (shared : Shared related)
include shared

theorem bind_agree (model : ModelId) : Agree related (bind model) (bind model) := by
  unfold bind
  refine Agree.bind (shared.tell _ _ _) fun _ => ?_
  intro one other isRelated
  exact ⟨rfl, shared.withBound one other model isRelated⟩

theorem bindFirst_agree : Agree related bindFirst bindFirst := by
  unfold bindFirst
  refine Agree.bind (listModels_agree shared.toCarried) fun models => ?_
  cases models with
  | nil => exact Agree.throw _
  | cons first others => exact Agree.bind (bind_agree shared _) fun _ => Agree.pure _

theorem resolve_agree : Agree related resolve resolve := by
  unfold resolve
  refine Agree.getBind fun one other isRelated => ?_
  rw [shared.bound_eq one other isRelated]
  cases other.client.bound with
  | some model => exact Agree.pure _
  | none => exact bindFirst_agree shared

theorem resolveMany_agree (count : Nat) :
    Agree related (resolveMany count) (resolveMany count) := by
  induction count with
  | zero => exact Agree.pure _
  | succ count inductionHypothesis =>
      unfold resolveMany
      refine Agree.bind (Agree.attempt (resolve_agree shared)) fun outcome => ?_
      exact Agree.bind inductionHypothesis fun outcomes => Agree.pure _

theorem upload_agree
    {path : Files.Path}
    (found : FindsAlike related path) :
    Agree related (upload path) (upload path) := by
  unfold upload
  exact Agree.bind (resolve_agree shared) fun model =>
    uploadInto_agree shared.toCarried found model

theorem listDocuments_agree : Agree related listDocuments listDocuments := by
  unfold listDocuments
  exact Agree.bind (resolve_agree shared) fun model => documentsOf_agree shared.toCarried model

theorem removeDocument_agree (document : String) :
    Agree related (removeDocument document) (removeDocument document) := by
  unfold removeDocument
  exact Agree.bind (resolve_agree shared) fun model =>
    removeFrom_agree shared.toCarried document model

theorem removeAllDocuments_agree : Agree related removeAllDocuments removeAllDocuments := by
  unfold removeAllDocuments
  refine Agree.bind (listDocuments_agree shared) fun documents => ?_
  refine Agree.bind (removeEach_agree (removeDocument_agree shared) _) fun report => ?_
  exact announceRemoval_agree shared.toCarried report

section Chats

variable
  (policy_eq : ∀ one other, related one other →
    one.client.config.policy = other.client.config.policy)
include policy_eq

theorem query_agree
    (content : String)
    (options : ChatOptions) :
    Agree related (query content options) (query content options) := by
  unfold query
  exact Agree.bind (resolve_agree shared) fun model =>
    askOf_agree ⟨shared.toCarried, policy_eq⟩ content options model

theorem queryFile_agree
    {path : Files.Path}
    (found : FindsAlike related path)
    (options : ChatOptions) :
    Agree related (queryFile path options) (queryFile path options) := by
  unfold queryFile
  refine Agree.getBind fun one other isRelated => ?_
  rw [Files.Tree.readText_congr (found one other isRelated)]
  cases other.world.files.readText path with
  | error reason => exact Agree.throw _
  | ok content => exact query_agree shared policy_eq content options

end Chats

end Client

namespace Action

/-- The action asks a chat. -/
def isChat : Action → Bool
  | .query _ _ | .queryFile _ _ => true
  | _ => false

/-- Every action is the same in related situations that find the same where its paths lead; an
action that asks a chat, if they have the same policy. -/
theorem operation_agree
    {related : Situation → Situation → Prop}
    (shared : Operation.Shared related)
    (action : Action)
    (found : ∀ path ∈ action.paths, Operation.FindsAlike related path)
    (policy_eq : action.isChat = true → ∀ one other, related one other →
      one.client.config.policy = other.client.config.policy) :
    Operation.Agree related action.operation action.operation := by
  cases action with
  | resolve => exact Operation.Agree.map (Client.resolve_agree shared) _
  | resolveMany count => exact Operation.Agree.map (Client.resolveMany_agree shared count) _
  | upload path =>
      have foundFile := found path (List.mem_singleton_self path)
      exact Operation.Agree.map (Client.upload_agree shared foundFile) _
  | listDocuments => exact Operation.Agree.map (Client.listDocuments_agree shared) _
  | removeDocument id => exact Operation.Agree.map (Client.removeDocument_agree shared id) _
  | removeAllDocuments => exact Operation.Agree.map (Client.removeAllDocuments_agree shared) _
  | query content options =>
      exact Operation.Agree.map (Client.query_agree shared (policy_eq rfl) content options) _
  | queryFile path options =>
      have foundFile := found path (List.mem_singleton_self path)
      exact Operation.Agree.map
        (Client.queryFile_agree shared (policy_eq rfl) foundFile options) _
  | checkAlive | listModels | createModel | listLanguageModels =>
      exact agree_of_isIndependent shared.toCarried rfl

end Action
end KnowledgeClient
