import KnowledgeClient.Proofs.Tracing
import KnowledgeClient.Proofs.Turn

/-!
# Replies that are refused

A reply with a status that its call does not accept is always what the action fails
with.  The failure tells the status, with one exception: a call that reads bodies looks
at the body first, so that a reply whose body was cut off is a request that failed,
whatever its status.
-/

namespace KnowledgeClient

/-- A reply that its call does not accept is what a run fails with, and its status is told,
unless the call reads the body and the body was cut off. -/
def TellsRefusals
    {α : Type}
    (policy : ChatPolicy)
    (log : Log)
    (result : Except Failure α) : Prop :=
  ∀ call exchange reply, (call, exchange) ∈ log → exchange.answer = .reply reply →
    call.accepts policy reply.status = false →
    ∃ failure, result = .error failure ∧
      failure.status? = (if call.lacksBody reply then none else some reply.status) ∧
      (call.lacksBody reply = true → failure = .requestFailed .cutOff)

theorem Verdict.tellsRefusals
    {α : Type}
    {policy : ChatPolicy}
    {calls : List Call}
    {log : Log}
    {result : Except Failure α}
    (verdict : Verdict policy calls log result) :
    TellsRefusals policy log result := by
  intro call exchange reply member answered rejected
  refine ⟨_, verdict.refused call exchange reply member answered rejected,
    Call.status?_refusal, ?_⟩
  intro lacks
  rw [Call.refusal, if_pos lacks]

/-! ## Many resolutions and openings -/

namespace Client

/-- Each of many resolutions is justified by its own request, if it sends one. -/
theorem performs_of_resolutions
    {position count : Nat}
    (before : position < count)
    (situation : Situation) :
    ∃ outcome, (resolutions count situation).1[position]? = some outcome ∧
      (resolutions position situation).2.Performs (resolutions position situation).2.learning
        (outcome, (resolutions (position + 1) situation).2) := by
  obtain ⟨outcome, isOutcome, resolution⟩ := resolution_of_resolutions before situation
  exact ⟨outcome, isOutcome, resolution.performs⟩

/-- A client that is opened by making its model makes the model once, or does not ask for
anything because its token cannot be used. -/
theorem openedByCreating_performs
    (config : Config)
    (proposal : ModelProposal)
    (world : World) :
    Situation.Performs ⟨⟨config, none⟩, world⟩
      (if config.hasUsableToken then [.newModel] else [])
      ((openedByCreating config proposal world).1,
        ⟨⟨config, none⟩, (openedByCreating config proposal world).2⟩) := by
  unfold openedByCreating opened
  cases config.hasUsableToken with
  | false => exact .failed _ rfl (by simp)
  | true =>
      have performs := Situation.calling_performs ⟨⟨config, none⟩, world⟩ .newModel
        (.json (String.ofList proposal.jsonChars)) (·.reading KnowledgeModel.read) fun _ => []
      rw [← createModel_calling] at performs
      obtain ⟨network, exchanges, frame⟩ :=
        Session.createModel_frame proposal ⟨⟨config, none⟩, world⟩
      obtain ⟨log, makes, verdict⟩ := performs
      rw [frame] at makes
      simp only [if_true, announceModel_apply]
      rcases created : createModel proposal ⟨⟨config, none⟩, world⟩ with
        ⟨failure | model, after⟩
      · rw [created] at frame verdict
        rw [show after = _ from frame]
        exact ⟨log, makes, verdict.of_error⟩
      · rw [created] at frame verdict
        rw [show after = _ from frame]
        exact ⟨log, makes.noting (modelNotes model), verdict.of_ok _⟩

end Client

/-! ## Replies that tell of failure -/

/-- The status that tells that the service failed. -/
def Http.Status.sampleFailure : Status := ⟨500, by decide, by decide⟩

/-- A reply that tells that the service failed, whose body arrives or not. -/
def Http.Reply.sampleFailure (complete : Bool) : Reply :=
  ⟨.sampleFailure, Text.encode "oops", complete⟩

/-- A client that is not bound yet and gets such a reply. -/
def Situation.sampleFailure (complete : Bool) : Situation :=
  .sample [.reply (.sampleFailure complete)]

/-- A log that holds all exchanges of an action that asks for one thing has the call and the
exchange. -/
theorem Situation.Makes.exists_entry
    {before after : Situation}
    {call : Call}
    {log : Log}
    (makes : before.Makes [call] log after)
    (reply : Http.Reply)
    (answered : ∃ exchange ∈ after.world.exchanges.drop before.world.exchanges.length,
      exchange.answer = .reply reply) :
    ∃ exchange, (call, exchange) ∈ log ∧ exchange.answer = .reply reply := by
  obtain ⟨exchange, member, isReply⟩ := answered
  rw [makes.exchanges_eq, List.drop_left] at member
  obtain ⟨entry, inLog, rfl⟩ := List.mem_map.mp member
  have isCall : entry.1 = call := List.mem_singleton.mp (makes.mem_calls inLog)
  rw [← isCall]
  exact ⟨entry.2, inLog, isReply⟩

/-! ## Refusals -/

/-- An action that does one thing once, each of many resolutions, and the opening of a client
that makes its model fail with a reply that they do not accept; its status is told exactly
if the call does not read bodies or the reply's body arrived. -/
theorem tellsRefusals_of_runs
    (situation : Situation)
    (action : Action)
    (count : Nat)
    (config : Config)
    (proposal : ModelProposal)
    (world : World) :
    (action.isBulk = false →
      ∃ log, situation.Makes (action.trace situation) log (action.operation situation).2 ∧
        TellsRefusals situation.client.config.policy log (action.operation situation).1) ∧
    (((Action.resolveMany count).operation situation).1 =
          .ok (.models (Client.resolutions count situation).1) ∧
        ∀ position < count, ∃ outcome log,
          (Client.resolutions count situation).1[position]? = some outcome ∧
          (Client.resolutions position situation).2.Makes
            (Client.resolutions position situation).2.learning log
            (Client.resolutions (position + 1) situation).2 ∧
          TellsRefusals (Client.resolutions position situation).2.client.config.policy log
            outcome) ∧
    ∃ log, Situation.Makes ⟨⟨config, none⟩, world⟩
        (if config.hasUsableToken then [.newModel] else []) log
        ⟨⟨config, none⟩, (Client.openedByCreating config proposal world).2⟩ ∧
      TellsRefusals config.policy log (Client.openedByCreating config proposal world).1 := by
  refine ⟨?_, ?_, ?_⟩
  · intro single
    obtain ⟨log, makes, verdict⟩ := Action.performs single situation
    exact ⟨log, makes, verdict.tellsRefusals⟩
  · rw [Action.resolveMany_operation]
    refine ⟨rfl, fun position before => ?_⟩
    obtain ⟨outcome, isOutcome, log, makes, verdict⟩ :=
      Client.performs_of_resolutions before situation
    exact ⟨outcome, log, isOutcome, makes, verdict.tellsRefusals⟩
  · obtain ⟨log, makes, verdict⟩ := Client.openedByCreating_performs config proposal world
    exact ⟨log, makes, verdict.tellsRefusals⟩

/-- A status that the client fails with is told, where the body arrives. -/
theorem tellsRefusals_of_runs_sample :
    Action.listModels.isBulk = false ∧
      ∃ failure,
        (Action.listModels.operation (.sampleFailure true)).1 = .error failure ∧
        failure.status? = some .sampleFailure := by
  refine ⟨rfl, ?_⟩
  obtain ⟨log, makes, tells⟩ :=
    (tellsRefusals_of_runs (.sampleFailure true) .listModels 0 .sample ⟨"", "", .ownerOnly⟩
      (.sample [])).1 rfl
  obtain ⟨exchange, member, answered⟩ :=
    makes.exists_entry (.sampleFailure true) (by decide +kernel)
  obtain ⟨failure, fails, status, _⟩ := tells .models exchange _ member answered rfl
  exact ⟨failure, fails, status⟩

/-- It is not always told: where the body is cut off, listing the models fails with a
request that failed, which tells no status. -/
theorem not_always_told :
    ¬ ∀ (action : Action) (situation : Situation), action.isBulk = false →
        action ≠ .checkAlive →
        ∃ log, situation.Makes (action.trace situation) log (action.operation situation).2 ∧
          ∀ call exchange reply, (call, exchange) ∈ log → exchange.answer = .reply reply →
            call.accepts situation.client.config.policy reply.status = false →
            ∃ failure, (action.operation situation).1 = .error failure ∧
              failure.status? = some reply.status := by
  intro told
  obtain ⟨log, makes, tells⟩ := told .listModels (.sampleFailure false) rfl (by simp)
  obtain ⟨exchange, member, answered⟩ :=
    makes.exists_entry (.sampleFailure false) (by decide +kernel)
  obtain ⟨failure, fails, status⟩ := tells .models exchange _ member answered rfl
  have untold : (match (Action.listModels.operation (.sampleFailure false)).1 with
      | .error failure => failure.status?
      | .ok _ => none) = none := by
    decide +kernel
  rw [fails] at untold
  simp only [untold] at status
  cases status

end KnowledgeClient
