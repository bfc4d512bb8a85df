import KnowledgeClient.Proofs.Refusals

/-!
# What failures tell of the service

A result is given only of replies that the calls accept, the last of them for a call of
the action's own.  A failure that tells a status tells of the last reply and of the call
that got it, and no model is said to be available only if a whole listing has none.
-/

namespace KnowledgeClient

/-! ## What failures tell of calls -/

namespace Failure

/-- The body that a failure tells. -/
def body? : Failure → Option String
  | .uploadFailed _ body => some body
  | .chatFailed _ body => some body
  | .unexpectedStatus _ body => some body
  | _ => none

/-- The failure tells of a reply to the call. -/
def TellsOf (call : Call) : Failure → Prop
  | .uploadFailed _ _ => ∃ model, call = .upload model
  | .chatFailed _ _ => ∃ model, call = .chat model
  | .deleteFailed document _ => ∃ model, call = .removal model document
  | .unexpectedStatus _ _ =>
    call = .models ∨ call = .newModel ∨ call = .languageModels ∨ ∃ model, call = .documents model
  | _ => False

end Failure

namespace Call

variable
  {policy : ChatPolicy}
  {call : Call}
  {reply : Http.Reply}
  {status : Http.Status}

/-- A refusal that tells a status tells that of the reply, with the body that arrived. -/
theorem refusal_tells
    (rejected : call.accepts policy reply.status = false)
    (tells : (call.refusal reply).status? = some status) :
    status = reply.status ∧
      (∀ body, (call.refusal reply).body? = some body → reply.text? = some body) ∧
      (call.refusal reply).TellsOf call := by
  rw [status?_refusal] at tells
  cases lacks : call.lacksBody reply with
  | true => simp [lacks] at tells
  | false =>
      have refusal : call.refusal reply = call.rejection reply.status (reply.text?.getD "") := by
        simp [Call.refusal, lacks]
      have isStatus : status = reply.status := by simpa [lacks, eq_comm] using tells
      rw [refusal]
      refine ⟨isStatus, ?_, ?_⟩
      · intro body hasBody
        cases arrived : reply.text? with
        | none =>
            cases call with
            | probe => cases rejected
            | removal model document => cases hasBody
            | _ => simp [lacksBody, readsBody, arrived] at lacks
        | some text =>
            rw [arrived] at hasBody
            cases call <;> first | exact hasBody | cases hasBody
      · cases call with
        | probe => cases rejected
        | _ => simp [rejection, Failure.TellsOf]

/-- What a reply to the request for the models is that does not tell success. -/
theorem refusal_models (reply : Http.Reply) :
    Call.models.refusal reply =
      match reply.text? with
      | some text => .unexpectedStatus reply.status text
      | none => .requestFailed .cutOff := by
  unfold refusal lacksBody
  cases reply.text? <;> rfl

end Call

/-! ## The last call of an action -/

namespace Situation

/-- The model that a resolution finds. -/
def found? (situation : Situation) : Option ModelId :=
  (Client.resolve situation).1.toOption

theorem asking_of_resolved
    {situation after : Situation}
    {model : ModelId}
    (resolved : Client.resolve situation = (.ok model, after))
    (calls : ModelId → List Call) :
    situation.asking calls = situation.learning ++ calls model := by
  rw [asking, resolved]

theorem mem_learning
    {situation : Situation}
    {call : Call}
    (member : call ∈ situation.learning) :
    situation.client.bound = none ∧ call = .models := by
  unfold learning at member
  cases unbound : situation.client.bound with
  | none =>
      rw [unbound] at member
      exact ⟨rfl, List.mem_singleton.mp member⟩
  | some model =>
      rw [unbound] at member
      cases member

/-- What is asked for resolves the model of a client that is not bound or is about the
model that is found. -/
theorem mem_asking
    {situation : Situation}
    {calls : ModelId → List Call}
    {call : Call}
    (member : call ∈ situation.asking calls) :
    (situation.client.bound = none ∧ call = .models) ∨
      ∃ model, situation.found? = some model ∧ call ∈ calls model := by
  unfold asking at member
  unfold found?
  rcases List.mem_append.mp member with inLearning | inCalls
  · exact .inl (mem_learning inLearning)
  · cases found : (Client.resolve situation).1 with
    | error failure =>
        rw [found] at inCalls
        cases inCalls
    | ok model =>
        rw [found] at inCalls
        exact .inr ⟨model, rfl, inCalls⟩

theorem mem_learnings
    {count : Nat}
    {situation : Situation}
    {call : Call}
    (member : call ∈ situation.learnings count) :
    situation.client.bound = none ∧ call = .models := by
  induction count generalizing situation with
  | zero => cases member
  | succ count inductionHypothesis =>
      rcases List.mem_append.mp member with inFirst | inFurther
      · exact mem_learning inFirst
      · obtain ⟨stillUnbound, isModels⟩ := inductionHypothesis inFurther
        -- A client that was bound stays so, and then nothing further would be asked for.
        obtain ⟨listing, resolves⟩ := (Client.resolution situation).resolves
        refine ⟨?_, isModels⟩
        cases binding : situation.client.bound with
        | none => rfl
        | some model =>
            rw [resolves.kept model binding] at stillUnbound
            cases stillUnbound

end Situation

namespace Action

variable
  {action : Action}
  {situation : Situation}
  {call : Call}

/-- Every call of a trace resolves the model of a client that is not bound or is one of the
action's own, about the model that is found. -/
theorem mem_trace (member : call ∈ action.trace situation) :
    (situation.client.bound = none ∧ call = .models) ∨
      action.MayAsk situation.found? call := by
  cases action with
  | checkAlive | listModels | createModel | listLanguageModels =>
      exact .inr (List.mem_singleton.mp member)
  | resolve =>
      rcases Situation.mem_asking member with isListing | ⟨model, _, none⟩
      · exact .inl isListing
      · cases none
  | resolveMany count => exact .inl (Situation.mem_learnings member)
  | upload path =>
      rcases Situation.mem_asking member with isListing | ⟨model, found, own⟩
      · exact .inl isListing
      · split at own
        · exact .inr ⟨model, found, List.mem_singleton.mp own⟩
        · cases own
  | removeAllDocuments =>
      rcases Situation.mem_asking member with isListing | ⟨model, found, own⟩
      · exact .inl isListing
      · rcases List.mem_cons.mp own with isDocuments | isRemoval
        · exact .inr ⟨model, found, .inl isDocuments⟩
        · obtain ⟨document, _, same⟩ := List.mem_map.mp isRemoval
          exact .inr ⟨model, found, .inr ⟨document.id, same.symm⟩⟩
  | queryFile path options =>
      simp only [trace] at member
      cases reading : situation.world.files.readText path with
      | error reason => simp [reading] at member
      | ok content =>
          rw [reading] at member
          rcases Situation.mem_asking member with isListing | ⟨model, found, own⟩
          · exact .inl isListing
          · exact .inr ⟨model, found, List.mem_singleton.mp own⟩
  | listDocuments | removeDocument | query =>
      rcases Situation.mem_asking member with isListing | ⟨model, found, own⟩
      · exact .inl isListing
      · exact .inr ⟨model, found, List.mem_singleton.mp own⟩

/-- An action that gives a result, other than the model, ends with a call of its own. -/
theorem trace_eq_concat
    {outcome : Outcome}
    (single : action.isBulk = false)
    (notResolve : action ≠ .resolve)
    (gives : (action.operation situation).1 = .ok outcome) :
    ∃ calls call, action.trace situation = calls ++ [call] ∧
      action.MayAsk situation.found? call := by
  rcases withModel?_or action situation.world.files with
    ⟨next, form⟩ | independent | ⟨count, rfl⟩ | ⟨path, options, reason, rfl, unreadable⟩
  · rcases resolved : Client.resolve situation with ⟨failure | model, after⟩
    · rw [operation_of_unresolved form resolved] at gives
      cases gives
    · rw [operation_of_resolved form resolved] at gives
      have found : situation.found? = some model := by rw [Situation.found?, resolved]; rfl
      rw [found]
      have files := (Client.resolution situation).files_eq
      rw [resolved] at files
      cases action with
      | resolve => exact absurd rfl notResolve
      | upload path =>
          -- A result means that a file was opened, and then its upload ends the trace.
          obtain rfl := Option.some.inj form
          simp only [Operation.map_apply] at gives
          refine ⟨situation.learning, .upload model, ?_, model, rfl, rfl⟩
          rw [trace, Situation.asking_of_resolved resolved, ← files]
          cases opens : after.world.files.find path with
          | error reason =>
              rw [Client.uploadInto_of_closed opens] at gives
              cases gives
          | ok entry =>
              cases entry with
              | file content => rfl
              | folder =>
                  obtain ⟨fault, _, fails⟩ := Client.uploadInto_of_folder opens model
                  rw [fails] at gives
                  cases gives
      | listDocuments =>
          exact ⟨_, .documents model, Situation.asking_of_resolved resolved _, model, rfl, rfl⟩
      | removeDocument document =>
          exact ⟨_, .removal model document, Situation.asking_of_resolved resolved _, model, rfl,
            rfl⟩
      | query content options =>
          exact ⟨_, .chat model, Situation.asking_of_resolved resolved _, model, rfl, rfl⟩
      | queryFile path options =>
          refine ⟨situation.learning, .chat model, ?_, model, rfl, rfl⟩
          cases reading : situation.world.files.readText path with
          | error reason => simp [withModel?, reading] at form
          | ok content =>
              simp only [trace, reading]
              exact Situation.asking_of_resolved resolved _
      | _ => simp [withModel?, isBulk] at form single
  · cases action with
    | checkAlive => exact ⟨[], .probe, rfl, rfl⟩
    | listModels => exact ⟨[], .models, rfl, rfl⟩
    | createModel proposal => exact ⟨[], .newModel, rfl, rfl⟩
    | listLanguageModels => exact ⟨[], .languageModels, rfl, rfl⟩
    | _ => simp [isIndependent] at independent
  · cases single
  · rw [queryFile_operation_of_unreadable situation unreadable] at gives
    cases gives

end Action

/-! ## What failures tell of a log -/

/-- A failure does not tell of the service what it did not say. -/
structure Truthful
    {α : Type}
    (policy : ChatPolicy)
    (log : Log)
    (result : Except Failure α) : Prop where
  /-- A failure that tells a status tells of the last reply, which its call does not accept:
  the status and the body are those of the reply, and it is a failure of that call. -/
  told : ∀ failure status, result = .error failure → failure.status? = some status →
    ∃ call exchange reply, log.getLast? = some (call, exchange) ∧
      exchange.answer = .reply reply ∧
      status = reply.status ∧
      call.accepts policy status = false ∧
      (∀ body, failure.body? = some body → reply.text? = some body) ∧
      failure.TellsOf call
  /-- No model is available only if a whole listing has none. -/
  unavailable : result = .error .noModelAvailable →
    ∃ exchange, log.getLast? = some (.models, exchange) ∧ exchange.answer.ListsNone

theorem Truthful.given
    {α : Type}
    {policy : ChatPolicy}
    {log : Log}
    (value : α) :
    Truthful policy log (.ok value : Except Failure α) where
  told := by simp
  unavailable := by simp

namespace Verdict

variable
  {α : Type}
  {policy : ChatPolicy}
  {calls : List Call}
  {log : Log}
  {result : Except Failure α}

theorem truthful (verdict : Verdict policy calls log result) :
    Truthful policy log result where
  told failure status fails tells := by
    obtain ⟨call, exchange, reply, last, answered, rejected, rfl⟩ :=
      verdict.told failure status fails tells
    obtain ⟨rfl, bodies, about⟩ := Call.refusal_tells rejected tells
    exact ⟨call, exchange, reply, last, answered, rfl, rejected, bodies, about⟩
  unavailable := verdict.unlisted

end Verdict

namespace Action

variable
  {action : Action}
  {situation : Situation}

/-! ## The law of verdicts -/

/-- How what an action gives or fails with tells of the replies to its calls. -/
structure VerdictLaw
    (action : Action)
    (situation : Situation)
    (log : Log) : Prop where
  /-- The calls that are made are those of the trace. -/
  makes : situation.Makes (action.trace situation) log (action.operation situation).2
  /-- A call resolves the model of a client that is not bound or is one of the action's own. -/
  asked : ∀ entry ∈ log, (situation.client.bound = none ∧ entry.1 = .models) ∨
    action.MayAsk situation.found? entry.1
  /-- A result is given only of replies that the calls accept; the last is for a call of the
  action's own, unless the action only resolves the model. -/
  granted : ∀ outcome, (action.operation situation).1 = .ok outcome → action.isBulk = false →
    (∀ entry ∈ log, entry.1.Accepted situation.client.config.policy entry.2.answer) ∧
      (action ≠ .resolve → ∃ call exchange, log.getLast? = some (call, exchange) ∧
        action.MayAsk situation.found? call)
  /-- A failure that tells a status tells of the last reply, and one that tells of no model
  of a listing without models. -/
  truthful : Truthful situation.client.config.policy log (action.operation situation).1
  /-- Unless the action resolves many times, it fails with a reply to the request for the
  models that does not tell success.  Its status is told if its body arrived. -/
  unlisted : ∀ exchange reply, (Call.models, exchange) ∈ log → exchange.answer = .reply reply →
    reply.status.isSuccess = false → (∀ count, action ≠ .resolveMany count) →
    ∃ failure, (action.operation situation).1 = .error failure ∧
      failure.isNonFatal = false ∧
      failure = match reply.text? with
        | some text => .unexpectedStatus reply.status text
        | none => .requestFailed .cutOff

/-- The law holds where failures are justified by the log and replies to the request for the
models are not passed over. -/
theorem VerdictLaw.of_failures
    {log : Log}
    (makes : situation.Makes (action.trace situation) log (action.operation situation).2)
    (granted : ∀ outcome, (action.operation situation).1 = .ok outcome → action.isBulk = false →
      (∀ entry ∈ log, entry.1.Accepted situation.client.config.policy entry.2.answer) ∧
        (action ≠ .resolve → ∃ call exchange, log.getLast? = some (call, exchange) ∧
          action.MayAsk situation.found? call))
    (truthful : Truthful situation.client.config.policy log (action.operation situation).1)
    (refused : ∀ exchange reply, (Call.models, exchange) ∈ log →
      exchange.answer = .reply reply → reply.status.isSuccess = false →
      (∀ count, action ≠ .resolveMany count) →
      (action.operation situation).1 = .error (Call.models.refusal reply)) :
    action.VerdictLaw situation log where
  makes := makes
  asked entry member := mem_trace (makes.mem_calls member)
  granted := granted
  truthful := truthful
  unlisted exchange reply member answered unsuccessful once := by
    refine ⟨_, refused exchange reply member answered unsuccessful once, ?_,
      Call.refusal_models reply⟩
    rw [Call.refusal_models]
    cases reply.text? <;> rfl

/-- An action that does one thing once obeys the law. -/
theorem verdictLaw_of_single
    (single : action.isBulk = false)
    (situation : Situation) :
    ∃ log, action.VerdictLaw situation log := by
  obtain ⟨log, makes, verdict⟩ := performs single situation
  refine ⟨log, .of_failures makes ?_ verdict.truthful ?_⟩
  · intro outcome gives _
    obtain ⟨calls, accepted⟩ := verdict.granted outcome gives
    refine ⟨accepted, fun notResolve => ?_⟩
    obtain ⟨earlier, call, trace, own⟩ := trace_eq_concat single notResolve gives
    have last : log.getLast?.map (·.1) = some call := by
      rw [← List.getLast?_map, calls, trace, List.getLast?_append]
      rfl
    obtain ⟨entry, isLast, isCall⟩ := Option.map_eq_some_iff.mp last
    refine ⟨call, entry.2, ?_, own⟩
    rw [isLast, ← isCall]
  · intro exchange reply member answered unsuccessful _
    exact verdict.refused .models exchange reply member answered unsuccessful

/-- Resolving many times never fails, and removing all documents fails only with the failure
of their listing. -/
theorem verdictLaw_of_bulk
    (bulk : action.isBulk = true)
    (situation : Situation) :
    ∃ log, action.VerdictLaw situation log := by
  cases action with
  | resolveMany count =>
      obtain ⟨log, makes⟩ := (resolveMany count).makes situation
      refine ⟨log, .of_failures makes ?_ ?_ ?_⟩
      · intro outcome _ single
        cases single
      · rw [resolveMany_operation]
        exact .given _
      · intro exchange reply _ _ _ once
        exact absurd rfl (once count)
  | removeAllDocuments =>
      obtain ⟨log, removalLog, makes, verdict, removals, fails⟩ :=
        Client.removeAllDocuments_makes situation
      have ran : removeAllDocuments.operation situation =
          ((Client.removeAllDocuments situation).1.map Outcome.removal,
            (Client.removeAllDocuments situation).2) := Operation.map_apply _ _ _
      refine ⟨log ++ removalLog, .of_failures ?_ ?_ ?_ ?_⟩
      · rw [ran]
        exact makes
      · intro outcome _ single
        cases single
      · rw [ran]
        cases removed : (Client.removeAllDocuments situation).1 with
        | ok report => exact .given _
        | error failure =>
            obtain ⟨unlisted, none⟩ := fails failure removed
            rw [unlisted] at verdict
            rw [none, List.append_nil]
            exact verdict.of_error.truthful
      · intro exchange reply member answered unsuccessful _
        have listingMember : (Call.models, exchange) ∈ log := by
          rcases List.mem_append.mp member with inListing | inRemovals
          · exact inListing
          · obtain ⟨model, document, isRemoval⟩ := removals _ _ inRemovals
            cases isRemoval
        have refused := verdict.refused .models exchange reply listingMember answered unsuccessful
        have unlisted : Client.listDocuments situation =
            (.error (Call.models.refusal reply), (Client.listDocuments situation).2) :=
          Prod.ext refused rfl
        rw [ran, Client.removeAllDocuments_of_unlisted unlisted]
        rfl
  | _ => cases bulk

end Action

/-! ## Verdicts -/

/-- Every action obeys the law of verdicts.  Among many resolutions each one that gives a model
got a reply that it accepts, if it sent a request, and each failure is truthful.  A client
that makes its model is opened by one reply that tells success, and fails truthfully. -/
theorem verdictLaw_of_runs
    (situation : Situation)
    (action : Action)
    (count : Nat)
    (config : Config)
    (proposal : ModelProposal)
    (world : World) :
    (∃ log, action.VerdictLaw situation log) ∧
    (((Action.resolveMany count).operation situation).1 =
          .ok (.models (Client.resolutions count situation).1) ∧
        ∀ position < count, ∃ outcome log,
          (Client.resolutions count situation).1[position]? = some outcome ∧
          (Client.resolutions position situation).2.Makes
            (Client.resolutions position situation).2.learning log
            (Client.resolutions (position + 1) situation).2 ∧
          (∀ model, outcome = .ok model → ∀ entry ∈ log, entry.1.Accepted
            (Client.resolutions position situation).2.client.config.policy entry.2.answer) ∧
          Truthful (Client.resolutions position situation).2.client.config.policy log outcome) ∧
    ∃ log, Situation.Makes ⟨⟨config, none⟩, world⟩
        (if config.hasUsableToken then [.newModel] else []) log
        ⟨⟨config, none⟩, (Client.openedByCreating config proposal world).2⟩ ∧
      (∀ client, (Client.openedByCreating config proposal world).1 = .ok client →
        ∃ exchange, log = [(.newModel, exchange)] ∧
          Call.newModel.Accepted config.policy exchange.answer) ∧
      Truthful config.policy log (Client.openedByCreating config proposal world).1 := by
  refine ⟨?_, ?_, ?_⟩
  · cases single : action.isBulk with
    | false => exact Action.verdictLaw_of_single single situation
    | true => exact Action.verdictLaw_of_bulk single situation
  · rw [Action.resolveMany_operation]
    refine ⟨rfl, fun position before => ?_⟩
    obtain ⟨outcome, isOutcome, log, makes, verdict⟩ :=
      Client.performs_of_resolutions before situation
    refine ⟨outcome, log, isOutcome, makes, ?_, verdict.truthful⟩
    intro model gives
    exact (verdict.granted model gives).2
  · obtain ⟨log, makes, verdict⟩ := Client.openedByCreating_performs config proposal world
    refine ⟨log, makes, ?_, verdict.truthful⟩
    intro client opens
    obtain ⟨calls, accepted⟩ := verdict.granted client opens
    have usable := (Session.openedByCreating_eq_ok (Prod.ext opens rfl)).1
    rw [if_pos usable] at calls
    obtain ⟨entry, rfl, isCall⟩ := List.map_eq_singleton_iff.mp calls
    refine ⟨entry.2, ?_, ?_⟩
    · rw [← isCall]
    · rw [← isCall]
      exact accepted entry (List.mem_singleton_self entry)

/-- A service that fails to list the models is not taken for one that fails to remove. -/
theorem verdictLaw_of_runs_sample :
    ∃ failure,
      ((Action.removeDocument "d").operation (.sampleFailure true)).1 = .error failure ∧
      failure.isNonFatal = false ∧
      failure = .unexpectedStatus .sampleFailure "oops" := by
  obtain ⟨⟨log, law⟩, _⟩ := verdictLaw_of_runs (.sampleFailure true) (.removeDocument "d") 0
    .sample ⟨"", "", .ownerOnly⟩ (.sample [])
  have trace : (Action.removeDocument "d").trace (.sampleFailure true) = [.models] := by
    decide +kernel
  have makes := law.makes
  rw [trace] at makes
  obtain ⟨exchange, member, answered⟩ :=
    makes.exists_entry (.sampleFailure true) (by decide +kernel)
  obtain ⟨failure, fails, nonFatal, isFailure⟩ :=
    law.unlisted exchange _ member answered rfl (by simp)
  exact ⟨failure, fails, nonFatal, isFailure⟩

/-- A reply to the request for the models that does not tell success is not always an
unexpected status: a removal whose listing is cut off is a request that failed. -/
theorem not_always_unexpected :
    ¬ ∀ (action : Action) (situation : Situation), action.isBulk = false →
        ∃ log, situation.Makes (action.trace situation) log (action.operation situation).2 ∧
          ∀ exchange reply, (Call.models, exchange) ∈ log → exchange.answer = .reply reply →
            reply.status.isSuccess = false →
            ∃ body, (action.operation situation).1 =
              .error (.unexpectedStatus reply.status body) := by
  intro unexpected
  obtain ⟨log, makes, tells⟩ := unexpected (.removeDocument "d") (.sampleFailure false) rfl
  have trace : (Action.removeDocument "d").trace (.sampleFailure false) = [.models] := by
    decide +kernel
  rw [trace] at makes
  obtain ⟨exchange, member, answered⟩ :=
    makes.exists_entry (.sampleFailure false) (by decide +kernel)
  obtain ⟨body, fails⟩ := tells exchange _ member answered rfl
  have untold : (match ((Action.removeDocument "d").operation (.sampleFailure false)).1 with
      | .error failure => failure.status?
      | .ok _ => none) = none := by
    decide +kernel
  rw [fails] at untold
  cases untold

end KnowledgeClient
