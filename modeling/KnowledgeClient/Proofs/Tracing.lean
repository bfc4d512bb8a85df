import KnowledgeClient.Proofs.Logs

/-!
# The calls that actions make

What an action asks for is told beforehand by `Action.trace`: the list of models, if
the model has to be resolved and the client is not bound, and then the action's own
calls, if a model was found.  Each call of the trace is made once and in its order if
its request goes out; no other call is made, and none is made again.
-/

namespace KnowledgeClient

/-! ## The trace of an action -/

namespace Situation

/-- The calls of a number of resolutions one after the other. -/
def learnings : Nat → Situation → List Call
  | 0, _ => []
  | count + 1, situation =>
    situation.learning ++ learnings count (Client.resolve situation).2

/-- The documents that are listed of the model that the situation's client resolves. -/
def listedDocuments (situation : Situation) : List Document :=
  match (Client.listDocuments situation).1 with
  | .ok documents => documents
  | .error _ => []

end Situation

namespace Action

/-- The calls that an action makes, in their order.  Only what can be opened and read as a
file is uploaded, after the model is resolved; a chat reads the file that it asks first. -/
def trace (situation : Situation) : Action → List Call
  | .checkAlive => [.probe]
  | .listModels => [.models]
  | .createModel _ => [.newModel]
  | .listLanguageModels => [.languageModels]
  | .resolve => situation.asking fun _ => []
  | .resolveMany count => situation.learnings count
  | .upload path => situation.asking fun model =>
    match situation.world.files.find path with
    | .ok (.file _) => [.upload model]
    | _ => []
  | .listDocuments => situation.asking fun model => [.documents model]
  | .removeDocument document => situation.asking fun model => [.removal model document]
  | .removeAllDocuments => situation.asking fun model =>
    .documents model :: situation.listedDocuments.map fun document => .removal model document.id
  | .query _ _ => situation.asking fun model => [.chat model]
  | .queryFile path _ =>
    match situation.world.files.readText path with
    | .ok _ => situation.asking fun model => [.chat model]
    | .error _ => []

/-- The action does its one thing many times, and goes on when one of them fails. -/
def isBulk : Action → Bool
  | .resolveMany _ | .removeAllDocuments => true
  | _ => false

end Action

namespace Client

/-- What resolves the model and then makes one call asks for both. -/
theorem resolve_bind_calling_performs
    {α : Type}
    {situation : Situation}
    {next : ModelId → Operation α}
    {call : ModelId → Call}
    {payload : Http.Payload}
    {content : Http.Reply → Except Json.Fault α}
    {notes : Http.Reply → List Note}
    (calls : ∀ model after, next model after =
      after.calling (call model) (some payload)
        ((call model).judge after.client.config.policy content ·) notes) :
    situation.Performs (situation.asking fun model => [call model])
      ((resolve >>= next) situation) := by
  apply resolve_bind_performs
  intro model after _
  rw [calls]
  exact after.calling_performs (call model) payload content notes

theorem listDocuments_performs (situation : Situation) :
    situation.Performs (situation.asking fun model => [.documents model])
      (listDocuments situation) :=
  resolve_bind_calling_performs documentsOf_calling

theorem removeDocument_performs
    (document : String)
    (situation : Situation) :
    situation.Performs (situation.asking fun model => [.removal model document])
      (removeDocument document situation) :=
  resolve_bind_calling_performs (removeFrom_calling document)

theorem query_performs
    (content : String)
    (options : ChatOptions)
    (situation : Situation) :
    situation.Performs (situation.asking fun model => [.chat model])
      (query content options situation) := by
  apply resolve_bind_performs
  intro model after _
  rw [askOf_calling]
  exact ((after.noting (askingNotes content options)).calling_performs
    (.chat model) _ _ _).of_noting

/-- A folder can be opened, but its upload is refused before it leaves. -/
theorem upload_performs
    (path : Files.Path)
    (situation : Situation) :
    situation.Performs ((Action.upload path).trace situation) (upload path situation) := by
  apply resolve_bind_performs
  intro model after resolved
  have files := (resolution situation).files_eq
  rw [resolved] at files
  rw [← files]
  cases opens : after.world.files.find path with
  | error reason =>
      rw [uploadInto_of_closed opens]
      exact .failed after rfl (by simp)
  | ok entry =>
      cases entry with
      | file content =>
          rw [uploadInto_calling opens]
          exact after.calling_performs _ _ _ _
      | folder =>
          obtain ⟨fault, _, fails⟩ := uploadInto_of_folder opens model
          rw [fails]
          exact .failed after rfl (by simp)

theorem queryFile_performs
    (path : Files.Path)
    (options : ChatOptions)
    (situation : Situation) :
    situation.Performs ((Action.queryFile path options).trace situation)
      (queryFile path options situation) := by
  unfold queryFile
  rw [Operation.get_bind_apply]
  simp only [Action.trace]
  cases situation.world.files.readText path with
  | error reason => exact .failed situation (by simp [Failure.status?]) (by simp)
  | ok content => exact query_performs content options situation

end Client

namespace Action

/-- An action that does one thing once makes the calls of its trace. -/
theorem performs
    {action : Action}
    (single : action.isBulk = false)
    (situation : Situation) :
    situation.Performs (action.trace situation) (action.operation situation) := by
  cases action with
  | checkAlive =>
      refine .map ?_ Outcome.health
      rw [Client.checkAlive_calling]
      exact situation.calling_performs .probe .nothing _ _
  | listModels =>
      refine .map ?_ Outcome.knowledgeModels
      rw [Client.listModels_calling]
      exact situation.calling_performs .models .nothing _ _
  | createModel proposal =>
      refine .map ?_ Outcome.knowledgeModel
      rw [Client.createModel_calling]
      exact situation.calling_performs .newModel _ _ _
  | listLanguageModels =>
      refine .map ?_ Outcome.languageModels
      rw [Client.listLanguageModels_calling]
      exact situation.calling_performs .languageModels .nothing _ _
  | resolve =>
      apply Client.resolve_bind_performs
      intro model after _
      exact Situation.Performs.given after (Outcome.model model)
  | upload path => exact .map (Client.upload_performs path situation) _
  | listDocuments => exact .map (Client.listDocuments_performs situation) _
  | removeDocument document => exact .map (Client.removeDocument_performs document situation) _
  | query content options => exact .map (Client.query_performs content options situation) _
  | queryFile path options => exact .map (Client.queryFile_performs path options situation) _
  | resolveMany count => cases single
  | removeAllDocuments => cases single

end Action

/-! ## Actions that do their one thing many times -/

namespace Client

theorem resolutions_makes
    (count : Nat)
    (situation : Situation) :
    ∃ log, situation.Makes (situation.learnings count) log (resolutions count situation).2 := by
  induction count generalizing situation with
  | zero => exact ⟨[], .refl situation⟩
  | succ count inductionHypothesis =>
      obtain ⟨firstLog, first, _⟩ := (resolution situation).performs
      obtain ⟨furtherLog, further⟩ := inductionHypothesis (resolve situation).2
      exact ⟨firstLog ++ furtherLog, first.append further⟩

theorem removals_makes
    (model : ModelId)
    (documents : List String)
    (situation : Situation) :
    ∃ log, situation.Makes (documents.map (.removal model)) log
      (removals (removeFrom · model) documents situation).2 := by
  induction documents generalizing situation with
  | nil => exact ⟨[], .refl situation⟩
  | cons document documents inductionHypothesis =>
      have performs := situation.calling_performs (.removal model document) .nothing
        (fun _ => .ok ()) (documentNotes document)
      rw [← removeFrom_calling] at performs
      obtain ⟨firstLog, first, _⟩ := performs
      rw [removals_cons]
      generalize removeFrom document model situation = removal at first ⊢
      obtain ⟨furtherLog, further⟩ := inductionHypothesis removal.2
      exact ⟨firstLog ++ furtherLog, first.append further⟩

/-- The calls that remove all documents are those that list them and then one removal for
each document that is listed. -/
theorem trace_of_listed
    {situation listed : Situation}
    {documents : List Document}
    (lists : listDocuments situation = (.ok documents, listed)) :
    ∃ model, listed.client.bound = some model ∧
      Action.removeAllDocuments.trace situation =
        situation.asking (fun model => [.documents model]) ++
          (documents.map (·.id)).map (.removal model) := by
  have resolution := resolution situation
  have listedDocuments : situation.listedDocuments = documents := by
    rw [Situation.listedDocuments, lists]
  unfold listDocuments at lists
  simp only [Action.trace, Situation.asking, listedDocuments]
  rcases resolved : resolve situation with ⟨failure | model, after⟩
  · rw [Operation.bind_of_error resolved] at lists
    cases lists
  · rw [Operation.bind_of_ok resolved] at lists
    rw [resolved] at resolution
    have client := (documentsOf_asks model after).1
    rw [lists] at client
    refine ⟨model, ?_, by simp [Function.comp_def]⟩
    rw [client, resolution.bound_of_ok]

/-- Removing all documents lists them, and if that is not possible it ends there. -/
theorem removeAllDocuments_makes (situation : Situation) :
    ∃ log removalLog,
      situation.Makes (Action.removeAllDocuments.trace situation) (log ++ removalLog)
        (removeAllDocuments situation).2 ∧
      Verdict situation.client.config.policy (situation.asking fun model => [.documents model])
        log (listDocuments situation).1 ∧
      (∀ call exchange, (call, exchange) ∈ removalLog →
        ∃ model document, call = .removal model document) ∧
      ∀ failure, (removeAllDocuments situation).1 = .error failure →
        (listDocuments situation).1 = .error failure ∧ removalLog = [] := by
  obtain ⟨log, makes, verdict⟩ := listDocuments_performs situation
  rcases lists : listDocuments situation with ⟨failure | documents, listed⟩
  · rw [lists] at makes verdict
    have unlisted : situation.listedDocuments = [] := by
      rw [Situation.listedDocuments, lists]
    rw [removeAllDocuments_of_unlisted lists]
    refine ⟨log, [], ?_, verdict, by simp, by simp⟩
    rw [List.append_nil, Action.trace, unlisted]
    exact makes
  · rw [lists] at makes verdict
    -- The removals go on whatever becomes of them, and never fail as a whole.
    obtain ⟨model, isBound, trace⟩ := trace_of_listed lists
    obtain ⟨removalLog, removing⟩ := removals_makes model (documents.map (·.id)) listed
    rw [removeAllDocuments_of_listed lists isBound, trace]
    refine ⟨log, removalLog, makes.append (removing.noting _), verdict, ?_, by simp⟩
    intro call exchange member
    obtain ⟨document, _, same⟩ := List.mem_map.mp (removing.mem_calls member)
    exact ⟨model, document, same.symm⟩

end Client

namespace Action

/-- Every action makes the calls of its trace. -/
theorem makes
    (action : Action)
    (situation : Situation) :
    ∃ log, situation.Makes (action.trace situation) log (action.operation situation).2 := by
  cases single : action.isBulk with
  | false =>
      obtain ⟨log, makes, _⟩ := performs single situation
      exact ⟨log, makes⟩
  | true =>
      cases action with
      | resolveMany count =>
          rw [resolveMany_operation]
          exact Client.resolutions_makes count situation
      | removeAllDocuments =>
          obtain ⟨log, removalLog, makes, _⟩ := Client.removeAllDocuments_makes situation
          refine ⟨log ++ removalLog, ?_⟩
          rw [operation, Operation.map_apply]
          exact makes
      | _ => cases single

end Action

/-! ## What a trace depends on -/

/-- The same call, about another model if it is about one. -/
def Call.about (model : ModelId) : Call → Call
  | .upload _ => .upload model
  | .documents _ => .documents model
  | .removal _ document => .removal model document
  | .chat _ => .chat model
  | call => call

/-- Of the replies, only whether the model is found bears on what is asked then. -/
theorem Situation.asking_about
    {first second : Situation}
    (sameClient : first.client = second.client)
    (sameFinding : (Client.resolve first).1.isOk = (Client.resolve second).1.isOk)
    {calls : ModelId → List Call}
    {other : ModelId}
    (uniform : ∀ model found,
      (calls model).map (Call.about other) = (calls found).map (Call.about other)) :
    (first.asking calls).map (Call.about other) = (second.asking calls).map (Call.about other) := by
  have sameLearning : first.learning = second.learning := by
    rw [learning, learning, sameClient]
  unfold asking
  rw [sameLearning, List.map_append, List.map_append]
  apply congrArg
  cases firstFound : (Client.resolve first).1 with
  | error failure =>
      cases secondFound : (Client.resolve second).1 with
      | error other => rfl
      | ok found => simp [firstFound, secondFound, Except.isOk, Except.toBool] at sameFinding
  | ok model =>
      cases secondFound : (Client.resolve second).1 with
      | error other => simp [firstFound, secondFound, Except.isOk, Except.toBool] at sameFinding
      | ok found => exact uniform model found

theorem Situation.nodup_asking
    (situation : Situation)
    {calls : ModelId → List Call}
    (nodup : ∀ model, (calls model).Nodup)
    (apart : ∀ model, Call.models ∉ calls model) :
    (situation.asking calls).Nodup := by
  unfold asking learning
  cases (Client.resolve situation).1 with
  | error failure =>
      cases situation.client.bound <;> simp
  | ok model =>
      cases situation.client.bound with
      | none => simpa using ⟨apart model, nodup model⟩
      | some bound => simpa using nodup model

namespace Action

variable {action : Action}

/-- An action that does one thing once asks for nothing twice. -/
theorem nodup_trace
    (single : action.isBulk = false)
    (situation : Situation) :
    (action.trace situation).Nodup := by
  cases action with
  | resolve => exact situation.nodup_asking (by simp) (by simp)
  | upload path =>
      apply situation.nodup_asking
      · intro model
        split <;> simp
      · intro model
        split <;> simp
  | listDocuments | removeDocument | query => exact situation.nodup_asking (by simp) (by simp)
  | queryFile path options =>
      simp only [trace]
      cases situation.world.files.readText path with
      | error reason => exact List.nodup_nil
      | ok content => exact situation.nodup_asking (by simp) (by simp)
  | resolveMany | removeAllDocuments => cases single
  | checkAlive | listModels | createModel | listLanguageModels => simp [trace]

/-- For the same client and the same files, the calls of an action that does one thing once
differ at most by the model that was found. -/
theorem trace_about
    (single : action.isBulk = false)
    {first second : Situation}
    (sameClient : first.client = second.client)
    (sameFiles : first.world.files = second.world.files)
    (sameFinding : (Client.resolve first).1.isOk = (Client.resolve second).1.isOk)
    (other : ModelId) :
    (action.trace first).map (Call.about other) = (action.trace second).map (Call.about other) := by
  cases action with
  | upload path =>
      simp only [trace, sameFiles]
      apply Situation.asking_about sameClient sameFinding
      intro model found
      split <;> rfl
  | queryFile path options =>
      simp only [trace, sameFiles]
      cases second.world.files.readText path with
      | error reason => rfl
      | ok content => exact Situation.asking_about sameClient sameFinding fun _ _ => rfl
  | resolve | listDocuments | removeDocument | query =>
      exact Situation.asking_about sameClient sameFinding fun _ _ => rfl
  | resolveMany | removeAllDocuments => cases single
  | _ => rfl

/-- If its requests go out, an action holds one exchange for each call of its trace, in this
order, and no other, whatever the answers are.  An action that does one thing once asks for
nothing twice, and of the replies only whether the model is found bears on what it asks for. -/
theorem exchanges_eq_trace
    (action : Action)
    (situation : Situation)
    (reaches : situation.Reaches (action.trace situation)) :
    (∃ log : Log,
      (action.operation situation).2.world.exchanges =
          situation.world.exchanges ++ log.map (·.2) ∧
        (∀ entry ∈ log, entry.2.IsFor situation.client.config entry.1) ∧
        log.map (·.1) = action.trace situation) ∧
      (action.isBulk = false →
        (action.trace situation).Nodup ∧
          ∀ other : Situation, other.client = situation.client →
            other.world.files = situation.world.files →
            (Client.resolve other).1.isOk = (Client.resolve situation).1.isOk →
            ∀ model, (action.trace other).map (Call.about model) =
              (action.trace situation).map (Call.about model)) := by
  constructor
  · obtain ⟨log, makes⟩ := action.makes situation
    exact ⟨log, makes.exchanges_eq, makes.isFor, makes.complete reaches⟩
  · intro single
    refine ⟨nodup_trace single situation, ?_⟩
    intro other sameClient sameFiles sameFinding model
    exact trace_about single sameClient sameFiles sameFinding model

/-- The documents are asked for once, though the connection is dropped. -/
theorem exchanges_eq_trace_sample :
    (Situation.sample [.sample, .dropped]).Reaches
        (Action.listDocuments.trace (.sample [.sample, .dropped])) ∧
      ∃ log : Log,
        (Action.listDocuments.operation (.sample [.sample, .dropped])).2.world.exchanges =
          log.map (·.2) ∧
        log.map (·.1) = [.models, .documents "m"] := by
  have trace : Action.listDocuments.trace (.sample [.sample, .dropped]) =
      [.models, .documents "m"] := by
    decide +kernel
  have reaches : (Situation.sample [.sample, .dropped]).Reaches
      (Action.listDocuments.trace (.sample [.sample, .dropped])) := by
    refine ⟨by decide, ?_⟩
    rw [trace]
    decide +kernel
  obtain ⟨⟨log, exchanges, _, calls⟩, _⟩ :=
    exchanges_eq_trace .listDocuments (.sample [.sample, .dropped]) reaches
  rw [trace] at calls
  exact ⟨reaches, log, exchanges, calls⟩

end Action
end KnowledgeClient
