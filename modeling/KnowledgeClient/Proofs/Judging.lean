import KnowledgeClient.Proofs.Actions

/-!
# What operations make of replies

Replies are judged in one way, whatever they reply to.  A call that reads bodies
needs the body to its end; then the status must be one that the call accepts; then
the content must read.  `Call.judge` says this once, with the statuses that each
call accepts and the failure that tells of others.  Every operation that makes a
call gives what `Situation.calling` gives: it is refused before it leaves, or its
connection is dropped, or its reply is judged and things are noted of it.
-/

namespace KnowledgeClient

/-! ## Judging replies -/

/-- What the text of a reply reads as, where a body that did not arrive is an empty text. -/
def Http.Reply.reading
    {α : Type}
    (read : String → Except Json.Fault α)
    (reply : Reply) : Except Json.Fault α :=
  read (reply.text?.getD "")

namespace Call

/-- The call reads the body of its reply. -/
def readsBody : Call → Bool
  | .probe | .removal _ _ => false
  | _ => true

/-- The call accepts a reply with the status: an upload accepts plain success only, a probe
accepts any status, and so does a chat if the policy says so. -/
def accepts (policy : ChatPolicy) (status : Http.Status) : Call → Bool
  | .probe => true
  | .upload _ => decide (status = .ok)
  | .chat _ => decide (policy = .acceptAny) || status.isSuccess
  | _ => status.isSuccess

/-- The failure that tells of a reply with a status that the call does not accept. -/
def rejection (status : Http.Status) (body : String) : Call → Failure
  | .upload _ => .uploadFailed status body
  | .removal _ document => .deleteFailed document status
  | .chat _ => .chatFailed status body
  | _ => .unexpectedStatus status body

/-- The call reads the body of its reply, which was cut off. -/
def lacksBody (reply : Http.Reply) (call : Call) : Bool :=
  call.readsBody && reply.text?.isNone

/-- What the call makes of a reply with a status that it does not accept: a body that was cut
off comes before the status. -/
def refusal (reply : Http.Reply) (call : Call) : Failure :=
  if call.lacksBody reply then .requestFailed .cutOff
  else call.rejection reply.status (reply.text?.getD "")

/-- What the call makes of a reply, where the content of one that it accepts is read like this. -/
def judge
    {α : Type}
    (policy : ChatPolicy)
    (content : Http.Reply → Except Json.Fault α)
    (reply : Http.Reply)
    (call : Call) : Except Failure α :=
  if call.accepts policy reply.status then
    if call.lacksBody reply then .error (.requestFailed .cutOff)
    else (content reply).mapError .invalidPayload
  else .error (call.refusal reply)

variable
  {α β : Type}
  {policy : ChatPolicy}
  {content : Http.Reply → Except Json.Fault α}
  {reply : Http.Reply}
  {call : Call}
  {failure : Failure}
  {status : Http.Status}

/-- Only the last of a call's faults tells a status, and it tells the one of the reply. -/
theorem status?_refusal :
    (call.refusal reply).status? =
      if call.lacksBody reply then none else some reply.status := by
  unfold refusal
  split
  · rfl
  · cases call <;> rfl

theorem judge_of_rejected
    (rejected : call.accepts policy reply.status = false) :
    call.judge policy content reply = .error (call.refusal reply) := by
  rw [judge, rejected]
  rfl

/-- A judgement fails by what is not received or does not read, or it is the refusal. -/
theorem judge_eq_error
    (fails : call.judge policy content reply = .error failure) :
    (failure = .requestFailed .cutOff ∨ ∃ fault, failure = .invalidPayload fault) ∨
      call.accepts policy reply.status = false ∧ failure = call.refusal reply := by
  cases accepted : call.accepts policy reply.status with
  | false =>
      rw [judge_of_rejected accepted] at fails
      exact .inr ⟨rfl, (Except.error.inj fails).symm⟩
  | true =>
      left
      rw [judge, if_pos accepted] at fails
      split at fails
      · exact .inl (Except.error.inj fails).symm
      · cases reading : content reply with
        | ok value =>
            rw [reading] at fails
            cases fails
        | error fault =>
            rw [reading] at fails
            exact .inr ⟨fault, (Except.error.inj fails).symm⟩

theorem map_judge (function : α → β) :
    (call.judge policy content reply).map function =
      call.judge policy (fun reply => (content reply).map function) reply := by
  unfold judge
  split
  · split
    · rfl
    · cases reading : content reply with
      | error fault => simp only [reading]; rfl
      | ok value => simp only [reading]; rfl
  · rfl

/-- A body that was cut off is what a call that reads bodies fails with. -/
theorem judge_of_cutOff
    (readsBody : call.readsBody = true)
    (cutOff : reply.text? = none) :
    call.judge policy content reply = .error (.requestFailed .cutOff) := by
  simp [judge, refusal, lacksBody, readsBody, cutOff]

/-- A body that arrived is read if the call accepts the status. -/
theorem judge_of_arrived
    {text : String}
    (arrived : reply.text? = some text)
    (read : String → Except Json.Fault α) :
    call.judge policy (·.reading read) reply =
      if call.accepts policy reply.status then Operation.valueOf read text
      else .error (call.rejection reply.status text) := by
  have reads : reply.reading read = read text := by simp [Http.Reply.reading, arrived]
  simp only [judge, refusal, lacksBody, arrived, reads, Option.isNone_some, Bool.and_false,
    Bool.false_eq_true, if_false, Option.getD_some, Operation.valueOf]
  cases read text <;> rfl

/-- Reading the content of a reply is how a call judges it that reads the body, accepts any
success and rejects all else as unexpected. -/
theorem contentOf_eq_judge
    (call : Call)
    (policy : ChatPolicy)
    (readsBody : call.readsBody = true)
    (accepts : call.accepts policy reply.status = reply.status.isSuccess)
    (rejection : ∀ body, call.rejection reply.status body = .unexpectedStatus reply.status body)
    (read : String → Except Json.Fault α) :
    Operation.contentOf read reply = call.judge policy (·.reading read) reply := by
  unfold Operation.contentOf
  cases arrived : reply.text? with
  | none => exact (judge_of_cutOff readsBody arrived).symm
  | some text => rw [judge_of_arrived arrived, accepts, rejection]

end Call

/-! ## Making calls -/

namespace Situation

/-- What an operation gives that makes a call, and the situation it leaves, where a reply is
judged like this and these things are noted of it. -/
def calling
    {α : Type}
    (situation : Situation)
    (call : Call)
    (payload : Option Http.Payload)
    (judge : Http.Reply → Except Failure α)
    (notes : Http.Reply → List Note) : Except Failure α × Situation :=
  match situation.world.target (situation.client.config.address call) payload with
  | .error fault => (.error (.requestFailed fault), situation)
  | .ok url =>
    let after := situation.answering
      (World.requestTo situation.client.config.accessHeader call.method url payload)
    match situation.world.network.next with
    | .dropped => (.error (.requestFailed (.dropped url.text)), after)
    | .reply given => (judge given, after.noting (notes given))

end Situation

namespace Operation

variable {α β : Type}

/-- An operation that sends the request of a call and handles the reply makes the call. -/
theorem sendAny_bind_apply
    {situation : Situation}
    {method : Http.Method}
    {path : String}
    {handler : Http.Reply → Operation α}
    {judge : Http.Reply → Except Failure α}
    {notes : Http.Reply → List Note}
    (call : Call)
    (isMethod : call.method = method)
    (isPath : call.path = path)
    (payload : Option Http.Payload)
    (handles : ∀ given after, after.client = situation.client →
      handler given after = (judge given, after.noting (notes given))) :
    (sendAny method path payload >>= handler) situation =
      situation.calling call payload judge notes := by
  subst isMethod isPath
  rw [bind_apply, sendAny_call]
  unfold Situation.calling
  cases situation.world.target (situation.client.config.address call) payload with
  | error fault => rfl
  | ok url =>
      cases situation.world.network.next with
      | dropped => rfl
      | reply given => exact handles given _ rfl

/-- Reading a reply and making something of it is making it of the reply's content. -/
theorem readReply_bind_pure
    (read : String → Except Json.Fault α)
    (function : α → β)
    (reply : Http.Reply)
    (situation : Situation) :
    (readReply read reply >>= fun value => pure (function value)) situation =
      ((contentOf read reply).map function, situation.noting []) := by
  rw [bind_apply, readReply_apply]
  cases contentOf read reply <;> rfl

end Operation

/-- The name of the file that a path leads to, as it is shown: the last piece that stands for
something, with U+FFFD for what is no text.  Where there is none, or it stands for the folder
above, the file is called an upload. -/
def Files.Path.shownName (path : Files.Path) : String :=
  match path.names.getLast? with
  | some name => if name = [0x2E, 0x2E] then "upload" else Text.decodeLossy name
  | none => "upload"

namespace Client

open Operation

/-- A file is uploaded under the name that it is shown by. -/
theorem uploadName_eq (path : Files.Path) : uploadName path = path.shownName := by
  unfold uploadName Files.Path.fileName? Files.Path.shownName
  cases path.names.getLast? with
  | none => rfl
  | some name =>
      by_cases isAbove : name = [0x2E, 0x2E]
      · simp [isAbove, Option.filter, Files.aboveName, Files.dot]
      · simp [isAbove, Option.filter, Files.aboveName, Files.dot]

/-! ## Operations that need no model -/

theorem listModels_calling (situation : Situation) :
    listModels situation = situation.calling .models (some .nothing)
      (Call.models.judge situation.client.config.policy fun reply =>
        (reply.reading (Listing.read KnowledgeModel.schema.read)).map Listing.results)
      Http.Reply.listingNotes := by
  unfold listModels send
  refine sendAny_bind_apply .models rfl rfl _ fun given after _ => ?_
  rw [← Call.map_judge, ← Call.contentOf_eq_judge .models _ rfl rfl fun _ => rfl, bind_apply,
    readReply_apply, Http.Reply.listingNotes]
  cases contentOf (Listing.read KnowledgeModel.schema.read) given <;> rfl

theorem createModel_calling
    (proposal : ModelProposal)
    (situation : Situation) :
    createModel proposal situation =
      situation.calling .newModel (some (.json (String.ofList proposal.jsonChars)))
        (Call.newModel.judge situation.client.config.policy (·.reading KnowledgeModel.read))
        fun _ => [] := by
  unfold createModel send
  refine sendAny_bind_apply .newModel rfl rfl _ fun given after _ => ?_
  rw [← Call.contentOf_eq_judge .newModel _ rfl rfl fun _ => rfl]
  exact readReply_apply _ _ _

/-- What is noted of a model that was made. -/
def modelNotes (model : KnowledgeModel) : List Note :=
  [.ofClient .info "knowledge model created"
    [("model_id", .bare model.id), ("name", .bare model.name)]]

/-- Making a model and saying so is making it and noting what came of it. -/
theorem announceModel_apply
    (proposal : ModelProposal)
    (situation : Situation) :
    announceModel proposal situation =
      match createModel proposal situation with
      | (.ok model, after) => (.ok model, after.noting (modelNotes model))
      | (.error failure, after) => (.error failure, after) := by
  unfold announceModel
  rw [bind_apply]
  rcases createModel proposal situation with ⟨failure | model, after⟩ <;> rfl

theorem listLanguageModels_calling (situation : Situation) :
    listLanguageModels situation = situation.calling .languageModels (some .nothing)
      (Call.languageModels.judge situation.client.config.policy fun reply =>
        (reply.reading (Listing.read LanguageModelInfo.schema.read)).map Listing.results)
      fun _ => [] := by
  unfold listLanguageModels send
  refine sendAny_bind_apply .languageModels rfl rfl _ fun given after _ => ?_
  rw [← Call.map_judge, ← Call.contentOf_eq_judge .languageModels _ rfl rfl fun _ => rfl]
  exact readReply_bind_pure _ _ _ _

/-- What is noted of the reply to a probe. -/
def probeNotes (reply : Http.Reply) : List Note :=
  [.ofClient .debug "alive probe" [("status", .bare reply.status.text)]]

theorem checkAlive_calling (situation : Situation) :
    checkAlive situation = situation.calling .probe (some .nothing)
      (Call.probe.judge situation.client.config.policy fun reply => .ok ⟨reply.status⟩)
      probeNotes := by
  unfold checkAlive send
  exact sendAny_bind_apply .probe rfl rfl _ fun given after _ => rfl

/-! ## Operations that are told their model -/

/-- The records that are written of the reply to an upload. -/
def uploadRecords
    (path : Files.Path)
    (reply : Http.Reply) : List JournalRecord :=
  match reply.text? with
  | none => []
  | some text =>
    if reply.status = .ok then
      match Document.read text with
      | .ok document => [⟨.info, "client.upload", path.shownName ++ " -> " ++ document.id⟩]
      | .error _ => []
    else [⟨.error, "client.upload", path.shownName ++ " -> " ++ reply.status.text⟩]

/-- What is noted of the reply to an upload: each record follows the event that it is about. -/
def uploadNotes
    (path : Files.Path)
    (reply : Http.Reply) : List Note :=
  match reply.text? with
  | none => []
  | some text =>
    if reply.status = .ok then
      match Document.read text with
      | .ok document =>
        [.ofClient .info "document uploaded"
            [("document_id", .bare document.id), ("file", .bare path.shownName)],
          .record ⟨.info, "client.upload", path.shownName ++ " -> " ++ document.id⟩]
      | .error _ => []
    else
      [.ofClient .warning "upload rejected"
          [("status", .bare reply.status.text), ("file", .bare path.shownName)],
        .record ⟨.error, "client.upload", path.shownName ++ " -> " ++ reply.status.text⟩]

theorem filterMap_uploadNotes
    (path : Files.Path)
    (reply : Http.Reply) :
    (uploadNotes path reply).filterMap Note.record? = uploadRecords path reply := by
  unfold uploadNotes uploadRecords
  cases reply.text? with
  | none => rfl
  | some text =>
      by_cases plain : reply.status = .ok
      · simp only [plain, if_true]
        cases Document.read text <;> rfl
      · simp only [plain, if_false]
        rfl

/-- The records that are written of the reply to a removal. -/
def removalRecords
    (document : String)
    (reply : Http.Reply) : List JournalRecord :=
  if reply.status.isSuccess then []
  else [⟨.error, "client.remove", document ++ " -> " ++ reply.status.text⟩]

/-- What is noted of the reply to the removal of one document. -/
def documentNotes
    (document : String)
    (reply : Http.Reply) : List Note :=
  let about := [("status", EventValue.bare reply.status.text), ("document_id", .quoted document)]
  if reply.status.isSuccess then [.ofClient .debug "document removed" about]
  else
    [.ofClient .warning "document removal failed" about,
      .record ⟨.error, "client.remove", document ++ " -> " ++ reply.status.text⟩]

theorem filterMap_documentNotes
    (document : String)
    (reply : Http.Reply) :
    (documentNotes document reply).filterMap Note.record? = removalRecords document reply := by
  unfold documentNotes removalRecords
  cases reply.status.isSuccess <;> rfl

/-- The records that are written of the reply to a chat. -/
def chatRecords
    (content : String)
    (options : ChatOptions)
    (reply : Http.Reply) : List JournalRecord :=
  match reply.text? with
  | none => []
  | some _ =>
    if reply.status.isSuccess then
      [⟨.info, "client.query",
        "model=" ++ options.model.code ++ " prompt_len=" ++
          toString (Text.encode content).length⟩]
    else
      [⟨.error, "client.query",
        "model=" ++ options.model.code ++ " status=" ++ reply.status.text⟩]

/-- What is noted before a chat is asked. -/
def askingNotes
    (content : String)
    (options : ChatOptions) : List Note :=
  [.ofClient .debug "sending chat completion"
    [("model", .bare options.model.code), ("prompt_len", .number (Text.encode content).length)]]

/-- What is noted of the reply to a chat: its record, and that a status was let pass. -/
def chatNotes
    (policy : ChatPolicy)
    (content : String)
    (options : ChatOptions)
    (reply : Http.Reply) : List Note :=
  match reply.text? with
  | none => []
  | some _ =>
    if reply.status.isSuccess then
      [.record ⟨.info, "client.query",
        "model=" ++ options.model.code ++ " prompt_len=" ++
          toString (Text.encode content).length⟩]
    else
      .record ⟨.error, "client.query",
          "model=" ++ options.model.code ++ " status=" ++ reply.status.text⟩ ::
        match policy with
        | .requireSuccess => []
        | .acceptAny =>
          [.ofClient .warning "chat completion returned error status, passing body through"
            [("status", .bare reply.status.text)]]

theorem filterMap_chatNotes
    (policy : ChatPolicy)
    (content : String)
    (options : ChatOptions)
    (reply : Http.Reply) :
    (chatNotes policy content options reply).filterMap Note.record? =
      chatRecords content options reply := by
  unfold chatNotes chatRecords
  cases reply.text? with
  | none => rfl
  | some text =>
      cases reply.status.isSuccess with
      | true => rfl
      | false => cases policy <;> rfl

theorem documentsOf_calling
    (model : ModelId)
    (situation : Situation) :
    documentsOf model situation = situation.calling (.documents model) (some .nothing)
      ((Call.documents model).judge situation.client.config.policy fun reply =>
        (reply.reading (Listing.read Document.schema.read)).map Listing.results)
      fun _ => [] := by
  unfold documentsOf send
  refine sendAny_bind_apply (.documents model) rfl rfl _ fun given after _ => ?_
  rw [← Call.map_judge, ← Call.contentOf_eq_judge (.documents model) _ rfl rfl fun _ => rfl]
  exact readReply_bind_pure _ _ _ _

theorem removeFrom_calling
    (document : String)
    (model : ModelId)
    (situation : Situation) :
    removeFrom document model situation =
      situation.calling (.removal model document) (some .nothing)
        ((Call.removal model document).judge situation.client.config.policy fun _ => .ok ())
        (documentNotes document) := by
  unfold removeFrom send
  refine sendAny_bind_apply (.removal model document) rfl rfl _ fun given after _ => ?_
  unfold Call.judge Call.accepts documentNotes
  cases given.status.isSuccess with
  | true => rfl
  | false => rfl

/-- A file that can be opened is uploaded by one call. -/
theorem uploadInto_calling
    {path : Files.Path}
    {situation : Situation}
    {entry : Files.Entry}
    (opens : situation.world.files.find path = .ok entry)
    (model : ModelId) :
    uploadInto path model situation =
      situation.calling (.upload model) (uploadPayload situation.world.platform path entry)
        ((Call.upload model).judge situation.client.config.policy (·.reading Document.read))
        (uploadNotes path) := by
  unfold uploadInto
  simp only [get_bind_apply, opens, uploadName_eq]
  refine sendAny_bind_apply (.upload model) rfl rfl _ fun given after _ => ?_
  rw [bind_apply, bodyText_apply]
  unfold bodyOf uploadNotes
  cases arrived : given.text? with
  | none => rw [Call.judge_of_cutOff rfl arrived]; rfl
  | some text =>
      rw [Call.judge_of_arrived arrived]
      by_cases plain : given.status = .ok
      · simp only [Call.accepts, plain, if_true, decide_true]
        rw [bind_apply, parse_apply, valueOf]
        cases Document.read text <;> rfl
      · simp only [Call.accepts, plain, if_false, decide_false, Bool.false_eq_true]
        rfl

/-- A file that cannot be opened is not uploaded. -/
theorem uploadInto_of_closed
    {path : Files.Path}
    {situation : Situation}
    {reason : Files.Fault}
    (closed : situation.world.files.find path = .error reason)
    (model : ModelId) :
    uploadInto path model situation = (.error (.unreadable path reason), situation) := by
  unfold uploadInto
  simp only [get_bind_apply, closed]
  rfl

theorem askOf_calling
    (content : String)
    (options : ChatOptions)
    (model : ModelId)
    (situation : Situation) :
    askOf content options model situation =
      (situation.noting (askingNotes content options)).calling (.chat model)
        (some (.json (String.ofList (chatRequest content options).jsonChars)))
        ((Call.chat model).judge situation.client.config.policy (·.reading ChatResponse.read))
        (chatNotes situation.client.config.policy content options) := by
  unfold askOf send
  rw [bind_of_ok (tell_apply _ _ _ _)]
  refine sendAny_bind_apply (.chat model) rfl rfl _ fun given after client => ?_
  rw [bind_apply, bodyText_apply]
  unfold bodyOf chatNotes
  cases arrived : given.text? with
  | none => rw [Call.judge_of_cutOff rfl arrived]; rfl
  | some text =>
      rw [Call.judge_of_arrived arrived]
      cases success : given.status.isSuccess with
      | true =>
          simp only [Call.accepts, success, Bool.or_true, if_true]
          rw [bind_of_ok (record_apply _ _ _ _), parse_apply]
          rfl
      | false =>
          simp only [Call.accepts, success, Bool.or_false, Bool.false_eq_true, if_false]
          rw [bind_of_ok (record_apply _ _ _ _), get_bind_apply, Situation.noting_client, client,
            Situation.noting_client]
          cases situation.client.config.policy with
          | requireSuccess => rfl
          | acceptAny =>
              simp only
              rw [bind_of_ok (tell_apply _ _ _ _), parse_apply, Situation.noting_noting]
              rfl

end Client
end KnowledgeClient
