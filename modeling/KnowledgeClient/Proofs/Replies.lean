import KnowledgeClient.Proofs.Disguise
import KnowledgeClient.Proofs.Journaling
import KnowledgeClient.Proofs.Judging

/-!
# The replies that calls get

What a call gives depends on the network only through the reply that the call gets, and
what a reply to a chat is worth depends on the policy.  A network may be given another
reply in the place of one: the calls before it go on as before, and the call that it is for
gets the other one.  From this a chat is found to be one call, after the model is resolved,
whose reply can be exchanged for another.
-/

namespace KnowledgeClient

/-! ## Networks -/

namespace Http

/-- The reply with the status that tells plain success, and with the same text. -/
def Reply.approved (reply : Reply) : Reply :=
  if reply.status.isBodiless then ⟨.ok, [], true⟩ else { reply with status := .ok }

theorem Reply.approved_status (reply : Reply) : reply.approved.status = .ok := by
  unfold approved
  split <;> rfl

theorem Reply.approved_text? (reply : Reply) : reply.approved.text? = reply.text? := by
  cases bodiless : reply.status.isBodiless with
  | true => simp only [approved, text?, bodiless, if_true]; rfl
  | false =>
      have okHasBody : Status.ok.isBodiless = false := rfl
      simp [approved, text?, bodiless, okHasBody]

/-- The network with another reply at a position. -/
def Network.replying (position : Nat) (reply : Reply) : Network → Network
  | .unreachable => .unreachable
  | .reachable answers => .reachable (answers.set position (.reply reply))

theorem Network.replying_eq_unreachable_iff
    (network : Network)
    (position : Nat)
    (reply : Reply) :
    network.replying position reply = .unreachable ↔ network = .unreachable := by
  cases network <;> simp [replying]

theorem Network.answer_replying_of_ne
    (network : Network)
    {position other : Nat}
    (different : other ≠ position)
    (reply : Reply) :
    (network.replying position reply).answer other = network.answer other := by
  cases network with
  | unreachable => rfl
  | reachable answers =>
      simp [replying, answer, Network.answers, List.getElem?_set_ne different.symm]

/-- Only where a reply came another one comes instead. -/
theorem Network.answer_replying
    {network : Network}
    {position : Nat}
    {given : Reply}
    (came : network.answer position = .reply given)
    (reply : Reply) :
    (network.replying position reply).answer position = .reply reply := by
  cases network with
  | unreachable => simp [answer, answers] at came
  | reachable answers =>
      cases within : answers[position]? with
      | none => simp [answer, Network.answers, within] at came
      | some last =>
          obtain ⟨inBounds, _⟩ := List.getElem?_eq_some_iff.mp within
          simp [replying, answer, Network.answers, inBounds]

end Http

/-! ## Calls and the replies that they get -/

namespace Situation

/-- The situation with another network. -/
def facing (situation : Situation) (network : Http.Network) : Situation :=
  { situation with world := { situation.world with network } }

theorem target_facing
    {situation : Situation}
    {network : Http.Network}
    (asReachable : network = .unreachable ↔ situation.world.network = .unreachable)
    (address : String)
    (payload : Option Http.Payload) :
    (situation.facing network).world.target address payload =
      situation.world.target address payload :=
  World.target_congr asReachable address payload

/-- Things are noted in front of another network as they are noted. -/
theorem facing_noting
    (situation : Situation)
    (network : Http.Network)
    (notes : List Note) :
    (situation.facing network).noting notes = (situation.noting notes).facing network := by
  induction notes generalizing situation with
  | nil => rfl
  | cons noted notes inductionHypothesis =>
      have rest := inductionHypothesis (situation.noting [noted])
      cases noted <;> exact rest

variable
  {α : Type}
  (situation : Situation)
  (call : Call)
  (payload : Option Http.Payload)

/-- The reply that a call gets, if its request goes out and is replied to. -/
def reply? : Option Http.Reply :=
  match situation.world.target (situation.client.config.address call) payload,
    situation.world.network.next with
  | .ok _, .reply given => some given
  | _, _ => none

/-- The reply that a call gets is the next answer of the network. -/
theorem reply?_eq_some_iff (given : Http.Reply) :
    situation.reply? call payload = some given ↔
      (∃ url, situation.world.target (situation.client.config.address call) payload = .ok url) ∧
        situation.world.network.next = .reply given := by
  unfold reply?
  cases situation.world.target (situation.client.config.address call) payload with
  | error fault => simp
  | ok url => cases situation.world.network.next <;> simp

/-- What was noted before does not bear on the reply that a call gets. -/
@[simp] theorem noting_reply? (notes : List Note) :
    (situation.noting notes).reply? call payload = situation.reply? call payload := by
  rw [reply?, noting_client, noting_target, noting_network, reply?]

variable
  {situation call payload}
  {judge otherJudge : Http.Reply → Except Failure α}
  (notes : Http.Reply → List Note)

/-- A call that gets a reply gives what is made of it. -/
theorem calling_of_reply
    {given : Http.Reply}
    (gets : situation.reply? call payload = some given) :
    (situation.calling call payload judge notes).1 = judge given := by
  obtain ⟨⟨url, goes⟩, answered⟩ := (reply?_eq_some_iff _ _ _ _).mp gets
  simp only [calling, goes, answered]

/-- A call that gets no reply fails with its request. -/
theorem eq_of_unreplied
    {failure : Failure}
    (unreplied : situation.reply? call payload = none)
    (fails : (situation.calling call payload judge notes).1 = .error failure) :
    ∃ fault, failure = .requestFailed fault := by
  unfold reply? at unreplied
  unfold calling at fails
  cases goes : situation.world.target (situation.client.config.address call) payload with
  | error fault =>
      rw [goes] at fails
      exact ⟨fault, (Except.error.inj fails).symm⟩
  | ok url =>
      cases answered : situation.world.network.next with
      | dropped =>
          simp only [goes, answered, Except.error.injEq] at fails
          exact ⟨.dropped url.text, fails.symm⟩
      | reply given => simp [goes, answered] at unreplied

/-- Only what is made of its reply bears on what a call gives. -/
theorem calling_congr
    (same : ∀ given, situation.reply? call payload = some given → judge given = otherJudge given)
    (otherNotes : Http.Reply → List Note) :
    (situation.calling call payload judge notes).1 =
      (situation.calling call payload otherJudge otherNotes).1 := by
  simp only [reply?_eq_some_iff] at same
  unfold calling
  cases goes : situation.world.target (situation.client.config.address call) payload with
  | error fault => rfl
  | ok url =>
      cases answered : situation.world.network.next with
      | dropped => rfl
      | reply given => simp only [same given ⟨⟨url, goes⟩, answered⟩]

/-- A call whose request is refused holds no exchange; another one holds one, with the reply
that the call gets. -/
theorem calling_holds :
    (situation.reply? call payload = none ∧
        (situation.calling call payload judge notes).2.world.exchanges =
          situation.world.exchanges) ∨
      ∃ exchange, exchange.IsFor situation.client.config call ∧
        (∀ given, exchange.answer = .reply given ↔
          situation.reply? call payload = some given) ∧
        (situation.calling call payload judge notes).2.world.exchanges =
          situation.world.exchanges ++ [exchange] := by
  simp only [reply?_eq_some_iff]
  unfold calling reply?
  cases goes : situation.world.target (situation.client.config.address call) payload with
  | error fault => exact .inl ⟨rfl, rfl⟩
  | ok url =>
      refine .inr ⟨_, Http.Exchange.isFor_of_target goes situation.world.network.next, ?_, ?_⟩
      · simp
      · simp only
        split
        · rfl
        · exact Situation.noting_exchanges _ _

/-- A call that makes something of what another one gives. -/
theorem map_calling
    {β : Type}
    (function : α → β) :
    ((situation.calling call payload judge notes).1.map function,
        (situation.calling call payload judge notes).2) =
      situation.calling call payload (fun given => (judge given).map function) notes := by
  unfold calling
  cases situation.world.target (situation.client.config.address call) payload with
  | error fault => rfl
  | ok url => cases situation.world.network.next <;> rfl

end Situation

/-- Things are noted in disguise as they are noted without. -/
theorem Disguise.situation_noting
    (disguise : Disguise)
    (given : Situation)
    (notes : List Note) :
    (disguise.situation given).noting notes = disguise.situation (given.noting notes) := by
  induction notes generalizing given with
  | nil => rfl
  | cons noted notes inductionHypothesis =>
      have rest := inductionHypothesis (given.noting [noted])
      cases noted <;> exact rest

/-- A call in disguise gives the same, and leaves the same in disguise. -/
theorem Disguise.calling_situation
    {α : Type}
    (disguise : Disguise)
    (given : Situation)
    (call : Call)
    (payload : Option Http.Payload)
    (judge : Http.Reply → Except Failure α)
    (notes : Http.Reply → List Note) :
    (disguise.situation given).calling call payload judge notes =
      ((given.calling call payload judge notes).1,
        disguise.situation (given.calling call payload judge notes).2) := by
  have target : ∀ address, (disguise.world given.world).target address payload =
      given.world.target address payload :=
    fun address => World.target_congr (by rw [world_network]) address payload
  unfold Situation.calling
  simp only [situation_client, situation_world, client_config, address_config, target,
    world_network]
  cases given.world.target (given.client.config.address call) payload with
  | error fault => rfl
  | ok url =>
      simp only [situation_answering]
      cases given.world.network.next with
      | dropped => rfl
      | reply reply => simp only [situation_noting]

/-! ## Resolutions over another network -/

/-- A request for the models over another network that has the same answer for it. -/
theorem Situation.listing_facing
    {situation : Situation}
    {network : Http.Network}
    (reachable : network ≠ .unreachable)
    (same : network.next = situation.world.network.next)
    (url : Http.Url) :
    (situation.facing network).listing url = (situation.listing url).facing network.rest := by
  cases network with
  | unreachable => exact absurd rfl reachable
  | reachable answers =>
      simp only [listing, ← same]
      have answered : (situation.facing (.reachable answers)).answering
          ((situation.facing (.reachable answers)).listingRequest url) =
            (situation.answering (situation.listingRequest url)).facing
              (Http.Network.reachable answers).rest := by
        simp only [answering, World.answering, facing, ← same]
        rfl
      rw [answered, facing_noting]
      rfl

/-- A resolution that finds the model finds it over any network with the same answers to the
requests that it sent; the next request gets the answer that this network has for it. -/
theorem Client.resolve_facing
    {situation after : Situation}
    {model : ModelId}
    (resolved : resolve situation = (.ok model, after))
    {network : Http.Network}
    (asReachable : network = .unreachable ↔ situation.world.network = .unreachable) :
    ∃ position, after.world.exchanges.length = situation.world.exchanges.length + position ∧
      after.world.network.next = situation.world.network.answer position ∧
      ((∀ earlier < position, network.answer earlier = situation.world.network.answer earlier) →
        ∃ left, resolve (situation.facing network) = (.ok model, after.facing left) ∧
          (left = .unreachable ↔ after.world.network = .unreachable) ∧
          left.next = network.answer position) := by
  have resolution := Client.resolution situation
  rw [resolved] at resolution
  cases resolution with
  | bound _ isBound =>
      exact ⟨0, rfl, rfl, fun _ => ⟨network, resolve_of_bound isBound, asReachable, rfl⟩⟩
  | found url _ unbound goes finds =>
      have reachable : network ≠ .unreachable :=
        fun gone => World.reachable_of_target_eq_ok goes (asReachable.mp gone)
      have goesFacing : (situation.facing network).listingTarget = .ok url :=
        (Situation.target_facing asReachable _ _).trans goes
      refine ⟨1, by simp, ?_, fun same => ⟨network.rest, ?_, ?_, ?_⟩⟩
      · change (situation.listing url).world.network.next = _
        rw [Situation.listing_network goes, Http.Network.next, Http.Network.rest_answer]
      · have next : (situation.facing network).world.network.next = situation.world.network.next :=
          same 0 Nat.one_pos
        have unboundFacing : (situation.facing network).client.bound = none := unbound
        rw [resolve_of_unbound unboundFacing, bindFirst_apply, goesFacing]
        simp only [next, finds, Situation.listing_facing reachable next]
        rfl
      · change network.rest = .unreachable ↔ (situation.listing url).world.network = .unreachable
        rw [Situation.listing_network goes, Http.Network.rest_eq_unreachable_iff,
          Http.Network.rest_eq_unreachable_iff, asReachable]
      · rw [Http.Network.next, Http.Network.rest_answer]

/-! ## Actions that ask a chat -/

theorem StepResult.eq_error_of_ofAction
    {result : Except Failure Outcome}
    {failure : Failure}
    (fails : ofAction result = .failed failure) :
    result = .error failure := by
  cases result with
  | ok outcome => cases fails
  | error other => rw [StepResult.failed.inj fails]

/-- What an action that asks a chat makes of the reply that it gets. -/
def ChatPolicy.judge (policy : ChatPolicy) (reply : Http.Reply) : Except Failure Outcome :=
  match reply.text? with
  | none => .error (.requestFailed .cutOff)
  | some text =>
    if policy = .acceptAny ∨ reply.status.isSuccess = true then
      (Operation.valueOf ChatResponse.read text).map Outcome.chat
    else .error (.chatFailed reply.status text)

theorem ChatPolicy.judge_eq
    (policy : ChatPolicy)
    (reply : Http.Reply)
    (model : ModelId) :
    policy.judge reply =
      ((Call.chat model).judge policy (·.reading ChatResponse.read) reply).map Outcome.chat := by
  unfold judge
  cases arrived : reply.text? with
  | none =>
      rw [Call.judge_of_cutOff rfl arrived]
      rfl
  | some text =>
      rw [Call.judge_of_arrived arrived]
      simp only [Call.accepts, Bool.or_eq_true, decide_eq_true_eq]
      split <;> rfl

/-- The policies make the same of a reply that tells success or is cut off. -/
theorem ChatPolicy.judge_congr
    {reply : Http.Reply}
    (unrefused : reply.status.isSuccess = true ∨ reply.text? = none)
    (one other : ChatPolicy) :
    one.judge reply = other.judge reply := by
  unfold judge
  rcases unrefused with success | cutOff
  · simp only [success, or_true, if_true]
  · rw [cutOff]

/-- Of a reply that is approved any policy makes what the one that accepts any status makes
of it as it is. -/
theorem ChatPolicy.judge_approved
    (policy : ChatPolicy)
    (reply : Http.Reply) :
    policy.judge reply.approved = ChatPolicy.acceptAny.judge reply := by
  have success : Http.Status.ok.isSuccess = true := rfl
  simp only [judge, Http.Reply.approved_text?, Http.Reply.approved_status, success, or_true,
    true_or, if_true]

/-- Where any status is accepted no failure tells one. -/
theorem ChatPolicy.status?_of_judge
    {reply : Http.Reply}
    {failure : Failure}
    (fails : ChatPolicy.acceptAny.judge reply = .error failure) :
    failure.status? = none := by
  unfold judge Operation.valueOf at fails
  simp only [true_or, if_true] at fails
  split at fails
  · obtain rfl := Except.error.inj fails
    rfl
  · split at fails
    · cases fails
    · obtain rfl := Except.error.inj fails
      rfl

/-- What a chat carries. -/
def Client.chatPayload (content : String) (options : ChatOptions) : Option Http.Payload :=
  some (.json (String.ofList (chatRequest content options).jsonChars))

/-- What asking the chat of a model gives, with a policy, and what it leaves. -/
def Situation.chatting
    (situation : Situation)
    (content : String)
    (options : ChatOptions)
    (policy : ChatPolicy)
    (model : ModelId) : Except Failure Outcome × Situation :=
  (situation.noting (Client.askingNotes content options)).calling (.chat model)
    (Client.chatPayload content options) policy.judge (Client.chatNotes policy content options)

/-- Besides what is said, the policy does not bear on what asking a chat leaves. -/
theorem Situation.hushed_chatting
    (situation : Situation)
    (content : String)
    (options : ChatOptions)
    (policy other : ChatPolicy)
    (model : ModelId) :
    (situation.chatting content options policy model).2.hushed =
      (situation.chatting content options other model).2.hushed := by
  unfold chatting calling
  split
  · rfl
  · simp only
    split
    · rfl
    · exact hushed_noting_congr _ (by rw [Client.filterMap_chatNotes, Client.filterMap_chatNotes])

/-- The policies give the same of a chat that is not refused. -/
theorem Situation.chatting_congr
    {situation : Situation}
    {content : String}
    {options : ChatOptions}
    {policy other : ChatPolicy}
    {model : ModelId}
    (same : ∀ given,
      situation.reply? (.chat model) (Client.chatPayload content options) = some given →
        policy.judge given = other.judge given) :
    (situation.chatting content options policy model).1 =
      (situation.chatting content options other model).1 :=
  calling_congr _ (fun given gets => same given ((situation.noting_reply? _ _ _).symm.trans gets))
    _

theorem Disguise.hushed_situation
    (disguise : Disguise)
    (given : Situation) :
    (disguise.situation given).hushed = disguise.situation given.hushed := rfl

/-- A chat in disguise gives the same, and leaves the same in disguise. -/
theorem Disguise.chatting_situation
    (disguise : Disguise)
    (given : Situation)
    (content : String)
    (options : ChatOptions)
    (policy : ChatPolicy)
    (model : ModelId) :
    (disguise.situation given).chatting content options policy model =
      ((given.chatting content options policy model).1,
        disguise.situation (given.chatting content options policy model).2) := by
  rw [Situation.chatting, situation_noting, calling_situation]
  rfl

/-- A chat whose request is refused holds no exchange; another one holds one, with the reply
that its call gets. -/
theorem Situation.chatting_holds
    (situation : Situation)
    (content : String)
    (options : ChatOptions)
    (policy : ChatPolicy)
    (model : ModelId) :
    (situation.reply? (.chat model) (Client.chatPayload content options) = none ∧
        (situation.chatting content options policy model).2.world.exchanges =
          situation.world.exchanges) ∨
      ∃ exchange, exchange.IsFor situation.client.config (.chat model) ∧
        (∀ given, exchange.answer = .reply given ↔
          situation.reply? (.chat model) (Client.chatPayload content options) = some given) ∧
        (situation.chatting content options policy model).2.world.exchanges =
          situation.world.exchanges ++ [exchange] := by
  unfold chatting
  rw [← situation.noting_reply? _ _ (Client.askingNotes content options),
    ← situation.noting_exchanges (Client.askingNotes content options)]
  exact calling_holds _

theorem Client.map_askOf_calling
    (content : String)
    (options : ChatOptions)
    (model : ModelId)
    (situation : Situation) :
    (Outcome.chat <$> askOf content options model) situation =
      situation.chatting content options situation.client.config.policy model := by
  have judge : situation.client.config.policy.judge = fun reply =>
      ((Call.chat model).judge situation.client.config.policy (·.reading ChatResponse.read)
        reply).map Outcome.chat :=
    funext fun reply => ChatPolicy.judge_eq _ reply model
  rw [Operation.map_apply, askOf_calling, Situation.chatting, judge]
  exact Situation.map_calling _ _

namespace Action

/-- What an action that asks a chat asks, unless it has no file to ask about. -/
def asked? (files : Files.Tree) : Action → Option (String × ChatOptions)
  | .query content options => some (content, options)
  | .queryFile path options => (files.readText path).toOption.map (·, options)
  | _ => none

/-- The reply that the chat of an action gets. -/
def chatReply? (action : Action) (situation : Situation) : Option Http.Reply :=
  match action.asked? situation.world.files, Client.resolve situation with
  | some (content, options), (.ok model, after) =>
    after.reply? (.chat model) (Client.chatPayload content options)
  | _, _ => none

/-- An action that asks a chat resolves the model and asks the chat of the model that it finds. -/
theorem operation_of_asked
    {action : Action}
    {situation : Situation}
    {content : String}
    {options : ChatOptions}
    (asked : action.asked? situation.world.files = some (content, options)) :
    action.operation situation =
      match Client.resolve situation with
      | (.error failure, after) => (.error failure, after)
      | (.ok model, after) =>
        after.chatting content options situation.client.config.policy model := by
  have form : action.withModel? situation.world.files =
      some fun model => Outcome.chat <$> Client.askOf content options model := by
    cases action with
    | query given others =>
        obtain ⟨rfl, rfl⟩ := Prod.mk.inj (Option.some.inj asked)
        rfl
    | queryFile path others =>
        cases reading : situation.world.files.readText path with
        | error reason => simp [asked?, reading, Except.toOption] at asked
        | ok text =>
            simp only [asked?, reading, Except.toOption, Option.map_some, Option.some.injEq,
              Prod.mk.injEq] at asked
            obtain ⟨rfl, rfl⟩ := asked
            simp only [withModel?, reading]
    | _ => cases asked
  obtain ⟨listing, resolves⟩ := (Client.resolution situation).resolves
  rcases resolved : Client.resolve situation with ⟨failure | model, after⟩
  · exact operation_of_unresolved form resolved
  · rw [resolved] at resolves
    rw [operation_of_resolved form resolved, Client.map_askOf_calling, resolves.config_eq]

/-- An action that asks a chat, but has no file to ask about, fails and does nothing. -/
theorem operation_of_unasked
    {action : Action}
    (isChat : action.isChat = true)
    {files : Files.Tree}
    (unasked : action.asked? files = none) :
    ∃ failure, failure.status? = none ∧ ∀ situation, situation.world.files = files →
      action.operation situation = (.error failure, situation) := by
  cases action with
  | query content options => cases unasked
  | queryFile path options =>
      cases reading : files.readText path with
      | ok text => simp [asked?, reading, Except.toOption] at unasked
      | error reason =>
          refine ⟨.unreadable path reason, rfl, ?_⟩
          rintro situation rfl
          exact queryFile_operation_of_unreadable situation reading options
  | _ => cases isChat

/-- An action whose chat gets a reply gives what its policy makes of the reply. -/
theorem operation_of_chatReply
    {action : Action}
    {situation : Situation}
    {reply : Http.Reply}
    (gets : action.chatReply? situation = some reply) :
    (action.operation situation).1 = situation.client.config.policy.judge reply := by
  unfold chatReply? at gets
  cases asked : action.asked? situation.world.files with
  | none => simp [asked] at gets
  | some question =>
      rcases resolved : Client.resolve situation with ⟨failure | model, after⟩
      · simp [asked, resolved] at gets
      · simp only [asked, resolved] at gets
        rw [operation_of_asked asked, resolved]
        exact Situation.calling_of_reply _ ((after.noting_reply? _ _ _).trans gets)

/-- Where any status is accepted no chat of a bound client fails with a status. -/
theorem status?_of_bound
    {action : Action}
    (isChat : action.isChat = true)
    {situation : Situation}
    {model : ModelId}
    (isBound : situation.client.bound = some model)
    (acceptsAny : situation.client.config.policy = .acceptAny)
    {failure : Failure}
    (fails : (action.operation situation).1 = .error failure) :
    failure.status? = none := by
  cases asked : action.asked? situation.world.files with
  | none =>
      obtain ⟨only, untold, ran⟩ := operation_of_unasked isChat asked
      rw [ran situation rfl] at fails
      rw [← Except.error.inj fails]
      exact untold
  | some question =>
      rw [operation_of_asked asked, Client.resolve_of_bound isBound, acceptsAny] at fails
      simp only at fails
      cases replied :
          situation.reply? (.chat model) (Client.chatPayload question.1 question.2) with
      | none =>
          obtain ⟨fault, isFault⟩ :=
            Situation.eq_of_unreplied _ ((situation.noting_reply? _ _ _).trans replied) fails
          rw [isFault]
          rfl
      | some given =>
          rw [Situation.chatting, Situation.calling_of_reply _
            ((situation.noting_reply? _ _ _).trans replied)] at fails
          exact ChatPolicy.status?_of_judge fails

/-- A request for the models is not one for a chat. -/
theorem not_isFor_chat
    {exchange : Http.Exchange}
    {config other : Config}
    (isListing : exchange.IsFor config .models)
    (model : ModelId) :
    ¬ exchange.IsFor other (.chat model) := by
  rintro ⟨_, _, isPost, _⟩
  obtain ⟨_, _, isGet, _⟩ := isListing
  rw [isGet] at isPost
  cases isPost

/-- The reply that the chat of an action gets is the answer of the last exchange, if that is
for a chat. -/
theorem chatReply?_eq_some_iff
    {action : Action}
    (isChat : action.isChat = true)
    {situation : Situation}
    (fresh : situation.world.exchanges = [])
    (reply : Http.Reply) :
    action.chatReply? situation = some reply ↔
      ∃ exchange model,
        (action.operation situation).2.world.exchanges.getLast? = some exchange ∧
        exchange.IsFor situation.client.config (.chat model) ∧
        exchange.answer = .reply reply := by
  obtain ⟨listing, resolves⟩ := (Client.resolution situation).resolves
  have config := resolves.config_eq
  have unlisted : ∀ exchange model,
      (Client.resolve situation).2.world.exchanges.getLast? = some exchange →
      ¬ exchange.IsFor situation.client.config (.chat model) := by
    rw [resolves.exchanges_eq, fresh, List.nil_append]
    intro exchange model last
    exact not_isFor_chat (resolves.asked exchange (List.mem_of_getLast? last)).2 model
  unfold chatReply?
  cases asked : action.asked? situation.world.files with
  | none =>
      obtain ⟨failure, _, ran⟩ := operation_of_unasked isChat asked
      simp [ran situation rfl, fresh]
  | some question =>
      rw [operation_of_asked asked]
      rcases resolved : Client.resolve situation with ⟨failure | model, after⟩
      · rw [resolved] at unlisted
        simp only [reduceCtorEq, false_iff]
        rintro ⟨exchange, model, last, isFor, _⟩
        exact unlisted exchange model last isFor
      · rw [resolved] at unlisted config
        simp only
        rcases after.chatting_holds question.1 question.2 situation.client.config.policy model with
          ⟨unreplied, held⟩ | ⟨exchange, isFor, answers, held⟩
        · rw [held, unreplied]
          simp only [reduceCtorEq, false_iff]
          rintro ⟨exchange, model, last, isFor, _⟩
          exact unlisted exchange model last isFor
        · rw [held, ← answers, List.getLast?_concat]
          constructor
          · intro replied
            exact ⟨exchange, model, rfl, config ▸ isFor, replied⟩
          · rintro ⟨last, _, isLast, _, replied⟩
            rw [Option.some.inj isLast]
            exact replied

/-- Another reply may come in the place of the one that the chat of an action gets. -/
theorem chatReply?_facing
    {action : Action}
    {situation : Situation}
    {reply : Http.Reply}
    (fresh : situation.world.exchanges = [])
    (gets : action.chatReply? situation = some reply)
    (other : Http.Reply) :
    action.chatReply? (situation.facing (situation.world.network.replying
      ((action.operation situation).2.world.exchanges.length - 1) other)) = some other := by
  unfold chatReply? at gets
  cases asked : action.asked? situation.world.files with
  | none => simp [asked] at gets
  | some question =>
      rcases resolved : Client.resolve situation with ⟨failure | model, after⟩
      · simp [asked, resolved] at gets
      · simp only [asked, resolved] at gets
        have held : (action.operation situation).2.world.exchanges.length =
            after.world.exchanges.length + 1 := by
          rw [operation_of_asked asked, resolved]
          simp only
          rcases after.chatting_holds question.1 question.2 situation.client.config.policy
            model with ⟨unreplied, _⟩ | ⟨exchange, _, _, held⟩
          · rw [gets] at unreplied
            cases unreplied
          · rw [held, List.length_append, List.length_singleton]
        rw [held, Nat.add_sub_cancel]
        obtain ⟨position, length, next, resolvesFacing⟩ := Client.resolve_facing resolved
          (situation.world.network.replying_eq_unreachable_iff after.world.exchanges.length other)
        rw [fresh, List.length_nil, Nat.zero_add] at length
        rw [length] at resolvesFacing ⊢
        obtain ⟨left, resolvedFacing, asReachable, nextFacing⟩ :=
          resolvesFacing fun earlier before =>
            situation.world.network.answer_replying_of_ne (Nat.ne_of_lt before) other
        obtain ⟨⟨url, goes⟩, answered⟩ := (Situation.reply?_eq_some_iff _ _ _ _).mp gets
        have askedFacing : action.asked? (situation.facing (situation.world.network.replying
            position other)).world.files = some question := asked
        unfold chatReply?
        simp only [askedFacing, resolvedFacing]
        rw [Situation.reply?_eq_some_iff]
        refine ⟨⟨url, (Situation.target_facing asReachable _ _).trans goes⟩, ?_⟩
        change left.next = .reply other
        rw [nextFacing, Http.Network.answer_replying (next ▸ answered)]

end Action

namespace Disguise

/-- A chat gets the same reply in disguise. -/
theorem chatReply?_situation
    (disguise : Disguise)
    (action : Action)
    (given : Situation) :
    action.chatReply? (disguise.situation given) = action.chatReply? given := by
  have resolves := apply_situation (Client.resolve_agree disguise.shared) given
  have asked : action.asked? (disguise.situation given).world.files =
      action.asked? given.world.files := rfl
  have replied : ∀ after call payload,
      (disguise.situation after).reply? call payload = after.reply? call payload := by
    intro after call payload
    have target : ∀ address, (disguise.world after.world).target address payload =
        after.world.target address payload :=
      fun address => World.target_congr (by rw [world_network]) address payload
    unfold Situation.reply?
    rw [situation_client, client_config, address_config, situation_world, target, world_network]
  unfold Action.chatReply?
  rw [asked, resolves]
  cases action.asked? given.world.files with
  | none => rfl
  | some question =>
      rcases Client.resolve given with ⟨failure | model, after⟩
      · rfl
      · exact replied after _ _

end Disguise

end KnowledgeClient
