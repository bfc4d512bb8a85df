import KnowledgeClient.Proofs.Replies

/-!
# What the policy decides

Two clients that differ in their policy send the same requests, are bound to the same
models and write the same records, whatever they are asked to do.  They also give the
same, unless a chat is replied to with a status that tells failure and a body that
arrives: then one of them fails with just that, and the other gives what both would
have given of the same body with a status that tells success.
-/

namespace KnowledgeClient

/-! ## Clients with another policy -/

namespace Disguise

/-- Every configuration with one and the same policy. -/
def policy (chosen : ChatPolicy) : Disguise where
  config given := { given with policy := chosen }
  exchange := id
  endpoint_eq _ := rfl
  exchange_eq _ _ _ _ _ := rfl

variable (chosen : ChatPolicy)

@[simp] theorem world_policy (given : World) : (policy chosen).world given = given := by
  simp [world, policy]

theorem keepsUsable_policy (given : Config) : (policy chosen).KeepsUsable given := rfl

theorem session_policy_policy
    (other : ChatPolicy)
    (given : Session) :
    (policy chosen).session ((policy other).session given) = (policy chosen).session given := by
  obtain ⟨config, binding, before⟩ := given
  unfold session
  simp only [world_policy, Option.map_map]
  rfl

/-- An action that asks a chat leaves the same with another policy, besides what it says, and
gives the same unless the chat gets a reply that tells failure and is not cut off. -/
theorem operation_policy
    {action : Action}
    (isChat : action.isChat = true)
    (given : Situation) :
    (action.operation ((policy chosen).situation given)).2.hushed =
        ((policy chosen).situation (action.operation given).2).hushed ∧
      ((∀ reply, action.chatReply? given = some reply →
          reply.status.isSuccess = true ∨ reply.text? = none) →
        (action.operation ((policy chosen).situation given)).1 = (action.operation given).1) := by
  have resolves := apply_situation (Client.resolve_agree (policy chosen).shared) given
  unfold Action.chatReply?
  cases asked : action.asked? given.world.files with
  | none =>
      obtain ⟨failure, _, ran⟩ := Action.operation_of_unasked isChat asked
      rw [ran given rfl, ran ((policy chosen).situation given) rfl]
      exact ⟨rfl, fun _ => rfl⟩
  | some question =>
      have askedUnder : action.asked? ((policy chosen).situation given).world.files =
          some question := asked
      rw [Action.operation_of_asked asked, Action.operation_of_asked askedUnder, resolves]
      rcases Client.resolve given with ⟨failure | model, after⟩
      · exact ⟨rfl, fun _ => rfl⟩
      · simp only [chatting_situation]
        refine ⟨?_, fun unrefused => ?_⟩
        · rw [hushed_situation, hushed_situation, after.hushed_chatting _ _ _ _ model]
        · exact Situation.chatting_congr fun reply gets =>
            ChatPolicy.judge_congr (unrefused reply gets) _ _

end Disguise

/-! ## Turns -/

namespace Session

/-- The turn asks a chat, and the last exchange that the session holds in it is for a chat and
is answered by the reply. -/
def GetsReply (session : Session) (turn : Turn) (reply : Http.Reply) : Prop :=
  turn.isChat = true ∧
    ∃ client exchange model, session.client = some client ∧
      (session.take turn).2.world.exchanges.getLast? = some exchange ∧
      exchange.IsFor client.config (.chat model) ∧
      exchange.answer = .reply reply

/-- The session before anything is said in it. -/
def hushed (session : Session) : Session :=
  { session with world := session.world.hushed }

/-- The session with this policy. -/
def under (session : Session) (policy : ChatPolicy) : Session :=
  (Disguise.policy policy).session session

/-- The turn, where the last reply that the session gets in it is approved. -/
def approving (session : Session) (turn : Turn) (reply : Http.Reply) : Turn :=
  { turn with
    network := turn.network.replying ((session.take turn).2.world.exchanges.length - 1)
      reply.approved }

/-! ### What was said before -/

/-- What was said before does not bear on a turn. -/
theorem take_congr
    {one other : Session}
    (same : one.hushed = other.hushed)
    (turn : Turn) :
    one.take turn = other.take turn :=
  congrArg (·.take turn) same

theorem hushed_after_congr
    {one other : Session}
    (same : one.hushed = other.hushed)
    (turns : List Turn) :
    (one.after turns).hushed = (other.after turns).hushed := by
  cases turns with
  | nil => exact same
  | cons turn turns => rw [after_cons, after_cons, take_congr same]

theorem observations_congr
    {one other : Session}
    (same : one.hushed = other.hushed)
    (turns : List Turn) :
    one.observations turns = other.observations turns := by
  cases turns with
  | nil => rfl
  | cons turn turns =>
      rw [observations_cons, observations_cons, observe, observe, take_congr same]

theorem boundModel?_congr
    {one other : Session}
    (same : one.hushed = other.hushed) :
    one.boundModel? = other.boundModel? := by
  have sameBound := congrArg boundModel? same
  exact sameBound

theorem approving_congr
    {one other : Session}
    (same : one.hushed = other.hushed)
    (turn : Turn)
    (reply : Http.Reply) :
    one.approving turn reply = other.approving turn reply := by
  rw [approving, approving, take_congr same]

theorem GetsReply.congr
    {one other : Session}
    (same : one.hushed = other.hushed)
    {turn : Turn}
    {reply : Http.Reply}
    (gets : one.GetsReply turn reply) :
    other.GetsReply turn reply := by
  have sameClient := congrArg Session.client same
  simp only [hushed] at sameClient
  rw [GetsReply, sameClient, take_congr same] at gets
  exact gets

/-! ### Replies to chats -/

variable {session : Session} {client : Client} {turn : Turn} {reply : Http.Reply}

/-- A turn gets a reply for its chat where the chat of its action does. -/
theorem getsReply_action
    (isOpen : session.client = some client)
    {action : Action}
    (isChat : action.isChat = true)
    (network : Http.Network)
    (reply : Http.Reply) :
    session.GetsReply ⟨.action action, network⟩ reply ↔
      action.chatReply? (session.meeting client network) = some reply := by
  rw [Action.chatReply?_eq_some_iff isChat rfl]
  unfold GetsReply
  rw [take_action isOpen, isOpen]
  constructor
  · rintro ⟨_, other, exchange, model, isOther, held⟩
    obtain rfl := Option.some.inj isOther
    exact ⟨exchange, model, held⟩
  · rintro ⟨exchange, model, held⟩
    exact ⟨isChat, client, exchange, model, rfl, held⟩

/-- A turn that gets a reply is an action that asks a chat, by the client that is open. -/
theorem GetsReply.action
    (gets : session.GetsReply turn reply) :
    ∃ client action network, session.client = some client ∧ action.isChat = true ∧
      turn = ⟨.action action, network⟩ ∧
      action.chatReply? (session.meeting client network) = some reply := by
  have isChat := gets.1
  obtain ⟨client, _, _, isOpen, _⟩ := gets.2
  obtain ⟨step, network⟩ := turn
  cases step with
  | action action =>
      have replied := (getsReply_action isOpen isChat network reply).mp gets
      exact ⟨client, action, network, isOpen, isChat, rfl, replied⟩
  | _ => cases isChat

/-- A turn that gets a reply gives what the policy of the client makes of it. -/
theorem GetsReply.take_fst
    (gets : session.GetsReply turn reply)
    (isOpen : session.client = some client) :
    (session.take turn).1 = .ofAction (client.config.policy.judge reply) := by
  obtain ⟨other, action, network, isOther, _, rfl, replied⟩ := gets.action
  obtain rfl := Option.some.inj (isOther.symm.trans isOpen)
  rw [take_action isOpen, Action.operation_of_chatReply replied]
  rfl

/-- The turn with its last reply approved gets the approved reply. -/
theorem GetsReply.approving
    (gets : session.GetsReply turn reply) :
    session.GetsReply (session.approving turn reply) reply.approved := by
  obtain ⟨client, action, network, isOpen, isChat, rfl, replied⟩ := gets.action
  have repliedFacing := Action.chatReply?_facing rfl replied reply.approved
  have held : (session.take ⟨.action action, network⟩).2.world.exchanges =
      (action.operation (session.meeting client network)).2.world.exchanges := by
    rw [take_action isOpen]
  rw [← held] at repliedFacing
  exact (getsReply_action isOpen isChat _ _).mpr repliedFacing

/-- The client that is open with another policy. -/
theorem client_under
    (isOpen : session.client = some client)
    (policy : ChatPolicy) :
    (session.under policy).client = some ((Disguise.policy policy).client client) := by
  rw [Session.under, Disguise.session_client, isOpen]
  rfl

/-- With another policy a turn gets the same reply. -/
theorem GetsReply.under
    (gets : session.GetsReply turn reply)
    (policy : ChatPolicy) :
    (session.under policy).GetsReply turn reply := by
  obtain ⟨client, action, network, isOpen, isChat, rfl, replied⟩ := gets.action
  rw [getsReply_action (client_under isOpen policy) isChat]
  rw [← replied]
  exact (Disguise.policy policy).chatReply?_situation action (session.meeting client network)

/-- Without a client no action is taken. -/
theorem take_of_closed
    (isClosed : session.client = none)
    (action : Action)
    (network : Http.Network) :
    session.take ⟨.action action, network⟩ = (.noClient, session.facing network) := by
  have isClosedFacing : (session.facing network).client = none := isClosed
  simp only [take, step, isClosedFacing]

/-- With another policy a turn leaves the same, besides what it says, and gives the same unless
its chat gets a reply that tells failure and is not cut off. -/
theorem take_under
    (session : Session)
    (turn : Turn)
    (policy : ChatPolicy) :
    ((session.under policy).take turn).2.hushed = ((session.take turn).2.under policy).hushed ∧
      ((∀ reply, session.GetsReply turn reply →
          reply.status.isSuccess = true ∨ reply.text? = none) →
        ((session.under policy).take turn).1 =
          (Disguise.policy policy).result (session.take turn).1) := by
  cases isChat : turn.isChat with
  | false =>
      have takes := (Disguise.policy policy).take_session
        (Disguise.keepsUsable_policy policy session.config) turn fun chats =>
          absurd (isChat.symm.trans chats) Bool.false_ne_true
      unfold Session.under
      rw [takes]
      exact ⟨rfl, fun _ => rfl⟩
  | true =>
      obtain ⟨step, network⟩ := turn
      cases step with
      | action action =>
          cases isOpen : session.client with
          | none =>
              have isClosedUnder : (session.under policy).client = none := by
                rw [under, Disguise.session_client, isOpen]
                rfl
              rw [take_of_closed isOpen, take_of_closed isClosedUnder]
              exact ⟨rfl, fun _ => rfl⟩
          | some client =>
              have meets : (session.under policy).meeting
                  ((Disguise.policy policy).client client) network =
                    (Disguise.policy policy).situation (session.meeting client network) := rfl
              obtain ⟨left, gives⟩ := Disguise.operation_policy policy isChat
                (session.meeting client network)
              simp only [getsReply_action isOpen isChat]
              rw [take_action isOpen, take_action (client_under isOpen policy), meets]
              have sameClient := congrArg Situation.client left
              have sameWorld := congrArg Situation.world left
              refine ⟨?_, fun unrefused => ?_⟩
              · simp only [hushed, under, Disguise.session, Option.map_some, Session.mk.injEq]
                exact ⟨trivial, congrArg some sameClient, sameWorld⟩
              rw [gives unrefused]
              cases (action.operation (session.meeting client network)).1 <;> rfl
      | _ => cases isChat

/-- With another policy turns leave the same, besides what they say. -/
theorem after_under
    (session : Session)
    (turns : List Turn)
    (policy : ChatPolicy) :
    ((session.under policy).after turns).hushed = ((session.after turns).under policy).hushed := by
  induction turns generalizing session with
  | nil => rfl
  | cons turn turns inductionHypothesis =>
      rw [after_cons, after_cons, hushed_after_congr (session.take_under turn policy).1,
        inductionHypothesis]

theorem under_under
    (session : Session)
    (one other : ChatPolicy) :
    (session.under one).under other = session.under other :=
  Disguise.session_policy_policy other one session

/-- The client of a session with a policy has that policy. -/
theorem policy_under
    {policy : ChatPolicy}
    (isOpen : (session.under policy).client = some client) :
    client.config.policy = policy := by
  rw [under, Disguise.session_client] at isOpen
  obtain ⟨_, _, rfl⟩ := Option.map_eq_some_iff.mp isOpen
  rfl

end Session

/-- What is seen of a turn besides what it gives and says: the exchanges, the bound model and the
files. -/
def Observation.traces (seen : Observation) :
    List Http.Exchange × Option ModelId × Files.Tree :=
  (seen.exchanges, seen.bound, seen.files)

namespace Session

/-- With another policy turns show the same besides what they give and say. -/
theorem traces_under
    (session : Session)
    (turns : List Turn)
    (policy : ChatPolicy) :
    ((session.under policy).observations turns).map Observation.traces =
      (session.observations turns).map Observation.traces := by
  induction turns generalizing session with
  | nil => rfl
  | cons turn turns inductionHypothesis =>
      have left := (session.take_under turn policy).1
      have seen : ((session.under policy).observe turn).traces =
          (session.observe turn).traces := by
        have world : ((session.under policy).take turn).2.world.hushed =
            (session.take turn).2.world.hushed := by
          have same := congrArg Session.world left
          simpa only [hushed, under, Disguise.session_world, Disguise.world_policy] using same
        have exchanges := World.eq_of_hushed_eq world World.exchanges fun _ => rfl
        have files := World.eq_of_hushed_eq world World.files fun _ => rfl
        have bound : ((session.under policy).take turn).2.boundModel? =
            (session.take turn).2.boundModel? := by
          rw [boundModel?_congr left, under, Disguise.boundModel?_session]
        simp only [Observation.traces, observe, exchanges, files, bound]
      rw [observations_cons, observations_cons, List.map_cons, List.map_cons, seen,
        observations_congr left, inductionHypothesis]

/-- The turn asks a chat, and the reply that it gets tells failure and arrives with this body. -/
structure IsRefused (session : Session) (turn : Turn) (reply : Http.Reply) (body : String) :
    Prop where
  gets : session.GetsReply turn reply
  unsuccessful : reply.status.isSuccess = false
  arrived : reply.text? = some body

/-- How a session whose clients require success compares with one whose clients accept any
status. -/
structure PolicyLaw (session : Session) : Prop where
  /-- The same turns show the same besides what they give and say, one after the other. -/
  traces : ∀ turns,
    ((session.under .acceptAny).observations turns).map Observation.traces =
      ((session.under .requireSuccess).observations turns).map Observation.traces
  /-- What the turns leave is the same but for the policy and for what was said last. -/
  left : ∀ turns,
    ((session.under .acceptAny).after turns).hushed =
      (((session.under .requireSuccess).after turns).under .acceptAny).hushed
  /-- A turn whose chat is not refused gives the same, but for the policy of a configuration
  that is shown. -/
  unrefused : ∀ earlier turn,
    (∀ reply body, ¬ ((session.under .requireSuccess).after earlier).IsRefused turn reply body) →
    (((session.under .acceptAny).after earlier).take turn).1 =
      (Disguise.policy .acceptAny).result
        (((session.under .requireSuccess).after earlier).take turn).1
  /-- A turn whose chat is refused fails with the status and the body where success is required.
  Where any status is accepted it gives what it would give, with either policy, if the reply
  were approved. -/
  refused : ∀ earlier turn reply body,
    ((session.under .requireSuccess).after earlier).IsRefused turn reply body →
    (((session.under .requireSuccess).after earlier).take turn).1 =
        .failed (.chatFailed reply.status body) ∧
      ∀ policy, (((session.under .acceptAny).after earlier).take turn).1 =
        (((session.under policy).after earlier).take
          (((session.under policy).after earlier).approving turn reply)).1
  /-- Where any status is accepted no chat of a bound client fails with a status. -/
  untold : ∀ earlier turn model failure, turn.isChat = true →
    ((session.under .acceptAny).after earlier).boundModel? = some model →
    (((session.under .acceptAny).after earlier).take turn).1 = .failed failure →
    failure.status? = none

variable {session : Session} {turn : Turn} {reply : Http.Reply}

theorem IsRefused.congr
    {one other : Session}
    (same : one.hushed = other.hushed)
    {body : String}
    (refused : one.IsRefused turn reply body) :
    other.IsRefused turn reply body :=
  ⟨refused.gets.congr same, refused.unsuccessful, refused.arrived⟩

/-- A session that requires success fails with the status and the body of a refusal. -/
theorem IsRefused.fails
    {body : String}
    (refused : (session.under .requireSuccess).IsRefused turn reply body) :
    ((session.under .requireSuccess).take turn).1 = .failed (.chatFailed reply.status body) := by
  obtain ⟨client, _, _, isOpen, _⟩ := refused.gets.action
  rw [refused.gets.take_fst isOpen, policy_under isOpen]
  simp only [ChatPolicy.judge, refused.arrived, refused.unsuccessful, reduceCtorEq, false_or,
    Bool.false_eq_true, if_false]
  rfl

/-- A session whose clients accept any status gives of a reply what a session with any policy
gives of it if it is approved. -/
theorem GetsReply.take_approving
    (gets : session.GetsReply turn reply)
    (policy : ChatPolicy) :
    ((session.under .acceptAny).take turn).1 =
      ((session.under policy).take ((session.under policy).approving turn reply)).1 := by
  obtain ⟨_, _, _, isOpenAny, _⟩ := (gets.under .acceptAny).action
  obtain ⟨_, _, _, isOpen, _⟩ := (gets.under policy).action
  rw [(gets.under .acceptAny).take_fst isOpenAny, (gets.under policy).approving.take_fst isOpen,
    policy_under isOpenAny, ChatPolicy.judge_approved]

/-- Every session obeys the law of policies. -/
theorem policyLaw (session : Session) : session.PolicyLaw where
  traces turns := by
    rw [← session.under_under .requireSuccess .acceptAny]
    exact traces_under _ turns _
  left turns := by
    rw [← session.under_under .requireSuccess .acceptAny]
    exact after_under _ turns _
  unrefused earlier turn unrefused := by
    rw [← session.under_under .requireSuccess .acceptAny,
      take_congr (after_under _ earlier .acceptAny)]
    refine (take_under _ turn .acceptAny).2 fun reply gets => ?_
    cases success : reply.status.isSuccess with
    | true => exact .inl rfl
    | false =>
        cases arrived : reply.text? with
        | none => exact .inr rfl
        | some body => exact absurd ⟨gets, success, arrived⟩ (unrefused reply body)
  refused earlier turn reply body refused := by
    have left := fun policy => session.after_under earlier policy
    have refusedLeft := refused.congr (left .requireSuccess)
    refine ⟨by rw [take_congr (left .requireSuccess)]; exact refusedLeft.fails, fun policy => ?_⟩
    rw [take_congr (left .acceptAny), take_congr (left policy), approving_congr (left policy),
      ← under_under _ .requireSuccess .acceptAny,
      ← under_under (session.after earlier) .requireSuccess policy]
    exact refusedLeft.gets.take_approving policy
  untold earlier turn model failure isChat isBound fails := by
    have left := session.after_under earlier .acceptAny
    rw [boundModel?_congr left] at isBound
    rw [take_congr left] at fails
    obtain ⟨client, isOpen, bound⟩ := Option.bind_eq_some_iff.mp isBound
    obtain ⟨step, network⟩ := turn
    cases step with
    | action action =>
        rw [take_action isOpen] at fails
        have ran := StepResult.eq_error_of_ofAction fails
        exact Action.status?_of_bound isChat bound (policy_under isOpen) ran
    | _ => cases isChat

end Session

/-! ## A refusal to look at -/

/-- A reply with status 503 and an empty object. -/
def Http.Reply.sampleRefusal : Reply :=
  ⟨⟨503, by decide, by decide⟩, [0x7b, 0x7d], true⟩

/-- A turn whose chat gets that reply. -/
def Turn.sampleRefusal : Turn :=
  ⟨.action (.query "hi" .usual), .reachable [.reply .sampleRefusal]⟩

/-- A session that has opened a bound client. -/
def Session.sampleBound (policy : ChatPolicy) : Session :=
  (Session.sample.under policy).after [⟨.opening (.bound "m"), .unreachable⟩]

namespace Session

/-- A client that is bound has its chat refused, and fails with that. -/
theorem policyLaw_sample :
    (sampleBound .requireSuccess).IsRefused .sampleRefusal .sampleRefusal "\x7b\x7d" ∧
      ((sampleBound .requireSuccess).take .sampleRefusal).1 =
        .failed (.chatFailed Http.Reply.sampleRefusal.status "\x7b\x7d") := by
  have isOpen : (sampleBound .requireSuccess).client = some ⟨.sample, some "m"⟩ := by
    decide +kernel
  have gets : (sampleBound .requireSuccess).GetsReply .sampleRefusal .sampleRefusal :=
    (getsReply_action isOpen rfl _ _).mpr (by decide +kernel)
  have refused : (sampleBound .requireSuccess).IsRefused .sampleRefusal .sampleRefusal
      "\x7b\x7d" := ⟨gets, rfl, by decide +kernel⟩
  exact ⟨refused, (sample.policyLaw.refused _ _ _ _ refused).1⟩

end Session

end KnowledgeClient
