import KnowledgeClient.Proofs.Judging
import KnowledgeClient.Proofs.Removal

/-!
# Logs of calls

A log has the calls that were made with the exchanges held for them.  `Situation.Makes`
says which calls lead from one situation to another: a call is made once if its request
goes out, and never again.  `Verdict` says how the result of a run is justified by its
log.  Both are shown for single calls and for the resolution of the model, and put
together as operations are.
-/

namespace KnowledgeClient

/-! ## Logs of calls -/

/-- Calls that were made, each with the exchange held for it. -/
abbrev Log := List (Call × Http.Exchange)

/-- The answer is a reply with a status that the call accepts. -/
def Call.Accepted
    (policy : ChatPolicy)
    (call : Call)
    (answer : Http.Answer) : Prop :=
  ∃ reply, answer = .reply reply ∧ call.accepts policy reply.status = true

/-- The answer is a whole listing of knowledge models, with a status that tells success,
and there is no model in it. -/
def Http.Answer.ListsNone (answer : Answer) : Prop :=
  ∃ given text listing,
    answer = .reply given ∧
    given.status.isSuccess = true ∧
    given.text? = some text ∧
    Listing.read KnowledgeModel.schema.read text = .ok listing ∧
    listing.results = []

namespace Situation

/-- Requests for the calls go out: the network can be reached, and the addresses of the
calls read as URLs that requests can be sent to. -/
structure Reaches (situation : Situation) (calls : List Call) : Prop where
  reachable : situation.world.network ≠ .unreachable
  accepts : ∀ call ∈ calls, situation.client.config.Accepts call

/-- From the first situation to the second the exchanges of the log were held, each for
its call: some of these calls, in their order, and all of them if their requests go out. -/
structure Makes
    (before : Situation)
    (calls : List Call)
    (log : Log)
    (after : Situation) : Prop where
  config_eq : after.client.config = before.client.config
  reachable : before.world.network ≠ .unreachable → after.world.network ≠ .unreachable
  exchanges_eq : after.world.exchanges = before.world.exchanges ++ log.map (·.2)
  isFor : ∀ entry ∈ log, entry.2.IsFor before.client.config entry.1
  sublist : (log.map (·.1)).Sublist calls
  complete : before.Reaches calls → log.map (·.1) = calls

end Situation

/-- How the result of a run that makes the calls is justified by its log. -/
structure Verdict
    {α : Type}
    (policy : ChatPolicy)
    (calls : List Call)
    (log : Log)
    (result : Except Failure α) : Prop where
  /-- A result is given only after every call got a reply that it accepts. -/
  granted : ∀ value, result = .ok value →
    log.map (·.1) = calls ∧ ∀ entry ∈ log, entry.1.Accepted policy entry.2.answer
  /-- A reply that its call does not accept is what the run fails with. -/
  refused : ∀ call exchange reply, (call, exchange) ∈ log → exchange.answer = .reply reply →
    call.accepts policy reply.status = false → result = .error (call.refusal reply)
  /-- A failure that tells a status is about the last reply, which its call does not accept. -/
  told : ∀ failure status, result = .error failure → failure.status? = some status →
    ∃ call exchange reply, log.getLast? = some (call, exchange) ∧
      exchange.answer = .reply reply ∧
      call.accepts policy reply.status = false ∧
      failure = call.refusal reply
  /-- A run that fails for want of a model ends with a listing that has none. -/
  unlisted : result = .error .noModelAvailable →
    ∃ exchange, log.getLast? = some (.models, exchange) ∧ exchange.answer.ListsNone

/-- What was run makes the calls, and its result is justified by its log. -/
def Situation.Performs
    {α : Type}
    (before : Situation)
    (calls : List Call)
    (ran : Except Failure α × Situation) : Prop :=
  ∃ log, before.Makes calls log ran.2 ∧
    Verdict before.client.config.policy calls log ran.1

/-! ## Logs in a row -/

namespace Situation

theorem Reaches.of_append_left
    {situation : Situation}
    {earlier later : List Call}
    (reaches : situation.Reaches (earlier ++ later)) :
    situation.Reaches earlier where
  reachable := reaches.reachable
  accepts call member := reaches.accepts call (List.mem_append_left later member)

namespace Makes

variable
  {before middle after : Situation}
  {earlier later calls : List Call}
  {firstLog secondLog log : Log}

theorem refl (situation : Situation) : situation.Makes [] [] situation where
  config_eq := rfl
  reachable unchanged := unchanged
  exchanges_eq := by simp
  isFor := by simp
  sublist := .slnil
  complete _ := rfl

theorem append
    (first : before.Makes earlier firstLog middle)
    (second : middle.Makes later secondLog after) :
    before.Makes (earlier ++ later) (firstLog ++ secondLog) after where
  config_eq := second.config_eq.trans first.config_eq
  reachable isReachable := second.reachable (first.reachable isReachable)
  exchanges_eq := by
    rw [second.exchanges_eq, first.exchanges_eq, List.map_append, List.append_assoc]
  isFor entry member := by
    rcases List.mem_append.mp member with inFirst | inSecond
    · exact first.isFor entry inFirst
    · rw [← first.config_eq]
      exact second.isFor entry inSecond
  sublist := by
    rw [List.map_append]
    exact first.sublist.append second.sublist
  complete reaches := by
    -- The first part changes neither the configuration nor whether the network is reached.
    have middleReaches : middle.Reaches later := by
      refine ⟨first.reachable reaches.reachable, fun call member => ?_⟩
      rw [first.config_eq]
      exact reaches.accepts call (List.mem_append_right earlier member)
    rw [List.map_append, first.complete reaches.of_append_left, second.complete middleReaches]

/-- Noting things afterwards makes no call. -/
theorem noting
    (makes : before.Makes calls log after)
    (notes : List Note) :
    before.Makes calls log (after.noting notes) where
  config_eq := makes.config_eq
  reachable isReachable := by
    rw [noting_network]
    exact makes.reachable isReachable
  exchanges_eq := by rw [noting_exchanges, makes.exchanges_eq]
  isFor := makes.isFor
  sublist := makes.sublist
  complete := makes.complete

/-- Nor does noting things before. -/
theorem of_noting
    {notes : List Note}
    (makes : (before.noting notes).Makes calls log after) :
    before.Makes calls log after where
  config_eq := makes.config_eq
  reachable isReachable := makes.reachable (by rwa [noting_network])
  exchanges_eq := by rw [makes.exchanges_eq, noting_exchanges]
  isFor := makes.isFor
  sublist := makes.sublist
  complete reaches := makes.complete ⟨by rw [noting_network]; exact reaches.reachable,
    reaches.accepts⟩

theorem mem_calls
    (makes : before.Makes calls log after)
    {call : Call}
    {exchange : Http.Exchange}
    (member : (call, exchange) ∈ log) :
    call ∈ calls :=
  makes.sublist.subset (List.mem_map_of_mem member)

end Makes
end Situation

namespace Verdict

variable
  {α β : Type}
  {policy : ChatPolicy}
  {calls earlier later : List Call}
  {log firstLog secondLog : Log}
  {result : Except Failure α}
  {failure : Failure}

theorem given (value : α) :
    Verdict policy [] [] (.ok value : Except Failure α) where
  granted := by simp
  refused := by simp
  told := by simp
  unlisted := by simp

/-- A failure that tells no status justifies itself if no reply was refused. -/
theorem of_untold
    (untold : failure.status? = none)
    (isOther : failure ≠ .noModelAvailable)
    (accepted : ∀ call exchange reply, (call, exchange) ∈ log → exchange.answer = .reply reply →
      call.accepts policy reply.status = true) :
    Verdict policy calls log (.error failure : Except Failure α) where
  granted := by simp
  refused call exchange reply member answered rejected := by
    rw [accepted call exchange reply member answered] at rejected
    cases rejected
  told other status same tells := by
    obtain rfl := Except.error.inj same
    rw [untold] at tells
    cases tells
  unlisted same := absurd (Except.error.inj same) isOther

/-- What a call makes of a reply is justified by that reply. -/
theorem of_judge
    {call : Call}
    {exchange : Http.Exchange}
    {reply : Http.Reply}
    (answered : exchange.answer = .reply reply)
    (content : Http.Reply → Except Json.Fault α) :
    Verdict policy [call] [(call, exchange)] (call.judge policy content reply) := by
  cases accepted : call.accepts policy reply.status with
  | false =>
      rw [Call.judge_of_rejected accepted]
      constructor
      case granted => simp
      case refused =>
        intro other otherExchange otherReply member otherAnswered _
        obtain ⟨rfl, rfl⟩ := Prod.mk.inj (List.mem_singleton.mp member)
        rw [answered] at otherAnswered
        rw [Http.Answer.reply.inj otherAnswered]
      case told =>
        intro failure status fails _
        exact ⟨call, exchange, reply, rfl, answered, accepted, (Except.error.inj fails).symm⟩
      case unlisted =>
        intro fails
        have refusal := Except.error.inj fails
        unfold Call.refusal at refusal
        split at refusal
        · cases refusal
        · cases call <;> cases refusal
  | true =>
      have allAccepted : ∀ other otherExchange otherReply,
          (other, otherExchange) ∈ [(call, exchange)] →
          otherExchange.answer = .reply otherReply →
          other.accepts policy otherReply.status = true := by
        intro other otherExchange otherReply member otherAnswered
        obtain ⟨rfl, rfl⟩ := Prod.mk.inj (List.mem_singleton.mp member)
        rw [answered] at otherAnswered
        rw [← Http.Answer.reply.inj otherAnswered, accepted]
      cases judged : call.judge policy content reply with
      | error failure =>
          rcases Call.judge_eq_error judged with (rfl | ⟨fault, rfl⟩) | ⟨rejected, _⟩
          · exact of_untold rfl (by simp) allAccepted
          · exact of_untold rfl (by simp) allAccepted
          · rw [accepted] at rejected
            cases rejected
      | ok value =>
          constructor
          case granted =>
            intro _ _
            refine ⟨rfl, fun entry member => ?_⟩
            rw [List.mem_singleton.mp member]
            exact ⟨reply, answered, accepted⟩
          case refused =>
            intro other otherExchange otherReply member otherAnswered rejected
            rw [allAccepted other otherExchange otherReply member otherAnswered] at rejected
            cases rejected
          case told => simp
          case unlisted => simp

/-- A run that goes on after it got a result is justified by the logs of both parts. -/
theorem append
    {value : β}
    (first : Verdict policy earlier firstLog (.ok value : Except Failure β))
    (second : Verdict policy later secondLog result) :
    Verdict policy (earlier ++ later) (firstLog ++ secondLog) result := by
  obtain ⟨firstCalls, firstAccepted⟩ := first.granted value rfl
  constructor
  case granted =>
    intro given isGiven
    obtain ⟨secondCalls, secondAccepted⟩ := second.granted given isGiven
    refine ⟨by rw [List.map_append, firstCalls, secondCalls], fun entry member => ?_⟩
    rcases List.mem_append.mp member with inFirst | inSecond
    · exact firstAccepted entry inFirst
    · exact secondAccepted entry inSecond
  case refused =>
    intro call exchange reply member answered rejected
    rcases List.mem_append.mp member with inFirst | inSecond
    · cases first.refused call exchange reply inFirst answered rejected
    · exact second.refused call exchange reply inSecond answered rejected
  case told =>
    intro failure status fails tells
    -- The first part gave a result, so that a failure is one of the second, which ends the log.
    obtain ⟨call, exchange, reply, last, about⟩ := second.told failure status fails tells
    refine ⟨call, exchange, reply, ?_, about⟩
    rw [List.getLast?_append, last, Option.some_or]
  case unlisted =>
    intro fails
    obtain ⟨exchange, last, listsNone⟩ := second.unlisted fails
    refine ⟨exchange, ?_, listsNone⟩
    rw [List.getLast?_append, last, Option.some_or]

theorem of_error
    (verdict : Verdict policy calls log (.error failure : Except Failure α)) :
    Verdict policy calls log (.error failure : Except Failure β) where
  granted := by simp
  refused call exchange reply member answered rejected := by
    have same := verdict.refused call exchange reply member answered rejected
    rw [Except.error.inj same]
  told other status same := verdict.told other status (by rw [Except.error.inj same])
  unlisted same := verdict.unlisted (by rw [Except.error.inj same])

theorem of_ok
    {given : α}
    (verdict : Verdict policy calls log (.ok given : Except Failure α))
    (value : β) :
    Verdict policy calls log (.ok value : Except Failure β) where
  granted _ _ := verdict.granted given rfl
  refused call exchange reply member answered rejected := by
    cases verdict.refused call exchange reply member answered rejected
  told := by simp
  unlisted := by simp

theorem map
    (verdict : Verdict policy calls log result)
    (function : α → β) :
    Verdict policy calls log (result.map function) := by
  cases result with
  | error failure => exact verdict.of_error
  | ok value => exact verdict.of_ok (function value)

/-- What a resolution makes of the answer to its request is justified by that answer. -/
theorem of_resolution
    (policy : ChatPolicy)
    (exchange : Http.Exchange)
    (url : Http.Url) :
    Verdict policy [.models] [(.models, exchange)] (exchange.answer.resolution url) := by
  cases answered : exchange.answer with
  | dropped =>
      refine of_untold rfl (by simp) fun other otherExchange reply member isReply => ?_
      rw [List.mem_singleton, Prod.mk.injEq] at member
      rw [member.2, answered] at isReply
      cases isReply
  | reply given =>
      have verdict : Verdict policy [.models] [(.models, exchange)]
          (Operation.contentOf (Listing.read KnowledgeModel.schema.read) given) := by
        rw [Call.contentOf_eq_judge .models policy rfl rfl fun _ => rfl]
        exact of_judge answered _
      cases content : Operation.contentOf (Listing.read KnowledgeModel.schema.read) given with
      | error failure =>
          rw [content] at verdict
          simp only [Http.Answer.resolution, content]
          exact verdict.of_error
      | ok listing =>
          rw [content] at verdict
          obtain ⟨text, arrived, success, reading⟩ :=
            (Operation.contentOf_eq_ok_iff _ _ _).mp content
          cases models : listing.results with
          | nil =>
              simp only [Http.Answer.resolution, content, models, Http.Answer.firstOf]
              constructor
              case granted => simp
              case refused =>
                intro call other reply member isReply rejected
                cases verdict.refused call other reply member isReply rejected
              case told =>
                intro failure status fails tells
                rw [← Except.error.inj fails] at tells
                cases tells
              case unlisted =>
                intro _
                exact ⟨exchange, rfl, given, text, listing, answered, success, arrived, reading,
                  models⟩
          | cons first others =>
              simp only [Http.Answer.resolution, content, models, Http.Answer.firstOf]
              exact verdict.of_ok first.id

end Verdict

/-! ## Single calls and resolutions -/

/-- A request without a payload does not go out. -/
theorem World.target_of_no_payload
    (world : World)
    (address : String) :
    ∃ fault, world.target address none = .error fault := by
  unfold target
  cases Http.Url.read address with
  | error fault => exact ⟨_, rfl⟩
  | ok url =>
      have stopped : (world.obstacle? url.withoutUser none).isSome = true := by
        unfold obstacle?
        split_ifs <;> simp_all
      obtain ⟨fault, obstacle⟩ := Option.isSome_iff_exists.mp stopped
      exact ⟨fault, by simp only [obstacle]⟩

/-- A folder can be opened, but there is nothing of it to send: its upload is refused before it
leaves. -/
theorem Client.uploadInto_of_folder
    {path : Files.Path}
    {situation : Situation}
    (opens : situation.world.files.find path = .ok .folder)
    (model : ModelId) :
    ∃ fault,
      situation.world.target (situation.client.config.address (.upload model)) none =
        .error fault ∧
      uploadInto path model situation = (.error (.requestFailed fault), situation) := by
  obtain ⟨fault, refuses⟩ := situation.world.target_of_no_payload
    (situation.client.config.address (.upload model))
  refine ⟨fault, refuses, ?_⟩
  rw [uploadInto_calling opens]
  simp only [uploadPayload, Situation.calling, refuses]

namespace Situation
namespace Performs

variable
  {α β : Type}
  {before middle after : Situation}
  {calls earlier later : List Call}

/-- What gives a result and does nothing makes no calls. -/
theorem given
    (situation : Situation)
    (value : α) :
    situation.Performs [] (.ok value, situation) :=
  ⟨[], .refl situation, .given value⟩

/-- What fails for a reason of its own and does nothing makes no calls. -/
theorem failed
    (situation : Situation)
    {failure : Failure}
    (untold : failure.status? = none)
    (isOther : failure ≠ .noModelAvailable) :
    situation.Performs [] ((.error failure, situation) : Except Failure α × Situation) :=
  ⟨[], .refl situation, .of_untold untold isOther (by simp)⟩

theorem append
    {value : β}
    {ran : Except Failure α × Situation}
    (first : before.Performs earlier ((.ok value, middle) : Except Failure β × Situation))
    (second : middle.Performs later ran) :
    before.Performs (earlier ++ later) ran := by
  obtain ⟨firstLog, firstMakes, firstVerdict⟩ := first
  obtain ⟨secondLog, secondMakes, secondVerdict⟩ := second
  rw [firstMakes.config_eq] at secondVerdict
  exact ⟨firstLog ++ secondLog, firstMakes.append secondMakes, firstVerdict.append secondVerdict⟩

theorem map
    {operation : Operation α}
    (performs : before.Performs calls (operation before))
    (function : α → β) :
    before.Performs calls ((function <$> operation) before) := by
  obtain ⟨log, makes, verdict⟩ := performs
  rw [Operation.map_apply]
  exact ⟨log, makes, verdict.map function⟩

/-- What was noted before bears on no call. -/
theorem of_noting
    {notes : List Note}
    {ran : Except Failure α × Situation}
    (performs : (before.noting notes).Performs calls ran) :
    before.Performs calls ran := by
  obtain ⟨log, makes, verdict⟩ := performs
  exact ⟨log, makes.of_noting, verdict⟩

end Performs

/-- A request that goes out is an entry of a log. -/
theorem makes_answering
    {situation : Situation}
    {call : Call}
    {payload : Option Http.Payload}
    {url : Http.Url}
    (goes : situation.world.target (situation.client.config.address call) payload = .ok url) :
    let request :=
      World.requestTo situation.client.config.accessHeader call.method url payload
    situation.Makes [call] [(call, ⟨request, situation.world.network.next⟩)]
      (situation.answering request) := by
  intro request
  have network := World.answering_network (World.reachable_of_target_eq_ok goes) request
  constructor
  case config_eq => rfl
  case reachable =>
    intro isReachable
    rw [answering_world, network, ne_eq, Http.Network.rest_eq_unreachable_iff]
    exact isReachable
  case exchanges_eq => simp
  case isFor =>
    intro entry member
    rw [List.mem_singleton.mp member]
    exact Http.Exchange.isFor_of_target goes _
  case sublist => exact List.Sublist.refl [call]
  case complete => exact fun _ => rfl

/-- A request that would go out if it could is not refused. -/
theorem makes_nothing
    {situation : Situation}
    {call : Call}
    {payload : Http.Payload}
    {fault : TransportFault}
    (refuses : situation.world.target (situation.client.config.address call) (some payload) =
      .error fault) :
    situation.Makes [call] [] situation where
  config_eq := rfl
  reachable unchanged := unchanged
  exchanges_eq := by simp
  isFor := by simp
  sublist := List.nil_sublist [call]
  complete reaches := by
    obtain ⟨url, reading, isWeb, isAddress⟩ :=
      reaches.accepts call (List.mem_singleton_self call)
    rw [World.target_eq_ok reading isWeb isAddress reaches.reachable] at refuses
    cases refuses

/-- An operation that makes a call makes that call alone. -/
theorem calling_performs
    {α : Type}
    (situation : Situation)
    (call : Call)
    (payload : Http.Payload)
    (content : Http.Reply → Except Json.Fault α)
    (notes : Http.Reply → List Note) :
    situation.Performs [call]
      (situation.calling call (some payload)
        (call.judge situation.client.config.policy content ·) notes) := by
  unfold calling
  cases goes : situation.world.target (situation.client.config.address call) (some payload) with
  | error fault =>
      exact ⟨[], makes_nothing goes, .of_untold rfl (by simp) (by simp)⟩
  | ok url =>
      have makes := makes_answering goes
      cases answered : situation.world.network.next with
      | dropped =>
          refine ⟨_, makes, .of_untold rfl (by simp) ?_⟩
          intro other exchange reply member isReply
          rw [List.mem_singleton, Prod.mk.injEq] at member
          obtain ⟨rfl, rfl⟩ := member
          rw [answered] at isReply
          cases isReply
      | reply given =>
          exact ⟨_, makes.noting (notes given), .of_judge answered content⟩

/-- The request for the knowledge models that resolves the model, unless the client is bound. -/
def learning (situation : Situation) : List Call :=
  if situation.client.bound.isNone then [.models] else []

/-- The calls of what resolves the model and then makes calls about it. -/
def asking (situation : Situation) (calls : ModelId → List Call) : List Call :=
  situation.learning ++
    match (Client.resolve situation).1 with
    | .ok model => calls model
    | .error _ => []

end Situation

/-- A resolution asks for the knowledge models once, or not at all for a client that is bound. -/
theorem Resolution.performs
    {situation after : Situation}
    {outcome : Except Failure ModelId}
    (resolution : Resolution situation outcome after) :
    situation.Performs situation.learning (outcome, after) := by
  cases resolution with
  | bound model isBound =>
      rw [Situation.learning, isBound]
      exact .given situation model
  | refused fault unbound refuses =>
      rw [Situation.learning, unbound]
      exact ⟨[], Situation.makes_nothing refuses, .of_untold rfl (by simp) (by simp)⟩
  | failed url failure unbound goes fails =>
      rw [Situation.learning, unbound, ← fails]
      exact ⟨_, (Situation.makes_answering goes).noting _, .of_resolution _ _ url⟩
  | found url model unbound goes finds =>
      have makes := ((Situation.makes_answering goes).noting
        situation.world.network.next.listingNotes).noting (Situation.bindingNotes model)
      rw [Situation.learning, unbound, ← finds]
      exact ⟨_, ⟨makes.config_eq, makes.reachable, makes.exchanges_eq, makes.isFor,
        makes.sublist, makes.complete⟩, .of_resolution _ _ url⟩

namespace Client

/-- What resolves the model and then makes calls about it asks for all of these. -/
theorem resolve_bind_performs
    {α : Type}
    {situation : Situation}
    {next : ModelId → Operation α}
    {calls : ModelId → List Call}
    (performs : ∀ model after, resolve situation = (.ok model, after) →
      after.Performs (calls model) (next model after)) :
    situation.Performs (situation.asking calls) ((resolve >>= next) situation) := by
  have resolves := (resolution situation).performs
  rw [Operation.bind_apply, Situation.asking]
  rcases resolved : resolve situation with ⟨failure | model, after⟩
  · rw [resolved] at resolves
    obtain ⟨log, makes, verdict⟩ := resolves
    simp only [List.append_nil]
    exact ⟨log, makes, verdict.of_error⟩
  · rw [resolved] at resolves
    exact resolves.append (performs model after resolved)

end Client

end KnowledgeClient
