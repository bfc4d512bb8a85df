import KnowledgeClient.Proofs.Asking

/-!
# Operations in two situations

Two situations may differ in something that an operation does not look at.  A
relation between situations is respected by an operation when, from related
situations, it gives the same and leaves related situations.  The rules follow the
way in which operations are composed, so that a relation needs to be looked at only
where a request is sent, something is noted or the situation is read.
-/

namespace KnowledgeClient

namespace Operation

variable {α β : Type} {related : Situation → Situation → Prop}

/-- From related situations both operations give the same and leave related situations. -/
def Agree
    (related : Situation → Situation → Prop)
    (first second : Operation α) : Prop :=
  ∀ one other, related one other →
    (first one).1 = (second other).1 ∧ related (first one).2 (second other).2

/-- An operation that gives the same everywhere and changes nothing agrees with itself. -/
theorem agree_of_quiet
    {operation : Operation α}
    {result : Except Failure α}
    (quiet : ∀ situation, operation situation = (result, situation)) :
    Agree related operation operation := by
  intro one other isRelated
  rw [quiet one, quiet other]
  exact ⟨rfl, isRelated⟩

namespace Agree

/-- From related situations both operations run to the same result and to related situations. -/
theorem runs
    {first second : Operation α}
    (agree : Agree related first second)
    {one other : Situation}
    (isRelated : related one other) :
    ∃ result oneAfter otherAfter, first one = (result, oneAfter) ∧
      second other = (result, otherAfter) ∧ related oneAfter otherAfter := by
  obtain ⟨same, stillRelated⟩ := agree one other isRelated
  exact ⟨(first one).1, (first one).2, (second other).2, rfl, Prod.ext same.symm rfl, stillRelated⟩

theorem pure (value : α) :
    Agree related (Pure.pure value : Operation α) (Pure.pure value) :=
  agree_of_quiet fun _ => rfl

theorem throw (failure : Failure) :
    Agree related (MonadExcept.throw failure : Operation α) (MonadExcept.throw failure) :=
  agree_of_quiet fun _ => rfl

theorem bodyText (reply : Http.Reply) :
    Agree related (Operation.bodyText reply) (Operation.bodyText reply) :=
  agree_of_quiet (bodyText_apply reply)

theorem parse
    (read : String → Except Json.Fault α)
    (text : String) :
    Agree related (Operation.parse read text) (Operation.parse read text) :=
  agree_of_quiet (parse_apply read text)

theorem readReply
    (read : String → Except Json.Fault α)
    (reply : Http.Reply) :
    Agree related (Operation.readReply read reply) (Operation.readReply read reply) :=
  agree_of_quiet (readReply_apply read reply)

/-- Operations in a row agree when their parts do, whatever the first ones give. -/
theorem bind
    {first second : Operation α}
    {firstNext secondNext : α → Operation β}
    (start : Agree related first second)
    (next : ∀ value, Agree related (firstNext value) (secondNext value)) :
    Agree related (first >>= firstNext) (second >>= secondNext) := by
  intro one other isRelated
  obtain ⟨result, firstAfter, secondAfter, ran, otherRan, stillRelated⟩ := start.runs isRelated
  rw [bind_apply, bind_apply, ran, otherRan]
  cases result with
  | error failure => exact ⟨rfl, stillRelated⟩
  | ok value => exact next value firstAfter secondAfter stillRelated

/-- Operations that look at the situation agree when what they then do agrees. -/
theorem getBind
    {firstNext secondNext : Situation → Operation β}
    (next : ∀ one other, related one other →
      Agree related (firstNext one) (secondNext other)) :
    Agree related ((get : Operation Situation) >>= firstNext) (get >>= secondNext) := by
  intro one other isRelated
  rw [get_bind_apply, get_bind_apply]
  exact next one other isRelated one other isRelated

theorem map
    {first second : Operation α}
    (agree : Agree related first second)
    (function : α → β) :
    Agree related (function <$> first) (function <$> second) := by
  intro one other isRelated
  obtain ⟨sameResult, stillRelated⟩ := agree one other isRelated
  rw [map_apply, map_apply, sameResult]
  exact ⟨rfl, stillRelated⟩

theorem attempt
    {first second : Operation α}
    (agree : Agree related first second) :
    Agree related (Operation.attempt first) (Operation.attempt second) := by
  intro one other isRelated
  obtain ⟨sameResult, stillRelated⟩ := agree one other isRelated
  rw [attempt_apply, attempt_apply, sameResult]
  exact ⟨rfl, stillRelated⟩

end Agree

/-- A relation between situations on the same platform that sending and noting respect. -/
structure Carried (related : Situation → Situation → Prop) : Prop where
  /-- Sending a request respects the relation. -/
  sendAny : ∀ method path payload,
    Agree related (Operation.sendAny method path payload) (Operation.sendAny method path payload)
  /-- Noting something respects the relation. -/
  note : ∀ noted, Agree related (Operation.note noted) (Operation.note noted)
  /-- Related situations are on the same platform. -/
  platform_eq : ∀ one other, related one other → one.world.platform = other.world.platform

namespace Carried

theorem record
    (carried : Carried related)
    (level : Level)
    (category message : String) :
    Agree related (Operation.record level category message)
      (Operation.record level category message) :=
  carried.note _

theorem tell
    (carried : Carried related)
    (severity : Severity)
    (message : String)
    (values : List (String × EventValue)) :
    Agree related (Operation.tell severity message values)
      (Operation.tell severity message values) :=
  carried.note _

end Carried

/-- A relation that is carried along, between situations with the same policy. -/
structure Respected (related : Situation → Situation → Prop) : Prop extends Carried related where
  /-- Related situations have the same policy. -/
  policy_eq : ∀ one other, related one other →
    one.client.config.policy = other.client.config.policy

/-- The path leads to the same in related situations. -/
def FindsAlike
    (related : Situation → Situation → Prop)
    (path : Files.Path) : Prop :=
  ∀ one other, related one other → one.world.files.find path = other.world.files.find path

end Operation

namespace Client

open Operation

variable {related : Situation → Situation → Prop}

section Carried

variable (carried : Carried related)
include carried

/-! ## Operations that need no model -/

theorem listModels_agree : Agree related listModels listModels := by
  unfold listModels send
  refine Agree.bind (carried.sendAny _ _ _) fun reply => ?_
  refine Agree.bind (Agree.readReply _ _) fun listing => ?_
  exact Agree.bind (carried.tell _ _ _) fun _ => Agree.pure _

theorem createModel_agree (proposal : ModelProposal) :
    Agree related (createModel proposal) (createModel proposal) := by
  unfold createModel send
  exact Agree.bind (carried.sendAny _ _ _) fun reply => Agree.readReply _ _

theorem announceModel_agree (proposal : ModelProposal) :
    Agree related (announceModel proposal) (announceModel proposal) := by
  unfold announceModel
  refine Agree.bind (createModel_agree carried proposal) fun model => ?_
  exact Agree.bind (carried.tell _ _ _) fun _ => Agree.pure _

theorem listLanguageModels_agree : Agree related listLanguageModels listLanguageModels := by
  unfold listLanguageModels send
  refine Agree.bind (carried.sendAny _ _ _) fun reply => ?_
  exact Agree.bind (Agree.readReply _ _) fun listing => Agree.pure _

theorem checkAlive_agree : Agree related checkAlive checkAlive := by
  unfold checkAlive send
  refine Agree.bind (carried.sendAny _ _ _) fun reply => ?_
  exact Agree.bind (carried.tell _ _ _) fun _ => Agree.pure _

/-! ## Operations that are told their model -/

theorem uploadInto_agree
    {path : Files.Path}
    (found : FindsAlike related path)
    (model : ModelId) :
    Agree related (uploadInto path model) (uploadInto path model) := by
  unfold uploadInto
  refine Agree.getBind fun one other isRelated => ?_
  simp only [found one other isRelated, carried.platform_eq one other isRelated]
  cases other.world.files.find path with
  | error reason => exact Agree.throw _
  | ok entry =>
      refine Agree.bind (carried.sendAny _ _ _) fun reply => ?_
      refine Agree.bind (Agree.bodyText reply) fun text => ?_
      split
      · refine Agree.bind (Agree.parse _ _) fun document => ?_
        refine Agree.bind (carried.tell _ _ _) fun _ => ?_
        exact Agree.bind (carried.record _ _ _) fun _ => Agree.pure _
      · refine Agree.bind (carried.tell _ _ _) fun _ => ?_
        exact Agree.bind (carried.record _ _ _) fun _ => Agree.throw _

theorem documentsOf_agree (model : ModelId) :
    Agree related (documentsOf model) (documentsOf model) := by
  unfold documentsOf send
  refine Agree.bind (carried.sendAny _ _ _) fun reply => ?_
  exact Agree.bind (Agree.readReply _ _) fun listing => Agree.pure _

theorem removeFrom_agree
    (document : String)
    (model : ModelId) :
    Agree related (removeFrom document model) (removeFrom document model) := by
  unfold removeFrom send
  refine Agree.bind (carried.sendAny _ _ _) fun reply => ?_
  simp only
  split
  · exact carried.tell _ _ _
  · refine Agree.bind (carried.tell _ _ _) fun _ => ?_
    exact Agree.bind (carried.record _ _ _) fun _ => Agree.throw _

end Carried

/-- A chat depends on the policy too. -/
theorem askOf_agree
    (respected : Respected related)
    (content : String)
    (options : ChatOptions)
    (model : ModelId) :
    Agree related (askOf content options model) (askOf content options model) := by
  unfold askOf send
  refine Agree.bind (respected.tell _ _ _) fun _ => ?_
  refine Agree.bind (respected.sendAny _ _ _) fun reply => ?_
  refine Agree.bind (Agree.bodyText reply) fun text => ?_
  split
  · exact Agree.bind (respected.record _ _ _) fun _ => Agree.parse _ _
  · refine Agree.bind (respected.record _ _ _) fun _ => ?_
    refine Agree.getBind fun one other isRelated => ?_
    rw [respected.policy_eq one other isRelated]
    cases other.client.config.policy with
    | requireSuccess => exact Agree.throw _
    | acceptAny => exact Agree.bind (respected.tell _ _ _) fun _ => Agree.parse _ _

end Client

/-! ## Situations that differ in the bound model and in the past -/

namespace Situation

/-- The first situation is like the second, but for the model that the client is bound to, for
exchanges that were held before all others, and for what was said before all else. -/
structure Likewise
    (past : List Http.Exchange)
    (saidBefore : List Diagnostic)
    (one other : Situation) : Prop where
  config_eq : one.client.config = other.client.config
  platform_eq : one.world.platform = other.world.platform
  network_eq : one.world.network = other.world.network
  files_eq : one.world.files = other.world.files
  journal_eq : one.world.journal = other.world.journal
  time_eq : one.world.time = other.world.time
  exchanges_eq : one.world.exchanges = past ++ other.world.exchanges
  said_eq : one.world.said = saidBefore ++ other.world.said

namespace Likewise

variable
  {past : List Http.Exchange}
  {saidBefore : List Diagnostic}
  {one other : Situation}

theorem answering
    (likewise : Likewise past saidBefore one other)
    (request : Http.Request) :
    Likewise past saidBefore (one.answering request) (other.answering request) := by
  refine ⟨likewise.config_eq, likewise.platform_eq, ?_, likewise.files_eq, likewise.journal_eq,
    likewise.time_eq, ?_, likewise.said_eq⟩
  · simp only [answering_world, World.answering, World.record, likewise.network_eq]
  · simp only [answering_world, World.answering_exchanges, likewise.exchanges_eq,
      likewise.network_eq, List.append_assoc]

theorem target_eq
    (likewise : Likewise past saidBefore one other)
    (address : String)
    (payload : Option Http.Payload) :
    one.world.target address payload = other.world.target address payload :=
  World.target_congr (by rw [likewise.network_eq]) address payload

/-- Situations that are alike with nothing in the past have the same world. -/
theorem world_eq (likewise : Likewise [] [] one other) : one.world = other.world := by
  obtain ⟨config_eq, platform_eq, network_eq, files_eq, journal_eq, time_eq, exchanges_eq,
    said_eq⟩ := likewise
  obtain ⟨oneClient, oneWorld⟩ := one
  obtain ⟨otherClient, otherWorld⟩ := other
  cases oneWorld
  cases otherWorld
  simp_all

end Likewise

/-- Neither the bound model nor the past bears on what a request or a note does. -/
theorem respected_likewise
    (past : List Http.Exchange)
    (saidBefore : List Diagnostic) :
    Operation.Respected (Likewise past saidBefore) where
  sendAny method path payload := by
    intro one other likewise
    rw [Operation.sendAny_apply, Operation.sendAny_apply, likewise.config_eq,
      likewise.target_eq]
    cases other.world.target (other.client.config.url path) payload with
    | error fault => exact ⟨rfl, likewise⟩
    | ok url =>
        rw [likewise.network_eq]
        exact ⟨rfl, likewise.answering _⟩
  note noted := by
    intro one other likewise
    rw [Operation.note_apply, Operation.note_apply]
    refine ⟨rfl, ?_⟩
    cases noted with
    | record record =>
        refine ⟨likewise.config_eq, likewise.platform_eq, likewise.network_eq, ?_,
          likewise.journal_eq, likewise.time_eq, likewise.exchanges_eq, ?_⟩
        · simp only [noting_singleton, World.note, likewise.files_eq, likewise.journal_eq,
            likewise.time_eq]
        · simp only [noting_singleton, World.note, World.say, likewise.files_eq,
            likewise.journal_eq, likewise.said_eq, List.append_assoc]
    | event event =>
        refine ⟨likewise.config_eq, likewise.platform_eq, likewise.network_eq, likewise.files_eq,
          likewise.journal_eq, likewise.time_eq, likewise.exchanges_eq, ?_⟩
        simp only [noting_singleton, World.note, World.say, likewise.said_eq, List.append_assoc]
  platform_eq _ _ likewise := likewise.platform_eq
  policy_eq _ _ likewise := by rw [likewise.config_eq]

theorem findsAlike_likewise
    (past : List Http.Exchange)
    (saidBefore : List Diagnostic)
    (path : Files.Path) :
    Operation.FindsAlike (Likewise past saidBefore) path :=
  fun _ _ likewise => by rw [likewise.files_eq]

end Situation
end KnowledgeClient
