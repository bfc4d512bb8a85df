import KnowledgeClient.Proofs.Attempts

/-!
# What operations ask for

An operation asks for some calls only when every exchange that it holds is for one
of them, and it leaves the client as it is.  The rules of this module follow the
way in which operations are composed; from them every operation that needs no
model, or is told its model, is seen to ask for its own calls only.
-/

namespace KnowledgeClient

namespace Operation

variable {α β : Type} {calls : Call → Prop}

/-- The operation leaves the client as it is, and every exchange that it holds is for
one of the calls. -/
def Asks (calls : Call → Prop) (operation : Operation α) : Prop :=
  ∀ situation, (operation situation).2.client = situation.client ∧
    ∃ held, (operation situation).2.world.exchanges = situation.world.exchanges ++ held ∧
      ∀ exchange ∈ held, ∃ call, calls call ∧ exchange.IsFor situation.client.config call

/-- An operation that changes neither the client nor the exchanges asks for nothing. -/
theorem asks_of_quiet
    {operation : Operation α}
    (client : ∀ situation, (operation situation).2.client = situation.client)
    (exchanges : ∀ situation,
      (operation situation).2.world.exchanges = situation.world.exchanges) :
    operation.Asks calls := by
  intro situation
  exact ⟨client situation, [], by simp [exchanges], by simp⟩

namespace Asks

theorem pure (value : α) :
    (Pure.pure value : Operation α).Asks calls :=
  asks_of_quiet (fun _ => rfl) (fun _ => rfl)

theorem throw (failure : Failure) :
    (MonadExcept.throw failure : Operation α).Asks calls :=
  asks_of_quiet (fun _ => rfl) (fun _ => rfl)

theorem note (noted : Note) :
    (Operation.note noted).Asks calls :=
  asks_of_quiet (by simp) (by simp)

theorem record
    (level : Level)
    (category message : String) :
    (Operation.record level category message).Asks calls :=
  note _

theorem tell
    (severity : Severity)
    (message : String)
    (values : List (String × EventValue)) :
    (Operation.tell severity message values).Asks calls :=
  note _

theorem bodyText (reply : Http.Reply) :
    (Operation.bodyText reply).Asks calls :=
  asks_of_quiet (by simp) (by simp)

theorem parse
    (read : String → Except Json.Fault α)
    (text : String) :
    (Operation.parse read text).Asks calls :=
  asks_of_quiet (by simp) (by simp)

theorem readReply
    (read : String → Except Json.Fault α)
    (reply : Http.Reply) :
    (Operation.readReply read reply).Asks calls :=
  asks_of_quiet (by simp) (by simp)

theorem mono
    {more : Call → Prop}
    {operation : Operation α}
    (asks : operation.Asks calls)
    (included : ∀ call, calls call → more call) :
    operation.Asks more := by
  intro situation
  obtain ⟨client, held, exchanges, asked⟩ := asks situation
  refine ⟨client, held, exchanges, ?_⟩
  intro exchange member
  obtain ⟨call, isCall, isFor⟩ := asked exchange member
  exact ⟨call, included call isCall, isFor⟩

/-- Two operations in a row ask for what either of them asks for. -/
theorem bind
    {operation : Operation α}
    {next : α → Operation β}
    (first : operation.Asks calls)
    (second : ∀ value, (next value).Asks calls) :
    (operation >>= next).Asks calls := by
  intro situation
  obtain ⟨firstClient, firstHeld, firstExchanges, firstCalls⟩ := first situation
  rw [bind_apply]
  rcases ran : operation situation with ⟨failure | value, after⟩
  · rw [ran] at firstClient firstExchanges
    exact ⟨firstClient, firstHeld, firstExchanges, firstCalls⟩
  · rw [ran] at firstClient firstExchanges
    obtain ⟨secondClient, secondHeld, secondExchanges, secondCalls⟩ := second value after
    refine ⟨secondClient.trans firstClient, firstHeld ++ secondHeld, ?_, ?_⟩
    · rw [secondExchanges, firstExchanges, List.append_assoc]
    · intro exchange member
      rcases List.mem_append.mp member with inFirst | inSecond
      · exact firstCalls exchange inFirst
      · rw [← firstClient]
        exact secondCalls exchange inSecond

/-- An operation that looks at the situation asks for what it then asks for. -/
theorem getBind
    {next : Situation → Operation β}
    (asks : ∀ situation, (next situation).Asks calls) :
    ((get : Operation Situation) >>= next).Asks calls := by
  intro situation
  rw [get_bind_apply]
  exact asks situation situation

theorem map
    {operation : Operation α}
    (asks : operation.Asks calls)
    (function : α → β) :
    (function <$> operation).Asks calls := by
  intro situation
  rw [map_apply]
  exact asks situation

theorem attempt
    {operation : Operation α}
    (asks : operation.Asks calls) :
    (Operation.attempt operation).Asks calls := by
  intro situation
  rw [attempt_apply]
  exact asks situation

/-- Sending the request of a call asks for that call. -/
theorem sendAny
    {method : Http.Method}
    {path : String}
    (call : Call)
    (isMethod : call.method = method)
    (isPath : call.path = path)
    (payload : Option Http.Payload) :
    (Operation.sendAny method path payload).Asks (· = call) := by
  subst isMethod isPath
  intro situation
  rw [sendAny_call]
  cases goes : situation.world.target (situation.client.config.address call) payload with
  | error fault => exact ⟨rfl, [], by simp, by simp⟩
  | ok url =>
      refine ⟨rfl, [⟨World.requestTo situation.client.config.accessHeader call.method url payload,
        situation.world.network.next⟩], rfl, ?_⟩
      intro exchange member
      rw [List.mem_singleton] at member
      subst member
      exact ⟨call, rfl, Http.Exchange.isFor_of_target goes _⟩

end Asks
end Operation

namespace Client

open Operation

/-! ## Operations that need no model -/

theorem listModels_asks : listModels.Asks (· = .models) := by
  unfold listModels send
  refine Asks.bind (Asks.sendAny .models rfl rfl _) fun reply => ?_
  refine Asks.bind (Asks.readReply _ _) fun listing => ?_
  exact Asks.bind (Asks.tell _ _ _) fun _ => Asks.pure _

theorem createModel_asks (proposal : ModelProposal) :
    (createModel proposal).Asks (· = .newModel) := by
  unfold createModel send
  exact Asks.bind (Asks.sendAny .newModel rfl rfl _) fun reply => Asks.readReply _ _

theorem listLanguageModels_asks : listLanguageModels.Asks (· = .languageModels) := by
  unfold listLanguageModels send
  refine Asks.bind (Asks.sendAny .languageModels rfl rfl _) fun reply => ?_
  exact Asks.bind (Asks.readReply _ _) fun listing => Asks.pure _

theorem checkAlive_asks : checkAlive.Asks (· = .probe) := by
  unfold checkAlive send
  refine Asks.bind (Asks.sendAny .probe rfl rfl _) fun reply => ?_
  exact Asks.bind (Asks.tell _ _ _) fun _ => Asks.pure _

/-! ## Operations that are told their model -/

theorem uploadInto_asks
    (path : Files.Path)
    (model : ModelId) :
    (uploadInto path model).Asks (· = .upload model) := by
  unfold uploadInto
  refine Asks.getBind fun situation => ?_
  simp only
  cases situation.world.files.find path with
  | error reason => exact Asks.throw _
  | ok entry =>
      refine Asks.bind (Asks.sendAny (.upload model) rfl rfl _) fun reply => ?_
      refine Asks.bind (Asks.bodyText reply) fun text => ?_
      split
      · refine Asks.bind (Asks.parse _ _) fun document => ?_
        refine Asks.bind (Asks.tell _ _ _) fun _ => ?_
        exact Asks.bind (Asks.record _ _ _) fun _ => Asks.pure _
      · refine Asks.bind (Asks.tell _ _ _) fun _ => ?_
        exact Asks.bind (Asks.record _ _ _) fun _ => Asks.throw _

theorem documentsOf_asks (model : ModelId) :
    (documentsOf model).Asks (· = .documents model) := by
  unfold documentsOf send
  refine Asks.bind (Asks.sendAny (.documents model) rfl rfl _) fun reply => ?_
  exact Asks.bind (Asks.readReply _ _) fun listing => Asks.pure _

theorem removeFrom_asks
    (document : String)
    (model : ModelId) :
    (removeFrom document model).Asks (· = .removal model document) := by
  unfold removeFrom send
  refine Asks.bind (Asks.sendAny (.removal model document) rfl rfl _) fun reply => ?_
  simp only
  split
  · exact Asks.tell _ _ _
  · refine Asks.bind (Asks.tell _ _ _) fun _ => ?_
    exact Asks.bind (Asks.record _ _ _) fun _ => Asks.throw _

theorem askOf_asks
    (content : String)
    (options : ChatOptions)
    (model : ModelId) :
    (askOf content options model).Asks (· = .chat model) := by
  unfold askOf send
  refine Asks.bind (Asks.tell _ _ _) fun _ => ?_
  refine Asks.bind (Asks.sendAny (.chat model) rfl rfl _) fun reply => ?_
  refine Asks.bind (Asks.bodyText reply) fun text => ?_
  split
  · exact Asks.bind (Asks.record _ _ _) fun _ => Asks.parse _ _
  · refine Asks.bind (Asks.record _ _ _) fun _ => Asks.getBind fun situation => ?_
    cases situation.client.config.policy with
    | requireSuccess => exact Asks.throw _
    | acceptAny => exact Asks.bind (Asks.tell _ _ _) fun _ => Asks.parse _ _

end Client
end KnowledgeClient
