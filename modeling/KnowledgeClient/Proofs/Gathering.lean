import KnowledgeClient.Proofs.Attempts
import Mathlib.Data.List.FinRange
import Mathlib.Logic.Relation

/-!
# Resolutions at the same time

Many callers may resolve the model of one client at the same time.  One permit lets
one caller at a time ask for the list of models; a caller whose attempt fails gives
the permit back and the next one may ask; once the client is bound, everyone who still
waits is given its model.  In whatever order the permit goes round, the callers are
answered as by as many resolutions one after the other.
-/

namespace KnowledgeClient

/-- Callers that resolve the model of one client at the same time: those that wait, the
one that holds the permit, those that were answered, and the client's situation. -/
structure Gathering (count : Nat) where
  waiting : List (Fin count)
  holder : Option (Fin count)
  answered : List (Fin count × Except Failure ModelId)
  situation : Situation

namespace Gathering

variable {count : Nat}

/-- All callers wait. -/
def start (count : Nat) (situation : Situation) : Gathering count :=
  ⟨List.finRange count, none, [], situation⟩

/-- What the callers were answered, in the order of the answers. -/
def outcomes (state : Gathering count) : List (Except Failure ModelId) :=
  state.answered.map (·.2)

/-- Who was answered, in the order of the answers. -/
def served (state : Gathering count) : List (Fin count) :=
  state.answered.map (·.1)

/-- Every caller was answered. -/
def Finished (state : Gathering count) : Prop :=
  state.waiting = [] ∧ state.holder = none

/-- How many steps the callers may still take. -/
def remaining (state : Gathering count) : Nat :=
  2 * state.waiting.length + state.holder.toList.length

/-- What may happen next. -/
inductive Step : Gathering count → Gathering count → Prop
  /-- While the client is not bound, any caller that waits may get the permit if it is free. -/
  | permit
      (state : Gathering count)
      (caller : Fin count)
      (waits : caller ∈ state.waiting)
      (free : state.holder = none)
      (unbound : state.situation.client.bound = none) :
      Step state { state with waiting := state.waiting.erase caller, holder := some caller }
  /-- The holder asks for the models, is answered and gives the permit back. -/
  | ask
      (state : Gathering count)
      (caller : Fin count)
      (holds : state.holder = some caller) :
      Step state { state with
        holder := none
        answered := state.answered ++ [(caller, (Client.bindFirst state.situation).1)]
        situation := (Client.bindFirst state.situation).2 }
  /-- Once the client is bound, any caller that waits may be given its model. -/
  | share
      (state : Gathering count)
      (caller : Fin count)
      (model : ModelId)
      (waits : caller ∈ state.waiting)
      (isBound : state.situation.client.bound = some model) :
      Step state { state with
        waiting := state.waiting.erase caller
        answered := state.answered ++ [(caller, .ok model)] }

/-- The second state may come about from the first. -/
def Leads : Gathering count → Gathering count → Prop :=
  Relation.ReflTransGen Step

/-! ## The invariant -/

/-- The answers are those of as many resolutions one after the other, the client is not
bound while the permit is held, and no caller is lost or counted twice. -/
structure Invariant (situation : Situation) (state : Gathering count) : Prop where
  sequential :
    Client.resolutions state.answered.length situation = (state.outcomes, state.situation)
  exclusive : ∀ caller, state.holder = some caller → state.situation.client.bound = none
  callers : (state.waiting ++ state.holder.toList ++ state.served).Perm (List.finRange count)

theorem invariant_start (situation : Situation) :
    Invariant situation (start count situation) where
  sequential := rfl
  exclusive := by simp [start]
  callers := by simp [start, served]

/-- One more answer like that of one more resolution keeps the answers sequential. -/
theorem sequential_append
    {situation : Situation}
    {state : Gathering count}
    (sequential :
      Client.resolutions state.answered.length situation = (state.outcomes, state.situation))
    (caller : Fin count) :
    Client.resolutions
        (state.answered ++ [(caller, (Client.resolve state.situation).1)]).length situation =
      ((state.answered ++ [(caller, (Client.resolve state.situation).1)]).map (·.2),
        (Client.resolve state.situation).2) := by
  rw [List.length_append, List.length_singleton, Client.resolutions_succ_last, sequential,
    List.map_append]
  rfl

/-- Every step keeps the invariant. -/
theorem Step.invariant
    {situation : Situation}
    {state next : Gathering count}
    (step : Step state next)
    (invariant : Invariant situation state) :
    Invariant situation next := by
  obtain ⟨sequential, exclusive, callers⟩ := invariant
  cases step with
  | permit caller waits free unbound =>
      refine ⟨sequential, fun _ _ => unbound, ?_⟩
      have moved : (state.waiting.erase caller ++ [caller]).Perm state.waiting :=
        (List.perm_append_singleton caller _).trans (List.perm_cons_erase waits).symm
      rw [free] at callers
      exact (moved.append_right state.served).trans (by simpa using callers)
  | ask caller holds =>
      have unbound := exclusive caller holds
      have appended := sequential_append sequential caller
      rw [Client.resolve_of_unbound unbound] at appended
      generalize Client.bindFirst state.situation = run at appended ⊢
      refine ⟨appended, by simp, ?_⟩
      have moved : (state.served ++ [caller]).Perm ([caller] ++ state.served) :=
        List.perm_append_comm
      rw [holds, List.append_assoc] at callers
      simp only [served, List.map_append, List.map_cons, List.map_nil, Option.toList_none,
        List.append_nil]
      exact (moved.append_left state.waiting).trans callers
  | share caller model waits isBound =>
      have appended := sequential_append sequential caller
      rw [Client.resolve_of_bound isBound] at appended
      refine ⟨appended, exclusive, ?_⟩
      have moved : (state.waiting.erase caller ++ state.holder.toList ++
          (state.served ++ [caller])).Perm
            (caller :: state.waiting.erase caller ++ state.holder.toList ++ state.served) := by
        rw [← List.append_assoc]
        exact List.perm_append_singleton caller _
      have kept : (caller :: state.waiting.erase caller).Perm state.waiting :=
        (List.perm_cons_erase waits).symm
      simp only [served, List.map_append, List.map_cons, List.map_nil]
      exact moved.trans (((kept.append_right _).append_right _).trans callers)

/-- Whatever comes about from the start keeps the invariant. -/
theorem Leads.invariant
    {situation : Situation}
    {state : Gathering count}
    (leads : Leads (start count situation) state) :
    Invariant situation state := by
  induction leads with
  | refl => exact invariant_start situation
  | tail _ step inductionHypothesis => exact step.invariant inductionHypothesis

/-! ## Progress -/

/-- Every step leaves fewer steps to take. -/
theorem Step.remaining_lt
    {state next : Gathering count}
    (step : Step state next) :
    next.remaining < state.remaining := by
  cases step with
  | permit caller waits free =>
      have shorter := List.length_erase_of_mem waits
      have present := List.length_pos_of_mem waits
      simp only [remaining, shorter, free, Option.toList_none, Option.toList_some,
        List.length_nil, List.length_singleton]
      omega
  | ask caller holds =>
      simp [remaining, holds]
  | share caller model waits =>
      have shorter := List.length_erase_of_mem waits
      have present := List.length_pos_of_mem waits
      simp only [remaining, shorter]
      omega

/-- As long as not every caller was answered, something may happen. -/
theorem exists_step
    {state : Gathering count}
    (unfinished : ¬ state.Finished) :
    ∃ next, Step state next := by
  cases holds : state.holder with
  | some caller => exact ⟨_, .ask state caller holds⟩
  | none =>
      have waits : state.waiting ≠ [] := fun nobody => unfinished ⟨nobody, holds⟩
      obtain ⟨caller, others, isWaiting⟩ := List.exists_cons_of_ne_nil waits
      have member : caller ∈ state.waiting := by simp [isWaiting]
      cases binding : state.situation.client.bound with
      | some model => exact ⟨_, .share state caller model member binding⟩
      | none => exact ⟨_, .permit state caller member holds binding⟩

/-- From every state all callers can be answered. -/
theorem exists_finished (state : Gathering count) :
    ∃ last, Leads state last ∧ last.Finished := by
  by_cases finished : state.Finished
  · exact ⟨state, .refl, finished⟩
  · obtain ⟨next, step⟩ := exists_step finished
    have fewer := step.remaining_lt
    obtain ⟨last, leads, lastFinished⟩ := exists_finished next
    exact ⟨last, .head step leads, lastFinished⟩
termination_by state.remaining

/-! ## What the callers are answered -/

/-- Callers that resolve the model of a client that is not bound, in whatever order they
get the permit, can all be answered, and within so many steps they are.  Then each was
answered once, and the answers, the requests and the model that the client is bound to
are those of as many resolutions one after the other: every answer before the first
that lists a model fails one caller, and all others get the model. -/
theorem answered_as_in_sequence
    (count : Nat)
    (situation : Situation)
    (unbound : situation.client.bound = none)
    (state : Gathering count)
    (leads : Leads (start count situation) state) :
    (∃ last, Leads state last ∧ last.Finished) ∧
    (∀ next, Step state next → next.remaining < state.remaining) ∧
    (state.Finished →
      (state.outcomes, state.situation) = Client.resolutions count situation ∧
      state.served.Perm (List.finRange count) ∧
      match situation.listingTarget with
      | .error fault =>
        state.outcomes = List.replicate count (.error (.requestFailed fault)) ∧
          state.situation = situation
      | .ok url => situation.Attempted url count state.outcomes state.situation) := by
  refine ⟨exists_finished state, fun _ step => step.remaining_lt, ?_⟩
  rintro ⟨nobodyWaits, nobodyHolds⟩
  obtain ⟨sequential, _, callers⟩ := leads.invariant
  rw [nobodyWaits, nobodyHolds] at callers
  have served : state.served.Perm (List.finRange count) := by simpa using callers
  have all : state.answered.length = count := by
    simpa [Gathering.served] using served.length_eq
  rw [all] at sequential
  refine ⟨sequential.symm, served, ?_⟩
  cases goes : situation.listingTarget with
  | error fault =>
      rw [Client.resolutions_of_refused unbound goes] at sequential
      obtain ⟨outcomes, same⟩ := Prod.mk.inj sequential
      exact ⟨outcomes.symm, same.symm⟩
  | ok url =>
      have attempted := Client.resolutions_attempted unbound goes count
      rw [sequential] at attempted
      exact attempted

set_option maxRecDepth 4000 in
/-- Of two callers, the one whose request is not answered fails and the other gets the
model. -/
theorem answered_as_in_sequence_sample :
    ∃ (state : Gathering 2) (failure : Failure),
      Leads (start 2 (.sample [.dropped, .sample])) state ∧ state.Finished ∧
      state.outcomes = [.error failure, .ok "m"] ∧
      state.situation.client.bound = some "m" := by
  obtain ⟨state, leads, finished⟩ := exists_finished (start 2 (.sample [.dropped, .sample]))
  obtain ⟨_, _, answered⟩ :=
    answered_as_in_sequence 2 (.sample [.dropped, .sample]) rfl state leads
  obtain ⟨_, _, attempted⟩ := answered finished
  have goesOut : (Situation.sample [.dropped, .sample]).listingTarget.toOption.isSome = true := by
    decide +kernel
  cases goes : (Situation.sample [.dropped, .sample]).listingTarget with
  | error fault =>
      rw [goes] at goesOut
      cases goesOut
  | ok url =>
      simp only [goes] at attempted
      have listsNone : ∀ earlier < 1, ∀ other,
          ¬ ((Situation.sample [.dropped, .sample]).world.network.answer earlier).Lists other := by
        rintro earlier before other ⟨given, _, _, isReply, _⟩
        obtain rfl : earlier = 0 := by omega
        cases isReply
      have lists : ((Situation.sample [.dropped, .sample]).world.network.answer 1).Lists "m" :=
        (Http.Answer.resolution_eq_ok_iff url _ _).mp (by rfl)
      obtain ⟨failures, fails, outcomes, _, isBound⟩ :=
        attempted.found 1 (by omega) "m" listsNone lists
      have count := congrArg List.length fails
      simp only [List.length_map, Http.Network.length_upcoming] at count
      obtain ⟨failure, rfl⟩ := List.length_eq_one_iff.mp count.symm
      exact ⟨state, failure, leads, finished, outcomes, isBound⟩

end Gathering
end KnowledgeClient
