import KnowledgeClient.CommandLine.Run
import KnowledgeClient.Proofs.Lockstep

/-!
# Commands in two situations

A command with an open client reports what its operations give.  From situations that are
related by what all operations respect it reports the same, and leaves the worlds of related
situations, as long as the same is found where the paths of the command lead.
-/

namespace KnowledgeClient
namespace CommandLine

open Operation

variable {α : Type} {related : Situation → Situation → Prop}

/-- From related situations a run reports the same and leaves the worlds of related
situations. -/
def ReportsAlike
    (related : Situation → Situation → Prop)
    (run : Situation → Report × World) : Prop :=
  ∀ one other, related one other →
    (run one).1 = (run other).1 ∧
      ∃ oneLast otherLast, related oneLast otherLast ∧
        (run one).2 = oneLast.world ∧ (run other).2 = otherLast.world

/-- What is reported on an operation is the same if the operation is. -/
theorem reportOn_alike
    {operation : Operation α}
    (agree : Agree related operation operation)
    (doing : String)
    (report : α → Report) :
    ReportsAlike related fun situation => reportOn doing report (operation situation) := by
  intro one other isRelated
  obtain ⟨result, firstAfter, secondAfter, ran, otherRan, stillRelated⟩ := agree.runs isRelated
  dsimp only
  rw [ran, otherRan]
  cases result <;> exact ⟨rfl, firstAfter, secondAfter, stillRelated, rfl, rfl⟩

/-- A relation that is shared, and that saying something respects. -/
structure Spoken (related : Situation → Situation → Prop) : Prop extends Shared related where
  /-- Saying the same in related situations leaves them related. -/
  say : ∀ one other diagnostics, related one other →
    related { one with world := one.world.say diagnostics }
      { other with world := other.world.say diagnostics }

section Spoken

variable (spoken : Spoken related)
include spoken

/-- Uploads one after the other are reported alike. -/
theorem uploadEach_alike
    {paths : List Files.Path}
    (found : ∀ path ∈ paths, FindsAlike related path)
    {one other : Situation}
    (isRelated : related one other) :
    (uploadEach paths one).1 = (uploadEach paths other).1 ∧
      related (uploadEach paths one).2 (uploadEach paths other).2 := by
  induction paths generalizing one other with
  | nil => exact ⟨rfl, isRelated⟩
  | cons path paths inductionHypothesis =>
      obtain ⟨result, _, _, ran, otherRan, stillRelated⟩ :=
        (Client.upload_agree spoken.toShared (found path List.mem_cons_self)).runs isRelated
      unfold uploadEach
      rw [ran, otherRan]
      have further := fun path member => found path (List.mem_cons_of_mem _ member)
      cases result with
      | ok document =>
          obtain ⟨sameTally, lastRelated⟩ := inductionHypothesis further stillRelated
          exact ⟨by simp only [sameTally], lastRelated⟩
      | error failure =>
          have told := spoken.say _ _ [.line (uploadFailedLine path failure)] stillRelated
          obtain ⟨sameTally, lastRelated⟩ := inductionHypothesis further told
          exact ⟨by simp only [sameTally], lastRelated⟩

theorem runUpload_alike
    {paths : List Files.Path}
    (found : ∀ path ∈ paths, FindsAlike related path) :
    ReportsAlike related (runUpload paths) := by
  intro one other isRelated
  obtain ⟨sameTally, stillRelated⟩ := uploadEach_alike spoken found isRelated
  exact ⟨by simp only [runUpload, sameTally], _, _, stillRelated, rfl, rfl⟩

theorem runRemove_alike (id : String) : ReportsAlike related (runRemove id) := by
  intro one other isRelated
  obtain ⟨result, _, _, ran, otherRan, stillRelated⟩ :=
    (Client.removeDocument_agree spoken.toShared id).runs isRelated
  unfold runRemove
  rw [ran, otherRan]
  cases result with
  | error failure =>
      have told := spoken.say _ _ [.line failure.message] stillRelated
      cases nonFatal : failure.isNonFatal with
      | true =>
          simp only [nonFatal]
          exact ⟨rfl, _, _, told, rfl, rfl⟩
      | false =>
          simp only [nonFatal]
          exact ⟨rfl, _, _, stillRelated, rfl, rfl⟩
  | ok _ => exact ⟨rfl, _, _, stillRelated, rfl, rfl⟩

theorem runClear_alike : ReportsAlike related runClear := by
  intro one other isRelated
  obtain ⟨result, _, _, ran, otherRan, stillRelated⟩ :=
    (Client.removeAllDocuments_agree spoken.toShared).runs isRelated
  unfold runClear
  rw [ran, otherRan]
  cases result with
  | error failure => exact ⟨rfl, _, _, stillRelated, rfl, rfl⟩
  | ok report => exact ⟨rfl, _, _, spoken.say _ _ _ stillRelated, rfl, rfl⟩

variable
  (policy_eq : ∀ one other, related one other →
    one.client.config.policy = other.client.config.policy)
include policy_eq

theorem runQuery_alike
    {arguments : QueryArguments}
    (foundSystem : ∀ path ∈ arguments.systemFile, FindsAlike related path)
    (foundPrompt : ∀ path, arguments.prompt = .file path → FindsAlike related path) :
    ReportsAlike related (runQuery arguments) := by
  intro one other isRelated
  have loaded : arguments.systemFile.mapM (Prompt.load one.world.files) =
      arguments.systemFile.mapM (Prompt.load other.world.files) := by
    cases given : arguments.systemFile with
    | none => rfl
    | some path =>
        have same := Files.Tree.readText_congr (foundSystem path given one other isRelated)
        simp only [Option.mapM_some, Prompt.load, same]
  unfold runQuery
  rw [loaded]
  cases arguments.systemFile.mapM (Prompt.load other.world.files) with
  | error fault => exact ⟨rfl, one, other, isRelated, rfl, rfl⟩
  | ok systemContent =>
      cases asked : arguments.prompt with
      | text content =>
          exact reportOn_alike (Client.query_agree spoken.toShared policy_eq content _) _ _ one
            other isRelated
      | file path =>
          exact reportOn_alike
            (Client.queryFile_agree spoken.toShared policy_eq (foundPrompt path asked) _) _ _ one
            other isRelated

/-- A command with an open client is reported alike, if the same is found where the paths of
its invocation lead. -/
theorem runOpen_alike
    (invocation : Invocation)
    (found : ∀ path ∈ invocation.paths, FindsAlike related path) :
    ReportsAlike related (runOpen invocation.command) := by
  intro one other isRelated
  obtain ⟨model, journal, command⟩ := invocation
  cases command <;> simp only [runOpen]
  case alive =>
    exact reportOn_alike (Client.checkAlive_agree spoken.toCarried) _ _ one other isRelated
  case models =>
    exact reportOn_alike (Client.listModels_agree spoken.toCarried) _ _ one other isRelated
  case languageModels =>
    exact reportOn_alike (Client.listLanguageModels_agree spoken.toCarried) _ _ one other isRelated
  case createModel => exact ⟨trivial, one, other, isRelated, rfl, rfl⟩
  case listDocuments =>
    exact reportOn_alike (Client.listDocuments_agree spoken.toShared) _ _ one other isRelated
  case upload paths => exact runUpload_alike spoken found one other isRelated
  case removeDocument id => exact runRemove_alike spoken id one other isRelated
  case clearDocuments => exact runClear_alike spoken one other isRelated
  case query arguments =>
    refine runQuery_alike spoken policy_eq (fun path given => ?_) (fun path asked => ?_) one other
      isRelated
    · exact found path (List.mem_append_left _ (Option.mem_toList.mpr given))
    · refine found path (List.mem_append_right _ ?_)
      rw [asked]
      exact List.mem_singleton_self path

end Spoken

/-! ## Clients of commands -/

section Clients

variable
  {config : Config}
  {invocation : Invocation}
  (opens : ∀ proposal, invocation.command ≠ .createModel proposal)
include opens

/-- Any command but the one that makes a model runs with the client that is opened for it. -/
theorem runCommand_of_opened
    {client : Client}
    (opened : Client.opened (commandConfig config invocation.command) invocation.model =
      .ok client)
    (world : World) :
    runCommand config invocation world = runOpen invocation.command ⟨client, world⟩ := by
  obtain ⟨model, journal, command⟩ := invocation
  cases command with
  | createModel proposal => exact absurd rfl (opens proposal)
  | _ => simp only [runCommand, opened]

/-- Where no client is opened, a command tells why. -/
theorem runCommand_of_unopened
    {failure : Failure}
    (unopened : Client.opened (commandConfig config invocation.command) invocation.model =
      .error failure)
    (world : World) :
    runCommand config invocation world =
      (.failed (.ofFailure "build client failed" failure), world) := by
  obtain ⟨model, journal, command⟩ := invocation
  cases command with
  | createModel proposal => exact absurd rfl (opens proposal)
  | _ => simp only [runCommand, unopened]

end Clients
end CommandLine
end KnowledgeClient
