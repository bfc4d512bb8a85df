import KnowledgeClient.Proofs.Judging
import KnowledgeClient.Proofs.Removal
import KnowledgeClient.Proofs.Secrecy

/-!
# What exit codes tell

A run with an open client ends well exactly if its command does what it is for: a probe gets
an answer, a removal is done or refused by the service, documents can be listed before they are
cleared, every upload gives a document, and any other operation gives a result.  Uploads are
all tried, each in the situation that those before it leave, and each is told by one line.
On the second channel these lines stand among the events that are shown; a client says events
only, so that the lines there are those of the command.
-/

namespace KnowledgeClient

variable {α : Type}

/-! ## Lines and events -/

/-- The line that a diagnostic is, if it is one. -/
def Diagnostic.line? : Diagnostic → Option String
  | .line text => some text
  | .event _ => none

/-- The event that a diagnostic is, if it is one. -/
def Diagnostic.event? : Diagnostic → Option Event
  | .line _ => none
  | .event given => some given

namespace World

/-- The lines that were said, without the events. -/
def lines (world : World) : List String :=
  world.said.filterMap Diagnostic.line?

/-- The events that were said, without the lines. -/
def events (world : World) : List Event :=
  world.said.filterMap Diagnostic.event?

theorem lines_say
    (world : World)
    (diagnostics : List Diagnostic) :
    (world.say diagnostics).lines = world.lines ++ diagnostics.filterMap Diagnostic.line? :=
  List.filterMap_append

theorem events_say
    (world : World)
    (diagnostics : List Diagnostic) :
    (world.say diagnostics).events = world.events ++ diagnostics.filterMap Diagnostic.event? :=
  List.filterMap_append

/-- Nothing that is noted is a line. -/
theorem lines_note
    (world : World)
    (noted : Note) :
    (world.note noted).lines = world.lines := by
  have said : ∀ events : List Event, (world.say (events.map .event)).lines = world.lines := by
    intro events
    rw [lines_say, List.filterMap_map]
    simp [Function.comp_def, Diagnostic.line?]
  cases noted with
  | record record =>
      have lost := said (world.journal.loss? world.files).toList
      rw [← Option.toList_map] at lost
      exact lost
  | event event => exact said [event]

/-- The events that are noted depend on the journal and the files alone. -/
theorem events_note
    (world : World)
    (noted : Note) :
    (world.note noted).events = world.events ++
      match noted with
      | .record _ => (world.journal.loss? world.files).toList
      | .event event => [event] := by
  cases noted with
  | record record =>
      refine (events_say world _).trans ?_
      cases world.journal.loss? world.files <;> rfl
  | event event => exact events_say world _

/-- What was said before does not bear on what is noted. -/
theorem hushed_note
    (world : World)
    (noted : Note) :
    (world.hushed.note noted).hushed = (world.note noted).hushed := by
  cases noted <;> rfl

/-- Whoever is shown no event is shown the lines. -/
theorem complaints_eq_joined_lines
    {world : World}
    {directive : Option String}
    (hidden : ∀ event, world.platform.shows directive event = false) :
    world.complaints directive = CommandLine.Report.joined world.lines := by
  have shown : ∀ said : List Diagnostic,
      String.join (said.map (world.platform.shown directive world.time)) =
        CommandLine.Report.joined (said.filterMap Diagnostic.line?) := by
    intro said
    induction said with
    | nil => rfl
    | cons diagnostic said inductionHypothesis =>
        rw [List.map_cons, String.join_cons, inductionHypothesis]
        cases diagnostic with
        | line text =>
            simp only [Platform.shown, CommandLine.Report.joined, List.filterMap_cons,
              Diagnostic.line?, List.map_cons, String.join_cons]
        | event event =>
            simp only [Platform.shown, hidden event, Bool.false_eq_true, if_false,
              List.filterMap_cons, Diagnostic.line?, String.empty_append]
  exact shown world.said

end World

namespace Situation

/-- The situations are the same but for the lines that were said, which are these. -/
structure ApartByLines
    (lines otherLines : List String)
    (one other : Situation) : Prop where
  client_eq : one.client = other.client
  hushed_eq : one.world.hushed = other.world.hushed
  events_eq : one.world.events = other.world.events
  lines_eq : one.world.lines = lines
  otherLines_eq : other.world.lines = otherLines

namespace ApartByLines

variable
  {lines otherLines : List String}
  {one other : Situation}

theorem refl (situation : Situation) :
    ApartByLines situation.world.lines situation.world.lines situation situation :=
  ⟨rfl, rfl, rfl, rfl, rfl⟩

theorem files_eq (apart : ApartByLines lines otherLines one other) :
    one.world.files = other.world.files :=
  World.eq_of_hushed_eq apart.hushed_eq World.files fun _ => rfl

/-- A line that is said in one of the situations is one more line there. -/
theorem say
    (apart : ApartByLines lines otherLines one other)
    (line : String) :
    ApartByLines (lines ++ [line]) otherLines
      { one with world := one.world.say [.line line] } other where
  client_eq := apart.client_eq
  hushed_eq := apart.hushed_eq
  events_eq := (World.events_say _ _).trans ((List.append_nil _).trans apart.events_eq)
  lines_eq := by
    rw [World.lines_say, apart.lines_eq]
    rfl
  otherLines_eq := apart.otherLines_eq

end ApartByLines

/-- Being apart by these lines is carried along by everything that an operation does: no
operation says a line, and none depends on what was said. -/
theorem shared_apartByLines (lines otherLines : List String) :
    Operation.Shared (ApartByLines lines otherLines) where
  sendAny method path payload := by
    rintro one other ⟨client_eq, hushed_eq, events_eq, lines_eq, otherLines_eq⟩
    have network := World.eq_of_hushed_eq hushed_eq World.network fun _ => rfl
    have target : ∀ address, one.world.target address payload =
        other.world.target address payload :=
      fun address => World.target_congr (by rw [network]) address payload
    rw [Operation.sendAny_apply, Operation.sendAny_apply, client_eq, target, network]
    cases other.world.target (other.client.config.url path) payload with
    | error fault => exact ⟨rfl, client_eq, hushed_eq, events_eq, lines_eq, otherLines_eq⟩
    | ok url =>
        have answered := congrArg (·.answering (World.requestTo other.client.config.accessHeader
          method url payload)) hushed_eq
        exact ⟨rfl, client_eq, answered, events_eq, lines_eq, otherLines_eq⟩
  note noted := by
    rintro one other ⟨client_eq, hushed_eq, events_eq, lines_eq, otherLines_eq⟩
    have journal := World.eq_of_hushed_eq hushed_eq World.journal fun _ => rfl
    have files := World.eq_of_hushed_eq hushed_eq World.files fun _ => rfl
    rw [Operation.note_apply, Operation.note_apply]
    refine ⟨rfl, client_eq, ?_, ?_, ?_, ?_⟩
    · rw [noting_singleton, noting_singleton, ← World.hushed_note, hushed_eq, World.hushed_note]
    · rw [noting_singleton, noting_singleton, World.events_note, World.events_note, events_eq,
        journal, files]
    · rw [noting_singleton, World.lines_note, lines_eq]
    · rw [noting_singleton, World.lines_note, otherLines_eq]
  platform_eq := by
    rintro one other ⟨_, hushed_eq, _, _, _⟩
    exact World.eq_of_hushed_eq hushed_eq World.platform fun _ => rfl
  withBound := by
    rintro one other model ⟨client_eq, hushed_eq, events_eq, lines_eq, otherLines_eq⟩
    exact ⟨congrArg (fun client : Client => { client with bound := some model }) client_eq,
      hushed_eq, events_eq, lines_eq, otherLines_eq⟩
  bound_eq := by
    rintro one other ⟨client_eq, _, _, _, _⟩
    rw [client_eq]

end Situation

/-- The operation gives a result in the situation. -/
def Operation.Succeeds (operation : Operation α) (situation : Situation) : Prop :=
  ∃ value, (operation situation).1 = .ok value

namespace Client

open Operation

/-- What uploads of files give, one after the other, whatever becomes of each, and the situation
that they leave. -/
def uploads : List Files.Path → Situation →
    List (Files.Path × Except Failure Document) × Situation
  | [], situation => ([], situation)
  | path :: paths, situation =>
    let (outcome, after) := upload path situation
    let (outcomes, last) := uploads paths after
    ((path, outcome) :: outcomes, last)

/-- Every file is uploaded once, in the order given. -/
theorem uploads_paths
    (paths : List Files.Path)
    (situation : Situation) :
    (uploads paths situation).1.map (·.1) = paths := by
  induction paths generalizing situation with
  | nil => rfl
  | cons path paths inductionHypothesis =>
      have others := inductionHypothesis (upload path situation).2
      exact congrArg (path :: ·) others

/-- A probe gives a result exactly if it is answered, whatever the status. -/
theorem checkAlive_succeeds_iff (situation : Situation) :
    Succeeds checkAlive situation ↔
      ∃ exchange given,
        (checkAlive situation).2.world.exchanges = situation.world.exchanges ++ [exchange] ∧
        exchange.IsFor situation.client.config .probe ∧
        exchange.answer = .reply given := by
  rw [Succeeds, checkAlive_calling, Situation.calling]
  cases goes : situation.world.target (situation.client.config.address .probe)
      (some .nothing) with
  | error fault => simp
  | ok url =>
      cases next : situation.world.network.next with
      | dropped => simp [next]
      | reply given =>
          refine ⟨fun _ => ⟨_, given, Situation.noting_exchanges _ _,
            Http.Exchange.isFor_of_target goes _, next⟩, fun _ => ⟨⟨given.status⟩, rfl⟩⟩

/-- Removing all documents gives a report exactly if they can be listed. -/
theorem removeAllDocuments_succeeds_iff (situation : Situation) :
    Succeeds removeAllDocuments situation ↔ Succeeds listDocuments situation := by
  unfold Succeeds removeAllDocuments
  rw [bind_apply]
  rcases listDocuments situation with ⟨failure | documents, listed⟩
  · simp
  · simp [bind_apply, removeEach_apply, announceRemoval_apply]

end Client

namespace CommandLine

open Operation

/-! ## Reports and their ends -/

namespace Report

theorem output_exitCode_eq_zero_iff
    (report : Report)
    (complaints : String) :
    (report.output complaints).exitCode = 0 ↔ report.error = none := by
  unfold output
  cases report.error <;> simp

theorem output_exitCode_le_one
    (report : Report)
    (complaints : String) :
    (report.output complaints).exitCode ≤ 1 := by
  unfold output
  dsimp only
  split <;> decide

end Report

/-- A report on an operation tells no error exactly if the operation gives a result. -/
theorem error_reportOn_eq_none_iff
    {report : α → Report}
    (plain : ∀ value, (report value).error = none)
    (doing : String)
    (operation : Operation α)
    (situation : Situation) :
    (reportOn doing report (operation situation)).1.error = none ↔
      Succeeds operation situation := by
  unfold Succeeds reportOn
  rcases operation situation with ⟨failure | value, after⟩
  · simp [Report.failed]
  · simp [plain]

/-! ## Uploads -/

/-- The line that tells of a file that was uploaded. -/
def uploadedLine? : Files.Path × Except Failure Document → Option String
  | (path, .ok document) => some ("Uploaded " ++ path.display ++ " -> id=" ++ document.id)
  | (_, .error _) => none

/-- The line that tells of a file that was not uploaded. -/
def failedLine? : Files.Path × Except Failure Document → Option String
  | (_, .ok _) => none
  | (path, .error failure) =>
    some ("Failed to upload " ++ path.display ++ ": " ++ failure.message)

/-- The lines of the files that were uploaded. -/
def uploadedLines (outcomes : List (Files.Path × Except Failure Document)) : List String :=
  outcomes.filterMap uploadedLine?

/-- The lines of the files that were not uploaded. -/
def failedLines (outcomes : List (Files.Path × Except Failure Document)) : List String :=
  outcomes.filterMap failedLine?

section Uploads

variable
  (paths : List Files.Path)
  (situation : Situation)
  (outcomes : List (Files.Path × Except Failure Document))

/-- Uploads are told line by line, each on one of the two channels, and leave besides what the
client's uploads leave. -/
theorem uploadEach_told
    {lines otherLines : List String}
    {one : Situation}
    (apart : Situation.ApartByLines lines otherLines one situation) :
    let outcomes := (Client.uploads paths situation).1
    (uploadEach paths one).1 = ⟨uploadedLines outcomes, (failedLines outcomes).length⟩ ∧
      Situation.ApartByLines (lines ++ failedLines outcomes) otherLines
        (uploadEach paths one).2 (Client.uploads paths situation).2 := by
  induction paths generalizing lines one situation with
  | nil =>
      have same : Situation.ApartByLines (lines ++ []) otherLines one situation := by
        rw [List.append_nil]
        exact apart
      exact ⟨rfl, same⟩
  | cons path paths inductionHypothesis =>
      have found : FindsAlike (Situation.ApartByLines lines otherLines) path :=
        fun one other apart => by rw [apart.files_eq]
      obtain ⟨result, _, _, ran, otherRan, still⟩ :=
        (Client.upload_agree (Situation.shared_apartByLines lines otherLines) found).runs apart
      unfold uploadEach Client.uploads
      rw [ran, otherRan]
      cases result with
      | ok document =>
          obtain ⟨tally, last⟩ := inductionHypothesis _ still
          simp only [tally, uploadedLines, failedLines, List.filterMap_cons, uploadedLine?,
            failedLine?, uploadedLine, true_and]
          exact last
      | error failure =>
          obtain ⟨tally, last⟩ :=
            inductionHypothesis _ (still.say (uploadFailedLine path failure))
          simp only [tally, uploadedLines, failedLines, List.filterMap_cons, uploadedLine?,
            failedLine?, List.length_cons, true_and]
          rw [List.append_assoc] at last
          exact last

/-- Each upload is told once. -/
theorem length_uploadedLines_add :
    (uploadedLines outcomes).length + (failedLines outcomes).length = outcomes.length := by
  unfold uploadedLines failedLines
  induction outcomes with
  | nil => rfl
  | cons outcome outcomes inductionHypothesis =>
      obtain ⟨path, failure | document⟩ := outcome
      · simp only [List.filterMap_cons, uploadedLine?, failedLine?, List.length_cons]
        omega
      · simp only [List.filterMap_cons, uploadedLine?, failedLine?, List.length_cons]
        omega

/-- No upload is told as failed exactly if all of them gave a document. -/
theorem failedLines_eq_nil_iff :
    failedLines outcomes = [] ↔ ∀ outcome ∈ outcomes, ∃ document, outcome.2 = .ok document := by
  rw [failedLines, List.filterMap_eq_nil_iff]
  refine forall₂_congr fun outcome _ => ?_
  obtain ⟨path, failure | document⟩ := outcome <;> simp [failedLine?]

/-- The end of what is left on the second channel by uploads that had the outcomes: those that
failed are counted, if there are any. -/
def uploadsEnding : String :=
  if failedLines outcomes = [] then ""
  else "Error: " ++ (toString (failedLines outcomes).length ++ " of " ++
    toString paths.length ++ " uploads failed") ++ "\n"

/-- What is left on the two channels of uploads that had the outcomes, where events are shown as
a directive says. -/
structure UploadsTold
    (directive : Option String)
    (left : Output × World) : Prop where
  /-- Every file is tried, in the order given and whatever became of those before. -/
  tried : outcomes.map (·.1) = paths
  /-- The files that were uploaded are told in their order. -/
  printed : left.1.stdout = Report.joined (uploadedLines outcomes)
  /-- So are the others, by all lines that are said among the events. -/
  lines : left.2.lines = failedLines outcomes
  /-- What is said is shown on the other channel; if any upload failed, their number ends it. -/
  complained : left.1.stderr = left.2.complaints directive ++ uploadsEnding paths outcomes
  /-- Where no event is shown, the lines alone are. -/
  complainedOnly : (∀ event, left.2.platform.shows directive event = false) →
    left.1.stderr = Report.joined (failedLines outcomes) ++ uploadsEnding paths outcomes
  /-- Every file has one line. -/
  counted : (uploadedLines outcomes).length + (failedLines outcomes).length = paths.length
  /-- A run that ends with an error has failed with one of the files at least. -/
  bounded : left.1.exitCode = 1 →
    1 ≤ (failedLines outcomes).length ∧ (failedLines outcomes).length ≤ paths.length

/-- The error that ends uploads of which some failed. -/
def uploadsError? : Option RunError :=
  if failedLines outcomes = [] then none
  else some ⟨toString (failedLines outcomes).length ++ " of " ++ toString paths.length ++
    " uploads failed", []⟩

theorem uploadsError?_eq_none_iff :
    uploadsError? paths outcomes = none ↔ failedLines outcomes = [] := by
  unfold uploadsError?
  split <;> simp_all

/-- The error is told in one line. -/
theorem text_uploadsError? :
    ((uploadsError? paths outcomes).map RunError.text).getD "" =
      uploadsEnding paths outcomes := by
  unfold uploadsError? uploadsEnding
  split
  · rfl
  · have noCause : RunError.causeText [] = "" := rfl
    rw [Option.map_some, Option.getD_some, RunError.text, noCause, String.append_empty]

theorem runUpload_fst :
    (runUpload paths situation).1 =
      ⟨uploadedLines (Client.uploads paths situation).1,
        uploadsError? paths (Client.uploads paths situation).1⟩ := by
  have told := (uploadEach_told paths situation (.refl situation)).1
  unfold runUpload uploadsError?
  simp only [told, List.length_eq_zero_iff]

theorem error_runUpload_eq_none_iff :
    (runUpload paths situation).1.error = none ↔
      failedLines (Client.uploads paths situation).1 = [] := by
  rw [runUpload_fst]
  exact uploadsError?_eq_none_iff _ _

/-- Uploads before which nothing was said leave what their outcomes tell. -/
theorem uploadsTold
    (fresh : situation.world.said = [])
    (directive : Option String) :
    let report := (runUpload paths situation).1
    let left := (runUpload paths situation).2
    let uploads := Client.uploads paths situation
    UploadsTold paths uploads.1 directive (report.output (left.complaints directive), left) ∧
      left.hushed = uploads.2.world.hushed ∧
      left.events = uploads.2.world.events := by
  intro report left uploads
  have tried := Client.uploads_paths paths situation
  have counted : (uploadedLines uploads.1).length + (failedLines uploads.1).length =
      paths.length := by
    rw [length_uploadedLines_add, ← List.length_map (·.1), tried]
  have ends := error_runUpload_eq_none_iff paths situation
  rw [← report.output_exitCode_eq_zero_iff (left.complaints directive),
    ← List.length_eq_zero_iff] at ends
  have noLines : situation.world.lines = [] := by rw [World.lines, fresh]; rfl
  have apart := (uploadEach_told paths situation (.refl situation)).2
  rw [noLines, List.nil_append] at apart
  have lines : left.lines = failedLines uploads.1 := apart.lines_eq
  have stderr : (report.output (left.complaints directive)).stderr =
      left.complaints directive ++ uploadsEnding paths uploads.1 := by
    rw [← text_uploadsError?, Report.output, show report = _ from runUpload_fst paths situation]
  refine ⟨⟨tried, ?_, lines, stderr, ?_, counted, fun fails => ?_⟩, apart.hushed_eq,
    apart.events_eq⟩
  · rw [Report.output, show report = _ from runUpload_fst paths situation]
  · intro hidden
    rw [stderr, World.complaints_eq_joined_lines hidden, lines]
  · have some : (failedLines uploads.1).length ≠ 0 := by
      intro none
      rw [ends.mpr none] at fails
      cases fails
    omega

end Uploads

/-! ## Commands -/

/-- What a chat is asked, where the system's message is the given one. -/
def QueryArguments.operation
    (arguments : QueryArguments)
    (systemContent : Option String) :
    Operation ChatResponse :=
  let options : ChatOptions :=
    { ChatOptions.usual with systemContent, model := arguments.model, stream := arguments.stream }
  match arguments.prompt with
  | .text content => Client.query content options
  | .file path => Client.queryFile path options

/-- The command does what it is for, in the situation with the client that it works with. -/
def Command.Succeeds (command : Command) (situation : Situation) : Prop :=
  match command with
  | .alive =>
    ∃ exchange given,
      (Client.checkAlive situation).2.world.exchanges = situation.world.exchanges ++ [exchange] ∧
      exchange.IsFor situation.client.config .probe ∧
      exchange.answer = .reply given
  | .models => Operation.Succeeds Client.listModels situation
  | .languageModels => Operation.Succeeds Client.listLanguageModels situation
  | .createModel proposal =>
    ∃ client, (Client.openedByCreating situation.client.config proposal situation.world).1 =
      .ok client
  | .listDocuments => Operation.Succeeds Client.listDocuments situation
  | .upload paths =>
    ∀ outcome ∈ (Client.uploads paths situation).1, ∃ document, outcome.2 = .ok document
  | .removeDocument id =>
    Operation.Succeeds (Client.removeDocument id) situation ∨
      ∃ document status,
        (Client.removeDocument id situation).1 = .error (.deleteFailed document status)
  | .clearDocuments => Operation.Succeeds Client.listDocuments situation
  | .query arguments =>
    ∃ systemContent,
      arguments.systemFile.mapM (Prompt.load situation.world.files) = .ok systemContent ∧
      Operation.Succeeds (arguments.operation systemContent) situation

theorem error_runRemove_eq_none_iff
    (id : String)
    (situation : Situation) :
    (runRemove id situation).1.error = none ↔
      Operation.Succeeds (Client.removeDocument id) situation ∨
        ∃ document status,
          (Client.removeDocument id situation).1 = .error (.deleteFailed document status) := by
  unfold Operation.Succeeds runRemove
  rcases Client.removeDocument id situation with ⟨failure | _, after⟩
  · cases failure <;> simp [Failure.isNonFatal, Report.failed, Report.lines]
  · simp [Report.lines]

theorem error_runClear_eq_none_iff (situation : Situation) :
    (runClear situation).1.error = none ↔
      Operation.Succeeds Client.listDocuments situation := by
  rw [← Client.removeAllDocuments_succeeds_iff]
  unfold Operation.Succeeds runClear
  rcases Client.removeAllDocuments situation with ⟨failure | report, after⟩
  · simp [Report.failed]
  · simp [Report.lines]

/-- What clearing prints and says, where nothing was said before and there is a report. -/
theorem runClear_told
    {situation : Situation}
    (fresh : situation.world.said = [])
    {report : RemovalReport}
    (reports : (Client.removeAllDocuments situation).1 = .ok report) :
    (runClear situation).1 = .lines (report.removed.map ("Removed " ++ ·)) ∧
      (runClear situation).2.lines = report.failed.map fun (id, failure) =>
        "Failed to remove " ++ id ++ ": " ++ failure.message := by
  have noLines : situation.world.lines = [] := by rw [World.lines, fresh]; rfl
  obtain ⟨_, still⟩ := Client.removeAllDocuments_agree
    (Situation.shared_apartByLines situation.world.lines situation.world.lines) situation
    situation (.refl situation)
  obtain ⟨after, removes⟩ : ∃ after,
      Client.removeAllDocuments situation = (.ok report, after) :=
    ⟨(Client.removeAllDocuments situation).2, Prod.ext reports rfl⟩
  have lines := still.lines_eq
  rw [noLines, removes] at lines
  simp only at lines
  simp only [runClear, removes]
  refine ⟨trivial, ?_⟩
  have each : (Diagnostic.line? ∘ fun (id, failure) => .line (removalFailedLine id failure)) =
      fun (entry : String × Failure) =>
        some ("Failed to remove " ++ entry.1 ++ ": " ++ entry.2.message) := rfl
  rw [World.lines_say, lines, List.nil_append, List.filterMap_append, List.filterMap_map, each,
    List.filterMap_eq_map']
  exact List.append_nil _

theorem error_runQuery_eq_none_iff
    (arguments : QueryArguments)
    (situation : Situation) :
    (runQuery arguments situation).1.error = none ↔
      ∃ systemContent,
        arguments.systemFile.mapM (Prompt.load situation.world.files) = .ok systemContent ∧
        Operation.Succeeds (arguments.operation systemContent) situation := by
  unfold runQuery
  cases loads : arguments.systemFile.mapM (Prompt.load situation.world.files) with
  | error fault => simp [Report.failed]
  | ok systemContent =>
      simp only [Except.ok.injEq, exists_eq_left']
      exact error_reportOn_eq_none_iff (fun _ => rfl) _ (arguments.operation systemContent) _

theorem error_runCreateModel_eq_none_iff
    (config : Config)
    (proposal : ModelProposal)
    (world : World) :
    (runCreateModel config proposal world).1.error = none ↔
      ∃ client, (Client.openedByCreating config proposal world).1 = .ok client := by
  unfold runCreateModel
  rcases Client.openedByCreating config proposal world with ⟨failure | client, after⟩
  · simp [Report.failed]
  · simp [Report.lines]

/-- The world that the command of an invocation finds: nothing was said in it, and the journal is
kept if the invocation says so. -/
def Invocation.beginning
    (invocation : Invocation)
    (world : World) : World :=
  { world.hushed with journal := { world.journal with enabled := invocation.journal } }

/-- The situation that the command of an invocation works in, once its client is open. -/
def Invocation.situation
    (invocation : Invocation)
    (config : Config)
    (world : World) : Situation :=
  ⟨⟨commandConfig config invocation.command, invocation.model⟩, invocation.beginning world⟩

section Runs

variable
  {words : List String}
  {environment : Environment}
  {invocation : Invocation}
  {config : Config}

/-- A command line that is read runs its command with the configuration of the environment. -/
theorem run_of_read
    (read : Invocation.read words = .ok invocation)
    (configured : Config.ofEnvironment environment = .ok config)
    (world : World) :
    let ran := runCommand config invocation (invocation.beginning world)
    run words environment world =
      (ran.1.output (ran.2.complaints (environment.text? directiveVariable)), ran.2) := by
  simp only [run, read, runInvocation, configured]
  rfl

/-- Any command but the one that makes a model runs in the situation of its invocation. -/
theorem runCommand_of_opens
    (usable : config.hasUsableToken = true)
    (opens : ∀ proposal, invocation.command ≠ .createModel proposal)
    (world : World) :
    runCommand config invocation (invocation.beginning world) =
      runOpen invocation.command (invocation.situation config world) :=
  Disguise.runCommand_of_usable usable opens _

/-- A run tells no error exactly if its command succeeds. -/
theorem error_runCommand_eq_none_iff
    (usable : config.hasUsableToken = true)
    (invocation : Invocation)
    (world : World) :
    (runCommand config invocation (invocation.beginning world)).1.error = none ↔
      invocation.command.Succeeds (invocation.situation config world) := by
  by_cases creates : ∃ proposal, invocation.command = .createModel proposal
  · obtain ⟨model, journal, command⟩ := invocation
    obtain ⟨proposal, rfl⟩ := creates
    exact error_runCreateModel_eq_none_iff config proposal _
  · rw [runCommand_of_opens usable (not_exists.mp creates)]
    generalize invocation.situation config world = situation
    cases command : invocation.command <;> simp only [runOpen, Command.Succeeds]
    case alive =>
      rw [← Client.checkAlive_succeeds_iff]
      exact error_reportOn_eq_none_iff (fun _ => rfl) _ _ _
    case models => exact error_reportOn_eq_none_iff (fun _ => rfl) _ _ _
    case languageModels => exact error_reportOn_eq_none_iff (fun _ => rfl) _ _ _
    case createModel proposal => exact absurd ⟨proposal, command⟩ creates
    case listDocuments => exact error_reportOn_eq_none_iff (fun _ => rfl) _ _ _
    case upload paths =>
      rw [← failedLines_eq_nil_iff]
      exact error_runUpload_eq_none_iff paths _
    case removeDocument id => exact error_runRemove_eq_none_iff id _
    case clearDocuments => exact error_runClear_eq_none_iff _
    case query arguments => exact error_runQuery_eq_none_iff arguments _

end Runs

/-- What the exit code and the two channels of a run tell. -/
structure ExitLaw
    (words : List String)
    (environment : Environment)
    (invocation : Invocation)
    (config : Config)
    (world : World) : Prop where
  /-- A run ends well exactly if its command succeeds. -/
  succeeds :
    (run words environment world).1.exitCode = 0 ↔
      invocation.command.Succeeds (invocation.situation config world)
  /-- There is only one other way to end. -/
  fails :
    (run words environment world).1.exitCode = 1 ↔
      ¬ invocation.command.Succeeds (invocation.situation config world)
  /-- Uploads are all tried and all told, and the run leaves what they leave, with the events
  that they say. -/
  uploads :
    ∀ paths, invocation.command = .upload paths →
      let uploads := Client.uploads paths (invocation.situation config world)
      UploadsTold paths uploads.1 (environment.text? directiveVariable)
          (run words environment world) ∧
        (run words environment world).2.hushed = uploads.2.world.hushed ∧
        (run words environment world).2.events = uploads.2.world.events
  /-- Removals of all documents are told as they are reported: those that are done on one
  channel, the others by the lines on the other, which stand alone there if no event is shown. -/
  clearing :
    ∀ report, invocation.command = .clearDocuments →
      (Client.removeAllDocuments (invocation.situation config world)).1 = .ok report →
      let directive := environment.text? directiveVariable
      let left := run words environment world
      let failedLines := report.failed.map fun (id, failure) =>
        "Failed to remove " ++ id ++ ": " ++ failure.message
      left.1.stdout = Report.joined (report.removed.map ("Removed " ++ ·)) ∧
        left.2.lines = failedLines ∧
        left.1.stderr = left.2.complaints directive ∧
        ((∀ event, left.2.platform.shows directive event = false) →
          left.1.stderr = Report.joined failedLines)

/-- A command line that is read, with a configuration that is usable, ends as its command
does. -/
theorem exitLaw_of_usable
    (words : List String)
    (environment : Environment)
    (invocation : Invocation)
    (config : Config)
    (world : World)
    (read : Invocation.read words = .ok invocation)
    (configured : Config.ofEnvironment environment = .ok config)
    (usable : config.hasUsableToken = true) :
    ExitLaw words environment invocation config world := by
  have ran := run_of_read read configured world
  have succeeds : (run words environment world).1.exitCode = 0 ↔
      invocation.command.Succeeds (invocation.situation config world) := by
    rw [ran, ← error_runCommand_eq_none_iff usable]
    exact Report.output_exitCode_eq_zero_iff _ _
  have small : (run words environment world).1.exitCode ≤ 1 := by
    rw [ran]
    exact Report.output_exitCode_le_one _ _
  refine ⟨succeeds, ?_, ?_, ?_⟩
  · rw [← succeeds]
    omega
  · intro paths uploads
    rw [ran, runCommand_of_opens usable (by simp [uploads]), uploads]
    exact uploadsTold paths (invocation.situation config world) rfl _
  · intro report clears reports
    rw [ran, runCommand_of_opens usable (by simp [clears]), clears]
    obtain ⟨printed, lines⟩ := runClear_told rfl reports
    have stderr : ∀ complaints, (Report.output
        (runClear (invocation.situation config world)).1 complaints).stderr = complaints := by
      intro complaints
      rw [printed]
      exact String.append_empty
    refine ⟨?_, lines, stderr _, fun hidden => ?_⟩
    · simp only [runOpen, printed]
      rfl
    · simp only [runOpen] at hidden ⊢
      rw [stderr, World.complaints_eq_joined_lines hidden, lines]

/-- Of two files that are to be uploaded one is missing: the other one is uploaded, which an
event tells, and the command does not succeed. -/
theorem exitLaw_of_usable_sample :
    let words := ["--model-id", "m", "docs", "upload", "b", "a"]
    let environment : Environment :=
      [(Config.tokenVariable, Text.encode "token"),
        (Config.endpointVariable, Text.encode "http://127.0.0.1/v1")]
    let document := Text.encode "\x7b\"id\":\"d\",\"filename\":\"a\"\x7d"
    let world : World :=
      { World.sample [.reply ⟨.ok, document, true⟩] with
        files := (Files.Tree.empty []).plant (.ofText "a") (.file [])
        time := "now" }
    let invocation : Invocation := ⟨some "m", false, .upload [.ofText "b", .ofText "a"]⟩
    (Invocation.read words = .ok invocation ∧
      Config.ofEnvironment environment = .ok .sample ∧
      Config.sample.hasUsableToken = true) ∧
      ¬ invocation.command.Succeeds (invocation.situation .sample world) ∧
      (run words environment world).1 =
        ⟨1, "Uploaded a -> id=d\n",
          "Failed to upload b: cannot read b: No such file or directory (os error 2)\n" ++
            "now  INFO kmforge_core_sdk::client: document uploaded document_id=d file=a\n" ++
            "Error: 1 of 2 uploads failed\n"⟩ := by
  intro words environment document world invocation
  have read : Invocation.read words = .ok invocation := by decide +kernel
  have configured : Config.ofEnvironment environment = .ok .sample := by decide +kernel
  have usable : Config.sample.hasUsableToken = true := by decide +kernel
  have law := exitLaw_of_usable words environment invocation .sample world read configured usable
  have ends : (run words environment world).1 =
      ⟨1, "Uploaded a -> id=d\n",
        "Failed to upload b: cannot read b: No such file or directory (os error 2)\n" ++
          "now  INFO kmforge_core_sdk::client: document uploaded document_id=d file=a\n" ++
          "Error: 1 of 2 uploads failed\n"⟩ := by
    decide +kernel
  exact ⟨⟨read, configured, usable⟩, law.fails.mp (by rw [ends]), ends⟩

end CommandLine
end KnowledgeClient
