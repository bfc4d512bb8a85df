import KnowledgeClient.Proofs.LocalFailures
import KnowledgeClient.Proofs.Turn

/-!
# Prompts in files

The user's message of a chat can be what a file holds, and so can the system's message.  A
chat about a file that reads as text is the chat about that text, for a client, for a session
and on the command line.  It fails for the file exactly if the file does not read as text, and
then nothing is sent.  The file of the system's message is refused for that too, and besides
if it holds blanks only: this is where the two rules for prompt files differ.
-/

namespace KnowledgeClient

open Operation

/-- The failure tells of a file. -/
def Failure.isAboutFile : Failure → Bool
  | .unreadable _ _ => true
  | _ => false

/-! ## Prompts that are loaded -/

namespace Prompt

variable
  {files : Files.Tree}
  {path : Files.Path}
  {text : String}

/-- A prompt is loaded from a file that reads as it and does not hold blanks only. -/
theorem load_eq_ok_iff :
    load files path = .ok text ↔
      files.readText path = .ok text ∧ Text.isAllBlank text = false := by
  unfold load
  cases files.readText path with
  | error reason => simp
  | ok content =>
      dsimp only
      by_cases blank : Text.isAllBlank content = true
      · rw [if_pos blank]
        refine iff_of_false nofun ?_
        rintro ⟨same, notBlank⟩
        obtain rfl := Except.ok.inj same
        exact Bool.false_ne_true (notBlank.symm.trans blank)
      · rw [if_neg blank]
        simp only [Except.ok.injEq]
        refine ⟨fun same => ⟨same, ?_⟩, And.left⟩
        exact same ▸ Bool.eq_false_iff.mpr blank

/-- A prompt is refused if its file does not read as text, or holds blanks only. -/
theorem load_eq_error_iff
    (fault : Fault) :
    load files path = .error fault ↔
      (∃ reason, files.readText path = .error reason ∧ fault = .unreadable path reason) ∨
        ∃ content, files.readText path = .ok content ∧ Text.isAllBlank content = true ∧
          fault = .blank path := by
  unfold load
  cases files.readText path with
  | error reason => simp [@eq_comm _ fault]
  | ok content =>
      dsimp only
      by_cases blank : Text.isAllBlank content = true
      · rw [if_pos blank]
        simp [blank, @eq_comm _ fault]
      · rw [if_neg blank]
        simp [blank]

end Prompt

/-! ## Chats about files -/

namespace Client

variable
  {situation : Situation}
  {path : Files.Path}
  {content : String}
  {failure : Failure}

/-- A chat about a file that reads as text is the chat about that text. -/
theorem queryFile_of_readable
    (readable : situation.world.files.readText path = .ok content)
    (options : ChatOptions) :
    queryFile path options situation = query content options situation := by
  unfold queryFile
  rw [get_bind_apply, readable]

/-- A resolution does not fail for a file. -/
theorem resolution_not_aboutFile
    {url : Http.Url}
    {answer : Http.Answer}
    (fails : answer.resolution url = .error failure) :
    failure.isAboutFile = false := by
  unfold Http.Answer.resolution at fails
  split at fails
  · obtain rfl := Except.error.inj fails
    rfl
  · rename_i given
    split at fails
    · rename_i other judged
      obtain rfl := Except.error.inj fails
      rw [Call.contentOf_eq_judge .models .requireSuccess rfl rfl fun _ => rfl] at judged
      rcases Call.judge_eq_error judged with (rfl | ⟨fault, rfl⟩) | ⟨_, rfl⟩
      · rfl
      · rfl
      · unfold Call.refusal
        split <;> rfl
    · rename_i listing _
      cases models : listing.results with
      | nil =>
          rw [models] at fails
          obtain rfl := Except.error.inj fails
          rfl
      | cons first others =>
          rw [models] at fails
          cases fails

theorem resolve_not_aboutFile
    (fails : (resolve situation).1 = .error failure) :
    failure.isAboutFile = false := by
  have resolution := resolution situation
  rw [fails] at resolution
  rcases resolution.cause_of_error with ⟨_, fault, rfl⟩ | ⟨_, _, _, _, unresolved⟩
  · rfl
  · exact resolution_not_aboutFile unresolved

theorem askOf_not_aboutFile
    {options : ChatOptions}
    {model : ModelId}
    (fails : (askOf content options model situation).1 = .error failure) :
    failure.isAboutFile = false := by
  rw [askOf_calling, Situation.calling] at fails
  split at fails
  · obtain rfl := Except.error.inj fails
    rfl
  · split at fails
    · obtain rfl := Except.error.inj fails
      rfl
    · rcases Call.judge_eq_error fails with (rfl | ⟨fault, rfl⟩) | ⟨_, rfl⟩
      · rfl
      · rfl
      · unfold Call.refusal
        split <;> rfl

/-- A chat about a text does not fail for a file. -/
theorem query_not_aboutFile
    {options : ChatOptions}
    (fails : (query content options situation).1 = .error failure) :
    failure.isAboutFile = false := by
  unfold query at fails
  rw [bind_apply] at fails
  rcases resolved : resolve situation with ⟨unresolved | model, after⟩
  · rw [resolved] at fails
    obtain rfl := Except.error.inj fails
    exact resolve_not_aboutFile (congrArg Prod.fst resolved)
  · rw [resolved] at fails
    exact askOf_not_aboutFile fails

/-- A chat about a file fails for a file exactly if it does not read as text. -/
theorem queryFile_eq_unreadable_iff
    (options : ChatOptions)
    (place : Files.Path)
    (reason : Files.Fault) :
    (queryFile path options situation).1 = .error (.unreadable place reason) ↔
      place = path ∧ situation.world.files.readText path = .error reason := by
  cases reading : situation.world.files.readText path with
  | error found =>
      rw [queryFile_of_unreadable reading]
      simp [eq_comm]
  | ok content =>
      rw [queryFile_of_readable reading]
      simp only [reduceCtorEq, and_false, iff_false]
      intro fails
      cases query_not_aboutFile fails

end Client

/-- The turn about a file that reads as text is the turn about that text, for whatever client is
open. -/
theorem Session.take_queryFile_of_readable
    {session : Session}
    {path : Files.Path}
    {content : String}
    (readable : session.world.files.readText path = .ok content)
    (options : ChatOptions)
    (network : Http.Network) :
    session.take ⟨.action (.queryFile path options), network⟩ =
      session.take ⟨.action (.query content options), network⟩ := by
  cases isOpen : session.client with
  | none => simp only [take, step, facing, isOpen]
  | some client =>
      have meets : (session.meeting client network).world.files.readText path = .ok content :=
        readable
      have same : (Action.queryFile path options).operation (session.meeting client network) =
          (Action.query content options).operation (session.meeting client network) := by
        change (Outcome.chat <$> Client.queryFile path options) _ =
          (Outcome.chat <$> Client.query content options) _
        rw [map_apply, map_apply, Client.queryFile_of_readable meets]
      rw [take_action isOpen, take_action isOpen, same]

/-! ## Command lines -/

namespace CommandLine

variable
  {arguments : QueryArguments}
  {path : Files.Path}
  {content : String}

/-- A chat that is asked what a file holds is the one that is asked the text itself. -/
theorem runQuery_of_readable
    {situation : Situation}
    (readable : situation.world.files.readText path = .ok content) :
    runQuery { arguments with prompt := .file path } situation =
      runQuery { arguments with prompt := .text content } situation := by
  unfold runQuery
  cases arguments.systemFile.mapM (Prompt.load situation.world.files) with
  | error fault => rfl
  | ok systemContent =>
      dsimp only
      rw [Client.queryFile_of_readable readable]

/-- Two command lines that differ only in where the prompt is, in a file or among the words, end
alike if the file reads as the prompt. -/
theorem run_of_readable
    {words otherWords : List String}
    {model : Option ModelId}
    {journal : Bool}
    {world : World}
    (read : Invocation.read words =
      .ok ⟨model, journal, .query { arguments with prompt := .file path }⟩)
    (otherRead : Invocation.read otherWords =
      .ok ⟨model, journal, .query { arguments with prompt := .text content }⟩)
    (readable : world.files.readText path = .ok content)
    (environment : Environment) :
    run words environment world = run otherWords environment world := by
  unfold run
  rw [read, otherRead]
  unfold runInvocation
  cases Config.ofEnvironment environment with
  | error failure => rfl
  | ok config =>
      have sameConfig : commandConfig config (.query { arguments with prompt := .file path }) =
          commandConfig config (.query { arguments with prompt := .text content }) := rfl
      dsimp only [runCommand]
      rw [sameConfig]
      cases Client.opened _ model with
      | error failure => rfl
      | ok client =>
          dsimp only [runOpen]
          rw [runQuery_of_readable]
          exact readable

end CommandLine

/-! ## The law -/

/-- What becomes of a prompt in a file. -/
structure PromptLaw
    (situation : Situation)
    (path : Files.Path)
    (options : ChatOptions) : Prop where
  /-- A chat about a file that does not read as text fails with the path of the file and the
  reason, and changes nothing. -/
  unread :
    ∀ reason, situation.world.files.readText path = .error reason →
      Client.queryFile path options situation = (.error (.unreadable path reason), situation)
  /-- There is no other file that a chat fails for. -/
  told :
    ∀ place reason,
      (Client.queryFile path options situation).1 = .error (.unreadable place reason) ↔
        place = path ∧ situation.world.files.readText path = .error reason
  /-- A chat about any other file gives what the chat about its text gives, and leaves the same:
  the exchanges, the model that the client is bound to and the journal. -/
  asked :
    ∀ content, situation.world.files.readText path = .ok content →
      Client.queryFile path options situation = Client.query content options situation
  /-- A chat fails for the file exactly if no prompt is loaded from it, unless it holds blanks
  only. -/
  agrees :
    ((∃ fault, Prompt.load situation.world.files path = .error fault) ↔
        ∃ reason, Client.queryFile path options situation =
          (.error (.unreadable path reason), situation)) ↔
      ∀ content, situation.world.files.readText path = .ok content →
        Text.isAllBlank content = false
  /-- A prompt that is loaded is the text of its file, and a chat about the file is about it. -/
  loaded :
    ∀ content, Prompt.load situation.world.files path = .ok content →
      Client.queryFile path options situation = Client.query content options situation
  /-- A turn of a session about a file is one about its text, whatever the network answers. -/
  taken :
    ∀ (session : Session) content network,
      session.world.files.readText path = .ok content →
      session.take ⟨.action (.queryFile path options), network⟩ =
        session.take ⟨.action (.query content options), network⟩
  /-- So is a command line, whatever else it says. -/
  run :
    ∀ words otherWords environment model journal (arguments : CommandLine.QueryArguments) content
      (world : World),
      CommandLine.Invocation.read words =
        .ok ⟨model, journal, .query { arguments with prompt := .file path }⟩ →
      CommandLine.Invocation.read otherWords =
        .ok ⟨model, journal, .query { arguments with prompt := .text content }⟩ →
      world.files.readText path = .ok content →
      CommandLine.run words environment world = CommandLine.run otherWords environment world
  /-- A command line whose system's message is not loaded from the file ends with an error, and
  nothing is sent. -/
  system :
    ∀ words environment (invocation : CommandLine.Invocation) arguments fault (world : World),
      CommandLine.Invocation.read words = .ok invocation →
      invocation.command = .query arguments →
      arguments.systemFile = some path →
      Prompt.load world.files path = .error fault →
      (CommandLine.run words environment world).1.exitCode = 1 ∧
        (CommandLine.run words environment world).2 = invocation.beginning world

/-- A chat about a file is one about its text, and fails for the files that no prompt is loaded
from, as far as these do not hold blanks only. -/
theorem promptLaw
    (situation : Situation)
    (path : Files.Path)
    (options : ChatOptions) :
    PromptLaw situation path options where
  unread _ unreadable := Client.queryFile_of_unreadable unreadable options
  told place reason := Client.queryFile_eq_unreadable_iff options place reason
  asked _ readable := Client.queryFile_of_readable readable options
  agrees := by
    have failing : (∃ reason, Client.queryFile path options situation =
          (.error (.unreadable path reason), situation)) ↔
        ∃ reason, situation.world.files.readText path = .error reason := by
      refine exists_congr fun reason => ⟨fun fails => ?_, fun unreadable =>
        Client.queryFile_of_unreadable unreadable options⟩
      exact ((Client.queryFile_eq_unreadable_iff options path reason).mp
        (congrArg Prod.fst fails)).2
    rw [failing]
    simp only [Prompt.load_eq_error_iff]
    cases reads : situation.world.files.readText path with
    | error reason => simp
    | ok content => simp
  loaded _ loads := Client.queryFile_of_readable (Prompt.load_eq_ok_iff.mp loads).1 options
  taken _ _ network readable := Session.take_queryFile_of_readable readable options network
  run _ _ environment _ _ _ _ _ read otherRead readable :=
    CommandLine.run_of_readable read otherRead readable environment
  system _ _ _ _ fault _ read asks given unloaded := by
    refine CommandLine.run_of_failsLocally read ?_
    rcases (Prompt.load_eq_error_iff fault).mp unloaded with
      ⟨reason, unreadable, _⟩ | ⟨content, reads, blank, _⟩
    · exact .systemUnreadable _ _ reason asks given unreadable
    · exact .systemBlank _ _ content asks given reads blank

/-- A client that is bound to a model, with a file to ask about that holds the bytes. -/
def Situation.samplePrompt (bytes : Bytes) : Situation :=
  ⟨⟨.sample, some "m"⟩,
    { World.sample [.reply ⟨.ok, Text.encode "null", true⟩] with
      files := (Files.Tree.empty []).plant (.ofText "p") (.file bytes) }⟩

/-- A chat about a file, a command line about it, and files that are missing and that hold no
text. -/
theorem promptLaw_sample :
    let path := Files.Path.ofText "p"
    let situation := Situation.samplePrompt (Text.encode "hi\n")
    let environment : Environment := [(Config.tokenVariable, Text.encode "token")]
    (situation.world.files.readText path = .ok "hi\n" ∧
      Client.queryFile path .usual situation = Client.query "hi\n" .usual situation ∧
      (Client.queryFile path .usual situation).2.world.exchanges.length = 1) ∧
    CommandLine.run ["query", "--prompt-file", "p"] environment situation.world =
      CommandLine.run ["query", "--prompt", "hi\n"] environment situation.world ∧
    (Client.queryFile (.ofText "q") .usual situation).1 =
      .error (.unreadable (.ofText "q") .missing) ∧
    (Client.queryFile path .usual (.samplePrompt [0xFF])).1 =
      .error (.unreadable path .notText) := by
  intro path situation environment
  have readable : situation.world.files.readText path = .ok "hi\n" := by decide +kernel
  let asked : CommandLine.QueryArguments := ⟨.file path, none, .usual, false, false, false⟩
  have read : CommandLine.Invocation.read ["query", "--prompt-file", "p"] =
      .ok ⟨none, false, .query { asked with prompt := .file path }⟩ := by decide +kernel
  have otherRead : CommandLine.Invocation.read ["query", "--prompt", "hi\n"] =
      .ok ⟨none, false, .query { asked with prompt := .text "hi\n" }⟩ := by decide +kernel
  have law := promptLaw situation path .usual
  refine ⟨⟨readable, law.asked "hi\n" readable, by decide +kernel⟩,
    law.run _ _ environment none false asked "hi\n" situation.world read otherRead readable,
    ?_, ?_⟩
  · exact ((promptLaw situation (.ofText "q") .usual).told _ .missing).mpr
      ⟨rfl, by decide +kernel⟩
  · exact ((promptLaw (.samplePrompt [0xFF]) path .usual).told path .notText).mpr
      ⟨rfl, by decide +kernel⟩

/-- A file of blanks only is no prompt that is loaded, and yet a chat is asked about it. -/
theorem not_always_refused :
    ¬ ∀ (situation : Situation) (path : Files.Path) (options : ChatOptions)
        (fault : Prompt.Fault),
      Prompt.load situation.world.files path = .error fault →
      (∃ failure, (Client.queryFile path options situation).1 = .error failure) ∧
        (Client.queryFile path options situation).2.world.exchanges =
          situation.world.exchanges := by
  intro refused
  let situation := Situation.samplePrompt (Text.encode " \n")
  have unloaded : Prompt.load situation.world.files (.ofText "p") =
      .error (.blank (.ofText "p")) := by
    decide +kernel
  have sends : (Client.queryFile (.ofText "p") .usual situation).2.world.exchanges.length = 1 := by
    decide +kernel
  have unsent := (refused situation (.ofText "p") .usual _ unloaded).2
  rw [unsent] at sends
  cases sends

end KnowledgeClient
