import KnowledgeClient.Proofs.Exits

/-!
# Failures before anything is sent

What fails for something that is found out on this side leaves the service alone.  A client is
not opened with a token that no header can carry; a chat does not ask what a file cannot tell; a
file that cannot be opened is not uploaded, and all that happens is that the model is resolved.
A command line that cannot have its token or one of its prompts ends without a request.
-/

namespace KnowledgeClient

open Operation

/-- From one situation to the other nothing happened but that the model was resolved: a client
that is bound did nothing, and one that is not asked for the models at most and was bound to the
first that was listed at most. -/
structure Situation.OnlyResolves (before after : Situation) : Prop where
  files_eq : after.world.files = before.world.files
  journal_eq : after.world.journal = before.world.journal
  time_eq : after.world.time = before.world.time
  asked :
    after.world.exchanges = before.world.exchanges ∧ after.client = before.client ∨
      before.client.bound = none ∧
        ∃ exchange, after.world.exchanges = before.world.exchanges ++ [exchange] ∧
          exchange.IsFor before.client.config .models ∧
          (after.client = before.client ∨
            ∃ model, exchange.answer.Lists model ∧
              after.client = { before.client with bound := some model })

/-- A resolution does nothing else. -/
theorem Resolution.onlyResolves
    {situation after : Situation}
    {outcome : Except Failure ModelId}
    (resolution : Resolution situation outcome after) :
    situation.OnlyResolves after := by
  cases resolution with
  | bound => exact ⟨rfl, rfl, rfl, .inl ⟨rfl, rfl⟩⟩
  | refused => exact ⟨rfl, rfl, rfl, .inl ⟨rfl, rfl⟩⟩
  | failed url failure unbound goes fails =>
      exact ⟨situation.listing_files url, situation.listing_journal url, situation.listing_time url,
        .inr ⟨unbound, _, situation.listing_exchanges url,
          Situation.isFor_listingRequest goes _, .inl rfl⟩⟩
  | found url model unbound goes finds =>
      exact ⟨situation.listing_files url, situation.listing_journal url, situation.listing_time url,
        .inr ⟨unbound, _, situation.listing_exchanges url,
          Situation.isFor_listingRequest goes _,
          .inr ⟨model, (Http.Answer.resolution_eq_ok_iff url _ model).mp finds, rfl⟩⟩⟩

namespace Client

theorem opened_of_refused
    {config : Config}
    (refused : config.hasUsableToken = false)
    (bound : Option ModelId) :
    opened config bound = .error (.configuration .tokenRefused) := by
  simp [opened, refused]

/-- A client whose token cannot be used is not opened, in whatever way. -/
theorem opening_of_refused
    {config : Config}
    (refused : config.hasUsableToken = false)
    (opening : Opening)
    (world : World) :
    opening.client config world = (.error (.configuration .tokenRefused), world) := by
  cases opening <;>
    simp [Opening.client, openedByCreating, opened_of_refused refused]

/-- A chat is not asked what a file cannot tell. -/
theorem queryFile_of_unreadable
    {situation : Situation}
    {path : Files.Path}
    {reason : Files.Fault}
    (unreadable : situation.world.files.readText path = .error reason)
    (options : ChatOptions) :
    queryFile path options situation = (.error (.unreadable path reason), situation) := by
  unfold queryFile
  rw [get_bind_apply, unreadable]
  rfl

/-- A file that cannot be opened is not uploaded once the model is resolved. -/
theorem upload_of_closed
    {situation : Situation}
    {path : Files.Path}
    {reason : Files.Fault}
    (closed : situation.world.files.find path = .error reason) :
    upload path situation =
      ((resolve situation).1.bind fun _ => .error (.unreadable path reason),
        (resolve situation).2) := by
  have files := (resolution situation).files_eq
  unfold upload
  rw [bind_apply]
  rcases resolved : resolve situation with ⟨failure | model, after⟩
  · rfl
  · rw [resolved] at files
    exact uploadInto_of_closed (files ▸ closed) model

end Client

/-! ## Command lines -/

namespace CommandLine

/-- Something that the invocation needs cannot be had on this side: a token that a header can
carry, or a prompt that is kept in a file. -/
inductive Invocation.FailsLocally
    (invocation : Invocation)
    (environment : Environment)
    (files : Files.Tree) : Prop
  | tokenUnset
      (unset : environment.lookup Config.tokenVariable = none)
  | tokenNoText
      (bytes : Bytes)
      (given : environment.lookup Config.tokenVariable = some bytes)
      (noText : Text.decode? bytes = none)
  | tokenBlank
      (token : String)
      (given : environment.text? Config.tokenVariable = some token)
      (blank : Text.isAllBlank token = true)
  | tokenRefused
      (token : String)
      (given : environment.text? Config.tokenVariable = some token)
      (refused : Config.isUsableToken token = false)
  | systemUnreadable
      (arguments : QueryArguments)
      (path : Files.Path)
      (reason : Files.Fault)
      (asks : invocation.command = .query arguments)
      (given : arguments.systemFile = some path)
      (unreadable : files.readText path = .error reason)
  | systemBlank
      (arguments : QueryArguments)
      (path : Files.Path)
      (text : String)
      (asks : invocation.command = .query arguments)
      (given : arguments.systemFile = some path)
      (reads : files.readText path = .ok text)
      (blank : Text.isAllBlank text = true)
  | promptUnreadable
      (arguments : QueryArguments)
      (path : Files.Path)
      (reason : Files.Fault)
      (asks : invocation.command = .query arguments)
      (given : arguments.prompt = .file path)
      (unreadable : files.readText path = .error reason)

/-- A run ends with an error and leaves the world as it was given. -/
def EndsAt (world : World) (ended : Report × World) : Prop :=
  ended.1.error ≠ none ∧ ended.2 = world

theorem endsAt_failed
    (error : RunError)
    (world : World) :
    EndsAt world (.failed error, world) :=
  ⟨by simp [Report.failed], rfl⟩

section Queries

variable
  {arguments : QueryArguments}
  {situation : Situation}
  {path : Files.Path}

/-- A chat whose system message cannot be loaded is not asked. -/
theorem runQuery_of_unloaded
    {fault : Prompt.Fault}
    (given : arguments.systemFile = some path)
    (unloaded : Prompt.load situation.world.files path = .error fault) :
    EndsAt situation.world (runQuery arguments situation) := by
  unfold runQuery
  rw [given, Option.mapM_some, unloaded]
  exact endsAt_failed _ _

/-- A chat whose prompt cannot be read is not asked. -/
theorem runQuery_of_unread
    {reason : Files.Fault}
    (given : arguments.prompt = .file path)
    (unreadable : situation.world.files.readText path = .error reason) :
    EndsAt situation.world (runQuery arguments situation) := by
  unfold runQuery
  cases arguments.systemFile.mapM (Prompt.load situation.world.files) with
  | error fault => exact endsAt_failed _ _
  | ok systemContent =>
      simp only [given]
      rw [Client.queryFile_of_unreadable unreadable]
      exact endsAt_failed _ _

end Queries

variable
  {environment : Environment}
  {invocation : Invocation}

/-- An environment that gives a configuration has its token, a text that is not blank. -/
theorem text?_of_ofEnvironment
    {config : Config}
    (configured : Config.ofEnvironment environment = .ok config) :
    environment.text? Config.tokenVariable = some config.token ∧
      Text.isAllBlank config.token = false := by
  cases given : environment.text? Config.tokenVariable with
  | none => simp [Config.ofEnvironment, given] at configured
  | some token =>
      cases blank : Text.isAllBlank token with
      | true => simp [Config.ofEnvironment, given, blank, Option.filter] at configured
      | false =>
          rw [Config.ofEnvironment_of_token given blank] at configured
          obtain rfl := Except.ok.inj configured
          exact ⟨rfl, blank⟩

/-- Where a client would be opened, only a chat fails on this side. -/
theorem runOpen_of_failsLocally
    {config : Config}
    {world : World}
    (configured : Config.ofEnvironment environment = .ok config)
    (usable : config.hasUsableToken = true)
    (fails : invocation.FailsLocally environment world.files) :
    (∀ proposal, invocation.command ≠ .createModel proposal) ∧
      EndsAt (invocation.beginning world)
        (runOpen invocation.command (invocation.situation config world)) := by
  obtain ⟨token, notBlank⟩ := text?_of_ofEnvironment configured
  cases fails with
  | tokenUnset unset => simp [Environment.text?, unset] at token
  | tokenNoText bytes given noText => simp [Environment.text?, given, noText] at token
  | tokenBlank other given blank =>
      obtain rfl := Option.some.inj (given.symm.trans token)
      simp [blank] at notBlank
  | tokenRefused other given refused =>
      obtain rfl := Option.some.inj (given.symm.trans token)
      exact absurd (refused.symm.trans usable) Bool.false_ne_true
  | systemUnreadable arguments path reason asks given unreadable =>
      rw [asks]
      have unloaded : Prompt.load world.files path = .error (.unreadable path reason) := by
        rw [Prompt.load, unreadable]
      exact ⟨by simp, runQuery_of_unloaded given unloaded⟩
  | systemBlank arguments path text asks given reads blank =>
      rw [asks]
      have unloaded : Prompt.load world.files path = .error (.blank path) := by
        rw [Prompt.load, reads]
        exact if_pos blank
      exact ⟨by simp, runQuery_of_unloaded given unloaded⟩
  | promptUnreadable arguments path reason asks given unreadable =>
      rw [asks]
      exact ⟨by simp, runQuery_of_unread given unreadable⟩

/-- A command line that fails on this side ends with an error, and nothing is sent or
written. -/
theorem run_of_failsLocally
    {words : List String}
    {world : World}
    (read : Invocation.read words = .ok invocation)
    (fails : invocation.FailsLocally environment world.files) :
    (run words environment world).1.exitCode = 1 ∧
      (run words environment world).2 = invocation.beginning world := by
  have ends : ∃ (report : Report) (complaints : String), report.error ≠ none ∧
      run words environment world = (report.output complaints, invocation.beginning world) := by
    cases configured : Config.ofEnvironment environment with
    | error failure =>
        refine ⟨.failed (.ofFailure "load configuration failed" failure),
          (invocation.beginning world).complaints (environment.text? directiveVariable),
          by simp [Report.failed], ?_⟩
        simp only [run, read, runInvocation, configured]
        rfl
    | ok config =>
        rw [run_of_read read configured]
        cases usable : config.hasUsableToken with
        | false =>
            rw [Disguise.runCommand_of_refused usable]
            exact ⟨_, _, by simp [Disguise.refusalReport, Report.failed], rfl⟩
        | true =>
            obtain ⟨opens, error, world_eq⟩ := runOpen_of_failsLocally configured usable fails
            rw [runCommand_of_opens usable opens, world_eq]
            exact ⟨_, _, error, rfl⟩
  obtain ⟨report, complaints, error, ran⟩ := ends
  have small := report.output_exitCode_le_one complaints
  have nonzero := mt (report.output_exitCode_eq_zero_iff complaints).mp error
  rw [ran]
  exact ⟨by dsimp only; omega, rfl⟩

end CommandLine

/-! ## The law -/

/-- What fails on this side has no effect on the other, and almost none on this one. -/
structure LocalFailureLaw : Prop where
  /-- A client is not opened with a token that a header cannot carry, and nothing is sent. -/
  openings :
    ∀ (config : Config) (opening : Opening) (world : World),
      config.hasUsableToken = false →
      opening.client config world = (.error (.configuration .tokenRefused), world)
  /-- A chat about a file that cannot be read as text fails with the path of the file and the
  reason, and changes nothing. -/
  chats :
    ∀ (situation : Situation) (path : Files.Path) (options : ChatOptions) (reason : Files.Fault),
      situation.world.files.readText path = .error reason →
      Client.queryFile path options situation = (.error (.unreadable path reason), situation)
  /-- An upload of a file that cannot be opened resolves the model and does nothing else; where
  that gives a model, it fails with the path of the file and the reason. -/
  uploads :
    ∀ (situation : Situation) (path : Files.Path) (reason : Files.Fault),
      situation.world.files.find path = .error reason →
      situation.OnlyResolves (Client.upload path situation).2 ∧
        (∀ model, (Client.resolve situation).1 = .ok model →
          (Client.upload path situation).1 = .error (.unreadable path reason)) ∧
        ∀ failure, (Client.resolve situation).1 = .error failure →
          (Client.upload path situation).1 = .error failure
  /-- A command line that cannot have its token or one of its prompts ends with an error; it
  switches the journal as it says, and changes nothing else in the world. -/
  commandLines :
    ∀ (words : List String) (environment : Environment) (invocation : CommandLine.Invocation)
      (world : World),
      CommandLine.Invocation.read words = .ok invocation →
      invocation.FailsLocally environment world.files →
      (CommandLine.run words environment world).1.exitCode = 1 ∧
        (CommandLine.run words environment world).2 = invocation.beginning world

theorem localFailureLaw : LocalFailureLaw where
  openings _ opening world refused := Client.opening_of_refused refused opening world
  chats _ _ options _ unreadable := Client.queryFile_of_unreadable unreadable options
  uploads situation path reason closed := by
    rw [Client.upload_of_closed closed]
    refine ⟨(Client.resolution situation).onlyResolves, ?_, ?_⟩
    · intro model resolved
      rw [resolved]
      rfl
    · intro failure unresolved
      rw [unresolved]
      rfl
  commandLines _ _ _ _ read fails := CommandLine.run_of_failsLocally read fails

/-- Without files, an upload asks for the models and fails then; a chat on the command line is
not asked what is in a file. -/
theorem localFailureLaw_sample :
    let path := Files.Path.ofText "a"
    let situation := Situation.sample [.sample]
    let words := ["query", "--prompt-file", "a"]
    let environment : Environment := [(Config.tokenVariable, Text.encode "token")]
    (situation.world.files.find path = .error .missing ∧
      (Client.upload path situation).1 = .error (.unreadable path .missing) ∧
      (Client.upload path situation).2.world.exchanges.map (·.request.method) = [.get]) ∧
      (CommandLine.run words environment situation.world).1.exitCode = 1 ∧
      (CommandLine.run words environment situation.world).2.exchanges = [] := by
  intro path situation words environment
  have closed : situation.world.files.find path = .error .missing := by decide +kernel
  have resolved : (Client.resolve situation).1 = .ok "m" := by decide +kernel
  have uploads := localFailureLaw.uploads situation path .missing closed
  let asked : CommandLine.QueryArguments := ⟨.file path, none, .usual, false, false, false⟩
  have read : CommandLine.Invocation.read words = .ok ⟨none, false, .query asked⟩ := by
    decide +kernel
  have unreadable : situation.world.files.readText path = .error .missing := by decide +kernel
  have ended := localFailureLaw.commandLines words environment _ situation.world read
    (.promptUnreadable asked path .missing rfl rfl unreadable)
  refine ⟨⟨closed, uploads.2.1 "m" resolved, by decide +kernel⟩, ended.1, ?_⟩
  rw [ended.2]
  rfl

end KnowledgeClient
