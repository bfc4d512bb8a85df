import KnowledgeClient.Main
import KnowledgeClient.Proofs.Commands
import KnowledgeClient.Proofs.Disguise

/-!
# What a run tells of its token

The token goes into the access header of every request and nowhere else.  Two runs
that differ in their tokens alone give the same and leave the same, but for that
header, as long as both tokens can be used; a client whose token cannot be used is
not opened, and the failure does not tell the token either.
-/

namespace KnowledgeClient

/-- The configuration with another token. -/
def Config.carrying (config : Config) (token : String) : Config :=
  { config with token }

/-- The token may stand in the access header. -/
def Config.isUsableToken (token : String) : Bool :=
  (Text.encode token).all isHeaderByte

theorem Config.hasUsableToken_carrying
    (config : Config)
    (token : String) :
    (config.carrying token).hasUsableToken = isUsableToken token := rfl

/-- The exchange as it is held with another token. -/
def Http.Exchange.carrying (exchange : Exchange) (token : String) : Exchange :=
  { exchange with
    request := { exchange.request with access := ⟨"x-km-accesskey", "Bearer " ++ token⟩ } }

namespace Disguise

/-- Every configuration and every exchange with one and the same token. -/
def token (token : String) : Disguise where
  config := (·.carrying token)
  exchange := (·.carrying token)
  endpoint_eq _ := rfl
  exchange_eq _ _ _ _ _ := rfl

theorem keepsPolicy_token (carried : String) : (token carried).KeepsPolicy :=
  fun _ => rfl

/-! ## Commands -/

section Commands

open CommandLine

variable {disguise : Disguise}

variable (disguise) in
/-- Being in disguise is carried along by what a command says. -/
theorem spoken : Spoken fun one other => other = disguise.situation one where
  toShared := disguise.shared
  say := by
    rintro given _ diagnostics rfl
    rfl

/-- A command with an open client reports the same in disguise, if the policy is kept. -/
theorem runOpen_situation
    (keeps : disguise.KeepsPolicy)
    (command : Command)
    (given : Situation) :
    runOpen command (disguise.situation given) =
      ((runOpen command given).1, disguise.world (runOpen command given).2) := by
  have policy_eq : ∀ one other, other = disguise.situation one →
      one.client.config.policy = other.client.config.policy := by
    rintro one _ rfl
    exact (keeps one.client.config).symm
  obtain ⟨same, last, _, rfl, left, leftOther⟩ :=
    runOpen_alike disguise.spoken policy_eq ⟨none, false, command⟩
      (fun path _ => disguise.findsAlike path) given _ rfl
  refine Prod.ext same.symm ?_
  rw [leftOther, left]
  rfl

theorem commandConfig_carrying
    (config : Config)
    (carried : String)
    (command : Command) :
    commandConfig (config.carrying carried) command =
      (commandConfig config command).carrying carried := by
  cases command with
  | query arguments =>
      cases anyStatus : arguments.acceptAnyStatus <;>
        simp [commandConfig, Config.carrying, anyStatus]
  | _ => rfl

/-- The token of a command's configuration can be used exactly if that of the given one can. -/
theorem hasUsableToken_commandConfig
    (config : Config)
    (command : Command) :
    (commandConfig config command).hasUsableToken = config.hasUsableToken := by
  cases command with
  | query arguments =>
      cases anyStatus : arguments.acceptAnyStatus <;>
        simp [commandConfig, Config.hasUsableToken, anyStatus]
  | _ => rfl

/-- Any command but the one that makes a model opens a client with a token that can be used. -/
theorem runCommand_of_usable
    {config : Config}
    (usable : config.hasUsableToken = true)
    {invocation : Invocation}
    (opens : ∀ proposal, invocation.command ≠ .createModel proposal)
    (world : World) :
    runCommand config invocation world =
      runOpen invocation.command
        ⟨⟨commandConfig config invocation.command, invocation.model⟩, world⟩ := by
  have opened := Session.opened_of_usable
    ((hasUsableToken_commandConfig config invocation.command).trans usable) invocation.model
  exact runCommand_of_opened opens opened world

/-- A command reports the same with any other token that can be used. -/
theorem runCommand_carrying
    {config : Config}
    {carried : String}
    (usable : config.hasUsableToken = true)
    (usableCarried : Config.isUsableToken carried = true)
    (invocation : Invocation)
    (world : World) :
    runCommand (config.carrying carried) invocation ((token carried).world world) =
      ((runCommand config invocation world).1,
        (token carried).world (runCommand config invocation world).2) := by
  by_cases creates : ∃ proposal, invocation.command = .createModel proposal
  · obtain ⟨model, journal, command⟩ := invocation
    obtain ⟨proposal, rfl⟩ := creates
    have keepsUsable : (token carried).KeepsUsable config := usableCarried.trans usable.symm
    have created := openedByCreating_config keepsUsable proposal world
    have sameConfig : (token carried).config config = config.carrying carried := rfl
    rw [sameConfig] at created
    simp only [runCommand, runCreateModel, created]
    rcases Client.openedByCreating config proposal world with ⟨failure | client, after⟩ <;> rfl
  · have opens := not_exists.mp creates
    have usableCarrying := (config.hasUsableToken_carrying carried).trans usableCarried
    rw [runCommand_of_usable usable opens, runCommand_of_usable usableCarrying opens,
      commandConfig_carrying]
    exact runOpen_situation (keepsPolicy_token carried) invocation.command
      ⟨⟨commandConfig config invocation.command, invocation.model⟩, world⟩

/-- A world in which nothing was sent yet is the same with every token. -/
theorem world_token_of_fresh
    {given : World}
    (fresh : given.exchanges = [])
    (carried : String) :
    (token carried).world given = given := by
  rw [Disguise.world, fresh, List.map_nil, ← fresh]

theorem runCommand_carrying_of_fresh
    {config : Config}
    {carried : String}
    (usable : config.hasUsableToken = true)
    (usableCarried : Config.isUsableToken carried = true)
    (invocation : Invocation)
    {given : World}
    (fresh : given.exchanges = []) :
    runCommand (config.carrying carried) invocation given =
      ((runCommand config invocation given).1,
        (token carried).world (runCommand config invocation given).2) := by
  have ran := runCommand_carrying usable usableCarried invocation given
  rwa [world_token_of_fresh fresh] at ran

/-- The report of a command whose client is not opened. -/
def refusalReport (command : Command) : Report :=
  let doing :=
    match command with
    | .createModel _ => "create knowledge model failed"
    | _ => "build client failed"
  .failed (.ofFailure doing (.configuration .tokenRefused))

/-- A token that cannot be used ends a command before it does anything, and is not told. -/
theorem runCommand_of_refused
    {config : Config}
    (refused : config.hasUsableToken = false)
    (invocation : Invocation)
    (world : World) :
    runCommand config invocation world = (refusalReport invocation.command, world) := by
  have notOpened : ∀ given : Config, given.hasUsableToken = false → ∀ bound,
      Client.opened given bound = .error (.configuration .tokenRefused) := by
    intro given unusable bound
    rw [Client.opened, unusable]
    rfl
  have notOpenedCommand := notOpened _
    ((hasUsableToken_commandConfig config invocation.command).trans refused) invocation.model
  obtain ⟨model, journal, command⟩ := invocation
  cases command with
  | createModel proposal =>
      simp only [runCommand, runCreateModel, Client.openedByCreating, notOpened config refused]
      rfl
  | _ =>
      simp only [runCommand, notOpenedCommand]
      rfl

end Commands

/-- Of two tokens the later one is carried. -/
theorem world_token_token
    (first second : String)
    (given : World) :
    (token second).world ((token first).world given) = (token second).world given := by
  have exchanges : (given.exchanges.map (·.carrying first)).map (·.carrying second) =
      given.exchanges.map (·.carrying second) := by
    rw [List.map_map]
    rfl
  exact congrArg (fun exchanges => { given with exchanges }) exchanges

theorem session_token_token
    (first second : String)
    (given : Session) :
    (token second).session ((token first).session given) = (token second).session given := by
  obtain ⟨config, client, world⟩ := given
  have clients : (client.map (token first).client).map (token second).client =
      client.map (token second).client := by
    cases client <;> rfl
  rw [session, session_client, clients, session_world, world_token_token]
  rfl

/-- Every exchange that carries a token has it in its access header. -/
theorem access_of_mem
    {carried : String}
    {exchanges : List Http.Exchange}
    (carries : exchanges.map (·.carrying carried) = exchanges) :
    ∀ exchange ∈ exchanges,
      exchange.request.access = ⟨"x-km-accesskey", "Bearer " ++ carried⟩ := by
  intro exchange member
  rw [← carries] at member
  obtain ⟨other, _, rfl⟩ := List.mem_map.mp member
  rfl

end Disguise

/-! ## Environments -/

/-- The environments hold the same in all variables but the one of the token. -/
def Environment.AlikeButToken (first second : Environment) : Prop :=
  ∀ name, name ≠ Config.tokenVariable → first.text? name = second.text? name

/-- The endpoint that an environment gives, or the usual one. -/
def Environment.endpoint (environment : Environment) : String :=
  ((environment.text? Config.endpointVariable).filter (!Text.isAllBlank ·)).getD
    Config.usualEndpoint

namespace Config

/-- A token that is not blank is all that an environment needs to give. -/
theorem ofEnvironment_of_token
    {environment : Environment}
    {token : String}
    (given : environment.text? tokenVariable = some token)
    (notBlank : Text.isAllBlank token = false) :
    ofEnvironment environment = .ok ⟨environment.endpoint, token, policyOf environment⟩ := by
  have kept : (some token).filter (!Text.isAllBlank ·) = some token := by
    simp [Option.filter, notBlank]
  simp only [ofEnvironment, given, kept]
  rfl

/-- Environments that are alike but for their tokens give configurations that are so. -/
theorem ofEnvironment_carrying
    {firstEnvironment secondEnvironment : Environment}
    {first second : String}
    (alike : firstEnvironment.AlikeButToken secondEnvironment)
    (givenFirst : firstEnvironment.text? tokenVariable = some first)
    (givenSecond : secondEnvironment.text? tokenVariable = some second)
    (notBlankFirst : Text.isAllBlank first = false)
    (notBlankSecond : Text.isAllBlank second = false) :
    ∃ config : Config,
      ofEnvironment firstEnvironment = .ok (config.carrying first) ∧
      ofEnvironment secondEnvironment = .ok (config.carrying second) := by
  have sameEndpoint : firstEnvironment.endpoint = secondEnvironment.endpoint := by
    rw [Environment.endpoint, alike endpointVariable (by decide), Environment.endpoint]
  have samePolicy : policyOf firstEnvironment = policyOf secondEnvironment := by
    rw [policyOf, alike acceptAnyVariable (by decide), policyOf]
  refine ⟨⟨firstEnvironment.endpoint, first, policyOf firstEnvironment⟩,
    ofEnvironment_of_token givenFirst notBlankFirst, ?_⟩
  rw [ofEnvironment_of_token givenSecond notBlankSecond, sameEndpoint, samePolicy]
  rfl

end Config

/-! ## Runs of command lines -/

namespace CommandLine

variable
  {firstEnvironment secondEnvironment : Environment}
  {first second : String}
  (alike : firstEnvironment.AlikeButToken secondEnvironment)
  (givenFirst : firstEnvironment.text? Config.tokenVariable = some first)
  (givenSecond : secondEnvironment.text? Config.tokenVariable = some second)
  (notBlankFirst : Text.isAllBlank first = false)
  (notBlankSecond : Text.isAllBlank second = false)
include alike givenFirst givenSecond notBlankFirst notBlankSecond

/-- A command line leaves the same with either of two tokens that can be used. -/
theorem run_carrying
    (usableFirst : Config.isUsableToken first = true)
    (usableSecond : Config.isUsableToken second = true)
    (words : List String)
    {world : World}
    (fresh : world.exchanges = []) :
    run words secondEnvironment world =
      ((run words firstEnvironment world).1,
        (Disguise.token second).world (run words firstEnvironment world).2) := by
  obtain ⟨config, readsFirst, readsSecond⟩ := Config.ofEnvironment_carrying alike givenFirst
    givenSecond notBlankFirst notBlankSecond
  unfold run
  cases Invocation.read words with
  | error halt => exact Prod.ext rfl (Disguise.world_token_of_fresh fresh second).symm
  | ok invocation =>
      have usableCarrying := (config.hasUsableToken_carrying first).trans usableFirst
      have ran : ∀ given : World, given.exchanges = [] →
          runCommand (config.carrying second) invocation given =
            ((runCommand (config.carrying first) invocation given).1,
              (Disguise.token second).world
                (runCommand (config.carrying first) invocation given).2) :=
        fun given fresh =>
          Disguise.runCommand_carrying_of_fresh usableCarrying usableSecond invocation fresh
      have sameDirective : secondEnvironment.text? directiveVariable =
          firstEnvironment.text? directiveVariable := (alike directiveVariable (by decide)).symm
      simp only [runInvocation, readsFirst, readsSecond, sameDirective]
      have left := ran
        { world.hushed with journal := { world.journal with enabled := invocation.journal } } fresh
      rw [left]
      rfl

/-- A command line leaves the same with either of two tokens that cannot be used, and
sends nothing. -/
theorem run_refused
    (refusedFirst : Config.isUsableToken first = false)
    (refusedSecond : Config.isUsableToken second = false)
    (words : List String)
    (world : World) :
    run words secondEnvironment world = run words firstEnvironment world ∧
      (run words firstEnvironment world).2.exchanges = world.exchanges := by
  obtain ⟨config, readsFirst, readsSecond⟩ := Config.ofEnvironment_carrying alike givenFirst
    givenSecond notBlankFirst notBlankSecond
  unfold run
  cases Invocation.read words with
  | error halt => exact ⟨rfl, rfl⟩
  | ok invocation =>
      have ranFirst := Disguise.runCommand_of_refused
        ((config.hasUsableToken_carrying first).trans refusedFirst) invocation
      have ranSecond := Disguise.runCommand_of_refused
        ((config.hasUsableToken_carrying second).trans refusedSecond) invocation
      have sameDirective : secondEnvironment.text? directiveVariable =
          firstEnvironment.text? directiveVariable := (alike directiveVariable (by decide)).symm
      simp only [runInvocation, readsFirst, readsSecond, ranFirst, ranSecond, sameDirective,
        true_and]
      rfl

end CommandLine

/-! ## The law -/

/-- What two tokens have in common in all that a run gives and leaves. -/
structure TokensAlike (first second : String) : Prop where
  /-- From the same session, the same turns show the same with either token that can be
  used: results, exchanges, bound models, files and all that is said, but for the token in the
  access headers and in a configuration that is shown. -/
  sessions : Config.isUsableToken first = true → Config.isUsableToken second = true →
    ∀ (session : Session) (turns : List Turn),
      ((Disguise.token second).session session).observations turns =
        (((Disguise.token first).session session).observations turns).map
          (Disguise.token second).observation
  /-- Every request of a session has the token in its access header. -/
  sessionKeys : Config.isUsableToken first = true →
    ∀ (session : Session) (turns : List Turn),
      ∀ seen ∈ ((Disguise.token first).session session).observations turns,
        ∀ exchange ∈ seen.exchanges,
          exchange.request.access = ⟨"x-km-accesskey", "Bearer " ++ first⟩
  /-- In environments that differ in the token alone, a command line leaves the same output, with
  the events that are shown, and the same world with either token that can be used, but for the
  token in the access headers; every request has the token there. -/
  commandLines : Config.isUsableToken first = true → Config.isUsableToken second = true →
    Text.isAllBlank first = false → Text.isAllBlank second = false →
    ∀ firstEnvironment secondEnvironment : Environment,
      firstEnvironment.AlikeButToken secondEnvironment →
      firstEnvironment.text? Config.tokenVariable = some first →
      secondEnvironment.text? Config.tokenVariable = some second →
      ∀ (words : List String) (world : World), world.exchanges = [] →
        (CommandLine.run words secondEnvironment world).1 =
            (CommandLine.run words firstEnvironment world).1 ∧
          (CommandLine.run words secondEnvironment world).2 =
            (Disguise.token second).world (CommandLine.run words firstEnvironment world).2 ∧
          ∀ exchange ∈ (CommandLine.run words firstEnvironment world).2.exchanges,
            exchange.request.access = ⟨"x-km-accesskey", "Bearer " ++ first⟩
  /-- A diagnostic does not tell the token of a configuration. -/
  diagnostics : ∀ config : Config,
    (config.carrying second).diagnostic = (config.carrying first).diagnostic
  /-- Neither of two tokens that cannot be used opens a client; the failure is the same
  and nothing is sent. -/
  refusedOpenings : Config.isUsableToken first = false → Config.isUsableToken second = false →
    ∀ (session : Session) (opening : Opening) (network : Http.Network),
      ∀ token ∈ [first, second],
        (((Disguise.token token).session session).take ⟨.opening opening, network⟩).1 =
            .failed (.configuration .tokenRefused) ∧
          (((Disguise.token token).session session).take
            ⟨.opening opening, network⟩).2.world.exchanges = []
  /-- In environments that differ in the token alone, a command line leaves the same with
  either of two tokens that cannot be used, and sends nothing. -/
  refusedCommandLines : Config.isUsableToken first = false →
    Config.isUsableToken second = false →
    Text.isAllBlank first = false → Text.isAllBlank second = false →
    ∀ firstEnvironment secondEnvironment : Environment,
      firstEnvironment.AlikeButToken secondEnvironment →
      firstEnvironment.text? Config.tokenVariable = some first →
      secondEnvironment.text? Config.tokenVariable = some second →
      ∀ (words : List String) (world : World), world.exchanges = [] →
        CommandLine.run words secondEnvironment world =
            CommandLine.run words firstEnvironment world ∧
          (CommandLine.run words firstEnvironment world).2.exchanges = []

namespace Session

/-- A session shows the same with another token that can be used. -/
theorem observations_carrying
    {first second : String}
    (usableFirst : Config.isUsableToken first = true)
    (usableSecond : Config.isUsableToken second = true)
    (session : Session)
    (turns : List Turn) :
    ((Disguise.token second).session session).observations turns =
      (((Disguise.token first).session session).observations turns).map
        (Disguise.token second).observation := by
  have usable : (Disguise.token second).KeepsUsable
      ((Disguise.token first).session session).config := usableSecond.trans usableFirst.symm
  rw [← Disguise.session_token_token first second session]
  exact (Disguise.token second).observations_session (Disguise.keepsPolicy_token second) usable
    turns

/-- A session whose token cannot be used opens no client and sends nothing. -/
theorem take_opening_of_refused
    {session : Session}
    (refused : session.config.hasUsableToken = false)
    (opening : Opening)
    (network : Http.Network) :
    (session.take ⟨.opening opening, network⟩).1 = .failed (.configuration .tokenRefused) ∧
      (session.take ⟨.opening opening, network⟩).2.world.exchanges = [] := by
  have notOpened : ∀ bound, Client.opened session.config bound =
      .error (.configuration .tokenRefused) := by
    intro bound
    rw [Client.opened, refused]
    rfl
  have sameConfig : (session.facing network).config = session.config := rfl
  have ends : opening.client session.config (session.facing network).world =
      (.error (.configuration .tokenRefused), (session.facing network).world) := by
    cases opening with
    | unbound => exact Prod.ext (notOpened none) rfl
    | bound model => exact Prod.ext (notOpened (some model)) rfl
    | creating proposal => simp only [Opening.client, Client.openedByCreating, notOpened]
  simp only [take, step, sameConfig, ends, true_and]
  rfl

end Session

/-- Nothing but the access header of its requests tells which token a run had. -/
theorem tokensAlike (first second : String) : TokensAlike first second where
  sessions usableFirst usableSecond := Session.observations_carrying usableFirst usableSecond
  sessionKeys usable session turns seen member := by
    have carries := Session.observations_carrying usable usable session turns
    rw [carries] at member
    obtain ⟨other, _, rfl⟩ := List.mem_map.mp member
    intro exchange inSeen
    obtain ⟨held, _, rfl⟩ := List.mem_map.mp inSeen
    rfl
  commandLines usableFirst usableSecond notBlankFirst notBlankSecond
      firstEnvironment secondEnvironment alike givenFirst givenSecond words world fresh := by
    have ran := CommandLine.run_carrying alike givenFirst givenSecond notBlankFirst notBlankSecond
      usableFirst usableSecond words fresh
    have ranAgain := CommandLine.run_carrying (fun _ _ => rfl) givenFirst givenFirst
      notBlankFirst notBlankFirst usableFirst usableFirst words fresh
    have carries := congrArg World.exchanges (congrArg Prod.snd ranAgain)
    refine ⟨?_, ?_, Disguise.access_of_mem carries.symm⟩
    · rw [ran]
    · rw [ran]
  diagnostics _ := rfl
  refusedOpenings refusedFirst refusedSecond session opening network token member := by
    refine Session.take_opening_of_refused ?_ opening network
    rcases List.mem_cons.mp member with rfl | inRest
    · exact refusedFirst
    · rw [List.mem_singleton.mp inRest]
      exact refusedSecond
  refusedCommandLines refusedFirst refusedSecond notBlankFirst notBlankSecond
      firstEnvironment secondEnvironment alike givenFirst givenSecond words world fresh := by
    have ran := CommandLine.run_refused alike givenFirst givenSecond notBlankFirst notBlankSecond
      refusedFirst refusedSecond words world
    exact ⟨ran.1, ran.2.trans fresh⟩

/-- A client that resolves its model shows the same with either of two tokens, and has its
own in the header of its request. -/
theorem tokensAlike_sample :
    Config.isUsableToken "a" = true ∧ Config.isUsableToken "b" = true ∧
      (((Disguise.token "b").session .sample).observations
        [⟨.opening .unbound, .unreachable⟩, ⟨.action .resolve, .reachable [.sample]⟩]).map
          (fun seen => (seen.bound, seen.exchanges.map (·.request.access))) =
        [(none, []), (some "m", [⟨"x-km-accesskey", "Bearer b"⟩])] := by
  have usableFirst : Config.isUsableToken "a" = true := by decide +kernel
  have usableSecond : Config.isUsableToken "b" = true := by decide +kernel
  refine ⟨usableFirst, usableSecond, ?_⟩
  rw [(tokensAlike "a" "b").sessions usableFirst usableSecond]
  decide +kernel

end KnowledgeClient
