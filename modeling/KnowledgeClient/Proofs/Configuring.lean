import KnowledgeClient.Proofs.Encoding
import KnowledgeClient.Proofs.LocalFailures
import KnowledgeClient.Proofs.Scanning
import KnowledgeClient.Proofs.Trimming

/-!
# What an environment configures

A variable is used if its bytes are the encoding of a text that is not all white space, and then
as it stands; otherwise it counts as unset.  The token must be used, the endpoint may be, and
the variable for the policy is compared without the white space at its ends.  So a configuration
depends on three variables, and on each only up to what its values have in common.
-/

namespace KnowledgeClient

namespace Environment

open Config

/-! ## Variables -/

/-- The variable has a text with a character that is not white space. -/
def Uses
    (environment : Environment)
    (name text : String) : Prop :=
  environment.lookup name = some (Text.encode text) ∧ ∃ c ∈ text.toList, c.toNat ∉ Text.whiteSpace

/-- The variable is unset, is no text, or is a text of white space alone. -/
inductive IsUnusable (environment : Environment) (name : String) : Prop
  | unset
      (isUnset : environment.lookup name = none)
  | noText (bytes : Bytes)
      (given : environment.lookup name = some bytes)
      (isNoText : ∀ text, bytes ≠ Text.encode text)
  | blank (text : String)
      (given : environment.lookup name = some (Text.encode text))
      (areWhite : Text.AreWhite text.toList)

/-- The variable for the policy has one of three words, with any white space around it. -/
def LetsPass (environment : Environment) : Prop :=
  ∃ text word, environment.lookup acceptAnyVariable = some (Text.encode text) ∧
    Text.Trims text word ∧ word ∈ ["1", "true", "yes"]

/-- The environment without a variable. -/
def without
    (environment : Environment)
    (name : String) : Environment :=
  environment.filter (·.1 != name)

/-- What a variable gives that must not be blank. -/
def given?
    (environment : Environment)
    (name : String) : Option String :=
  (environment.text? name).filter (!Text.isAllBlank ·)

variable
  {environment one other : Environment}
  {name text : String}

theorem text?_eq_some_iff :
    environment.text? name = some text ↔ environment.lookup name = some (Text.encode text) := by
  simp only [text?, Option.bind_eq_some_iff, Text.decode?_eq_some_iff, exists_eq_right]

theorem text?_eq_none_iff :
    environment.text? name = none ↔
      ∀ bytes, environment.lookup name = some bytes → ∀ text, bytes ≠ Text.encode text := by
  rw [text?, Option.bind_eq_none_iff]
  simp only [Option.eq_none_iff_forall_ne_some, ne_eq, Text.decode?_eq_some_iff]

/-- What is used is given as it stands. -/
theorem given?_eq_some_iff : environment.given? name = some text ↔ environment.Uses name text := by
  rw [given?, Option.filter_eq_some_iff, text?_eq_some_iff, Uses, ← Text.not_areWhite_iff,
    Text.areWhite_iff_isAllBlank, Bool.not_eq_true', Bool.not_eq_true]

theorem given?_eq_none_iff : environment.given? name = none ↔ environment.IsUnusable name := by
  rw [given?]
  constructor
  · intro nothing
    cases isSet : environment.lookup name with
    | none => exact .unset isSet
    | some bytes =>
        cases isText : environment.text? name with
        | none => exact .noText bytes isSet (text?_eq_none_iff.mp isText bytes isSet)
        | some text =>
            have areWhite : Text.isAllBlank text = true := by
              simpa [isText, Option.filter] using nothing
            exact .blank text (text?_eq_some_iff.mp isText)
              ((Text.areWhite_iff_isAllBlank text).mpr areWhite)
  · rintro (isUnset | ⟨bytes, isSet, isNoText⟩ | ⟨text, isSet, areWhite⟩)
    · simp [text?, isUnset]
    · have nothing : environment.text? name = none := by
        refine text?_eq_none_iff.mpr fun other isOther => ?_
        obtain rfl := Option.some.inj (isSet.symm.trans isOther)
        exact isNoText
      simp [nothing]
    · have isBlank := (Text.areWhite_iff_isAllBlank text).mp areWhite
      simp [text?_eq_some_iff.mpr isSet, isBlank]

theorem lookup_without
    (environment : Environment)
    (name other : String) :
    (environment.without name).lookup other =
      if other = name then none else environment.lookup other := by
  unfold without
  induction environment with
  | nil => simp
  | cons pair environment inductionHypothesis =>
      rw [List.filter_cons, List.lookup_cons]
      by_cases left : pair.1 = name
      · subst left
        rw [if_neg (by simp), inductionHypothesis]
        by_cases same : other = pair.1
        · rw [if_pos same, if_pos same]
        · rw [if_neg same, if_neg same, beq_false_of_ne same]
      · rw [if_pos (by simpa using left), List.lookup_cons, inductionHypothesis]
        by_cases same : other = pair.1
        · simp [same, left]
        · rw [beq_false_of_ne same]

/-- A text lets any status pass exactly if it is one of the three words once trimmed. -/
theorem letsPass_iff
    {core : String}
    (given : environment.lookup acceptAnyVariable = some (Text.encode text))
    (trims : Text.Trims text core) :
    environment.LetsPass ↔ core ∈ ["1", "true", "yes"] := by
  constructor
  · rintro ⟨other, word, otherGiven, otherTrims, isWord⟩
    obtain rfl := Text.encode_inj.mp (Option.some.inj (given.symm.trans otherGiven))
    rwa [← (Text.trims_iff _ _).mp trims, (Text.trims_iff _ _).mp otherTrims]
  · intro isWord
    exact ⟨text, core, given, trims, isWord⟩

/-- A variable that cannot be used does not let any status pass. -/
theorem not_letsPass_of_isUnusable
    (unusable : environment.IsUnusable acceptAnyVariable) :
    ¬ environment.LetsPass := by
  cases unusable with
  | unset isUnset =>
      rintro ⟨text, _, given, _⟩
      rw [isUnset] at given
      cases given
  | noText bytes given isNoText =>
      rintro ⟨text, _, textGiven, _⟩
      exact isNoText text (Option.some.inj (given.symm.trans textGiven))
  | blank text given areWhite =>
      rw [letsPass_iff given areWhite.trims]
      decide

/-! ## Environments that are alike -/

/-- The variable is the same in both environments, unusable in both, or, if it is that for the
policy, the same but for white space at its ends or none of the three words in either. -/
inductive AlikeAt (one other : Environment) (name : String) : Prop
  | same
      (sameValue : one.lookup name = other.lookup name)
  | unusable
      (isUnusable : one.IsUnusable name)
      (isOtherUnusable : other.IsUnusable name)
  | padded (text otherText core : String)
      (isPolicy : name = acceptAnyVariable)
      (given : one.lookup name = some (Text.encode text))
      (otherGiven : other.lookup name = some (Text.encode otherText))
      (trims : Text.Trims text core)
      (otherTrims : Text.Trims otherText core)
  | refused
      (isPolicy : name = acceptAnyVariable)
      (refuses : ¬ one.LetsPass)
      (otherRefuses : ¬ other.LetsPass)

/-- The environments are alike in the three variables of a configuration. -/
def Alike (one other : Environment) : Prop :=
  ∀ name ∈ [tokenVariable, endpointVariable, acceptAnyVariable], AlikeAt one other name

theorem given?_congr
    (notPolicy : name ≠ acceptAnyVariable)
    (alike : AlikeAt one other name) :
    one.given? name = other.given? name := by
  cases alike with
  | same sameValue => rw [given?, text?, sameValue, given?, text?]
  | unusable isUnusable isOtherUnusable =>
      rw [given?_eq_none_iff.mpr isUnusable, given?_eq_none_iff.mpr isOtherUnusable]
  | padded _ _ _ isPolicy => exact absurd isPolicy notPolicy
  | refused isPolicy => exact absurd isPolicy notPolicy

theorem letsPass_congr (alike : AlikeAt one other acceptAnyVariable) :
    one.LetsPass ↔ other.LetsPass := by
  cases alike with
  | same sameValue => rw [LetsPass, sameValue, LetsPass]
  | unusable isUnusable isOtherUnusable =>
      exact iff_of_false (not_letsPass_of_isUnusable isUnusable)
        (not_letsPass_of_isUnusable isOtherUnusable)
  | padded text otherText core _ given otherGiven trims otherTrims =>
      rw [letsPass_iff given trims, letsPass_iff otherGiven otherTrims]
  | refused _ refuses otherRefuses => exact iff_of_false refuses otherRefuses

/-- A variable that cannot be used might as well not be there. -/
theorem alike_without (unusable : environment.IsUnusable name) :
    Alike environment (environment.without name) := by
  intro other _
  have left := lookup_without environment name other
  by_cases same : other = name
  · rw [if_pos same] at left
    exact .unusable (same ▸ unusable) (.unset left)
  · rw [if_neg same] at left
    exact .same left.symm

end Environment

namespace Config

open Environment

variable
  {environment one other : Environment}
  {config : Config}

/-! ## Configurations -/

/-- The policy of an environment lets any status pass if its variable does. -/
theorem policyOf_eq_acceptAny_iff : policyOf environment = .acceptAny ↔ environment.LetsPass := by
  unfold policyOf
  cases isText : environment.text? acceptAnyVariable with
  | none =>
      refine iff_of_false (by simp) ?_
      rintro ⟨text, _, given, _⟩
      exact text?_eq_none_iff.mp isText _ given text rfl
  | some text =>
      have trims := (Text.trims_iff text _).mpr rfl
      rw [letsPass_iff (text?_eq_some_iff.mp isText) trims, ← List.contains_iff_mem]
      dsimp only
      split_ifs with isWord
      · exact iff_of_true rfl isWord
      · exact iff_of_false (by simp) isWord

theorem ofEnvironment_of_given
    {token : String}
    (given : environment.given? tokenVariable = some token) :
    ofEnvironment environment = .ok ⟨environment.endpoint, token, policyOf environment⟩ := by
  obtain ⟨isText, notBlank⟩ := Option.filter_eq_some_iff.mp given
  exact ofEnvironment_of_token isText (by simpa using notBlank)

theorem ofEnvironment_of_not_given
    (notGiven : environment.given? tokenVariable = none) :
    ofEnvironment environment = .error (.configuration (.notSet tokenVariable)) := by
  unfold given? at notGiven
  simp only [ofEnvironment, notGiven]

/-- The endpoint of a configuration is the one that is used, or else the usual one. -/
theorem endpoint_eq_iff (endpoint : String) :
    environment.endpoint = endpoint ↔
      environment.Uses endpointVariable endpoint ∨
        environment.IsUnusable endpointVariable ∧ endpoint = usualEndpoint := by
  have isGiven : environment.endpoint =
      (environment.given? endpointVariable).getD usualEndpoint := rfl
  rw [isGiven, ← given?_eq_some_iff, ← given?_eq_none_iff]
  cases environment.given? endpointVariable with
  | none => simp [eq_comm]
  | some given => simp

theorem policy_eq_iff
    {first second : ChatPolicy} :
    first = second ↔ (first = .acceptAny ↔ second = .acceptAny) := by
  cases first <;> cases second <;> simp

/-- A configuration is that of an environment exactly if all that it has is. -/
theorem ofEnvironment_eq_ok_iff :
    ofEnvironment environment = .ok config ↔
      environment.Uses tokenVariable config.token ∧
      (environment.Uses endpointVariable config.endpoint ∨
        environment.IsUnusable endpointVariable ∧ config.endpoint = usualEndpoint) ∧
      (config.policy = .acceptAny ↔ environment.LetsPass) := by
  rw [← given?_eq_some_iff, ← endpoint_eq_iff, ← policyOf_eq_acceptAny_iff, ← policy_eq_iff]
  cases given : environment.given? tokenVariable with
  | none => simp [ofEnvironment_of_not_given given]
  | some token =>
      rw [ofEnvironment_of_given given]
      obtain ⟨endpoint, configToken, policy⟩ := config
      simp only [Except.ok.injEq, Config.mk.injEq, Option.some.injEq]
      constructor
      · rintro ⟨sameEndpoint, sameToken, samePolicy⟩
        exact ⟨sameToken, sameEndpoint, samePolicy.symm⟩
      · rintro ⟨sameToken, sameEndpoint, samePolicy⟩
        exact ⟨sameEndpoint, sameToken, samePolicy.symm⟩

theorem ofEnvironment_eq_error_iff (failure : Failure) :
    ofEnvironment environment = .error failure ↔
      environment.IsUnusable tokenVariable ∧ failure = .configuration (.notSet tokenVariable) := by
  rw [← given?_eq_none_iff]
  cases given : environment.given? tokenVariable with
  | none => simp [ofEnvironment_of_not_given given, eq_comm]
  | some token => simp [ofEnvironment_of_given given]

/-- Environments that are alike give the same, a configuration or a failure. -/
theorem ofEnvironment_congr (alike : Alike one other) :
    ofEnvironment one = ofEnvironment other := by
  have sameToken := given?_congr (by decide) (alike tokenVariable (by simp))
  have sameEndpoint : one.endpoint = other.endpoint :=
    congrArg (·.getD usualEndpoint)
      (given?_congr (by decide) (alike endpointVariable (by simp)))
  have samePolicy : policyOf one = policyOf other := by
    rw [policy_eq_iff, policyOf_eq_acceptAny_iff, policyOf_eq_acceptAny_iff]
    exact letsPass_congr (alike acceptAnyVariable (by simp))
  cases given : one.given? tokenVariable with
  | none =>
      rw [ofEnvironment_of_not_given given,
        ofEnvironment_of_not_given (sameToken.symm.trans given)]
  | some token =>
      rw [ofEnvironment_of_given given, ofEnvironment_of_given (sameToken.symm.trans given),
        sameEndpoint, samePolicy]

end Config

/-! ## Chats of command lines -/

namespace CommandLine

section Chats

variable
  {words : List String}
  {invocation : Invocation}
  {arguments : QueryArguments}

/-- A command has the endpoint and the token that it is given. -/
theorem commandConfig_keeps
    (config : Config)
    (command : Command) :
    (commandConfig config command).endpoint = config.endpoint ∧
      (commandConfig config command).token = config.token := by
  cases command with
  | query arguments =>
      cases anyStatus : arguments.acceptAnyStatus <;> simp [commandConfig, anyStatus]
  | _ => exact ⟨rfl, rfl⟩

/-- A chat lets any status pass if it is told so on the command line or by its configuration. -/
theorem policy_commandConfig_eq_iff
    (read : Invocation.read words = .ok invocation)
    (asks : invocation.command = .query arguments)
    (config : Config) :
    (commandConfig config invocation.command).policy = .acceptAny ↔
      "--accept-any-status" ∈ words ∨ config.policy = .acceptAny := by
  rw [← acceptAnyStatus_iff read asks, asks]
  cases anyStatus : arguments.acceptAnyStatus <;> simp [commandConfig, anyStatus]

/-- A command line that asks a chat does so with the client that can be opened, if any can. -/
theorem run_of_query
    {environment : Environment}
    {config : Config}
    (read : Invocation.read words = .ok invocation)
    (asks : invocation.command = .query arguments)
    (configured : Config.ofEnvironment environment = .ok config)
    (usable : config.hasUsableToken = true)
    (world : World) :
    let (report, left) := runQuery arguments (invocation.situation config world)
    run words environment world =
      (report.output (left.complaints (environment.text? directiveVariable)), left) := by
  rw [run_of_read read configured, runCommand_of_opens usable (by simp [asks]), asks]
  rfl

end Chats
end CommandLine

/-! ## The law -/

/-- What an environment and a command line configure. -/
structure ConfigurationLaw : Prop where
  /-- There is a configuration exactly if the token is a text that is not all white space. -/
  succeeds : ∀ environment : Environment,
    (∃ config, Config.ofEnvironment environment = .ok config) ↔
      ∃ token, environment.Uses Config.tokenVariable token
  /-- Otherwise the token is unset, no text or all white space, and said not to be set. -/
  fails : ∀ (environment : Environment) (failure : Failure),
    Config.ofEnvironment environment = .error failure ↔
      environment.IsUnusable Config.tokenVariable ∧
        failure = .configuration (.notSet Config.tokenVariable)
  /-- A configuration has the token as it stands; the endpoint as it stands, or the usual one
  where there is none that can be used; and lets any status pass exactly if the third variable
  is one of three words between white space. -/
  gives : ∀ (environment : Environment) (config : Config),
    Config.ofEnvironment environment = .ok config ↔
      environment.Uses Config.tokenVariable config.token ∧
      (environment.Uses Config.endpointVariable config.endpoint ∨
        environment.IsUnusable Config.endpointVariable ∧
          config.endpoint = Config.usualEndpoint) ∧
      (config.policy = .acceptAny ↔ environment.LetsPass)
  /-- An endpoint, or any other variable, that cannot be used might as well be unset. -/
  unset : ∀ (environment : Environment) (name : String), environment.IsUnusable name →
    (environment.without name).lookup name = none ∧
    (∀ other, other ≠ name → (environment.without name).lookup other = environment.lookup other) ∧
    Config.ofEnvironment (environment.without name) = Config.ofEnvironment environment
  /-- Environments in which each of the three variables is the same, unusable in both or, for
  the policy, the same between white space or none of the three words, give equal results. -/
  alike : ∀ one other : Environment, one.Alike other →
    Config.ofEnvironment one = Config.ofEnvironment other
  /-- A chat on a command line has a client with the endpoint and the token of the environment,
  which lets any status pass exactly if the flag is given or the environment says so.  Where the
  token is one that a header can carry, the client is opened and asked; otherwise it is not, and
  nothing is done. -/
  chats : ∀ (words : List String) (environment : Environment) (world : World)
      (invocation : CommandLine.Invocation) (arguments : CommandLine.QueryArguments)
      (config : Config),
    CommandLine.Invocation.read words = .ok invocation →
    invocation.command = .query arguments →
    Config.ofEnvironment environment = .ok config →
    ∃ client : Client,
      client.config.endpoint = config.endpoint ∧ client.config.token = config.token ∧
      (client.config.policy = .acceptAny ↔
        "--accept-any-status" ∈ words ∨ config.policy = .acceptAny) ∧
      (config.hasUsableToken = true →
        Client.opened client.config invocation.model = .ok client ∧
        CommandLine.run words environment world =
          let (report, left) :=
            CommandLine.runQuery arguments ⟨client, invocation.beginning world⟩
          let directive := environment.text? CommandLine.directiveVariable
          (report.output (left.complaints directive), left)) ∧
      (config.hasUsableToken = false →
        (∃ failure, Client.opened client.config invocation.model = .error failure) ∧
        (CommandLine.run words environment world).2 = invocation.beginning world)

/-- A configuration depends on three variables and a flag, and on each in its own way. -/
theorem configurationLaw : ConfigurationLaw where
  succeeds environment := by
    simp only [← Environment.given?_eq_some_iff]
    cases given : environment.given? Config.tokenVariable with
    | none => simp [Config.ofEnvironment_of_not_given given]
    | some token => simp [Config.ofEnvironment_of_given given]
  fails _ := Config.ofEnvironment_eq_error_iff
  gives _ _ := Config.ofEnvironment_eq_ok_iff
  unset environment name unusable := by
    have left := environment.lookup_without name
    refine ⟨by rw [left, if_pos rfl], fun other different => by rw [left, if_neg different], ?_⟩
    exact (Config.ofEnvironment_congr (Environment.alike_without unusable)).symm
  alike _ _ := Config.ofEnvironment_congr
  chats words environment world invocation arguments config read asks configured := by
    obtain ⟨sameEndpoint, sameToken⟩ := CommandLine.commandConfig_keeps config invocation.command
    have sameUsable := Disguise.hasUsableToken_commandConfig config invocation.command
    refine ⟨⟨CommandLine.commandConfig config invocation.command, invocation.model⟩, sameEndpoint,
      sameToken, CommandLine.policy_commandConfig_eq_iff read asks config, fun usable => ?_,
      fun refused => ?_⟩
    · exact ⟨Session.opened_of_usable (sameUsable.trans usable) invocation.model,
        CommandLine.run_of_query read asks configured usable world⟩
    · have notOpened : ¬ (CommandLine.commandConfig config invocation.command).hasUsableToken := by
        rw [sameUsable, refused]
        simp
      refine ⟨⟨_, if_neg notOpened⟩, ?_⟩
      rw [CommandLine.run_of_read read configured, Disguise.runCommand_of_refused refused]

/-- A token and a policy with white space around them and an endpoint that is no text, the same
with a blank endpoint and no white space around the policy, and a chat with the flag. -/
theorem configurationLaw_sample :
    let token := Text.encode "\u00a0t "
    let padded : Environment :=
      [(Config.tokenVariable, token), (Config.endpointVariable, [0xFF]),
        (Config.acceptAnyVariable, Text.encode "\u2003yes\n")]
    let plain : Environment :=
      [(Config.endpointVariable, Text.encode "\t"), (Config.tokenVariable, token),
        (Config.acceptAnyVariable, Text.encode "yes")]
    let words := ["query", "--prompt", "p", "--accept-any-status"]
    Config.ofEnvironment padded = .ok ⟨Config.usualEndpoint, "\u00a0t ", .acceptAny⟩ ∧
      Config.ofEnvironment padded = Config.ofEnvironment plain ∧
      ∃ client : Client,
        Client.opened client.config none = .ok client ∧ client.config.policy = .acceptAny ∧
        CommandLine.run words [(Config.tokenVariable, token)] (World.sample []) =
          let (report, left) :=
            CommandLine.runQuery ⟨.text "p", none, .usual, false, true, false⟩
              ⟨client, World.sample []⟩
          (report.output (left.complaints none), left) := by
  intro token padded plain words
  have yes : Text.Trims "yes" "yes" := (Text.trims_iff _ _).mpr (by decide +kernel)
  have paddedYes : Text.Trims "\u2003yes\n" "yes" := (Text.trims_iff _ _).mpr (by decide +kernel)
  have noText : padded.IsUnusable Config.endpointVariable := by
    refine .noText [0xFF] rfl fun text isText => ?_
    have undecoded : Text.decode? [0xFF] = none := by decide +kernel
    rw [(Text.decode?_eq_some_iff _ _).mpr isText] at undecoded
    cases undecoded
  have blank : plain.IsUnusable Config.endpointVariable :=
    Environment.given?_eq_none_iff.mp (by decide +kernel)
  have used : padded.Uses Config.tokenVariable "\u00a0t " :=
    Environment.given?_eq_some_iff.mp (by decide +kernel)
  have gives := configurationLaw.gives padded ⟨Config.usualEndpoint, "\u00a0t ", .acceptAny⟩
  refine ⟨gives.mpr ⟨used, .inr ⟨noText, rfl⟩, ?_⟩, ?_, ?_⟩
  · exact iff_of_true rfl ⟨_, "yes", rfl, paddedYes, by simp⟩
  · refine configurationLaw.alike _ _ fun name isVariable => ?_
    simp only [List.mem_cons, List.not_mem_nil, or_false] at isVariable
    rcases isVariable with rfl | rfl | rfl
    · exact .same rfl
    · exact .unusable noText blank
    · exact .padded _ _ "yes" rfl rfl rfl paddedYes yes
  · obtain ⟨client, _, _, policy, opens, _⟩ :=
      configurationLaw.chats words [(Config.tokenVariable, token)] (World.sample [])
        ⟨none, false, .query ⟨.text "p", none, .usual, false, true, false⟩⟩ _
        ⟨Config.usualEndpoint, "\u00a0t ", .requireSuccess⟩ (by decide +kernel) rfl
        (by decide +kernel)
    obtain ⟨opened, ran⟩ := opens (by decide +kernel)
    exact ⟨client, opened, policy.mpr (.inl (by simp [words])), ran⟩

end KnowledgeClient
