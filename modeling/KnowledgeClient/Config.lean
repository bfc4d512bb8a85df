import KnowledgeClient.Failure
import KnowledgeClient.Http.Request
import KnowledgeClient.Text.Blank
import KnowledgeClient.Text.Quoted

/-!
# Configuration

Where the service is, the token that opens it, and whether a chat may be answered
with a status that tells failure.  The environment gives all three; only the token
must be there.  The token is never shown.
-/

namespace KnowledgeClient

/-- What a chat answer with a status that tells failure means. -/
inductive ChatPolicy
  | requireSuccess
  | acceptAny
deriving DecidableEq, Repr

/-- The name of a policy. -/
def ChatPolicy.name : ChatPolicy → String
  | .requireSuccess => "RequireSuccess"
  | .acceptAny => "AcceptAny"

/-- The variables of an environment and their values. -/
abbrev Environment := List (String × Bytes)

/-- The value of a variable; one that is no text counts as not set. -/
def Environment.text? (environment : Environment) (name : String) : Option String :=
  (environment.lookup name).bind Text.decode?

/-- Where the service is and how it is used. -/
structure Config where
  endpoint : String
  token : String
  policy : ChatPolicy
deriving DecidableEq, Repr

namespace Config

/-- The endpoint that is used unless another is given. -/
def usualEndpoint : String :=
  "https://training.constructor.app/api/platform-kmapi/v1"

/-- The variable that holds the token. -/
def tokenVariable : String := "CONSTRUCTOR_APP_API_TOKEN"

/-- The variable that holds the endpoint. -/
def endpointVariable : String := "CONSTRUCTOR_APP_API_ENDPOINT"

/-- The variable that lets a chat be answered with any status. -/
def acceptAnyVariable : String := "KMFORGE_ACCEPT_ANY_STATUS"

/-- The values of that variable that do so. -/
def acceptingWords : List String := ["1", "true", "yes"]

/-- The configuration that requires a chat to succeed. -/
def requiring (endpoint token : String) : Config :=
  ⟨endpoint, token, .requireSuccess⟩

/-- The policy of an environment. -/
def policyOf (environment : Environment) : ChatPolicy :=
  match environment.text? acceptAnyVariable with
  | some word => if acceptingWords.contains (Text.trim word) then .acceptAny else .requireSuccess
  | none => .requireSuccess

/-- The configuration of an environment. -/
def ofEnvironment (environment : Environment) : Except Failure Config :=
  let given (name : String) : Option String :=
    (environment.text? name).filter (!Text.isAllBlank ·)
  match given tokenVariable with
  | some token =>
    .ok ⟨(given endpointVariable).getD usualEndpoint, token, policyOf environment⟩
  | none => .error (.configuration (.notSet tokenVariable))

/-- The address of a path below an endpoint, with exactly one slash between the two. -/
def join (endpoint path : String) : String :=
  String.ofList <|
    Text.dropWhileEnd (· == '/') endpoint.toList ++ '/' :: path.toList.dropWhile (· == '/')

/-- The address of a path below the endpoint. -/
def url (config : Config) (path : String) : String :=
  join config.endpoint path

/-- The configuration as a diagnostic shows it, without its token. -/
def diagnostic (config : Config) : String :=
  "ClientConfig \x7b endpoint: " ++ Text.quoted config.endpoint ++
    ", token: \"<redacted>\", chat_status_policy: " ++ config.policy.name ++ " \x7d"

/-- The header that gives access: it carries the token. -/
def accessHeader (config : Config) : Http.Header :=
  ⟨"x-km-accesskey", "Bearer " ++ config.token⟩

/-- A byte that may stand in the value of a header. -/
def isHeaderByte (b : UInt8) : Bool :=
  b == 9 || (0x20 ≤ b && b != 0x7F)

/-- The token may stand in the access header. -/
def hasUsableToken (config : Config) : Bool :=
  (Text.encode config.token).all isHeaderByte

end Config

end KnowledgeClient
