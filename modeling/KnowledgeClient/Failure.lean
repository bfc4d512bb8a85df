import KnowledgeClient.Files.Tree
import KnowledgeClient.Http.Host
import KnowledgeClient.Http.Status
import KnowledgeClient.Json.Fault

/-!
# Failures

What can go wrong with an operation, in the order in which it can: the settings, a
file, a request that gets no answer, an answer with a status that tells failure, an
answer that does not read.  A document that cannot be removed is the one failure
that others need not stop for.
-/

namespace KnowledgeClient

/-- Why a request got no answer, or an answer could not be read to its end. -/
inductive TransportFault
  | badUrl (fault : Http.UrlFault)
  | badScheme (url : String)
  | badAddress (url : String)
  | unreachable (url : String)
  | bodyUnreadable (url : String)
  | dropped (url : String)
  | cutOff
deriving DecidableEq, Repr

namespace TransportFault

/-- The message of a request that was not sent to its end. -/
def sendingMessage (url : String) : String :=
  "error sending request for url (" ++ url ++ ")"

/-- The message of a request that cannot be sent to a URL at all. -/
def refusingMessage (url : String) : String :=
  "builder error for url (" ++ url ++ ")"

/-- A reason in words. -/
def message : TransportFault → String
  | .badUrl _ => "builder error"
  | .badScheme url => refusingMessage url
  | .badAddress url => refusingMessage url
  | .unreachable url => sendingMessage url
  | .bodyUnreadable url => sendingMessage url
  | .dropped url => sendingMessage url
  | .cutOff => "error decoding response body"

/-- What a reason comes from, nearest first. -/
def causes : TransportFault → List String
  | .badUrl fault => [fault.message]
  | .badScheme _ => ["URL scheme is not allowed"]
  | .badAddress _ => ["Parsed Url is not a valid Uri"]
  | .unreachable _ =>
    ["client error (Connect)", "tcp connect error", "Network is unreachable (os error 101)"]
  | .bodyUnreadable _ =>
    ["client error (SendRequest)", "error from user's Body stream", Files.Fault.isFolder.message]
  | .dropped _ => ["client error (SendRequest)", "connection closed before message completed"]
  | .cutOff =>
    ["request or response body error", "error reading a body from connection",
      "end of file before message length reached"]

end TransportFault

/-- What is wrong with the settings. -/
inductive ConfigFault
  | notSet (name : String)
  | tokenRefused
  | other (reason : String)
deriving DecidableEq, Repr

/-- A reason in words. -/
def ConfigFault.message : ConfigFault → String
  | .notSet name => name ++ " is not set"
  | .tokenRefused => "invalid access token: failed to parse header value"
  | .other reason => reason

/-- Why an operation failed. -/
inductive Failure
  | noModelAvailable
  | uploadFailed (status : Http.Status) (body : String)
  | requestFailed (fault : TransportFault)
  | deleteFailed (documentId : String) (status : Http.Status)
  | chatFailed (status : Http.Status) (body : String)
  | unexpectedStatus (status : Http.Status) (body : String)
  | invalidPayload (fault : Json.Fault)
  | unreadable (path : Files.Path) (reason : Files.Fault)
  | configuration (fault : ConfigFault)
deriving DecidableEq, Repr

namespace Failure

/-- A status and a body in words. -/
def statusAndBody (status : Http.Status) (body : String) : String :=
  status.text ++ " -> " ++ body

/-- A failure in words. -/
def message : Failure → String
  | .noModelAvailable => "no knowledge model available"
  | .uploadFailed status body => "upload failed: " ++ statusAndBody status body
  | .requestFailed fault => "request failed: " ++ fault.message
  | .deleteFailed documentId status =>
    "delete of document " ++ documentId ++ " failed: " ++ status.text
  | .chatFailed status body => "chat completion failed: " ++ statusAndBody status body
  | .unexpectedStatus status body => "unexpected status: " ++ statusAndBody status body
  | .invalidPayload fault => "invalid payload: " ++ fault.message
  | .unreadable path reason => "cannot read " ++ path.display ++ ": " ++ reason.message
  | .configuration fault => "configuration error: " ++ fault.message

/-- What a failure comes from, nearest first. -/
def causes : Failure → List String
  | .requestFailed fault => fault.message :: fault.causes
  | .invalidPayload fault => [fault.message]
  | .unreadable _ reason => [reason.message]
  | _ => []

/-- The status that the service answered with, if that is what failed. -/
def status? : Failure → Option Http.Status
  | .uploadFailed status _ => some status
  | .deleteFailed _ status => some status
  | .chatFailed status _ => some status
  | .unexpectedStatus status _ => some status
  | _ => none

/-- The failure is no reason to stop a run over many documents. -/
def isNonFatal : Failure → Bool
  | .deleteFailed _ _ => true
  | _ => false

end Failure

end KnowledgeClient
