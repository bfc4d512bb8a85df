import KnowledgeClient.Http.Status
import KnowledgeClient.Text.Decoded

/-!
# Requests and their answers

A request carries nothing, a JSON text, or a form with one file.  It is answered by
a reply, whose body may be cut off before its end, or the connection is dropped.
-/

namespace KnowledgeClient
namespace Http

/-- What a request asks for. -/
inductive Method
  | get
  | post
  | delete
deriving DecidableEq, Repr

/-- The part of a form that carries a file. -/
structure FilePart where
  field : String
  fileName : String
  mediaType : String
  content : Bytes
deriving DecidableEq, Repr

/-- What a request carries. -/
inductive Payload
  | nothing
  | json (text : String)
  | form (part : FilePart)
deriving DecidableEq, Repr

/-- A header of a request: its name and its value. -/
structure Header where
  name : String
  value : String
deriving DecidableEq, Repr

/-- A request as it is sent: with the text of its URL and the header that gives access. -/
structure Request where
  method : Method
  url : String
  access : Header
  payload : Payload
deriving DecidableEq, Repr

/-- A reply: its status, and the bytes of its body that arrive, all of them or not. -/
structure Reply where
  status : Status
  body : Bytes
  complete : Bool
deriving DecidableEq, Repr

/-- The text of a body that arrived to its end; some statuses have no body, whatever arrives. -/
def Reply.text? (reply : Reply) : Option String :=
  if reply.status.isBodiless then some ""
  else if reply.complete then some (Text.decodeMarked reply.body)
  else none

/-- What a request is answered by. -/
inductive Answer
  | reply (reply : Reply)
  | dropped
deriving DecidableEq, Repr

/-- A request and what it was answered by. -/
structure Exchange where
  request : Request
  answer : Answer
deriving DecidableEq, Repr

/-- The network as a run meets it: out of reach, or with the answers it gives to the requests
that come, in their order; when they are used up it drops every connection. -/
inductive Network
  | unreachable
  | reachable (answers : List Answer)
deriving DecidableEq, Repr

/-- The answers that a network still gives. -/
def Network.answers : Network → List Answer
  | .unreachable => []
  | .reachable answers => answers

end Http
end KnowledgeClient
