import KnowledgeClient.Json.Reader
import KnowledgeClient.Service.LanguageModel
import KnowledgeClient.Service.Message

/-!
# Chat completions

A request names a model and gives the messages of the chat.  The response is
whatever JSON value the service answers; the contents are the texts found at
`message.content` of its choices.
-/

namespace KnowledgeClient

/-- A request to complete a chat. -/
structure ChatRequest where
  model : LanguageModel
  messages : List Message
  stream : Bool
deriving DecidableEq, Repr

/-- The JSON text of a list of messages. -/
def messagesChars (messages : List Message) : List Char :=
  Json.listChars (messages.map Message.jsonChars)

namespace ChatRequest

/-- The JSON text of a request. -/
def jsonChars (request : ChatRequest) : List Char :=
  Json.objectChars
    [("model", request.model.jsonChars),
      ("messages", messagesChars request.messages),
      ("stream", Json.flagChars request.stream)]

end ChatRequest

/-- The messages of a chat that the system opens and the user follows. -/
def openingMessages (userContent systemContent systemName : String) : List Message :=
  [.system systemContent systemName, .user userContent]

/-- The response to a chat: any JSON value. -/
structure ChatResponse where
  value : Json.Value

namespace ChatResponse

/-- The content of one choice, if it has one. -/
def choiceContent? (choice : Json.Value) : Option String := do
  let message ← choice.member? "message"
  let content ← message.member? "content"
  content.text?

/-- The contents of the choices, in their order; a choice without one is passed over. -/
def contents (response : ChatResponse) : List String :=
  match response.value.member? "choices" with
  | some choices => (choices.list?.getD []).filterMap choiceContent?
  | none => []

/-- The response of a JSON text. -/
def read (text : String) : Except Json.Fault ChatResponse :=
  (Json.Value.read text).map ChatResponse.mk

end ChatResponse

end KnowledgeClient
