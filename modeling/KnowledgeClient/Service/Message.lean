import KnowledgeClient.Json.Record

/-!
# Messages of a chat

A message has a role, a content and perhaps the name of who speaks.  It is
written as an object with these members in this order, without a name when it has none.
-/

namespace KnowledgeClient

/-- Who a message comes from. -/
inductive Role
  | system
  | user
deriving DecidableEq, Repr

namespace Role

/-- The word for a role. -/
def word : Role → String
  | .system => "system"
  | .user => "user"

/-- The role of a word. -/
def ofWord (word : String) : Except Json.Problem Role :=
  if word = Role.system.word then .ok .system
  else if word = Role.user.word then .ok .user
  else .error (.unknownVariant word Role.system.word Role.user.word)

/-- Reads a role. -/
def read (cs : List Char) : Json.Read Role :=
  Json.readVariant ofWord cs

end Role

/-- A message of a chat. -/
structure Message where
  role : Role
  content : String
  name : Option String
deriving DecidableEq, Repr

namespace Message

/-- The message of the system, with the name it speaks under. -/
def system (content name : String) : Message :=
  ⟨.system, content, some name⟩

/-- The message of the user. -/
def user (content : String) : Message :=
  ⟨.user, content, none⟩

/-- The JSON text of a message. -/
def jsonChars (message : Message) : List Char :=
  Json.objectChars <|
    [("role", Json.stringChars message.role.word),
      ("content", Json.stringChars message.content)] ++
    match message.name with
    | some name => [("name", Json.stringChars name)]
    | none => []

/-- What has been read of a message. -/
structure Draft where
  role : Option Role
  content : Option String
  name : Option (Option String)

/-- How a message is read: it needs a role and a content. -/
def schema : Json.Schema Draft Message where
  name := "Message"
  fields :=
    [{ Content := Role
       name := "role"
       required := true
       read := Role.read
       get? := Draft.role
       set := fun role draft => { draft with role := some role } },
      { Content := String
        name := "content"
        required := true
        read := Json.readText
        get? := Draft.content
        set := fun content draft => { draft with content := some content } },
      { Content := Option String
        name := "name"
        required := false
        read := Json.readOptional Json.readText
        get? := Draft.name
        set := fun name draft => { draft with name := some name } }]
  start := ⟨none, none, none⟩
  finish := fun draft =>
    { role := draft.role.getD .system
      content := draft.content.getD ""
      name := draft.name.getD none }

/-- The message of a JSON text. -/
def read (text : String) : Except Json.Fault Message :=
  Json.readAll schema.read text

end Message

end KnowledgeClient
