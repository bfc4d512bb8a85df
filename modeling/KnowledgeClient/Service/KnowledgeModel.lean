import KnowledgeClient.Json.Record
import KnowledgeClient.Text.Blank

/-!
# Knowledge models

A knowledge model is a named collection of documents.  It is shared with nobody,
with everybody or with its tenant; the service may answer with scopes of its own.
-/

namespace KnowledgeClient

/-- The id of a knowledge model. -/
abbrev ModelId := String

/-- Whom a knowledge model is shared with. -/
inductive Sharing
  | ownerOnly
  | everyone
  | tenant
  | unlisted
deriving DecidableEq, Repr

namespace Sharing

/-- The word for a scope. -/
def word : Sharing → String
  | .ownerOnly => "private"
  | .everyone => "all"
  | .tenant => "tenant"
  | .unlisted => "unknown"

/-- The scopes that can be asked for. -/
def listed : List Sharing := [.ownerOnly, .everyone, .tenant]

/-- The scope that a word of the service stands for: exactly one of the listed words, or
unlisted. -/
def ofWord (word : String) : Sharing :=
  (listed.find? (·.word == word)).getD .unlisted

/-- The scope that is asked for by a word in any letter case, or what is told of a word that
asks for none. -/
def ofRequest (raw : String) : Except String Sharing :=
  match listed.find? (·.word == Text.lower raw) with
  | some sharing => .ok sharing
  | none => .error ("unknown shared type: " ++ Text.lower raw)

/-- The JSON text of a scope. -/
def jsonChars (sharing : Sharing) : List Char :=
  Json.stringChars sharing.word

/-- Reads a scope. -/
def read (cs : List Char) : Json.Read Sharing :=
  Json.readVariant (fun word => .ok (ofWord word)) cs

end Sharing

/-- A knowledge model as the service describes it. -/
structure KnowledgeModel where
  id : ModelId
  name : String
  description : Option String
  sharing : Option Sharing
  createdAt : Option String
deriving DecidableEq, Repr

namespace KnowledgeModel

/-- What has been read of a knowledge model. -/
structure Draft where
  id : Option ModelId
  name : Option String
  description : Option (Option String)
  sharing : Option (Option Sharing)
  createdAt : Option (Option String)

/-- How a knowledge model is read: it needs an id only. -/
def schema : Json.Schema Draft KnowledgeModel where
  name := "KnowledgeModel"
  fields :=
    [{ Content := ModelId
       name := "id"
       required := true
       read := Json.readText
       get? := Draft.id
       set := fun id draft => { draft with id := some id } },
      { Content := String
        name := "name"
        required := false
        read := Json.readText
        get? := Draft.name
        set := fun name draft => { draft with name := some name } },
      { Content := Option String
        name := "description"
        required := false
        read := Json.readOptional Json.readText
        get? := Draft.description
        set := fun description draft => { draft with description := some description } },
      { Content := Option Sharing
        name := "shared_type"
        required := false
        read := Json.readOptional Sharing.read
        get? := Draft.sharing
        set := fun sharing draft => { draft with sharing := some sharing } },
      { Content := Option String
        name := "created_at"
        required := false
        read := Json.readOptional Json.readText
        get? := Draft.createdAt
        set := fun createdAt draft => { draft with createdAt := some createdAt } }]
  start := ⟨none, none, none, none, none⟩
  finish := fun draft =>
    { id := draft.id.getD ""
      name := draft.name.getD ""
      description := draft.description.getD none
      sharing := draft.sharing.getD none
      createdAt := draft.createdAt.getD none }

/-- The knowledge model of a JSON text. -/
def read (text : String) : Except Json.Fault KnowledgeModel :=
  Json.readAll schema.read text

end KnowledgeModel

/-- What a new knowledge model is to be. -/
structure ModelProposal where
  name : String
  description : String
  sharing : Sharing
deriving DecidableEq, Repr

namespace ModelProposal

/-- The JSON text of a proposal. -/
def jsonChars (proposal : ModelProposal) : List Char :=
  Json.objectChars
    [("name", Json.stringChars proposal.name),
      ("description", Json.stringChars proposal.description),
      ("shared_type", proposal.sharing.jsonChars)]

end ModelProposal

end KnowledgeClient
