import KnowledgeClient.Json.Record
import KnowledgeClient.Text.Blank
import KnowledgeClient.Text.Quoted

/-!
# Language models

A language model is named by a code.  Some codes are listed; any other code
names a custom model.  The service describes the models it offers by records.
-/

namespace KnowledgeClient

/-- A language model that answers chats. -/
inductive LanguageModel
  | geminiFlash
  | geminiPro
  | geminiFlash15
  | learnlmProExperimental
  | claudeOpus
  | claudeHaiku
  | claudeSonnet
  | deepSeekChat
  | deepSeekR1
  | gpt4OMini
  | gpt4O
  | o1
  | o3Mini
  | custom (code : String)
deriving DecidableEq, Repr

namespace LanguageModel

/-- The code of a model. -/
def code : LanguageModel → String
  | .geminiFlash => "gemini-2.0-flash-001"
  | .geminiPro => "gemini-1.5-pro"
  | .geminiFlash15 => "gemini-1.5-flash"
  | .learnlmProExperimental => "learnlm-1.5-pro-experimental"
  | .claudeOpus => "claude-3-opus-20240229"
  | .claudeHaiku => "claude-3-5-haiku-20241022"
  | .claudeSonnet => "claude-3-7-sonnet-20250219"
  | .deepSeekChat => "deepseek/deepseek-chat"
  | .deepSeekR1 => "deepseek/deepseek-r1"
  | .gpt4OMini => "gpt-4o-mini"
  | .gpt4O => "gpt-4o-2024-08-06"
  | .o1 => "o1-2024-12-17"
  | .o3Mini => "o3-mini"
  | .custom code => code

/-- The models with listed codes. -/
def listed : List LanguageModel :=
  [.geminiFlash, .geminiPro, .geminiFlash15, .learnlmProExperimental, .claudeOpus,
    .claudeHaiku, .claudeSonnet, .deepSeekChat, .deepSeekR1, .gpt4OMini, .gpt4O, .o1, .o3Mini]

/-- The model of a code, blanks around it put aside. -/
def ofCode (raw : String) : LanguageModel :=
  let code := Text.trim raw
  (listed.find? (·.code == code)).getD (.custom code)

/-- The model that is asked unless another is named. -/
def usual : LanguageModel := .gpt4OMini

/-- A model as a diagnostic shows it. -/
def diagnostic : LanguageModel → String
  | .geminiFlash => "GeminiFlash"
  | .geminiPro => "GeminiPro"
  | .geminiFlash15 => "GeminiFlash15"
  | .learnlmProExperimental => "LearnlmProExperimental"
  | .claudeOpus => "ClaudeOpus"
  | .claudeHaiku => "ClaudeHaiku"
  | .claudeSonnet => "ClaudeSonnet"
  | .deepSeekChat => "DeepSeekChat"
  | .deepSeekR1 => "DeepSeekR1"
  | .gpt4OMini => "Gpt4OMini"
  | .gpt4O => "Gpt4O"
  | .o1 => "O1"
  | .o3Mini => "O3Mini"
  | .custom code => "Custom(" ++ Text.quoted code ++ ")"

/-- The JSON text of a model. -/
def jsonChars (model : LanguageModel) : List Char :=
  Json.stringChars model.code

end LanguageModel

/-- Who hosts a language model. -/
structure ModelProvider where
  name : String
deriving DecidableEq, Repr

namespace ModelProvider

/-- What has been read of a provider. -/
structure Draft where
  name : Option String

/-- How a provider is read. -/
def schema : Json.Schema Draft ModelProvider where
  name := "ModelProvider"
  fields :=
    [{ Content := String
       name := "name"
       required := true
       read := Json.readText
       get? := Draft.name
       set := fun name _ => { name := some name } }]
  start := ⟨none⟩
  finish := fun draft => { name := draft.name.getD "" }

end ModelProvider

/-- A language model as the service describes it. -/
structure LanguageModelInfo where
  id : String
  name : String
  description : Option String
  hostedBy : Option ModelProvider
  code : String
deriving DecidableEq, Repr

namespace LanguageModelInfo

/-- What has been read of a description. -/
structure Draft where
  id : Option String
  name : Option String
  description : Option (Option String)
  hostedBy : Option (Option ModelProvider)
  code : Option String

/-- How a description is read: it needs an id, a name and a code. -/
def schema : Json.Schema Draft LanguageModelInfo where
  name := "LanguageModelInfo"
  fields :=
    [{ Content := String
       name := "id"
       required := true
       read := Json.readText
       get? := Draft.id
       set := fun id draft => { draft with id := some id } },
      { Content := String
        name := "name"
        required := true
        read := Json.readText
        get? := Draft.name
        set := fun name draft => { draft with name := some name } },
      { Content := Option String
        name := "description"
        required := false
        read := Json.readOptional Json.readText
        get? := Draft.description
        set := fun description draft => { draft with description := some description } },
      { Content := Option ModelProvider
        name := "hosted_by"
        required := false
        read := Json.readOptional ModelProvider.schema.read
        get? := Draft.hostedBy
        set := fun hostedBy draft => { draft with hostedBy := some hostedBy } },
      { Content := String
        name := "code"
        required := true
        read := Json.readText
        get? := Draft.code
        set := fun code draft => { draft with code := some code } }]
  start := ⟨none, none, none, none, none⟩
  finish := fun draft =>
    { id := draft.id.getD ""
      name := draft.name.getD ""
      description := draft.description.getD none
      hostedBy := draft.hostedBy.getD none
      code := draft.code.getD "" }

/-- The description of a JSON text. -/
def read (text : String) : Except Json.Fault LanguageModelInfo :=
  Json.readAll schema.read text

end LanguageModelInfo

end KnowledgeClient
