import KnowledgeClient.Json.Record
import KnowledgeClient.Text.Blank

/-!
# Documents of a knowledge model

A document is known by an id; its indexing status is one of four recognised
states, each with several words for it in any letter case, or a word of the
service's own, kept as it is.
-/

namespace KnowledgeClient

/-- How far a document is indexed. -/
inductive IndexingStatus
  | pending
  | inProgress
  | indexed
  | failed
  | other (word : String)
deriving DecidableEq, Repr

namespace IndexingStatus

/-- The recognised words and the states they stand for. -/
def recognised : List (String × IndexingStatus) :=
  [("pending", .pending), ("queued", .pending),
    ("in_progress", .inProgress), ("processing", .inProgress), ("indexing", .inProgress),
    ("indexed", .indexed), ("completed", .indexed), ("done", .indexed), ("success", .indexed),
    ("failed", .failed), ("error", .failed)]

/-- The status of a word. -/
def ofWord (word : String) : IndexingStatus :=
  (recognised.lookup (Text.lower word)).getD (.other word)

/-- The word for a status. -/
def word : IndexingStatus → String
  | .pending => "pending"
  | .inProgress => "in_progress"
  | .indexed => "indexed"
  | .failed => "failed"
  | .other word => word

/-- The JSON text of a status. -/
def jsonChars (status : IndexingStatus) : List Char :=
  Json.stringChars status.word

/-- Reads a status. -/
def read (cs : List Char) : Json.Read IndexingStatus :=
  (Json.readText cs).map fun (word, rest) => (ofWord word, rest)

end IndexingStatus

/-- A document of a knowledge model. -/
structure Document where
  id : String
  filename : String
  inUse : Bool
  indexingStatus : IndexingStatus
deriving DecidableEq, Repr

namespace Document

/-- The JSON text of a document. -/
def jsonChars (document : Document) : List Char :=
  Json.objectChars
    [("id", Json.stringChars document.id),
      ("filename", Json.stringChars document.filename),
      ("in_use", Json.flagChars document.inUse),
      ("indexing_status", document.indexingStatus.jsonChars)]

/-- What has been read of a document. -/
structure Draft where
  id : Option String
  filename : Option String
  inUse : Option Bool
  indexingStatus : Option IndexingStatus

/-- How a document is read: it needs an id and a file name; it is not in use and its indexing
is pending unless it says otherwise. -/
def schema : Json.Schema Draft Document where
  name := "Document"
  fields :=
    [{ Content := String
       name := "id"
       required := true
       read := Json.readText
       get? := Draft.id
       set := fun id draft => { draft with id := some id } },
      { Content := String
        name := "filename"
        required := true
        read := Json.readText
        get? := Draft.filename
        set := fun filename draft => { draft with filename := some filename } },
      { Content := Bool
        name := "in_use"
        required := false
        read := Json.readFlag
        get? := Draft.inUse
        set := fun inUse draft => { draft with inUse := some inUse } },
      { Content := IndexingStatus
        name := "indexing_status"
        required := false
        read := IndexingStatus.read
        get? := Draft.indexingStatus
        set := fun status draft => { draft with indexingStatus := some status } }]
  start := ⟨none, none, none, none⟩
  finish := fun draft =>
    { id := draft.id.getD ""
      filename := draft.filename.getD ""
      inUse := draft.inUse.getD false
      indexingStatus := draft.indexingStatus.getD .pending }

/-- The document of a JSON text. -/
def read (text : String) : Except Json.Fault Document :=
  Json.readAll schema.read text

end Document

end KnowledgeClient
