import KnowledgeClient.Proofs.Records
import KnowledgeClient.Service.Document

/-!
# Documents are read back from their text

A document is printed with the word for its status, and that word is classified again
when the text is read.  The words that are printed for the four recognised states stand
for these states, so only a status that keeps a recognised word as one of the service's
own is read as something else.  No status that was read is of this kind: a document that
was read is read again from its own text, in which a word that is not recognised stands
as it came.
-/

namespace KnowledgeClient

namespace IndexingStatus

/-- The words that stand for a recognised state. -/
def recognisedWords : List String :=
  ["pending", "queued", "in_progress", "processing", "indexing", "indexed", "completed", "done",
    "success", "failed", "error"]

/-- The status keeps a recognised word, in some letter case, as one of the service's own. -/
def IsMistaken (status : IndexingStatus) : Prop :=
  ∃ word, status = .other word ∧ Text.lower word ∈ recognisedWords

theorem recognised_words : recognised.map Prod.fst = recognisedWords :=
  rfl

/-- No recognised word stands for a word of the service's own. -/
theorem ne_other_of_mem_recognised
    {key : String}
    {status : IndexingStatus}
    (member : (key, status) ∈ recognised)
    (word : String) :
    status ≠ .other word := by
  simp only [recognised, List.mem_cons, Prod.mk.injEq, List.not_mem_nil, or_false] at member
  rintro rfl
  simp at member

/-- A status keeps a word exactly if it is that of the word and the word is not recognised. -/
theorem ofWord_eq_other_iff (word kept : String) :
    ofWord word = .other kept ↔ word = kept ∧ Text.lower word ∉ recognisedWords := by
  rw [← recognised_words]
  unfold ofWord
  cases found : recognised.lookup (Text.lower word) with
  | none =>
      have absent : Text.lower word ∉ recognised.map Prod.fst := by
        intro known
        obtain ⟨pair, member, same⟩ := List.mem_map.mp known
        simpa [same] using List.lookup_eq_none_iff.mp found pair member
      simp only [Option.getD_none, IndexingStatus.other.injEq, absent, not_false_eq_true, and_true]
  | some status =>
      obtain ⟨before, after, split, _⟩ := List.lookup_eq_some_iff.mp found
      have member : (Text.lower word, status) ∈ recognised := by
        rw [split]
        exact List.mem_append_right _ List.mem_cons_self
      have known : Text.lower word ∈ recognised.map Prod.fst := List.mem_map_of_mem member
      simp only [Option.getD_some, known, not_true_eq_false, and_false, iff_false]
      exact ne_other_of_mem_recognised member kept

/-- A status is told from its word unless it keeps a recognised word. -/
theorem ofWord_word_eq_iff (status : IndexingStatus) :
    ofWord status.word = status ↔ ¬ status.IsMistaken := by
  cases status with
  | other word => simp [IsMistaken, IndexingStatus.word, ofWord_eq_other_iff]
  | _ =>
      refine iff_of_true (by decide +kernel) ?_
      rintro ⟨word, ⟨⟩, _⟩

/-- The status of a word never keeps a recognised word. -/
theorem not_isMistaken_ofWord (word : String) : ¬ (ofWord word).IsMistaken := by
  rintro ⟨kept, same, known⟩
  obtain ⟨rfl, unknown⟩ := (ofWord_eq_other_iff word kept).mp same
  exact unknown known

end IndexingStatus

namespace Document

open Json IndexingStatus

/-- The JSON text of a document. -/
def text (document : Document) : String :=
  String.ofList document.jsonChars

/-! ## Documents with the word for their status -/

/-- A document as its text has it, with the word for its status if there is one. -/
structure Worded where
  id : String
  filename : String
  inUse : Bool
  word? : Option String
deriving DecidableEq, Repr

namespace Worded

/-- What has been read of a document as its text has it. -/
structure Draft where
  id : Option String
  filename : Option String
  inUse : Option Bool
  word : Option String

/-- A document is read in this way when the word for its status is not classified. -/
def schema : Json.Schema Draft Worded where
  name := "Document"
  fields :=
    [{ Content := String
       name := "id"
       required := true
       read := readText
       get? := Draft.id
       set := fun id draft => { draft with id := some id } },
      { Content := String
        name := "filename"
        required := true
        read := readText
        get? := Draft.filename
        set := fun filename draft => { draft with filename := some filename } },
      { Content := Bool
        name := "in_use"
        required := false
        read := readFlag
        get? := Draft.inUse
        set := fun inUse draft => { draft with inUse := some inUse } },
      { Content := String
        name := "indexing_status"
        required := false
        read := readText
        get? := Draft.word
        set := fun word draft => { draft with word := some word } }]
  start := ⟨none, none, none, none⟩
  finish := fun draft =>
    { id := draft.id.getD ""
      filename := draft.filename.getD ""
      inUse := draft.inUse.getD false
      word? := draft.word }

/-- The document of a JSON text, with the word for its status. -/
def read (text : String) : Except Fault Worded :=
  readAll schema.read text

/-- The document whose status is that of the word, or pending if there is none. -/
def document (worded : Worded) : Document :=
  { id := worded.id
    filename := worded.filename
    inUse := worded.inUse
    indexingStatus := (worded.word?.map ofWord).getD .pending }

/-- What has been read of a document when the word for its status is classified. -/
def Draft.classified (draft : Draft) : Document.Draft :=
  { id := draft.id
    filename := draft.filename
    inUse := draft.inUse
    indexingStatus := draft.word.map ofWord }

/-- Documents are read with their words and then classified. -/
theorem recast : Worded.schema.Recast Draft.classified document Document.schema where
  name_eq := rfl
  fields :=
    .cons (.unchanged (fun _ => rfl) fun _ _ => rfl) <|
    .cons (.unchanged (fun _ => rfl) fun _ _ => rfl) <|
    .cons (.unchanged (fun _ => rfl) fun _ _ => rfl) <|
    .cons {
      name_eq := rfl
      required_eq := rfl
      filled_iff := fun _ => Option.isSome_map
      content := ⟨ofWord, fun _ => rfl, fun _ _ => rfl⟩ } .nil
  start_eq := rfl
  finish_eq := fun _ => rfl

/-- A text is read as a document exactly as it is read with the word for the status, which is
then classified. -/
theorem document_read (text : String) :
    Document.read text = (Worded.read text).map document :=
  readAll_map recast.read text

/-- The text of a document is read as it was written, with the word for its status. -/
theorem read_text (document : Document) :
    Worded.read document.text =
      .ok ⟨document.id, document.filename, document.inUse,
        some document.indexingStatus.word⟩ := by
  let last : Draft :=
    ⟨some document.id, some document.filename, some document.inUse,
      some document.indexingStatus.word⟩
  have fills : Worded.schema.Fills Worded.schema.start
      [("id", stringChars document.id),
        ("filename", stringChars document.filename),
        ("in_use", flagChars document.inUse),
        ("indexing_status", stringChars document.indexingStatus.word)] last :=
    .cons _ document.id rfl rfl (yields_text document.id) <|
    .cons _ document.filename rfl rfl (yields_text document.filename) <|
    .cons _ document.inUse rfl rfl (yields_flag document.inUse) <|
    .cons _ document.indexingStatus.word rfl rfl (yields_text document.indexingStatus.word) <|
    .nil last
  exact (fills.yields rfl).readAll

end Worded

/-! ## The law of the text -/

/-- The text of a document is read as the document with the status of its word. -/
theorem read_text (document : Document) :
    read document.text =
      .ok { document with indexingStatus := ofWord document.indexingStatus.word } := by
  rw [Worded.document_read, Worded.read_text]
  rfl

/-- No document that was read keeps a recognised word. -/
theorem not_isMistaken_of_read
    {text : String}
    {document : Document}
    (reads : read text = .ok document) :
    ¬ document.indexingStatus.IsMistaken := by
  rw [Worded.document_read] at reads
  cases found : Worded.read text with
  | error fault => rw [found] at reads; cases reads
  | ok worded =>
      rw [found] at reads
      obtain rfl := Except.ok.inj reads
      simp only [Worded.document]
      cases worded.word? with
      | none => rintro ⟨word, ⟨⟩, _⟩
      | some word => exact not_isMistaken_ofWord word

/-- What the texts of documents have to do with the documents. -/
structure CodecLaw : Prop where
  /-- The text of a document is read as a document, the same one unless its status keeps a
  recognised word. -/
  readsBack : ∀ document : Document, ∃ back, read document.text = .ok back ∧
    (back = document ↔ ¬ document.indexingStatus.IsMistaken)
  /-- A document that was read, from whatever text, is read again from its own text. -/
  survives : ∀ text document, read text = .ok document → read document.text = .ok document
  /-- A document is read with the word for its status, and the word is classified. -/
  classifies : ∀ text, read text = (Worded.read text).map Worded.document
  /-- The word of a document's own text is the one for its status. -/
  writes : ∀ document : Document, Worded.read document.text =
    .ok ⟨document.id, document.filename, document.inUse, some document.indexingStatus.word⟩
  /-- A word that is not recognised stands as it came in the text of the document. -/
  keeps : ∀ text worded word, Worded.read text = .ok worded → worded.word? = some word →
    Text.lower word ∉ recognisedWords →
    ∃ document, read text = .ok document ∧ document.indexingStatus = .other word ∧
      Worded.read document.text = .ok worded
  /-- What is printed after reading is printed again after it is read. -/
  idempotent : ∀ text document, read text = .ok document →
    (read document.text).map Document.text = .ok document.text

/-- Documents are read back from their text, as far as their status does not keep a recognised
word. -/
theorem codecLaw : CodecLaw where
  readsBack := by
    intro document
    refine ⟨_, read_text document, ?_⟩
    rw [← ofWord_word_eq_iff]
    exact ⟨congrArg Document.indexingStatus, fun same => by rw [same]⟩
  survives := by
    intro text document reads
    rw [read_text, (ofWord_word_eq_iff _).mpr (not_isMistaken_of_read reads)]
  classifies := Worded.document_read
  writes := Worded.read_text
  keeps := by
    intro text worded word reads hasWord unknown
    have status : worded.document.indexingStatus = .other word := by
      simp only [Worded.document, hasWord, Option.map_some, Option.getD_some]
      exact (ofWord_eq_other_iff word word).mpr ⟨rfl, unknown⟩
    refine ⟨worded.document, by rw [Worded.document_read, reads]; rfl, status, ?_⟩
    rw [Worded.read_text, status]
    exact congrArg Except.ok (by cases worded; simp_all [Worded.document, IndexingStatus.word])
  idempotent := by
    intro text document reads
    rw [read_text, (ofWord_word_eq_iff _).mpr (not_isMistaken_of_read reads)]
    rfl

/-- A document is read from a text of a service that writes its members in another order and
its words in capitals. -/
theorem codecLaw_sample :
    ∃ document,
      read "\x7b\"filename\":\"a.txt\",\"id\":\"d\",\"indexing_status\":\"QUEUED\"\x7d" =
        .ok document ∧
      read document.text = .ok document := by
  have reads :
      read "\x7b\"filename\":\"a.txt\",\"id\":\"d\",\"indexing_status\":\"QUEUED\"\x7d" =
        .ok ⟨"d", "a.txt", false, .pending⟩ := by
    decide +kernel
  exact ⟨_, reads, codecLaw.survives _ _ reads⟩

end Document
end KnowledgeClient
