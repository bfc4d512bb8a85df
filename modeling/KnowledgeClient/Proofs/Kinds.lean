import KnowledgeClient.Proofs.Shuffling
import KnowledgeClient.Service.Document
import KnowledgeClient.Service.KnowledgeModel
import KnowledgeClient.Service.LanguageModel
import KnowledgeClient.Service.Listing
import KnowledgeClient.Service.Message

/-!
# The members of the records of the service

The records of the service are read from objects whose members may come in any order and among
members that are not known.  Every field has a place of its own in the drafts of its record, and
a record that is the content of a field is read as steadily as any other content.  An object with
two members for one field, or with none for a field that is required, is refused.
-/

namespace KnowledgeClient

open Json

/-! ## The fields of the records -/

theorem IndexingStatus.steady_read : IsSteady IndexingStatus.read :=
  steady_readText.map fun _ => rfl

theorem Role.steady_read : IsSteady Role.read :=
  steady_readVariant _

theorem Sharing.steady_read : IsSteady Sharing.read :=
  steady_readVariant _

theorem ModelProvider.steady_read : IsSteady ModelProvider.schema.read :=
  Schema.steady_read (by simp [schema, steady_readText])

theorem Document.isTidy : schema.IsTidy where
  steady := by simp [schema, steady_readText, steady_readFlag, IndexingStatus.steady_read]
  kept := by simp [schema]
  separate := by simp [schema, Field.separate_iff]
  empty := by simp [schema]

theorem Message.isTidy : schema.IsTidy where
  steady := by simp [schema, steady_readText, steady_readOptional, Role.steady_read]
  kept := by simp [schema]
  separate := by simp [schema, Field.separate_iff]
  empty := by simp [schema]

theorem KnowledgeModel.isTidy : schema.IsTidy where
  steady := by simp [schema, steady_readText, steady_readOptional, Sharing.steady_read]
  kept := by simp [schema]
  separate := by simp [schema, Field.separate_iff]
  empty := by simp [schema]

theorem LanguageModelInfo.isTidy : schema.IsTidy where
  steady := by simp [schema, steady_readText, steady_readOptional, ModelProvider.steady_read]
  kept := by simp [schema]
  separate := by simp [schema, Field.separate_iff]
  empty := by simp [schema]

/-- A listing has its fields in places of their own, whatever it lists. -/
theorem Listing.isTidy
    {α : Type}
    {item : List Char → Read α}
    (steady : IsSteady item) :
    (schema item).IsTidy where
  steady := by
    simp [schema, steady_readOptional, steady_readInteger, steady_readItems steady]
  kept := by simp [schema]
  separate := by simp [schema, Field.separate_iff]
  empty := by simp [schema]

/-! ## The law of the members -/

/-- What reading a kind of record makes of the members of an object. -/
structure RecordLaw
    {α : Type}
    (read : String → Except Fault α)
    (names required : List String) : Prop where
  /-- A text that is read and opens with a brace is that of an object. -/
  isObject : ∀ text record blanks opened, read text = .ok record → AreBlank blanks →
    text.toList = blanks ++ '\x7b' :: opened → ∃ object : ObjectText, text = object.text
  /-- The same members in any order, with any unknown members among them and blanks of any kind,
  are read as the same record. -/
  unordered : ∀ (object other : ObjectText) unknown record, read object.text = .ok record →
    other.members.Perm (object.members ++ unknown) →
    (∀ member ∈ unknown, member.IsUnknown names) → read other.text = .ok record
  /-- An object with two members for one field is refused. -/
  repeated : ∀ (object : ObjectText) one other name, [one, other].Sublist object.members →
    name ∈ names → one.HasKey name → other.HasKey name → ∃ fault, read object.text = .error fault
  /-- An object with no member for a field that is required is refused. -/
  lacking : ∀ (object : ObjectText) name, name ∈ required →
    (∀ member ∈ object.members, ¬ member.HasKey name) → ∃ fault, read object.text = .error fault

/-- Records with tidy fields are read by the law. -/
theorem Json.Schema.IsTidy.recordLaw
    {α σ : Type}
    {schema : Schema σ α}
    (tidy : schema.IsTidy) :
    RecordLaw (readAll schema.read) schema.names schema.requiredNames where
  isObject _ _ _ _ := Schema.exists_objectText tidy
  unordered := by
    intro object other unknown record reads permuted areUnknown
    rw [Schema.readAll_text_eq_ok_iff tidy] at reads ⊢
    exact reads.of_perm tidy permuted areUnknown
  repeated := by
    intro object one other name repeated isName oneKey otherKey
    refine Schema.exists_fault_of_untold tidy ?_
    rintro record ⟨draft, gathers, _⟩
    exact gathers.not_repeated tidy isName repeated oneKey otherKey
  lacking _ _ isRequired lacking :=
    Schema.exists_fault_of_untold tidy (Schema.not_tells_of_lacking tidy isRequired lacking)

/-- Every kind of record that the service answers with is read by the law. -/
structure RecordLaws : Prop where
  documents : RecordLaw Document.read ["id", "filename", "in_use", "indexing_status"]
    ["id", "filename"]
  messages : RecordLaw Message.read ["role", "content", "name"] ["role", "content"]
  knowledgeModels : RecordLaw KnowledgeModel.read
    ["id", "name", "description", "shared_type", "created_at"] ["id"]
  languageModels : RecordLaw LanguageModelInfo.read
    ["id", "name", "description", "hosted_by", "code"] ["id", "name", "code"]
  documentListings : RecordLaw (Listing.read Document.schema.read) ["total", "results"] ["results"]
  knowledgeModelListings : RecordLaw (Listing.read KnowledgeModel.schema.read)
    ["total", "results"] ["results"]
  languageModelListings : RecordLaw (Listing.read LanguageModelInfo.schema.read)
    ["total", "results"] ["results"]

/-- The records of the service are read from objects with their members in any order and among
unknown ones, and from no object with too many or too few of them. -/
theorem recordLaws : RecordLaws where
  documents := Document.isTidy.recordLaw
  messages := Message.isTidy.recordLaw
  knowledgeModels := KnowledgeModel.isTidy.recordLaw
  languageModels := LanguageModelInfo.isTidy.recordLaw
  documentListings := (Listing.isTidy (Schema.steady_read Document.isTidy.steady)).recordLaw
  knowledgeModelListings :=
    (Listing.isTidy (Schema.steady_read KnowledgeModel.isTidy.steady)).recordLaw
  languageModelListings :=
    (Listing.isTidy (Schema.steady_read LanguageModelInfo.isTidy.steady)).recordLaw

/-- A document is read from an object with an unknown member between the members of another
object, which come in the other order. -/
theorem recordLaws_sample :
    ∃ object other : ObjectText,
      object.text = "\x7b\"filename\":\"a.txt\",\"id\":\"d\"\x7d" ∧
      other.text = "\x7b\"id\":\"d\",\"tags\":[\x7b\"new\":null\x7d],\"filename\":\"a.txt\"\x7d" ∧
      Document.read object.text = .ok ⟨"d", "a.txt", false, .pending⟩ ∧
      Document.read other.text = .ok ⟨"d", "a.txt", false, .pending⟩ := by
  let tags := "[\x7b\"new\":null\x7d]".toList
  have isTags : IsValue tags := by
    have skips : skipValue tags = .ok [] := by decide +kernel
    obtain ⟨chars, isValue, starts⟩ := isValue_of_skipValue skips
    rw [List.append_nil] at starts
    obtain rfl : tags = chars := starts
    exact isValue
  let object := ObjectText.printed [("filename", stringChars "a.txt"), ("id", stringChars "d")]
    (by simp [isValue_stringChars])
  let other := ObjectText.printed
    [("id", stringChars "d"), ("tags", tags), ("filename", stringChars "a.txt")]
    (by simp [isValue_stringChars, isTags])
  have reads : Document.read object.text = .ok ⟨"d", "a.txt", false, .pending⟩ := by
    rw [ObjectText.text_printed]
    decide +kernel
  refine ⟨object, other, ?_, ?_, reads,
    recordLaws.documents.unordered object other [Member.printed ("tags", tags)] _ reads ?_ ?_⟩
  · rw [ObjectText.text_printed]
    decide +kernel
  · rw [ObjectText.text_printed]
    decide +kernel
  · exact @List.perm_append_comm _ [_, _] [_]
  · intro member isMember
    obtain rfl := List.mem_singleton.mp isMember
    exact ⟨"tags", Member.hasKey_printed _, by decide⟩

end KnowledgeClient
