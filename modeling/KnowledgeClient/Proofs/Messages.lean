import KnowledgeClient.Proofs.Kinds

/-!
# Messages are read back from their text

The text of a message has a member for its name only if the message has one, and a text without
that member is read as a message without a name.  A name that is null is no name either; the
empty name is one.
-/

namespace KnowledgeClient
namespace Message

open Json Json.Schema

/-! ## Names that may be null -/

/-- The characters give the name: null gives none, and a string the text that it means. -/
inductive GivesName : Option String → List Char → Prop
  | null : GivesName none nullChars
  | text
      {name : String}
      {chars : List Char}
      (quotes : Quotes chars name) :
      GivesName (some name) chars

theorem readName_eq_ok_iff
    (before : List Char)
    (name : Option String)
    (after : List Char) :
    readOptional readText before = .ok (name, after) ↔
      ∃ chars, GivesName name chars ∧ skipSpace before = chars ++ after := by
  simp only [readOptional_eq_ok_iff, readText_eq_ok_iff, skipSpace_skipSpace]
  constructor
  · rintro (⟨rfl, isNull⟩ | ⟨text, rfl, _, chars, quotes, starts⟩)
    · exact ⟨nullChars, .null, isNull⟩
    · exact ⟨chars, .text quotes, starts⟩
  · rintro ⟨chars, _ | quotes, starts⟩
    · exact .inl ⟨rfl, starts⟩
    · refine .inr ⟨_, rfl, fun rest isNull => ?_, chars, quotes, starts⟩
      obtain ⟨ending, rfl, _⟩ := quotes
      cases (List.cons.inj (starts.symm.trans isNull)).1

/-! ## The name that members tell -/

variable
  {members : List Member}
  {draft : Draft}
  {message : Message}
  {member : Member}

/-- A member with the key of the name gives the name of the draft that it fills. -/
theorem givesName_of_takes
    {name : Option String}
    (formed : member.IsFormed)
    (takes : Takes (readOptional readText) member.value.inner name) :
    GivesName name member.value.inner :=
  (takes_iff readName_eq_ok_iff formed.value).mp takes

/-- A member with the key of the name gives the name of the message. -/
theorem givesName_of_tells
    (tells : schema.Tells members message)
    (formed : member.IsFormed)
    (isMember : member ∈ members)
    (hasKey : member.HasKey "name") :
    GivesName message.name member.value.inner := by
  obtain ⟨draft, gathers, _, rfl⟩ := tells
  obtain ⟨(name : Option String), takes, (filled : draft.name = some name)⟩ :=
    gathers.exists_content isTidy rfl isMember hasKey
  rw [show (schema.finish draft).name = name from congrArg (Option.getD · none) filled]
  exact givesName_of_takes formed takes

/-- Members without a name fill no name. -/
theorem name_eq_none_of_gathers
    (gathers : schema.Gathers schema.start members draft)
    (lacking : ∀ member ∈ members, ¬ member.HasKey "name") :
    draft.name = none := by
  have known : schema.fields.find? (·.name == "name") = some _ := rfl
  exact gathers.get?_eq isTidy (mem_of_find? known).1 lacking

/-- A null name tells no more than no name at all. -/
theorem tells_append_null_iff
    (formed : member.IsFormed)
    (lacking : ∀ member ∈ members, ¬ member.HasKey "name")
    (hasKey : member.HasKey "name")
    (isNull : member.value.inner = nullChars) :
    schema.Tells (members ++ [member]) message ↔ schema.Tells members message := by
  have known : schema.fields.find? (·.name == "name") = some _ := rfl
  constructor
  · rintro ⟨final, gathersAll, complete, rfl⟩
    obtain ⟨draft, gathers, further⟩ := gathers_append_iff.mp gathersAll
    have unfilled := name_eq_none_of_gathers gathers lacking
    cases further with
    | cons learns nothing =>
        cases nothing
        obtain ⟨_, (name : Option String), takes, rfl⟩ := learns.fills known hasKey
        have gives := givesName_of_takes formed takes
        rw [isNull] at gives
        cases gives with
        | null => exact ⟨draft, gathers, complete, by simp [schema, unfilled]⟩
        | text quotes =>
            obtain ⟨_, same, _⟩ := quotes
            cases (List.cons.inj same).1
  · rintro ⟨draft, gathers, complete, rfl⟩
    have unfilled := name_eq_none_of_gathers gathers lacking
    have learns : schema.Learns draft member { draft with name := some none } :=
      .known hasKey known unfilled (isNull ▸ takes_null readText)
    refine ⟨_, gathers_append_iff.mpr ⟨draft, gathers, .cons learns (.nil _)⟩, complete, ?_⟩
    simp [schema, unfilled]

/-- A list of the fields of a message has three pieces, the last of which gives the name, or
only two. -/
theorem givesName_of_linesUp
    {pieces : List Piece}
    (linesUp : LinesUp schema.fields schema.start pieces draft) :
    (pieces.length = 2 ∧ (schema.finish draft).name = none) ∨
      ∃ piece, pieces[2]? = some piece ∧
        GivesName (schema.finish draft).name piece.value.inner := by
  cases linesUp with
  | absent required => cases required
  | given role linesUp =>
      cases linesUp with
      | absent required => cases required
      | given content linesUp =>
          cases linesUp with
          | absent _ linesUp =>
              cases linesUp
              exact .inl ⟨rfl, rfl⟩
          | given name linesUp =>
              cases linesUp
              exact .inr ⟨_, rfl, (takes_iff readName_eq_ok_iff name.isValue).mp name.takes⟩

/-! ## The text of a message -/

/-- The JSON text of a message. -/
def text (message : Message) : String :=
  String.ofList message.jsonChars

/-- The members of the text of a message, with the characters of their values. -/
def rows (message : Message) : List (String × List Char) :=
  [("role", stringChars message.role.word), ("content", stringChars message.content)] ++
    (message.name.map fun name => ("name", stringChars name)).toList

/-- The object that the text of a message is. -/
def object (message : Message) : ObjectText :=
  .printed message.rows <| by
    cases message.name <;> simp [rows, isValue_stringChars]

theorem text_object (message : Message) : message.object.text = message.text := by
  rw [object, ObjectText.text_printed, text, jsonChars, rows]
  cases message.name <;> rfl

theorem takes_text (content : String) : Takes readText (stringChars content) content :=
  (takes_iff readText_eq_ok_iff (isValue_stringChars content)).mpr (quotes_stringChars content)

theorem takes_name (name : String) :
    Takes (readOptional readText) (stringChars name) (some name) :=
  (takes_iff readName_eq_ok_iff (isValue_stringChars name)).mpr (.text (quotes_stringChars name))

theorem takes_role (role : Role) : Takes Role.read (stringChars role.word) role := by
  have isRole : Role.ofWord role.word = .ok role := by cases role <;> rfl
  exact (takes_iff (readVariant_eq_ok_iff _) (isValue_stringChars _)).mpr
    ⟨role.word, isRole, .inl (quotes_stringChars _)⟩

/-- The members of the text of a message tell that message. -/
theorem tells_object (message : Message) : schema.Tells message.object.members message := by
  obtain ⟨role, content, name⟩ := message
  have knownRole : schema.fields.find? (·.name == "role") = some _ := rfl
  have knownContent : schema.fields.find? (·.name == "content") = some _ := rfl
  have knownName : schema.fields.find? (·.name == "name") = some _ := rfl
  have learnsRole : schema.Learns schema.start (.printed ("role", stringChars role.word))
      ⟨some role, none, none⟩ :=
    .known (Member.hasKey_printed ("role", _)) knownRole rfl (takes_role role)
  have learnsContent : schema.Learns ⟨some role, none, none⟩
      (.printed ("content", stringChars content)) ⟨some role, some content, none⟩ :=
    .known (Member.hasKey_printed ("content", _)) knownContent rfl (takes_text content)
  cases name with
  | none => exact ⟨_, .cons learnsRole (.cons learnsContent (.nil _)), rfl, rfl⟩
  | some name =>
      have learnsName : schema.Learns ⟨some role, some content, none⟩
          (.printed ("name", stringChars name)) ⟨some role, some content, some (some name)⟩ :=
        .known (Member.hasKey_printed ("name", _)) knownName rfl (takes_name name)
      exact ⟨_, .cons learnsRole (.cons learnsContent (.cons learnsName (.nil _))), rfl, rfl⟩

theorem read_text (message : Message) : read message.text = .ok message := by
  rw [← text_object]
  exact (readAll_text_eq_ok_iff isTidy _).mpr message.tells_object

/-- What the texts of messages have to do with the messages. -/
structure RoundTripLaw : Prop where
  /-- The text of a message is read as that message. -/
  readsBack : ∀ message : Message, read message.text = .ok message
  /-- A message that was read, from whatever text, is read again from its own text. -/
  survives : ∀ text message, read text = .ok message → read message.text = .ok message
  /-- The text of a message is that of an object, which has a member for the name exactly if the
  message has a name, be it empty. -/
  prints : ∀ message : Message, ∃ object : ObjectText, message.text = object.text ∧
    ((∃ member ∈ object.members, member.HasKey "name") ↔ message.name ≠ none)
  /-- The name of a message that was read from an object is what its member for the name gives. -/
  given : ∀ (object : ObjectText) message member, read object.text = .ok message →
    member ∈ object.members → member.HasKey "name" → GivesName message.name member.value.inner
  /-- A message that was read from an object without a member for the name has none. -/
  absent : ∀ (object : ObjectText) message, read object.text = .ok message →
    (∀ member ∈ object.members, ¬ member.HasKey "name") → message.name = none
  /-- A null name among the members of an object is as good as none. -/
  nullIsAbsent : ∀ (object other : ObjectText) member message,
    (∀ member ∈ object.members, ¬ member.HasKey "name") → member.HasKey "name" →
    member.value.inner = nullChars → other.members.Perm (member :: object.members) →
    (read other.text = .ok message ↔ read object.text = .ok message)
  /-- A text that is read as a message is that of an object, or of a list whose third piece gives
  the name, if there is one. -/
  forms : ∀ text message, read text = .ok message →
    (∃ object : ObjectText, text = object.text) ∨
      ∃ list : ListText, text = list.text ∧
        ((list.pieces.length = 2 ∧ message.name = none) ∨
          ∃ piece, list.pieces[2]? = some piece ∧ GivesName message.name piece.value.inner)

/-- Messages are read back from their text, and their names are told from null and from none. -/
theorem roundTripLaw : RoundTripLaw where
  readsBack := read_text
  survives := fun _ message _ => read_text message
  prints := by
    intro message
    refine ⟨message.object, message.text_object.symm, ?_⟩
    cases named : message.name <;>
      simp [object, rows, ObjectText.printed, Member.hasKey_printed_iff, named]
  given := by
    intro object message member reads isMember hasKey
    rw [Message.read, readAll_text_eq_ok_iff isTidy] at reads
    exact givesName_of_tells reads (object.formed member isMember) isMember hasKey
  absent := by
    intro object message reads lacking
    rw [Message.read, readAll_text_eq_ok_iff isTidy] at reads
    obtain ⟨draft, gathers, _, rfl⟩ := reads
    exact congrArg (Option.getD · none) (name_eq_none_of_gathers gathers lacking)
  nullIsAbsent := by
    intro object other member message lacking hasKey isNull permuted
    have isMember : member ∈ other.members := permuted.mem_iff.mpr List.mem_cons_self
    have last : other.members.Perm (object.members ++ [member]) :=
      permuted.trans (List.perm_append_singleton member object.members).symm
    rw [Message.read, Message.read, readAll_text_eq_ok_iff isTidy, readAll_text_eq_ok_iff isTidy,
      ← tells_append_null_iff (other.formed member isMember) lacking hasKey isNull]
    exact tells_perm_iff isTidy last
  forms := by
    intro text message reads
    rcases exists_text isTidy reads with isObject | ⟨list, isText, draft, linesUp, rfl⟩
    · exact .inl isObject
    · exact .inr ⟨list, isText, givesName_of_linesUp linesUp⟩

/-- A null name is gone when a message is printed again; an empty name stays. -/
theorem roundTripLaw_sample :
    ∃ nameless named : Message,
      read "\x7b\"name\":null,\"content\":\"Hi\",\"role\":\"user\"\x7d" = .ok nameless ∧
      nameless.text = "\x7b\"role\":\"user\",\"content\":\"Hi\"\x7d" ∧
      read nameless.text = .ok nameless ∧
      read "[\"user\",\"Hi\",\"\"]" = .ok named ∧
      named.text = "\x7b\"role\":\"user\",\"content\":\"Hi\",\"name\":\"\"\x7d" ∧
      read named.text = .ok named := by
  have readsNameless :
      read "\x7b\"name\":null,\"content\":\"Hi\",\"role\":\"user\"\x7d" =
        .ok ⟨.user, "Hi", none⟩ := by
    decide +kernel
  have readsNamed : read "[\"user\",\"Hi\",\"\"]" = .ok ⟨.user, "Hi", some ""⟩ := by
    decide +kernel
  exact ⟨_, _, readsNameless, by decide +kernel, roundTripLaw.survives _ _ readsNameless,
    readsNamed, by decide +kernel, roundTripLaw.survives _ _ readsNamed⟩

end Message
end KnowledgeClient
