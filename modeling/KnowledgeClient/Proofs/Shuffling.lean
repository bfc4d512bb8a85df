import KnowledgeClient.Proofs.Members
import KnowledgeClient.Proofs.Records
import Mathlib.Data.List.Pairwise

/-!
# The members of a record come in any order

Where every field of a kind of record is read steadily and has a place of its own in the drafts,
members tell the same in any order, with any unknown members among them.  An object tells no
record that has two members for the same field, or none for a field that is required.
-/

namespace KnowledgeClient
namespace Json

variable {α σ : Type}

/-! ## Places of fields, unknown members -/

/-- The two fields are kept in different places of the drafts. -/
@[mk_iff]
structure Field.Separate (field other : Field σ) : Prop where
  get : ∀ content draft, other.get? (field.set content draft) = other.get? draft
  getOther : ∀ content draft, field.get? (other.set content draft) = field.get? draft
  set : ∀ content otherContent draft,
    field.set content (other.set otherContent draft) =
      other.set otherContent (field.set content draft)

theorem Field.Separate.symm
    {field other : Field σ}
    (separate : field.Separate other) :
    other.Separate field where
  get := separate.getOther
  getOther := separate.get
  set content otherContent draft := (separate.set otherContent content draft).symm

/-- The key of the member means something else than one of the names. -/
def Member.IsUnknown
    (names : List String)
    (member : Member) : Prop :=
  ∃ name, member.HasKey name ∧ name ∉ names

namespace Schema

variable
  {schema : Schema σ α}
  {draft middle next final : σ}
  {member one other : Member}
  {members others extra : List Member}
  {field : Field σ}
  {name : String}
  {record : α}

/-- Every field is read steadily and has a place of its own in the drafts, which is empty at
the start. -/
structure IsTidy (schema : Schema σ α) : Prop where
  steady : ∀ field ∈ schema.fields, IsSteady field.read
  kept : ∀ field ∈ schema.fields, ∀ content draft,
    field.get? (field.set content draft) = some content
  separate : schema.fields.Pairwise Field.Separate
  empty : ∀ field ∈ schema.fields, field.get? schema.start = none

/-- The names of the fields. -/
def names (schema : Schema σ α) : List String :=
  schema.fields.map Field.name

/-- The names of the fields that must be there. -/
def requiredNames (schema : Schema σ α) : List String :=
  (schema.fields.filter Field.required).map Field.name

/-- Fields with different names are kept in different places. -/
theorem IsTidy.separate_of_ne
    (tidy : schema.IsTidy)
    {otherField : Field σ}
    (isField : field ∈ schema.fields)
    (isOther : otherField ∈ schema.fields)
    (different : field.name ≠ otherField.name) :
    field.Separate otherField :=
  have : Std.Symm (Field.Separate (σ := σ)) := ⟨fun _ _ separate => separate.symm⟩
  tidy.separate.forall isField isOther fun same => different (same ▸ rfl)

/-- The field of a name is one of the fields and has that name. -/
theorem mem_of_find?
    (known : schema.fields.find? (·.name == name) = some field) :
    field ∈ schema.fields ∧ field.name = name :=
  ⟨List.mem_of_find?_eq_some known, by simpa using List.find?_some known⟩

theorem find?_eq_none_iff :
    schema.fields.find? (·.name == name) = none ↔ name ∉ schema.names := by
  simp [names, List.find?_eq_none]

/-! ## Members in another order -/

/-- What two members tell one after the other, they tell in the other order. -/
theorem Learns.swap
    (tidy : schema.IsTidy)
    (first : schema.Learns draft one middle)
    (second : schema.Learns middle other final) :
    ∃ middle, schema.Learns draft other middle ∧ schema.Learns middle one final := by
  cases first with
  | unknown hasKey unknown => exact ⟨final, second, .unknown hasKey unknown⟩
  | @known firstName firstField content hasKey known unfilled takes =>
      cases second with
      | unknown otherKey unknown =>
          exact ⟨draft, .unknown otherKey unknown, .known hasKey known unfilled takes⟩
      | @known secondName secondField otherContent otherKey otherKnown stillUnfilled otherTakes =>
          obtain ⟨isField, isName⟩ := mem_of_find? known
          obtain ⟨isOther, isOtherName⟩ := mem_of_find? otherKnown
          have different : firstName ≠ secondName := by
            rintro rfl
            obtain rfl := Option.some.inj (known.symm.trans otherKnown)
            rw [tidy.kept _ isField] at stillUnfilled
            cases stillUnfilled
          have separate := tidy.separate_of_ne isField isOther (by rwa [isName, isOtherName])
          rw [separate.get] at stillUnfilled
          refine ⟨secondField.set otherContent draft,
            .known otherKey otherKnown stillUnfilled otherTakes, ?_⟩
          rw [← separate.set]
          exact .known hasKey known (by rw [separate.getOther, unfilled]) takes

/-- What members tell, they tell in any order. -/
theorem Gathers.perm
    (tidy : schema.IsTidy)
    (gathers : schema.Gathers draft members final)
    (permuted : members.Perm others) :
    schema.Gathers draft others final := by
  induction permuted generalizing draft final with
  | nil => exact gathers
  | cons member _ inductionHypothesis =>
      cases gathers with
      | cons learns further => exact .cons learns (inductionHypothesis further)
  | swap second first _ =>
      cases gathers with
      | cons learns further =>
          cases further with
          | cons learnsToo further =>
              obtain ⟨middle, learnsFirst, learnsSecond⟩ := learns.swap tidy learnsToo
              exact .cons learnsFirst (.cons learnsSecond further)
  | trans _ _ inductionHypothesis inductionHypothesisToo =>
      exact inductionHypothesisToo (inductionHypothesis gathers)

/-- What members tell, and what further members tell after them. -/
theorem gathers_append_iff :
    schema.Gathers draft (members ++ others) final ↔
      ∃ middle, schema.Gathers draft members middle ∧ schema.Gathers middle others final := by
  constructor
  · intro gathers
    induction members generalizing draft with
    | nil => exact ⟨draft, .nil draft, gathers⟩
    | cons member members inductionHypothesis =>
        cases gathers with
        | cons learns further =>
            obtain ⟨middle, before, after⟩ := inductionHypothesis further
            exact ⟨middle, .cons learns before, after⟩
  · rintro ⟨middle, before, after⟩
    induction before with
    | nil => exact after
    | cons learns _ inductionHypothesis => exact .cons learns (inductionHypothesis after)

/-- Unknown members tell nothing. -/
theorem gathers_of_unknown
    (unknown : ∀ member ∈ members, member.IsUnknown schema.names)
    (draft : σ) :
    schema.Gathers draft members draft := by
  induction members with
  | nil => exact .nil draft
  | cons member members inductionHypothesis =>
      rw [List.forall_mem_cons] at unknown
      obtain ⟨⟨name, hasKey, isUnknown⟩, others⟩ := unknown
      exact .cons (.unknown hasKey (find?_eq_none_iff.mpr isUnknown)) (inductionHypothesis others)

/-- Members tell the same record in any order. -/
theorem tells_perm_iff
    (tidy : schema.IsTidy)
    (permuted : members.Perm others) :
    schema.Tells members record ↔ schema.Tells others record :=
  ⟨fun ⟨draft, gathers, told⟩ => ⟨draft, gathers.perm tidy permuted, told⟩,
    fun ⟨draft, gathers, told⟩ => ⟨draft, gathers.perm tidy permuted.symm, told⟩⟩

/-- Members in any order, with unknown members anywhere among them, tell the same record. -/
theorem Tells.of_perm
    (tidy : schema.IsTidy)
    (tells : schema.Tells members record)
    (permuted : others.Perm (members ++ extra))
    (unknown : ∀ member ∈ extra, member.IsUnknown schema.names) :
    schema.Tells others record := by
  obtain ⟨draft, gathers, told⟩ := tells
  have further := gathers_append_iff.mpr ⟨draft, gathers, gathers_of_unknown unknown draft⟩
  exact (tells_perm_iff tidy permuted).mpr ⟨draft, further, told⟩

/-! ## Members too many and too few -/

/-- A member with another key leaves a field as it was. -/
theorem Learns.get?_eq
    (tidy : schema.IsTidy)
    (learns : schema.Learns draft member next)
    (isField : field ∈ schema.fields)
    (otherKey : ¬ member.HasKey field.name) :
    field.get? next = field.get? draft := by
  cases learns with
  | unknown => rfl
  | known hasKey known =>
      obtain ⟨isOther, isName⟩ := mem_of_find? known
      refine (tidy.separate_of_ne isOther isField ?_).get _ _
      rintro same
      rw [← same, isName] at otherKey
      exact otherKey hasKey

/-- A member with the key of a field finds that field unfilled and fills it. -/
theorem Learns.fills
    (learns : schema.Learns draft member next)
    (known : schema.fields.find? (·.name == name) = some field)
    (hasKey : member.HasKey name) :
    field.get? draft = none ∧
      ∃ content, Takes field.read member.value.inner content ∧ next = field.set content draft := by
  cases learns with
  | unknown otherKey unknown =>
      obtain rfl := otherKey.eq hasKey
      rw [known] at unknown
      cases unknown
  | known otherKey otherKnown unfilled takes =>
      obtain rfl := otherKey.eq hasKey
      obtain rfl := Option.some.inj (known.symm.trans otherKnown)
      exact ⟨unfilled, _, takes, rfl⟩

/-- A field is left as it was where no member has its key. -/
theorem Gathers.get?_eq
    (tidy : schema.IsTidy)
    (gathers : schema.Gathers draft members final)
    (isField : field ∈ schema.fields)
    (lacking : ∀ member ∈ members, ¬ member.HasKey field.name) :
    field.get? final = field.get? draft := by
  induction gathers with
  | nil => rfl
  | cons learns _ inductionHypothesis =>
      rw [List.forall_mem_cons] at lacking
      rw [inductionHypothesis lacking.2, learns.get?_eq tidy isField lacking.1]

/-- Where a field is filled, no member has its key. -/
theorem Gathers.not_hasKey_of_filled
    (tidy : schema.IsTidy)
    (gathers : schema.Gathers draft members final)
    (known : schema.fields.find? (·.name == name) = some field)
    {content : field.Content}
    (filled : field.get? draft = some content) :
    ∀ member ∈ members, ¬ member.HasKey name := by
  induction gathers with
  | nil => exact nofun
  | cons learns _ inductionHypothesis =>
      have otherKey : ¬ Member.HasKey _ name := fun hasKey => by
        rw [(learns.fills known hasKey).1] at filled
        cases filled
      obtain ⟨isField, rfl⟩ := mem_of_find? known
      refine List.forall_mem_cons.mpr ⟨otherKey, inductionHypothesis ?_⟩
      rwa [learns.get?_eq tidy isField otherKey]

/-- A field that is filled keeps its content. -/
theorem Gathers.get?_of_filled
    (tidy : schema.IsTidy)
    (gathers : schema.Gathers draft members final)
    (known : schema.fields.find? (·.name == name) = some field)
    {content : field.Content}
    (filled : field.get? draft = some content) :
    field.get? final = some content := by
  have lacking := gathers.not_hasKey_of_filled tidy known filled
  obtain ⟨isField, rfl⟩ := mem_of_find? known
  rw [gathers.get?_eq tidy isField lacking, filled]

/-- A member with the key of a field fills it with what its value is taken for. -/
theorem Gathers.exists_content
    (tidy : schema.IsTidy)
    (gathers : schema.Gathers draft members final)
    (known : schema.fields.find? (·.name == name) = some field)
    (isMember : member ∈ members)
    (hasKey : member.HasKey name) :
    ∃ content, Takes field.read member.value.inner content ∧ field.get? final = some content := by
  induction gathers with
  | nil => cases isMember
  | cons learns further inductionHypothesis =>
      rcases List.mem_cons.mp isMember with rfl | later
      · obtain ⟨_, content, takes, rfl⟩ := learns.fills known hasKey
        have filled := tidy.kept field (mem_of_find? known).1 content
        exact ⟨content, takes, further.get?_of_filled tidy known (filled _)⟩
      · exact inductionHypothesis later

/-- Two members with the key of the same field tell no draft. -/
theorem Gathers.not_repeated
    (tidy : schema.IsTidy)
    (gathers : schema.Gathers draft members final)
    (isName : name ∈ schema.names)
    (repeated : [one, other].Sublist members)
    (hasKey : one.HasKey name)
    (otherKey : other.HasKey name) :
    False := by
  obtain ⟨field, known⟩ : ∃ field, schema.fields.find? (·.name == name) = some field := by
    refine Option.ne_none_iff_exists'.mp fun unknown => ?_
    exact find?_eq_none_iff.mp unknown isName
  induction gathers with
  | nil => cases repeated
  | cons learns further inductionHypothesis =>
      cases repeated with
      | cons _ later => exact inductionHypothesis later
      | cons_cons _ later =>
          obtain ⟨_, content, _, rfl⟩ := learns.fills known hasKey
          have filled := tidy.kept field (mem_of_find? known).1 content
          exact further.not_hasKey_of_filled tidy known (filled _) other
            (List.singleton_sublist.mp later) otherKey

/-- Members tell no record if none of them has the key of a field that is required. -/
theorem not_tells_of_lacking
    (tidy : schema.IsTidy)
    (isRequired : name ∈ schema.requiredNames)
    (lacking : ∀ member ∈ members, ¬ member.HasKey name)
    (record : α) :
    ¬ schema.Tells members record := by
  rintro ⟨draft, gathers, complete, _⟩
  obtain ⟨field, isFiltered, rfl⟩ := List.mem_map.mp isRequired
  obtain ⟨isField, required⟩ := List.mem_filter.mp isFiltered
  have unfilled : field.get? draft = none := by
    rw [gathers.get?_eq tidy isField lacking, tidy.empty field isField]
  have none := List.find?_eq_none.mp (Option.map_eq_none_iff.mp complete) field isField
  simp [required, unfilled] at none

end Schema

/-! ## Object texts and list texts -/

/-- A text that is an object, with all its blanks. -/
structure ObjectText where
  before : List Char
  inside : List Char
  after : List Char
  members : List Member
  blankBefore : AreBlank before
  blankInside : AreBlank inside
  blankAfter : AreBlank after
  formed : ∀ member ∈ members, member.IsFormed

/-- The text. -/
def ObjectText.text (object : ObjectText) : String :=
  String.ofList (object.before ++
    '\x7b' :: bracketed .object true object.inside (object.members.map Member.piece) object.after)

/-- A text that is a list, with all its blanks. -/
structure ListText where
  before : List Char
  inside : List Char
  after : List Char
  pieces : List Piece
  blankBefore : AreBlank before
  blankInside : AreBlank inside
  blankAfter : AreBlank after

/-- The text. -/
def ListText.text (list : ListText) : String :=
  String.ofList (list.before ++ '[' :: bracketed .list true list.inside list.pieces list.after)

namespace Schema

variable
  {schema : Schema σ α}
  {text : String}
  {record : α}

/-- An object text is read as the record that its members tell. -/
theorem readAll_text_eq_ok_iff
    (tidy : schema.IsTidy)
    (object : ObjectText) :
    readAll schema.read object.text = .ok record ↔ schema.Tells object.members record := by
  have blank : skipSpace object.after = [] := by
    rw [← List.append_nil object.after, skipSpace_append object.blankAfter]
    rfl
  rw [readAll_eq_ok_iff, ObjectText.text, String.toList_ofList]
  unfold read
  rw [skipSpace_blank object.blankBefore rfl]
  simp only [readObject_bracketed_eq_ok_iff tidy.steady object.formed object.blankInside]
  constructor
  · rintro ⟨_, ⟨rfl, tells⟩, _⟩
    exact tells
  · intro tells
    exact ⟨_, ⟨rfl, tells⟩, blank⟩

/-- An object text is refused if its members tell no record. -/
theorem exists_fault_of_untold
    (tidy : schema.IsTidy)
    {object : ObjectText}
    (untold : ∀ record, ¬ schema.Tells object.members record) :
    ∃ fault, readAll schema.read object.text = .error fault := by
  cases reads : readAll schema.read object.text with
  | error fault => exact ⟨fault, rfl⟩
  | ok record => exact absurd ((readAll_text_eq_ok_iff tidy object).mp reads) (untold record)

/-- A text that is read as a record is an object text, or a list text with pieces that are the
contents of its fields. -/
theorem exists_text
    (tidy : schema.IsTidy)
    (reads : readAll schema.read text = .ok record) :
    (∃ object : ObjectText, text = object.text) ∨
      ∃ list : ListText, text = list.text ∧ ∃ draft,
        LinesUp schema.fields schema.start list.pieces draft ∧ record = schema.finish draft := by
  obtain ⟨rest, isRead, blank⟩ := (readAll_eq_ok_iff _ _ _).mp reads
  obtain ⟨before, blankBefore, padded⟩ := exists_blank_append_skipSpace text.toList
  obtain ⟨after, blankAfter, paddedRest⟩ := exists_blank_append_skipSpace rest
  rw [blank, List.append_nil] at paddedRest
  subst paddedRest
  obtain ⟨chars, forms, starts⟩ := (read_eq_ok_iff tidy.steady _ _ _).mp isRead
  rw [starts] at padded
  rcases forms with ⟨inside, members, blankInside, formed, _, rfl⟩ |
    ⟨inside, pieces, draft, blankInside, linesUp, isRecord, rfl⟩
  · refine .inl ⟨⟨before, inside, rest, members, blankBefore, blankInside, blankAfter, formed⟩, ?_⟩
    rw [← String.toList_inj, ObjectText.text, String.toList_ofList, padded, List.cons_append,
      bracketed_append, List.nil_append]
  · refine .inr ⟨⟨before, inside, rest, pieces, blankBefore, blankInside, blankAfter⟩, ?_, draft,
      linesUp, isRecord⟩
    rw [← String.toList_inj, ListText.text, String.toList_ofList, padded, List.cons_append,
      bracketed_append, List.nil_append]

/-- A text that is read as a record and opens with a brace is an object text. -/
theorem exists_objectText
    (tidy : schema.IsTidy)
    {blanks opened : List Char}
    (reads : readAll schema.read text = .ok record)
    (areBlank : AreBlank blanks)
    (opens : text.toList = blanks ++ '\x7b' :: opened) :
    ∃ object : ObjectText, text = object.text := by
  rcases exists_text tidy reads with isObject | ⟨list, rfl, _⟩
  · exact isObject
  · rw [ListText.text, String.toList_ofList] at opens
    have same := congrArg skipSpace opens
    rw [skipSpace_blank list.blankBefore rfl, skipSpace_blank areBlank rfl] at same
    cases (List.cons.inj same).1

end Schema

/-! ## Printed objects -/

/-- The printed string of a text means that text. -/
theorem quotes_stringChars (text : String) : Quotes (stringChars text) text :=
  ⟨_, rfl, spellsText_flatMap_escapedChar text.toList []⟩

theorem isValue_stringChars (text : String) : IsValue (stringChars text) :=
  .scalar (.text (quotes_stringChars text).isString)

/-- A member as it is printed, its value in the characters that are given. -/
def Member.printed (row : String × List Char) : Member where
  key := ⟨[], stringChars row.1, [], areBlank_nil, areBlank_nil⟩
  value := ⟨[], row.2, [], areBlank_nil, areBlank_nil⟩

theorem Member.hasKey_printed (row : String × List Char) : (printed row).HasKey row.1 :=
  quotes_stringChars row.1

theorem Member.hasKey_printed_iff
    (row : String × List Char)
    (name : String) :
    (printed row).HasKey name ↔ row.1 = name :=
  ⟨(hasKey_printed row).eq, fun same => same ▸ hasKey_printed row⟩

/-- An object as it is printed, its values in the characters that are given. -/
def ObjectText.printed
    (rows : List (String × List Char))
    (values : ∀ row ∈ rows, IsValue row.2) : ObjectText where
  before := []
  inside := []
  after := []
  members := rows.map Member.printed
  blankBefore := areBlank_nil
  blankInside := areBlank_nil
  blankAfter := areBlank_nil
  formed := List.forall_mem_map.mpr fun row isRow =>
    ⟨(Member.hasKey_printed row).isString, values row isRow⟩

theorem commaSeparated_eq_separated (texts : List (List Char)) :
    commaSeparated texts = separated true texts := by
  have further (texts : List (List Char)) :
      texts.flatMap (',' :: ·) = separated false texts := by
    induction texts with
    | nil => rfl
    | cons text texts inductionHypothesis =>
        rw [List.flatMap_cons, inductionHypothesis]
        rfl
  cases texts with
  | nil => rfl
  | cons text texts =>
      rw [commaSeparated_cons, further]
      rfl

/-- The text of a printed object. -/
theorem ObjectText.text_printed
    (rows : List (String × List Char))
    (values : ∀ row ∈ rows, IsValue row.2) :
    (printed rows values).text = String.ofList (objectChars rows) := by
  have chars : (rows.map Member.printed).map (Piece.chars ∘ Member.piece) =
      rows.map memberChars := by
    rw [List.map_map]
    refine List.map_congr_left fun row _ => ?_
    simp [Member.printed, Member.piece, Piece.chars, Padded.chars, memberChars]
  have isObject : objectChars rows =
      '\x7b' :: commaSeparated (rows.map memberChars) ++ ['\x7d'] := rfl
  rw [text, isObject, commaSeparated_eq_separated, ← chars]
  simp only [printed, bracketed, List.map_map, List.nil_append, List.cons_append]
  rfl

end Json
end KnowledgeClient
