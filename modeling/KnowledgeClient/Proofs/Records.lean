import KnowledgeClient.Json.Record
import KnowledgeClient.Proofs.Printing

/-!
# Records are read as they are printed

A printed record is an object with one member for each of some fields.  Members that
fill a draft one after the other, each for a field that was not filled before, are read
into that draft, and a draft that has all required fields is finished.  Two kinds of
records with the same fields, of which one keeps what the other does in another form,
are read from the same texts, and refused at the same places.
-/

namespace KnowledgeClient
namespace Json

variable {α β σ τ : Type}

/-- The reader takes the characters for the content, whatever comes after them. -/
def Yields (read : List Char → Read α) (chars : List Char) (content : α) : Prop :=
  ∀ after, read (chars ++ after) = .ok (content, after)

theorem yields_text (text : String) : Yields readText (stringChars text) text := by
  intro after
  obtain ⟨opened, opens, spells⟩ := spells_stringChars text after
  unfold readText
  rw [opens]
  exact (readString_eq_ok_iff opened text after).mpr spells

theorem yields_flag (value : Bool) : Yields readFlag (flagChars value) value := by
  intro after
  unfold readFlag
  cases value with
  | true =>
      have starts : skipSpace (flagChars true ++ after) = 't' :: 'r' :: 'u' :: 'e' :: after :=
        skipSpace_cons (c := 't') rfl _
      simp [starts, readWord, Except.map]
  | false =>
      have starts : skipSpace (flagChars false ++ after) =
          'f' :: 'a' :: 'l' :: 's' :: 'e' :: after :=
        skipSpace_cons (c := 'f') rfl _
      simp [starts, readWord, Except.map]

/-! ## Printed members -/

/-- A member as it is printed: its key and the characters of its value. -/
def memberChars (member : String × List Char) : List Char :=
  stringChars member.1 ++ ':' :: member.2

/-- Texts after the first one come after a comma each. -/
theorem commaSeparated_cons
    (text : List Char)
    (texts : List (List Char)) :
    commaSeparated (text :: texts) = text ++ texts.flatMap (',' :: ·) := by
  induction texts generalizing text with
  | nil => simp [commaSeparated]
  | cons next texts inductionHypothesis =>
      rw [commaSeparated, inductionHypothesis, List.flatMap_cons]
      · rfl
      · exact List.cons_ne_nil _ _

theorem length_le_length_flatMap_comma (texts : List (List Char)) :
    texts.length ≤ (texts.flatMap (',' :: ·)).length := by
  induction texts with
  | nil => exact Nat.le_refl 0
  | cons text texts inductionHypothesis =>
      simp only [List.flatMap_cons, List.cons_append, List.length_cons, List.length_append]
      omega

namespace Schema

variable {schema : Schema σ α} {draft last : σ} {members : List (String × List Char)}

/-- The members fill a draft one after the other: each is for a field that was not filled
before, and has the characters of its content. -/
inductive Fills (schema : Schema σ α) : σ → List (String × List Char) → σ → Prop
  | nil (draft : σ) : schema.Fills draft [] draft
  | cons
      {draft last : σ}
      {key : String}
      {chars : List Char}
      {members : List (String × List Char)}
      (field : Field σ)
      (content : field.Content)
      (known : schema.fields.find? (·.name == key) = some field)
      (unfilled : field.get? draft = none)
      (yields : Yields field.read chars content)
      (further : schema.Fills (field.set content draft) members last) :
      schema.Fills draft ((key, chars) :: members) last

/-- The value of a known member goes into the draft. -/
theorem readMember_of_known
    {key : String}
    {chars : List Char}
    {field : Field σ}
    {content : field.Content}
    (known : schema.fields.find? (·.name == key) = some field)
    (unfilled : field.get? draft = none)
    (yields : Yields field.read chars content)
    (after : List Char) :
    schema.readMember draft key (':' :: (chars ++ after)) =
      .ok (field.set content draft, after) := by
  have colon : readColon (':' :: (chars ++ after)) = .ok (chars ++ after) :=
    (readColon_eq_ok_iff _ _).mpr (skipSpace_cons rfl _)
  simp only [readMember, known, unfilled, Option.isSome_none, Bool.false_eq_true, if_false, colon,
    readField, yields after, bind, Except.bind]

/-- One member is read where it begins, and then the others. -/
theorem readMembersUpTo_memberChars
    {key : String}
    {chars rest cs budget after : List Char}
    {field : Field σ}
    {content : field.Content}
    {first : Bool}
    (known : schema.fields.find? (·.name == key) = some field)
    (unfilled : field.get? draft = none)
    (yields : Yields field.read chars content)
    (goesOn : GoesOn first cs (memberChars (key, chars) ++ rest))
    (c : Char)
    (loops : readMembersUpTo schema.readMember budget false (field.set content draft) rest =
      .ok (last, after)) :
    readMembersUpTo schema.readMember (c :: budget) first draft cs = .ok (last, after) := by
  obtain ⟨opened, opens, spells⟩ := spells_stringChars key (':' :: (chars ++ rest))
  have starts : skipSpace (memberChars (key, chars) ++ rest) = '"' :: opened := by
    rw [← opens, memberChars, List.append_assoc, List.cons_append]
  exact (readMembersUpTo_cons_eq_ok_iff _ _).mpr <| .inr
    ⟨key, _, _, rest, nextKey_of_goesOn goesOn starts spells,
      readMember_of_known known unfilled yields rest, loops⟩

/-- Members after a comma each are read into the draft that they fill. -/
theorem Fills.readMembersUpTo
    (fills : schema.Fills draft members last)
    {budget : List Char}
    (lasts : members.length < budget.length)
    (after : List Char) :
    Json.readMembersUpTo schema.readMember budget false draft
        ((members.map memberChars).flatMap (',' :: ·) ++ '\x7d' :: after) =
      .ok (last, '\x7d' :: after) := by
  induction fills generalizing budget with
  | nil draft => exact readMembersUpTo_of_closes _ draft (skipSpace_cons rfl _) lasts
  | cons field content known unfilled yields further inductionHypothesis =>
      match budget, lasts with
      | c :: budget, lasts =>
        rw [List.map_cons, List.flatMap_cons, List.cons_append, List.cons_append,
          List.append_assoc]
        exact readMembersUpTo_memberChars known unfilled yields
          (.comma (skipSpace_cons rfl _)) c (inductionHypothesis (Nat.lt_of_succ_lt_succ lasts))

/-- An object whose members fill a draft that has all required fields is read as the record
of that draft. -/
theorem Fills.yields
    (fills : schema.Fills schema.start members draft)
    (complete : schema.missing? draft = none) :
    Yields schema.read (objectChars members) (schema.finish draft) := by
  intro after
  let held := commaSeparated (members.map memberChars) ++ '\x7d' :: after
  have printed : objectChars members ++ after = '\x7b' :: held := by
    simp only [objectChars, List.cons_append, List.append_assoc, List.nil_append, held]
    rfl
  have loops : Json.readMembers schema.readMember schema.start held =
      .ok (draft, '\x7d' :: after) := by
    unfold Json.readMembers
    simp only [held]
    cases fills with
    | nil => exact readMembersUpTo_of_closes _ _ (skipSpace_cons rfl _) (by simp [commaSeparated])
    | @cons _ _ key chars others field content known unfilled yields further =>
        have longer := length_le_length_flatMap_comma (others.map memberChars)
        rw [List.length_map] at longer
        rw [List.map_cons, commaSeparated_cons, List.append_assoc]
        obtain ⟨c, budget, text⟩ := List.exists_cons_of_length_pos
          (l := memberChars (key, chars) ++ ((others.map memberChars).flatMap (',' :: ·) ++
            '\x7d' :: after))
          (by simp only [memberChars, List.length_append, List.length_cons]; omega)
        have lasts : others.length < budget.length := by
          have size := congrArg List.length text
          simp only [memberChars, List.length_append, List.length_cons] at size
          omega
        nth_rewrite 1 [text]
        exact readMembersUpTo_memberChars known unfilled yields (.start _) c
          (further.readMembersUpTo lasts after)
  have starts : skipSpace ('\x7b' :: held) = '\x7b' :: held := skipSpace_cons rfl _
  rw [printed]
  simp only [read, starts, readObject, loops, closeObject_brace, complete, bind, Except.bind]

end Schema

/-! ## Records in another form -/

/-- The second field is the first one in another form: it has the same name, it is read from
the same texts, and it is kept in drafts of the other form where the first one is. -/
structure Field.Recast (draft : σ → τ) (first : Field σ) (second : Field τ) : Prop where
  name_eq : second.name = first.name
  required_eq : second.required = first.required
  filled_iff : ∀ given, (second.get? (draft given)).isSome = (first.get? given).isSome
  content : ∃ content : first.Content → second.Content,
    (∀ cs, second.read cs = (first.read cs).map (Prod.map content id)) ∧
      ∀ found given, second.set (content found) (draft given) = draft (first.set found given)

/-- A field is in another form already when its content is kept as it is. -/
theorem Field.Recast.unchanged
    {draft : σ → τ}
    {Content : Type}
    {name : String}
    {required : Bool}
    {read : List Char → Read Content}
    {get? : σ → Option Content}
    {set : Content → σ → σ}
    {otherGet? : τ → Option Content}
    {otherSet : Content → τ → τ}
    (gets : ∀ given, otherGet? (draft given) = get? given)
    (sets : ∀ found given, otherSet found (draft given) = draft (set found given)) :
    Field.Recast draft ⟨Content, name, required, read, get?, set⟩
      ⟨Content, name, required, read, otherGet?, otherSet⟩ where
  name_eq := rfl
  required_eq := rfl
  filled_iff := fun given => congrArg Option.isSome (gets given)
  content := ⟨id, fun cs => by dsimp only; cases read cs <;> rfl, sets⟩

/-- The second kind of records is the first one in another form. -/
structure Schema.Recast
    (draft : σ → τ)
    (record : α → β)
    (first : Schema σ α)
    (second : Schema τ β) : Prop where
  name_eq : second.name = first.name
  fields : List.Forall₂ (Field.Recast draft) first.fields second.fields
  start_eq : second.start = draft first.start
  finish_eq : ∀ given, second.finish (draft given) = record (first.finish given)

/-- A loop over members does the same with what the members lead to in another form. -/
theorem readMembersUpTo_map
    {draft : σ → τ}
    {member : σ → String → List Char → Read σ}
    {other : τ → String → List Char → Read τ}
    (same : ∀ given key cs,
      other (draft given) key cs = (member given key cs).map (Prod.map draft id))
    (budget : List Char)
    (first : Bool)
    (given : σ)
    (cs : List Char) :
    readMembersUpTo other budget first (draft given) cs =
      (readMembersUpTo member budget first given cs).map (Prod.map draft id) := by
  induction budget generalizing first given cs with
  | nil => rfl
  | cons c budget inductionHypothesis =>
      rw [readMembersUpTo, readMembersUpTo]
      rcases nextKey first cs with stop | ⟨_ | key, inner⟩
      · rfl
      · rfl
      · simp only [bind, Except.bind, same]
        rcases member given key inner with stop | ⟨next, rest⟩
        · rfl
        · exact inductionHypothesis false next rest

/-- A reader that stops for the type of a value gives nothing in any form. -/
theorem stopAtType_map
    (function : α → β)
    (wanted : Wanted)
    (cs : List Char) :
    (stopAtType wanted cs : Except Stop β) =
      (stopAtType wanted cs : Except Stop α).map function := by
  unfold stopAtType
  cases cs with
  | nil => rfl
  | cons c rest =>
      dsimp only
      split
      · rfl
      · split
        · rfl
        · rcases readValueWith (stopPast .expectedValue) (c :: rest) with stop | ⟨value, rest⟩
          · rfl
          · cases value <;> rfl

namespace Schema
namespace Recast

variable
  {draft : σ → τ}
  {record : α → β}
  {first : Schema σ α}
  {second : Schema τ β}

theorem readField
    {field : Field σ}
    {other : Field τ}
    (recast : field.Recast draft other)
    (given : σ)
    (cs : List Char) :
    Schema.readField other (draft given) cs =
      (Schema.readField field given cs).map (Prod.map draft id) := by
  obtain ⟨content, reads, sets⟩ := recast.content
  unfold Schema.readField
  rw [reads]
  rcases field.read cs with stop | ⟨found, rest⟩
  · rfl
  · simp only [bind, Except.bind, Except.map, Prod.map, id, sets]

/-- What is found among the fields of one form is found in the other form among the others. -/
theorem find?_fields
    {fields : List (Field σ)}
    {others : List (Field τ)}
    (recast : List.Forall₂ (Field.Recast draft) fields others)
    (property : Field σ → Bool)
    (otherProperty : Field τ → Bool)
    (same : ∀ field other, Field.Recast draft field other → otherProperty other = property field) :
    Option.Rel (Field.Recast draft) (fields.find? property) (others.find? otherProperty) := by
  induction recast with
  | nil => exact .none
  | @cons field other fields others recast _ inductionHypothesis =>
      rw [List.find?_cons, List.find?_cons, same field other recast]
      cases property field with
      | true => exact .some recast
      | false => exact inductionHypothesis

theorem readMember
    (recast : first.Recast draft record second)
    (given : σ)
    (key : String)
    (cs : List Char) :
    second.readMember (draft given) key cs =
      (first.readMember given key cs).map (Prod.map draft id) := by
  have found := find?_fields recast.fields (·.name == key) (·.name == key)
    fun field other same => by rw [same.name_eq]
  unfold Schema.readMember
  generalize first.fields.find? (·.name == key) = known at found ⊢
  generalize second.fields.find? (·.name == key) = otherKnown at found ⊢
  cases found with
  | none =>
      simp only [bind, Except.bind]
      rcases readColon cs with stop | inner
      · rfl
      · dsimp only
        rcases skipValue inner with stop | rest <;> rfl
  | @some field other same =>
      simp only [same.filled_iff]
      split
      · unfold readMember.stopAfter
        split <;> rfl
      · simp only [bind, Except.bind]
        rcases readColon cs with stop | inner
        · rfl
        · exact readField same given inner

theorem missing?
    (recast : first.Recast draft record second)
    (given : σ) :
    second.missing? (draft given) = first.missing? given := by
  have found := find?_fields recast.fields
    (fun field => field.required && (field.get? given).isNone)
    (fun field => field.required && (field.get? (draft given)).isNone)
    fun field other same => by
      rw [same.required_eq, ← Option.not_isSome, ← Option.not_isSome, same.filled_iff]
  unfold Schema.missing?
  generalize first.fields.find? _ = lacking at found ⊢
  generalize second.fields.find? _ = otherLacking at found ⊢
  cases found with
  | none => rfl
  | some same => exact congrArg some same.name_eq

theorem readObject
    (recast : first.Recast draft record second)
    (cs : List Char) :
    second.readObject cs = (first.readObject cs).map (Prod.map record id) := by
  unfold Schema.readObject readMembers
  rw [recast.start_eq, readMembersUpTo_map recast.readMember]
  rcases readMembersUpTo first.readMember cs true first.start cs with stop | ⟨given, rest⟩
  · rfl
  · simp only [bind, Except.bind, Except.map, Prod.map, id, recast.missing?]
    rcases closeObject rest with stop | after
    · rfl
    · dsimp only
      cases first.missing? given with
      | some name => rfl
      | none => simp only [recast.finish_eq]

theorem readFields
    (recast : first.Recast draft record second)
    {fields : List (Field σ)}
    {others : List (Field τ)}
    (same : List.Forall₂ (Field.Recast draft) fields others)
    (count : Nat)
    (given : σ)
    (cs : List Char) :
    second.readFields others count (draft given) cs =
      (first.readFields fields count given cs).map (Prod.map draft id) := by
  induction same generalizing count given cs with
  | nil => rfl
  | @cons field other fields others sameField _ inductionHypothesis =>
      rw [Schema.readFields, Schema.readFields]
      rcases nextItem (count == 0) cs with stop | ⟨more, inner⟩
      · rfl
      · cases more with
        | true =>
            simp only [bind, Except.bind, if_true, readField sameField]
            rcases Schema.readField field given inner with stop | ⟨next, rest⟩
            · rfl
            · exact inductionHypothesis (count + 1) next rest
        | false =>
            simp only [bind, Except.bind, Bool.false_eq_true, if_false, sameField.required_eq]
            split
            · rw [recast.name_eq, recast.fields.length_eq]
              rcases closeList inner with stop | rest <;> rfl
            · exact inductionHypothesis (count + 1) given inner

theorem readArray
    (recast : first.Recast draft record second)
    (cs : List Char) :
    second.readArray cs = (first.readArray cs).map (Prod.map record id) := by
  unfold Schema.readArray
  rw [recast.start_eq, recast.readFields recast.fields]
  rcases first.readFields first.fields 0 first.start cs with stop | ⟨given, rest⟩
  · rfl
  · simp only [bind, Except.bind, Except.map, Prod.map, id, recast.finish_eq]
    rcases closeList rest with stop | after <;> rfl

/-- A record in another form is read just where the record is. -/
theorem read
    (recast : first.Recast draft record second)
    (cs : List Char) :
    second.read cs = (first.read cs).map (Prod.map record id) := by
  unfold Schema.read
  rw [recast.name_eq]
  split
  · rfl
  · exact recast.readObject _
  · exact recast.readArray _
  · exact stopAtType_map _ _ _

end Recast
end Schema

/-! ## Whole texts -/

/-- A text that a reader takes as a whole is the text of its content. -/
theorem Yields.readAll
    {read : List Char → Read α}
    {chars : List Char}
    {content : α}
    (yields : Yields read chars content) :
    Json.readAll read (String.ofList chars) = .ok content := by
  refine (readAll_eq_ok_iff _ _ _).mpr ⟨[], ?_, rfl⟩
  rw [String.toList_ofList, ← yields [], List.append_nil]

/-- A reader that reads in another form does so with whole texts. -/
theorem readAll_map
    {read : List Char → Read α}
    {other : List Char → Read β}
    {function : α → β}
    (same : ∀ cs, other cs = (read cs).map (Prod.map function id))
    (text : String) :
    readAll other text = (readAll read text).map function := by
  unfold readAll
  rw [same]
  rcases read text.toList with stop | ⟨content, rest⟩
  · rfl
  · simp only [bind, Except.bind, Except.map, Prod.map, id]
    cases skipSpace rest <;> rfl

end Json
end KnowledgeClient
