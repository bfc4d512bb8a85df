import KnowledgeClient.Proofs.Pieces

/-!
# Objects are read member by member

Each member of an object tells the draft of a record something or nothing: a field that was not
told before is filled, an unknown member leaves the draft as it is.  `Gathers` says what members
tell one after the other.  A record is read from an object exactly if its members tell a draft
all that is required; so a record is read steadily if its fields are.
-/

namespace KnowledgeClient
namespace Json

variable
  {α σ : Type}
  {first : Bool}
  {cs before unread inside after rest last budget : List Char}
  {pieces : List Piece}
  {member : Member}
  {members : List Member}
  {name : String}

/-! ## Keys -/

/-- A text that begins with the form of a string and is read as a string means what the string
means. -/
theorem Quotes.of_endsString
    {ending : List Char}
    {text : String}
    (ends : EndsString ending)
    (spells : SpellsText (ending ++ rest) text.toList after) :
    after = rest ∧ Quotes ('"' :: ending) text := by
  obtain ⟨spelled, same, endsToo, local_⟩ := spells.exists_ending
  have skips := (skipString_eq_ok_iff (ending ++ rest) rest).mpr ⟨ending, ends, rfl⟩
  rw [(skipString_eq_ok_iff (ending ++ rest) after).mpr ⟨spelled, endsToo, same⟩] at skips
  obtain rfl := Except.ok.inj skips
  obtain rfl := List.append_cancel_right same
  have alone := local_ []
  rw [List.append_nil] at alone
  exact ⟨rfl, ending, rfl, alone⟩

/-- What follows the colon of a member in its object. -/
def Member.afterColon
    (member : Member)
    (pieces : List Piece)
    (after : List Char) : List Char :=
  member.value.before ++ (member.value.inner ++
    bracketed .object false member.value.after pieces after)

/-- What follows the key of a member in its object. -/
def Member.afterKey
    (member : Member)
    (pieces : List Piece)
    (after : List Char) : List Char :=
  member.key.after ++ ':' :: member.afterColon pieces after

theorem Member.readColon_afterKey
    (member : Member)
    (pieces : List Piece)
    (after : List Char) :
    readColon (member.afterKey pieces after) = .ok (member.afterColon pieces after) :=
  (readColon_eq_ok_iff _ _).mpr (skipSpace_blank member.key.blankAfter rfl)

theorem Member.skipSpace_afterColon
    (member : Member)
    (isValue : IsValue member.value.inner)
    (pieces : List Piece)
    (after : List Char) :
    skipSpace (member.afterColon pieces after) =
      member.value.inner ++ bracketed .object false member.value.after pieces after :=
  (skipSpace_append member.value.blankBefore _).trans (isValue.skipSpace_append _)

/-- The next key of an object is that of its first member, if it means a name. -/
theorem nextKey_eq_ok_iff
    (formed : member.IsFormed)
    (blank : AreBlank inside)
    (first : Bool)
    (pieces : List Piece)
    (after : List Char)
    (key? : Option String)
    (unread : List Char) :
    nextKey first (bracketed .object first inside (member.piece :: pieces) after) =
        .ok (key?, unread) ↔
      ∃ name, key? = some name ∧ member.HasKey name ∧ unread = member.afterKey pieces after := by
  obtain ⟨ending, ends, inner⟩ := formed.key
  obtain ⟨before, goesOn, starts⟩ :=
    exists_goesOn blank .object first member.piece pieces after
  have atKey : skipSpace before = '"' :: (ending ++ member.afterKey pieces after) := by
    rw [starts]
    simp only [Member.piece, Member.afterKey, Member.afterColon, Padded.chars, inner,
      List.append_assoc, List.cons_append, List.nil_append]
    exact skipSpace_blank member.key.blankBefore rfl
  constructor
  · intro next
    rcases eq_of_nextKey next with ⟨_, closed, _, closes⟩ | ⟨name, other, opened, rfl, goesOnToo,
      opens, spells⟩
    · cases first with
      | true =>
          cases goesOn
          rw [closes] at atKey
          cases atKey
      | false =>
          cases goesOn with
          | comma comma =>
              rw [closes] at comma
              cases comma
    · obtain rfl := goesOn.eq goesOnToo
      rw [opens] at atKey
      obtain ⟨_, rfl⟩ := List.cons.inj atKey
      obtain ⟨rfl, quotes⟩ := Quotes.of_endsString ends spells
      exact ⟨name, rfl, by rw [Member.HasKey, inner]; exact quotes, rfl⟩
  · rintro ⟨name, rfl, hasKey, rfl⟩
    obtain ⟨ending, quoted, spells⟩ := hasKey.spells
    rw [inner] at quoted
    obtain ⟨_, rfl⟩ := List.cons.inj quoted
    exact nextKey_of_goesOn goesOn atKey (spells _)

/-! ## What members tell -/

namespace Schema

variable
  {schema : Schema σ α}
  {draft next final : σ}
  {field : Field σ}
  {record : α}

/-- What one member tells: a field that was not told before, or nothing. -/
inductive Learns (schema : Schema σ α) : σ → Member → σ → Prop
  | known
      {draft : σ}
      {member : Member}
      {name : String}
      {field : Field σ}
      {content : field.Content}
      (hasKey : member.HasKey name)
      (known : schema.fields.find? (·.name == name) = some field)
      (unfilled : field.get? draft = none)
      (takes : Takes field.read member.value.inner content) :
      Learns schema draft member (field.set content draft)
  | unknown
      {draft : σ}
      {member : Member}
      {name : String}
      (hasKey : member.HasKey name)
      (unknown : schema.fields.find? (·.name == name) = none) :
      Learns schema draft member draft

/-- What members tell one after the other. -/
inductive Gathers (schema : Schema σ α) : σ → List Member → σ → Prop
  | nil (draft : σ) : Gathers schema draft [] draft
  | cons
      {draft next final : σ}
      {member : Member}
      {members : List Member}
      (learns : schema.Learns draft member next)
      (further : Gathers schema next members final) :
      Gathers schema draft (member :: members) final

theorem Learns.exists_hasKey (learns : schema.Learns draft member next) :
    ∃ name, member.HasKey name := by
  cases learns with
  | known hasKey => exact ⟨_, hasKey⟩
  | unknown hasKey => exact ⟨_, hasKey⟩

theorem stopAfter_ne_ok
    (bracket : Char)
    (problem : Problem)
    (cs : List Char)
    (found : σ × List Char) :
    readMember.stopAfter bracket problem cs ≠ .ok found := by
  unfold readMember.stopAfter
  split <;> nofun

/-- A member is read if it has a colon and its value is read into a field that was not filled
before, or passed over where its key is unknown. -/
theorem readMember_eq_ok_iff
    (key : String)
    (inner rest : List Char) :
    schema.readMember draft key inner = .ok (next, rest) ↔
      ∃ unread, readColon inner = .ok unread ∧
        ((∃ field content, schema.fields.find? (·.name == key) = some field ∧
            field.get? draft = none ∧ field.read unread = .ok (content, rest) ∧
            next = field.set content draft) ∨
          (schema.fields.find? (·.name == key) = none ∧ skipValue unread = .ok rest ∧
            next = draft)) := by
  unfold readMember
  cases found : schema.fields.find? (·.name == key) with
  | none =>
      simp only [Except.bind_eq_ok_iff]
      constructor
      · rintro ⟨unread, colon, closed, skips, same⟩
        obtain ⟨rfl, rfl⟩ := Prod.mk.inj (Except.ok.inj same)
        exact ⟨unread, colon, .inr ⟨trivial, skips, rfl⟩⟩
      · rintro ⟨unread, colon, ⟨_, _, isKnown, _⟩ | ⟨_, skips, rfl⟩⟩
        · cases isKnown
        · exact ⟨unread, colon, rest, skips, rfl⟩
  | some field =>
      dsimp only
      cases filled : field.get? draft with
      | some content =>
          simp only [Option.isSome_some, if_true]
          refine iff_of_false (stopAfter_ne_ok _ _ _ _) ?_
          rintro ⟨unread, _, ⟨_, _, isKnown, unfilled, _⟩ | ⟨isUnknown, _⟩⟩
          · obtain rfl := Option.some.inj isKnown
            rw [filled] at unfilled
            cases unfilled
          · cases isUnknown
      | none =>
          simp only [Option.isSome_none, Bool.false_eq_true, if_false, readField,
            Except.bind_eq_ok_iff]
          constructor
          · rintro ⟨unread, colon, ⟨content, closed⟩, reads, same⟩
            obtain ⟨rfl, rfl⟩ := Prod.mk.inj (Except.ok.inj same)
            exact ⟨unread, colon, .inl ⟨field, content, rfl, filled, reads, rfl⟩⟩
          · rintro ⟨unread, colon, ⟨_, content, isKnown, _, reads, rfl⟩ | ⟨isUnknown, _⟩⟩
            · obtain rfl := Option.some.inj isKnown
              exact ⟨unread, colon, (content, rest), reads, rfl⟩
            · cases isUnknown

/-! ## The loop -/

/-- A member that is read is passed over. -/
theorem skipValue_of_readMember
    (steady : ∀ field ∈ schema.fields, IsSteady field.read)
    (colon : readColon before = .ok unread)
    (reads : schema.readMember draft name before = .ok (next, rest)) :
    skipValue unread = .ok rest := by
  obtain ⟨other, sameColon, ⟨field, content, known, _, reads, _⟩ | ⟨_, skips, _⟩⟩ :=
    (readMember_eq_ok_iff _ _ _).mp reads
  · obtain rfl := Except.ok.inj (sameColon.symm.trans colon)
    exact (steady field (List.mem_of_find?_eq_some known) _ _ _ reads).1
  · obtain rfl := Except.ok.inj (sameColon.symm.trans colon)
    exact skips

/-- A member that is read before others is the first member of an object. -/
theorem exists_member
    (steady : ∀ field ∈ schema.fields, IsSteady field.read)
    (keyed : nextKey first cs = .ok (some name, unread))
    (reads : schema.readMember draft name unread =
      .ok (next, bracketed .object false inside pieces after))
    (blank : AreBlank inside) :
    ∃ leading, ∃ member : Member, AreBlank leading ∧ member.IsFormed ∧
      cs = bracketed .object first leading (member.piece :: pieces) after := by
  rcases eq_of_nextKey keyed with ⟨isEnd, _⟩ | ⟨key, before, opened, _, goesOn, opens, spells⟩
  · cases isEnd
  · obtain ⟨inner, colon, _⟩ := (readMember_eq_ok_iff _ _ _).mp reads
    obtain ⟨value, isValue, atValue⟩ :=
      isValue_of_skipValue (skipValue_of_readMember steady colon reads)
    obtain ⟨chars, quotes, same⟩ := Quotes.of_spells spells
    rw [readColon_eq_ok_iff] at colon
    obtain ⟨keyBefore, beforeBlank, beforePadded⟩ := exists_blank_append_skipSpace before
    obtain ⟨keyAfter, afterBlank, afterPadded⟩ := exists_blank_append_skipSpace unread
    obtain ⟨valueBefore, valueBlank, valuePadded⟩ := exists_blank_append_skipSpace inner
    let member : Member :=
      ⟨⟨keyBefore, chars, keyAfter, beforeBlank, afterBlank⟩,
        ⟨valueBefore, value, inside, valueBlank, blank⟩⟩
    have begins : before = member.piece.lead ++ (member.piece.value.before ++
        (member.piece.value.inner ++
          bracketed .object false member.piece.value.after pieces after)) := by
      rw [beforePadded, opens, same, afterPadded, colon, valuePadded, atValue]
      simp only [member, Member.piece, Padded.chars, List.append_assoc, List.cons_append,
        List.nil_append]
    obtain ⟨leading, leadingBlank, text⟩ := goesOn.exists_bracketed begins
    exact ⟨leading, member, leadingBlank, ⟨quotes.isString, isValue⟩, text⟩

/-- Members that are read are those of an object. -/
theorem exists_members
    (steady : ∀ field ∈ schema.fields, IsSteady field.read)
    (reads : readMembersUpTo schema.readMember budget first draft cs = .ok (final, last))
    (closes : closeObject last = .ok after) :
    ∃ inside, ∃ members : List Member, AreBlank inside ∧
      (∀ member ∈ members, member.IsFormed) ∧
      cs = bracketed .object first inside (members.map Member.piece) after := by
  induction budget generalizing first draft cs with
  | nil => cases reads
  | cons b budget inductionHypothesis =>
      rcases (readMembersUpTo_cons_eq_ok_iff draft final).mp reads with
        ⟨next, rfl⟩ | ⟨key, inner, next, rest, keyed, isMember, loops⟩
      · rcases eq_of_nextKey next with ⟨_, _, rfl, closing⟩ | ⟨_, _, _, isMore, _⟩
        · rw [closeObject_brace] at closes
          obtain rfl := Except.ok.inj closes
          obtain ⟨inside, blank, text⟩ := @exists_bracketed_nil .object _ _ closing first
          exact ⟨inside, [], blank, nofun, text⟩
        · cases isMore
      · obtain ⟨inside, members, blank, formed, rfl⟩ := inductionHypothesis loops
        obtain ⟨leading, member, leadingBlank, isFormed, text⟩ :=
          exists_member steady keyed isMember blank
        exact ⟨leading, member :: members, leadingBlank,
          List.forall_mem_cons.mpr ⟨isFormed, formed⟩, text⟩

/-- A member of an object is read as what it tells. -/
theorem readMember_afterKey_eq_ok_iff
    (steady : ∀ field ∈ schema.fields, IsSteady field.read)
    (formed : member.IsFormed)
    (hasKey : member.HasKey name)
    (pieces : List Piece)
    (after rest : List Char) :
    schema.readMember draft name (member.afterKey pieces after) = .ok (next, rest) ↔
      schema.Learns draft member next ∧
        rest = bracketed .object false member.value.after pieces after := by
  have colon := member.readColon_afterKey pieces after
  have atValue := member.skipSpace_afterColon formed.value pieces after
  have ends := endsNumber_bracketed member.value.blankAfter .object pieces after
  have skips := formed.value.skipValue atValue fun _ => ends
  constructor
  · intro reads
    obtain rfl := Except.ok.inj
      ((skipValue_of_readMember steady colon reads).symm.trans skips)
    refine ⟨?_, rfl⟩
    obtain ⟨unread, sameColon, ⟨field, content, known, unfilled, reads, rfl⟩ | ⟨unknown, _, rfl⟩⟩ :=
      (readMember_eq_ok_iff _ _ _).mp reads
    · obtain rfl := Except.ok.inj (sameColon.symm.trans colon)
      obtain ⟨_, chars, starts, takes⟩ :=
        steady field (List.mem_of_find?_eq_some known) _ _ _ reads
      obtain rfl := List.append_cancel_right (starts.symm.trans atValue)
      exact .known hasKey known unfilled takes
    · exact .unknown hasKey unknown
  · rintro ⟨learns, rfl⟩
    refine (readMember_eq_ok_iff _ _ _).mpr ⟨_, colon, ?_⟩
    cases learns with
    | known otherKey known unfilled takes =>
        obtain rfl := otherKey.eq hasKey
        exact .inl ⟨_, _, known, unfilled, takes _ _ atValue ends, rfl⟩
    | unknown otherKey unknown =>
        obtain rfl := otherKey.eq hasKey
        exact .inr ⟨unknown, skips, rfl⟩

/-- Members are read only as what they tell. -/
theorem gathers_of_readMembersUpTo
    (steady : ∀ field ∈ schema.fields, IsSteady field.read)
    (formed : ∀ member ∈ members, member.IsFormed)
    (blank : AreBlank inside)
    (reads : readMembersUpTo schema.readMember budget first draft
      (bracketed .object first inside (members.map Member.piece) after) = .ok (final, last)) :
    schema.Gathers draft members final ∧ last = '\x7d' :: after := by
  induction members generalizing budget first inside draft with
  | nil =>
      have closing := skipSpace_bracketed_nil blank .object first after
      cases budget with
      | nil => cases reads
      | cons b budget =>
          rcases (readMembersUpTo_cons_eq_ok_iff draft final).mp reads with
            ⟨next, rfl⟩ | ⟨key, inner, next, rest, keyed, _⟩
          · rw [List.map_nil, nextKey_of_closes closing first] at next
            exact ⟨.nil _, (Prod.mk.inj (Except.ok.inj next)).2.symm⟩
          · rw [List.map_nil, nextKey_of_closes closing first] at keyed
            cases keyed
  | cons member members inductionHypothesis =>
      rw [List.forall_mem_cons] at formed
      cases budget with
      | nil => cases reads
      | cons b budget =>
          rcases (readMembersUpTo_cons_eq_ok_iff draft final).mp reads with
            ⟨next, _⟩ | ⟨key, inner, next, rest, keyed, isMember, loops⟩
          · obtain ⟨name, isKey, _⟩ := (nextKey_eq_ok_iff formed.1 blank _ _ _ _ _).mp next
            cases isKey
          · obtain ⟨name, isKey, hasKey, rfl⟩ :=
              (nextKey_eq_ok_iff formed.1 blank _ _ _ _ _).mp keyed
            obtain rfl := Option.some.inj isKey
            obtain ⟨learns, rfl⟩ :=
              (readMember_afterKey_eq_ok_iff steady formed.1 hasKey _ _ _).mp isMember
            obtain ⟨further, isLast⟩ :=
              inductionHypothesis formed.2 member.value.blankAfter loops
            exact ⟨.cons learns further, isLast⟩

/-- Members are read as what they tell. -/
theorem Gathers.readMembersUpTo
    (gathers : schema.Gathers draft members final)
    (steady : ∀ field ∈ schema.fields, IsSteady field.read)
    (formed : ∀ member ∈ members, member.IsFormed)
    (blank : AreBlank inside)
    (lasts : members.length < budget.length)
    (first : Bool)
    (after : List Char) :
    Json.readMembersUpTo schema.readMember budget first draft
        (bracketed .object first inside (members.map Member.piece) after) =
      .ok (final, '\x7d' :: after) := by
  induction gathers generalizing budget first inside with
  | nil draft =>
      exact readMembersUpTo_of_closes _ draft
        (skipSpace_bracketed_nil blank .object first after) lasts
  | @cons draft next final member members learns further inductionHypothesis =>
      rw [List.forall_mem_cons] at formed
      match budget, lasts with
      | b :: budget, lasts =>
        have loops := inductionHypothesis formed.2 member.value.blankAfter
          (Nat.lt_of_succ_lt_succ lasts) false
        obtain ⟨name, hasKey⟩ := learns.exists_hasKey
        exact (readMembersUpTo_cons_eq_ok_iff draft final).mpr <| .inr
          ⟨name, _, next, _, (nextKey_eq_ok_iff formed.1 blank _ _ _ _ _).mpr
              ⟨name, rfl, hasKey, rfl⟩,
            (readMember_afterKey_eq_ok_iff steady formed.1 hasKey _ _ _).mpr ⟨learns, rfl⟩, loops⟩

/-! ## Records -/

/-- The members tell all that the record needs. -/
def Tells
    (schema : Schema σ α)
    (members : List Member)
    (record : α) : Prop :=
  ∃ draft, schema.Gathers schema.start members draft ∧ schema.missing? draft = none ∧
    record = schema.finish draft

theorem readObject_eq_ok_iff :
    schema.readObject cs = .ok (record, after) ↔
      ∃ draft last, readMembersUpTo schema.readMember cs true schema.start cs =
          .ok (draft, last) ∧
        closeObject last = .ok after ∧ schema.missing? draft = none ∧
        record = schema.finish draft := by
  unfold readObject readMembers
  rw [Except.bind_eq_ok_iff]
  constructor
  · rintro ⟨⟨draft, last⟩, reads, closed⟩
    obtain ⟨unread, closes, finishes⟩ := Except.bind_eq_ok_iff.mp closed
    split at finishes
    · cases finishes
    · rename_i complete
      obtain ⟨rfl, rfl⟩ := Prod.mk.inj (Except.ok.inj finishes)
      exact ⟨draft, last, reads, closes, complete, rfl⟩
  · rintro ⟨draft, last, reads, closes, complete, rfl⟩
    exact ⟨(draft, last), reads, by simp only [closes, complete, bind, Except.bind]⟩

/-- An object is read as the record that its members tell. -/
theorem readObject_bracketed_eq_ok_iff
    (steady : ∀ field ∈ schema.fields, IsSteady field.read)
    (formed : ∀ member ∈ members, member.IsFormed)
    (blank : AreBlank inside)
    (after rest : List Char) :
    schema.readObject (bracketed .object true inside (members.map Member.piece) after) =
        .ok (record, rest) ↔
      rest = after ∧ schema.Tells members record := by
  rw [readObject_eq_ok_iff]
  constructor
  · rintro ⟨draft, last, reads, closes, complete, rfl⟩
    obtain ⟨gathers, rfl⟩ := gathers_of_readMembersUpTo steady formed blank reads
    rw [closeObject_brace] at closes
    exact ⟨(Except.ok.inj closes).symm, draft, gathers, complete, rfl⟩
  · rintro ⟨rfl, draft, gathers, complete, rfl⟩
    have lasts := length_lt_bracketed (leads_of_areFormed formed).2 .object true inside rest
    rw [List.length_map] at lasts
    exact ⟨draft, _, gathers.readMembersUpTo steady formed blank lasts true rest,
      closeObject_brace rest, complete, rfl⟩

/-- The characters have the form of an object whose members tell the record. -/
def ObjectForms
    (schema : Schema σ α)
    (record : α)
    (chars : List Char) : Prop :=
  ∃ inside members, AreBlank inside ∧ (∀ member ∈ members, member.IsFormed) ∧
    schema.Tells members record ∧
    chars = '\x7b' :: bracketed .object true inside (members.map Member.piece) []

/-- A record is read from an object or a list that tells it. -/
theorem read_eq_ok_iff
    (steady : ∀ field ∈ schema.fields, IsSteady field.read)
    (before : List Char)
    (record : α)
    (after : List Char) :
    schema.read before = .ok (record, after) ↔
      ∃ chars, (schema.ObjectForms record chars ∨ schema.ArrayForms record chars) ∧
        skipSpace before = chars ++ after := by
  unfold read
  constructor
  · intro reads
    split at reads
    · cases reads
    · rename_i opened starts
      obtain ⟨draft, last, loops, closes, _⟩ := readObject_eq_ok_iff.mp reads
      obtain ⟨inside, members, blank, formed, rfl⟩ := exists_members steady loops closes
      obtain ⟨_, tells⟩ := (readObject_bracketed_eq_ok_iff steady formed blank _ _).mp reads
      refine ⟨_, .inl ⟨inside, members, blank, formed, tells, rfl⟩, ?_⟩
      rw [starts, List.cons_append, bracketed_append, List.nil_append]
    · rename_i opened starts
      obtain ⟨chars, forms, same⟩ := (readArray_eq_ok_iff steady _ _ _).mp reads
      exact ⟨chars, .inr forms, starts.trans same⟩
    · exact absurd reads (stopAtType_ne_ok _ _ _)
  · rintro ⟨chars, ⟨inside, members, blank, formed, tells, rfl⟩ | forms, starts⟩
    · rw [List.cons_append, bracketed_append, List.nil_append] at starts
      rw [starts]
      exact (readObject_bracketed_eq_ok_iff steady formed blank _ _).mpr ⟨rfl, tells⟩
    · have isArray := forms
      obtain ⟨inside, pieces, draft, _, _, _, rfl⟩ := isArray
      rw [starts]
      exact (readArray_eq_ok_iff steady _ _ _).mpr ⟨_, forms, rfl⟩

/-- A record is read steadily if its fields are. -/
theorem steady_read (steady : ∀ field ∈ schema.fields, IsSteady field.read) :
    IsSteady schema.read := by
  refine .of_iff (fun record chars =>
    schema.ObjectForms record chars ∨ schema.ArrayForms record chars) (read_eq_ok_iff steady) ?_ ?_
  · rintro record _ (⟨inside, members, blank, formed, _, rfl⟩ |
      ⟨inside, pieces, draft, blank, linesUp, _, rfl⟩)
    · obtain ⟨leads, values⟩ := leads_of_areFormed formed
      exact .bracket .object blank leads values
    · exact .bracket .list blank linesUp.leads.1 linesUp.leads.2
  · rintro record _ (⟨inside, members, _, _, _, rfl⟩ | ⟨inside, pieces, draft, _, _, _, rfl⟩)
    · exact not_isNumeral_cons (by decide) rfl _
    · exact not_isNumeral_cons (by decide) rfl _

end Schema
end Json
end KnowledgeClient
