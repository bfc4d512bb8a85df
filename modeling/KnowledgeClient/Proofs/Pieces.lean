import KnowledgeClient.Proofs.Steadiness

/-!
# Brackets are read piece by piece

What a loop over a bracket has read is a row of pieces with commas between them, and any other
text with these pieces and commas is read in the same way.  Lists of items are read so, records
that are written as lists of their fields, and names of variants that are written as objects.
-/

namespace KnowledgeClient
namespace Json

variable
  {α σ : Type}
  {read : List Char → Read α}
  {frame : Frame}
  {first : Bool}
  {cs before unread inside after rest last budget : List Char}
  {pieces : List Piece}
  {content : α}

section Rows

variable {piece : Piece}

/-! ## Where pieces begin -/

/-- Where pieces begin that go on as they should, a row of pieces begins. -/
theorem GoesOn.exists_bracketed
    (goesOn : GoesOn first cs before)
    (text : before = piece.lead ++ (piece.value.before ++ (piece.value.inner ++
      bracketed frame false piece.value.after pieces after))) :
    ∃ inside, AreBlank inside ∧ cs = bracketed frame first inside (piece :: pieces) after := by
  cases goesOn with
  | start =>
      refine ⟨[], areBlank_nil, ?_⟩
      rw [text, bracketed_cons, List.nil_append]
  | comma comma =>
      obtain ⟨blanks, areBlank, padded⟩ := exists_blank_append_skipSpace cs
      refine ⟨blanks, areBlank, ?_⟩
      rw [padded, comma, text, bracketed_cons_comma]

/-- A row of pieces goes on where its first piece begins. -/
theorem exists_goesOn
    (blank : AreBlank inside)
    (frame : Frame)
    (first : Bool)
    (piece : Piece)
    (pieces : List Piece)
    (after : List Char) :
    ∃ before, GoesOn first (bracketed frame first inside (piece :: pieces) after) before ∧
      skipSpace before = skipSpace (piece.lead ++ (piece.value.before ++ (piece.value.inner ++
        bracketed frame false piece.value.after pieces after))) := by
  cases first with
  | true =>
      refine ⟨_, .start _, ?_⟩
      rw [bracketed_cons, skipSpace_append blank]
  | false =>
      rw [bracketed_cons_comma]
      exact ⟨_, .comma (skipSpace_blank blank rfl), rfl⟩

theorem GoesOn.eq
    {other : List Char}
    (goesOn : GoesOn first cs before)
    (otherGoesOn : GoesOn first cs other) :
    before = other := by
  cases goesOn with
  | start =>
      cases otherGoesOn
      rfl
  | comma comma =>
      cases otherGoesOn with
      | comma otherComma =>
          rw [comma] at otherComma
          exact (List.cons.inj otherComma).2

/-- A row without pieces is the closing mark, after blanks. -/
theorem exists_bracketed_nil
    (closes : skipSpace cs = frame.closing :: after)
    (first : Bool) :
    ∃ inside, AreBlank inside ∧ cs = bracketed frame first inside [] after := by
  obtain ⟨blanks, areBlank, padded⟩ := exists_blank_append_skipSpace cs
  refine ⟨blanks, areBlank, ?_⟩
  rw [padded, closes]
  cases first <;> rfl

theorem skipSpace_bracketed_nil
    (blank : AreBlank inside)
    (frame : Frame)
    (first : Bool)
    (after : List Char) :
    skipSpace (bracketed frame first inside [] after) = frame.closing :: after := by
  have text : bracketed frame first inside [] after = inside ++ frame.closing :: after := by
    cases first <;> rfl
  rw [text]
  refine skipSpace_blank blank ?_
  cases frame <;> rfl

/-- A row of pieces that begins with its closing mark has no pieces. -/
theorem eq_nil_of_closing
    (blank : AreBlank inside)
    (text : frame.closing :: rest = bracketed frame false inside pieces after) :
    pieces = [] ∧ rest = after := by
  have notSpace : isSpace frame.closing = false := by cases frame <;> rfl
  have start : skipSpace (bracketed frame false inside pieces after) = frame.closing :: rest := by
    rw [← text, skipSpace_cons notSpace]
  cases pieces with
  | nil =>
      rw [skipSpace_bracketed_nil blank] at start
      exact ⟨rfl, (List.cons.inj start).2.symm⟩
  | cons piece pieces =>
      rw [bracketed_cons_comma, skipSpace_blank blank rfl] at start
      have isComma := (List.cons.inj start).1
      cases frame <;> cases isComma

/-- There are fewer pieces than characters. -/
theorem length_lt_bracketed
    (values : ∀ piece ∈ pieces, IsValue piece.value.inner)
    (frame : Frame)
    (first : Bool)
    (inside after : List Char) :
    pieces.length < (bracketed frame first inside pieces after).length := by
  induction pieces generalizing first inside with
  | nil =>
      simp only [bracketed, List.length_append, List.length_cons, List.length_nil]
      omega
  | cons piece pieces inductionHypothesis =>
      rw [List.forall_mem_cons] at values
      have further := inductionHypothesis values.2 false piece.value.after
      obtain ⟨c, tail, inner, _⟩ := values.1.starts
      cases first with
      | true =>
          simp only [bracketed_cons, inner, List.length_append, List.length_cons]
          omega
      | false =>
          simp only [bracketed_cons_comma, inner, List.length_append, List.length_cons]
          omega

/-! ## Items -/

/-- The piece is an item of a list that the reader takes for the content. -/
structure IsItem
    (read : List Char → Read α)
    (piece : Piece)
    (content : α) : Prop where
  leads : Frame.list.Leads piece.lead
  isValue : IsValue piece.value.inner
  takes : Takes read piece.value.inner content

/-- An item that is read before a row of pieces is the first piece of a row. -/
theorem exists_isItem
    (steady : IsSteady read)
    (next : nextItem first cs = .ok (true, unread))
    (reads : read unread = .ok (content, bracketed .list false inside pieces after))
    (blank : AreBlank inside) :
    ∃ leading piece, AreBlank leading ∧ IsItem read piece content ∧
      cs = bracketed .list first leading (piece :: pieces) after := by
  rcases eq_of_nextItem next with ⟨isEnd, _⟩ | ⟨_, before, goesOn, rfl⟩
  · cases isEnd
  · obtain ⟨chars, isValue, starts, takes⟩ := steady.exists_isValue reads
    rw [skipSpace_skipSpace] at starts
    obtain ⟨blanks, areBlank, padded⟩ := exists_blank_append_skipSpace before
    rw [starts] at padded
    let piece : Piece := ⟨[], ⟨blanks, chars, inside, areBlank, blank⟩⟩
    have begins : before = piece.lead ++ (piece.value.before ++ (piece.value.inner ++
        bracketed .list false piece.value.after pieces after)) := padded
    obtain ⟨leading, leadingBlank, text⟩ := goesOn.exists_bracketed begins
    exact ⟨leading, piece, leadingBlank, ⟨rfl, isValue, takes⟩, text⟩

/-- The first piece of a row is read as the item that it is. -/
theorem IsItem.reads
    (isItem : IsItem read piece content)
    (blank : AreBlank inside)
    (first : Bool)
    (pieces : List Piece)
    (after : List Char) :
    ∃ unread, nextItem first (bracketed .list first inside (piece :: pieces) after) =
        .ok (true, unread) ∧
      read unread = .ok (content, bracketed .list false piece.value.after pieces after) := by
  obtain ⟨isLead, isValue, takes⟩ := isItem
  obtain ⟨before, goesOn, starts⟩ := exists_goesOn blank .list first piece pieces after
  have atValue : skipSpace before =
      piece.value.inner ++ bracketed .list false piece.value.after pieces after := by
    rw [starts, show piece.lead = [] from isLead, List.nil_append,
      skipSpace_append piece.value.blankBefore, isValue.skipSpace_append]
  obtain ⟨c, tail, inner, notSpace, notClosing⟩ := isValue.starts
  refine ⟨piece.value.inner ++ bracketed .list false piece.value.after pieces after, ?_, ?_⟩
  · rw [inner, List.cons_append] at atValue ⊢
    exact nextItem_of_goesOn goesOn atValue notClosing
  · exact takes _ _ (isValue.skipSpace_append _)
      (endsNumber_bracketed piece.value.blankAfter .list pieces after)

theorem closeList_eq_ok_iff
    (before after : List Char) :
    closeList before = .ok after ↔ skipSpace before = ']' :: after := by
  unfold closeList
  split
  · rename_i nothing
    simp [nothing, stopPast]
  · rename_i closing
    simp [closing]
  · rename_i comma
    rw [comma]
    refine iff_of_false (fun closes => ?_) (by simp)
    split at closes <;> cases closes
  · rename_i other _
    refine iff_of_false (fun closes => ?_) fun closing => other _ closing
    cases closes

/-- Items that are read are a row of pieces. -/
theorem exists_of_readItemsUpTo
    (steady : IsSteady read)
    {contents : List α}
    (reads : readItemsUpTo read budget first cs = .ok (contents, last))
    (closes : closeList last = .ok after) :
    ∃ inside pieces, AreBlank inside ∧ List.Forall₂ (IsItem read) pieces contents ∧
      cs = bracketed .list first inside pieces after := by
  induction budget generalizing first cs contents with
  | nil => cases reads
  | cons b budget inductionHypothesis =>
      rcases (readItemsUpTo_cons_eq_ok_iff contents).mp reads with
        ⟨next, rfl⟩ | ⟨unread, one, rest, others, next, isRead, loops, rfl⟩
      · rcases eq_of_nextItem next with ⟨_, _, rfl, closing⟩ | ⟨isMore, _⟩
        · rw [closeList_bracket] at closes
          obtain rfl := Except.ok.inj closes
          obtain ⟨inside, blank, text⟩ :=
            @exists_bracketed_nil .list _ _ closing first
          exact ⟨inside, [], blank, .nil, text⟩
        · cases isMore
      · obtain ⟨inside, pieces, blank, areItems, rfl⟩ := inductionHypothesis loops
        obtain ⟨leading, piece, leadingBlank, isItem, text⟩ :=
          exists_isItem steady next isRead blank
        exact ⟨leading, piece :: pieces, leadingBlank, .cons isItem areItems, text⟩

/-- A row of pieces is read as the items that they are. -/
theorem readItemsUpTo_of_areItems
    {contents : List α}
    (areItems : List.Forall₂ (IsItem read) pieces contents)
    (blank : AreBlank inside)
    (lasts : pieces.length < budget.length)
    (first : Bool)
    (after : List Char) :
    ∃ last, readItemsUpTo read budget first (bracketed .list first inside pieces after) =
        .ok (contents, last) ∧ closeList last = .ok after := by
  induction areItems generalizing first inside budget with
  | nil =>
      have closing := skipSpace_bracketed_nil blank .list first after
      exact ⟨']' :: after, readItemsUpTo_of_closes read closing lasts, closeList_bracket after⟩
  | @cons piece _ _ _ isItem _ inductionHypothesis =>
      match budget, lasts with
      | b :: budget, lasts =>
        obtain ⟨last, loops, closes⟩ := inductionHypothesis piece.value.blankAfter
          (Nat.lt_of_succ_lt_succ lasts) false
        obtain ⟨unread, next, reads⟩ := isItem.reads blank first _ after
        exact ⟨last, (readItemsUpTo_cons_eq_ok_iff _).mpr
          (.inr ⟨unread, _, _, _, next, reads, loops, rfl⟩), closes⟩

theorem leads_of_areItems
    {contents : List α}
    (areItems : List.Forall₂ (IsItem read) pieces contents) :
    (∀ piece ∈ pieces, Frame.list.Leads piece.lead) ∧
      ∀ piece ∈ pieces, IsValue piece.value.inner := by
  induction areItems with
  | nil => exact ⟨nofun, nofun⟩
  | cons isItem _ inductionHypothesis =>
      exact ⟨List.forall_mem_cons.mpr ⟨isItem.leads, inductionHypothesis.1⟩,
        List.forall_mem_cons.mpr ⟨isItem.isValue, inductionHypothesis.2⟩⟩

/-- The characters have the form of a list of items that the reader takes for the contents. -/
def ListForms
    (read : List Char → Read α)
    (contents : List α)
    (chars : List Char) : Prop :=
  ∃ inside pieces, AreBlank inside ∧ List.Forall₂ (IsItem read) pieces contents ∧
    chars = '[' :: bracketed .list true inside pieces []

theorem readItems_eq_ok_iff
    (steady : IsSteady read)
    (before : List Char)
    (contents : List α)
    (after : List Char) :
    readItems read before = .ok (contents, after) ↔
      ∃ chars, ListForms read contents chars ∧ skipSpace before = chars ++ after := by
  unfold readItems
  constructor
  · intro reads
    split at reads
    · cases reads
    · rename_i opened starts
      obtain ⟨⟨found, last⟩, loops, closed⟩ := Except.bind_eq_ok_iff.mp reads
      obtain ⟨unread, closes, same⟩ := Except.bind_eq_ok_iff.mp closed
      obtain ⟨rfl, rfl⟩ := Prod.mk.inj (Except.ok.inj same)
      obtain ⟨inside, pieces, blank, areItems, rfl⟩ := exists_of_readItemsUpTo steady loops closes
      refine ⟨_, ⟨inside, pieces, blank, areItems, rfl⟩, ?_⟩
      rw [starts, List.cons_append, bracketed_append, List.nil_append]
    · exact absurd reads (stopAtType_ne_ok _ _ _)
  · rintro ⟨_, ⟨inside, pieces, blank, areItems, rfl⟩, starts⟩
    rw [List.cons_append, bracketed_append, List.nil_append] at starts
    obtain ⟨last, loops, closes⟩ := readItemsUpTo_of_areItems areItems blank
      (length_lt_bracketed (leads_of_areItems areItems).2 .list true inside after) true after
    rw [starts]
    dsimp only [readList]
    simp only [loops, closes, bind, Except.bind]

theorem steady_readItems (steady : IsSteady read) : IsSteady (readItems read) := by
  refine .of_iff (ListForms read) (readItems_eq_ok_iff steady) ?_ ?_
  · rintro contents _ ⟨inside, pieces, blank, areItems, rfl⟩
    obtain ⟨leads, values⟩ := leads_of_areItems areItems
    exact .bracket .list blank leads values
  · rintro contents _ ⟨inside, pieces, _, _, rfl⟩
    exact not_isNumeral_cons (by decide) rfl _

end Rows

/-! ## Members -/

/-- A member of an object: its key and its value, with the blanks around them. -/
structure Member where
  key : Padded
  value : Padded

namespace Member

/-- The member as a piece of its object. -/
def piece (member : Member) : Piece where
  lead := member.key.chars ++ [':']
  value := member.value

/-- The key and the value have the form that they should. -/
structure IsFormed (member : Member) : Prop where
  key : IsString member.key.inner
  value : IsValue member.value.inner

/-- The key of the member means the name. -/
def HasKey
    (member : Member)
    (name : String) : Prop :=
  Quotes member.key.inner name

end Member

theorem leads_of_areFormed
    {members : List Member}
    (formed : ∀ member ∈ members, member.IsFormed) :
    (∀ piece ∈ members.map Member.piece, Frame.object.Leads piece.lead) ∧
      ∀ piece ∈ members.map Member.piece, IsValue piece.value.inner := by
  constructor
  · rintro _ isPiece
    obtain ⟨member, isMember, rfl⟩ := List.mem_map.mp isPiece
    exact ⟨member.key, (formed member isMember).key, rfl⟩
  · rintro _ isPiece
    obtain ⟨member, isMember, rfl⟩ := List.mem_map.mp isPiece
    exact (formed member isMember).value

/-! ## Names of variants -/

/-- The characters have the form of the name of a variant: a string, or an object with the name
as the key of its only member, which is null. -/
def VariantForms
    (variant : String → Except Problem α)
    (content : α)
    (chars : List Char) : Prop :=
  ∃ name, variant name = .ok content ∧
    (Quotes chars name ∨
      ∃ inside, ∃ member : Member, AreBlank inside ∧ member.HasKey name ∧
        member.value.inner = nullChars ∧
        chars = '\x7b' :: bracketed .object true inside [member.piece] [])

theorem readVariant_named_eq_ok_iff
    (variant : String → Except Problem α)
    (opened : List Char)
    (content : α)
    (after : List Char) :
    readVariant.named variant opened = .ok (content, after) ↔
      ∃ name chars, variant name = .ok content ∧ Quotes chars name ∧
        '"' :: opened = chars ++ after := by
  unfold readVariant.named
  rw [Except.bind_eq_ok_iff]
  constructor
  · rintro ⟨⟨name, rest⟩, reads, isNamed⟩
    dsimp only at isNamed
    split at isNamed
    · rename_i found isVariant
      obtain ⟨rfl, rfl⟩ := Prod.mk.inj (Except.ok.inj isNamed)
      obtain ⟨chars, quotes, same⟩ := Quotes.of_spells ((readString_eq_ok_iff _ _ _).mp reads)
      exact ⟨name, chars, isVariant, quotes, same⟩
    · cases isNamed
  · rintro ⟨name, chars, isVariant, quotes, same⟩
    obtain ⟨ending, rfl, spells⟩ := quotes.spells
    obtain rfl := (List.cons.inj same).2
    refine ⟨(name, after), (readString_eq_ok_iff _ _ _).mpr (spells after), ?_⟩
    dsimp only
    rw [isVariant]

theorem readVariant_eq_ok_iff
    (variant : String → Except Problem α)
    (before : List Char)
    (content : α)
    (after : List Char) :
    readVariant variant before = .ok (content, after) ↔
      ∃ chars, VariantForms variant content chars ∧ skipSpace before = chars ++ after := by
  unfold readVariant
  constructor
  · intro reads
    split at reads
    · cases reads
    · rename_i c rest starts
      split at reads
      · rename_i quote
        obtain rfl := beq_iff_eq.mp quote
        obtain ⟨name, chars, isVariant, quotes, same⟩ :=
          (readVariant_named_eq_ok_iff _ _ _ _).mp reads
        exact ⟨chars, ⟨name, isVariant, .inl quotes⟩, starts.trans same⟩
      split at reads
      · rename_i brace
        obtain rfl := beq_iff_eq.mp brace
        split at reads
        · cases reads
        · rename_i d opened startsKey
          split at reads
          · rename_i quote
            obtain rfl := beq_iff_eq.mp quote
            obtain ⟨⟨found, named⟩, isNamed, reads⟩ := Except.bind_eq_ok_iff.mp reads
            obtain ⟨inner, colon, reads⟩ := Except.bind_eq_ok_iff.mp reads
            obtain ⟨⟨_, valued⟩, isNull, reads⟩ := Except.bind_eq_ok_iff.mp reads
            dsimp only at colon isNull reads
            split at reads
            · cases reads
            · rename_i e last closes
              split at reads
              · rename_i closing
                obtain rfl := beq_iff_eq.mp closing
                obtain ⟨rfl, rfl⟩ := Prod.mk.inj (Except.ok.inj reads)
                obtain ⟨name, chars, isVariant, quotes, same⟩ :=
                  (readVariant_named_eq_ok_iff _ _ _ _).mp isNamed
                rw [readColon_eq_ok_iff] at colon
                rw [readUnit_eq_ok_iff] at isNull
                obtain ⟨inside, insideBlank, insidePadded⟩ := exists_blank_append_skipSpace rest
                obtain ⟨keyAfter, keyBlank, keyPadded⟩ := exists_blank_append_skipSpace named
                obtain ⟨valueBefore, valueBlank, valuePadded⟩ :=
                  exists_blank_append_skipSpace inner
                obtain ⟨valueAfter, endBlank, endPadded⟩ := exists_blank_append_skipSpace valued
                let member : Member :=
                  ⟨⟨[], chars, keyAfter, areBlank_nil, keyBlank⟩,
                    ⟨valueBefore, nullChars, valueAfter, valueBlank, endBlank⟩⟩
                refine ⟨_, ⟨name, isVariant,
                  .inr ⟨inside, member, insideBlank, quotes, rfl, rfl⟩⟩, ?_⟩
                rw [starts, List.cons_append, bracketed_append, List.nil_append, bracketed_cons,
                  insidePadded, startsKey, same, keyPadded, colon, valuePadded, isNull, endPadded,
                  closes]
                simp only [Member.piece, Padded.chars, member, List.nil_append, List.append_assoc,
                  List.cons_append]
                rfl
              · cases reads
          · cases reads
      · cases reads
  · rintro ⟨chars, ⟨name, isVariant, quotes | ⟨inside, member, blank, hasKey, isNull, rfl⟩⟩, starts⟩
    · have named : ∀ {opened}, chars ++ after = '"' :: opened →
          readVariant.named variant opened = .ok (content, after) := fun same =>
        (readVariant_named_eq_ok_iff _ _ _ _).mpr ⟨name, chars, isVariant, quotes, same.symm⟩
      obtain ⟨ending, rfl, _⟩ := quotes
      rw [starts, List.cons_append]
      simp only [beq_self_eq_true, if_true]
      exact named rfl
    · obtain ⟨ending, inner, spells⟩ := hasKey.spells
      rw [List.cons_append, bracketed_append, List.nil_append, bracketed_cons] at starts
      let valued := bracketed .object false member.value.after [] after
      let unread := member.value.before ++ (nullChars ++ valued)
      have startsKey : skipSpace (inside ++ (member.piece.lead ++ (member.piece.value.before ++
          (member.piece.value.inner ++ bracketed .object false member.piece.value.after []
            after)))) = '"' :: (ending ++ (member.key.after ++ ':' :: unread)) := by
        simp only [Member.piece, Padded.chars, inner, isNull, List.append_assoc, List.cons_append,
          List.nil_append, skipSpace_append blank]
        exact skipSpace_blank member.key.blankBefore rfl
      have named : readVariant.named variant (ending ++ (member.key.after ++ ':' :: unread)) =
          .ok (content, member.key.after ++ ':' :: unread) :=
        (readVariant_named_eq_ok_iff _ _ _ _).mpr
          ⟨name, _, isVariant, hasKey, by rw [inner, List.cons_append]⟩
      have colon : readColon (member.key.after ++ ':' :: unread) = .ok unread :=
        (readColon_eq_ok_iff _ _).mpr (skipSpace_blank member.key.blankAfter rfl)
      have null : readUnit unread = .ok ((), valued) := by
        refine (readUnit_eq_ok_iff _ _ _).mpr ?_
        rw [skipSpace_append member.value.blankBefore]
        exact IsValue.skipSpace_append (.scalar .null) _
      have closes : skipSpace valued = '\x7d' :: after :=
        skipSpace_bracketed_nil member.value.blankAfter .object false after
      rw [starts]
      simp [startsKey, named, colon, null, closes, bind, Except.bind]

theorem steady_readVariant (variant : String → Except Problem α) :
    IsSteady (readVariant variant) := by
  refine .of_iff (VariantForms variant) (readVariant_eq_ok_iff variant) ?_ ?_
  · rintro content chars ⟨name, _, quotes | ⟨inside, member, blank, hasKey, isNull, rfl⟩⟩
    · exact .scalar (.text quotes.isString)
    · refine .bracket .object blank ?_ ?_
      · rintro _ isPiece
        obtain rfl := List.mem_singleton.mp isPiece
        exact ⟨member.key, hasKey.isString, rfl⟩
      · rintro _ isPiece
        obtain rfl := List.mem_singleton.mp isPiece
        rw [show member.piece.value.inner = nullChars from isNull]
        exact .scalar .null
  · rintro content chars ⟨name, _, ⟨ending, rfl, _⟩ | ⟨inside, member, _, _, _, rfl⟩⟩
    · exact not_isNumeral_cons (by decide) rfl _
    · exact not_isNumeral_cons (by decide) rfl _

/-! ## Records written as lists -/

namespace Schema

variable
  {schema : Schema σ α}
  {field : Field σ}
  {fields : List (Field σ)}
  {draft final : σ}
  {count : Nat}

/-- The pieces are the contents of the fields, one after the other, up to the last one that is
given; the fields that are left need not be given. -/
inductive LinesUp : List (Field σ) → σ → List Piece → σ → Prop
  | nil (draft : σ) : LinesUp [] draft [] draft
  | given
      {field : Field σ}
      {fields : List (Field σ)}
      {draft final : σ}
      {piece : Piece}
      {pieces : List Piece}
      {content : field.Content}
      (isItem : IsItem field.read piece content)
      (further : LinesUp fields (field.set content draft) pieces final) :
      LinesUp (field :: fields) draft (piece :: pieces) final
  | absent
      {field : Field σ}
      {fields : List (Field σ)}
      {draft final : σ}
      (optional : field.required = false)
      (further : LinesUp fields draft [] final) :
      LinesUp (field :: fields) draft [] final

theorem readFields_cons_eq_ok_iff :
    schema.readFields (field :: fields) count draft cs = .ok (final, last) ↔
      (∃ unread content rest, nextItem (count == 0) cs = .ok (true, unread) ∧
        field.read unread = .ok (content, rest) ∧
        schema.readFields fields (count + 1) (field.set content draft) rest =
          .ok (final, last)) ∨
      ∃ unread, nextItem (count == 0) cs = .ok (false, unread) ∧ field.required = false ∧
        schema.readFields fields (count + 1) draft unread = .ok (final, last) := by
  rw [readFields, Except.bind_eq_ok_iff]
  constructor
  · rintro ⟨⟨more, unread⟩, next, reads⟩
    cases more with
    | true =>
        obtain ⟨⟨given, rest⟩, isField, further⟩ := Except.bind_eq_ok_iff.mp reads
        obtain ⟨⟨content, after⟩, isRead, same⟩ := Except.bind_eq_ok_iff.mp isField
        obtain ⟨rfl, rfl⟩ := Prod.mk.inj (Except.ok.inj same)
        exact .inl ⟨unread, content, _, next, isRead, further⟩
    | false =>
        simp only [Bool.false_eq_true, if_false] at reads
        split at reads
        · obtain ⟨_, _, stops⟩ := Except.bind_eq_ok_iff.mp reads
          cases stops
        · rename_i optional
          exact .inr ⟨unread, next, Bool.eq_false_iff.mpr optional, reads⟩
  · rintro (⟨unread, content, rest, next, isRead, further⟩ | ⟨unread, next, optional, further⟩)
    · exact ⟨_, next, by simp [readField, isRead, further, bind, Except.bind]⟩
    · exact ⟨_, next, by simp [optional, further]⟩

/-- Fields that are read from a list are a row of pieces. -/
theorem exists_linesUp
    (steady : ∀ field ∈ fields, IsSteady field.read)
    (reads : schema.readFields fields count draft cs = .ok (final, last))
    (closes : closeList last = .ok after) :
    ∃ inside pieces, AreBlank inside ∧ LinesUp fields draft pieces final ∧
      cs = bracketed .list (count == 0) inside pieces after := by
  induction fields generalizing count draft cs with
  | nil =>
      obtain ⟨rfl, rfl⟩ := Prod.mk.inj (Except.ok.inj reads)
      rw [closeList_eq_ok_iff] at closes
      obtain ⟨inside, blank, text⟩ := @exists_bracketed_nil .list _ _ closes (count == 0)
      exact ⟨inside, [], blank, .nil _, text⟩
  | cons field fields inductionHypothesis =>
      rw [List.forall_mem_cons] at steady
      rcases readFields_cons_eq_ok_iff.mp reads with
        ⟨unread, content, rest, next, isRead, further⟩ | ⟨unread, next, optional, further⟩
      · obtain ⟨inside, pieces, blank, linesUp, rfl⟩ := inductionHypothesis steady.2 further
        obtain ⟨leading, piece, leadingBlank, isItem, text⟩ :=
          exists_isItem steady.1 next isRead blank
        exact ⟨leading, piece :: pieces, leadingBlank, .given isItem linesUp, text⟩
      · obtain ⟨inside, pieces, blank, linesUp, text⟩ := inductionHypothesis steady.2 further
        rcases eq_of_nextItem next with ⟨_, rest, rfl, closing⟩ | ⟨isMore, _⟩
        · obtain ⟨rfl, rfl⟩ := @eq_nil_of_closing .list _ _ _ _ blank text
          obtain ⟨leading, leadingBlank, same⟩ :=
            @exists_bracketed_nil .list _ _ closing (count == 0)
          exact ⟨leading, [], leadingBlank, .absent optional linesUp, same⟩
        · cases isMore

/-- A row of pieces that are the contents of fields is read into their draft. -/
theorem LinesUp.readFields
    (linesUp : LinesUp fields draft pieces final)
    (blank : AreBlank inside)
    (schema : Schema σ α)
    (count : Nat)
    (after : List Char) :
    ∃ last, schema.readFields fields count draft
        (bracketed .list (count == 0) inside pieces after) = .ok (final, last) ∧
      closeList last = .ok after := by
  induction linesUp generalizing count inside with
  | nil draft =>
      exact ⟨_, rfl, (closeList_eq_ok_iff _ _).mpr
        (skipSpace_bracketed_nil blank .list _ after)⟩
  | @given field fields draft final piece pieces content isItem _ inductionHypothesis =>
      obtain ⟨last, further, closes⟩ := inductionHypothesis piece.value.blankAfter (count + 1)
      obtain ⟨unread, next, reads⟩ := isItem.reads blank (count == 0) pieces after
      exact ⟨last, readFields_cons_eq_ok_iff.mpr
        (.inl ⟨unread, content, _, next, reads, further⟩), closes⟩
  | absent optional _ inductionHypothesis =>
      obtain ⟨last, further, closes⟩ := inductionHypothesis areBlank_nil (count + 1)
      have closing := skipSpace_bracketed_nil blank .list (count == 0) after
      exact ⟨last, readFields_cons_eq_ok_iff.mpr
        (.inr ⟨_, nextItem_of_closes closing _, optional, further⟩), closes⟩

theorem LinesUp.leads (linesUp : LinesUp fields draft pieces final) :
    (∀ piece ∈ pieces, Frame.list.Leads piece.lead) ∧
      ∀ piece ∈ pieces, IsValue piece.value.inner := by
  induction linesUp with
  | nil => exact ⟨nofun, nofun⟩
  | given isItem _ inductionHypothesis =>
      exact ⟨List.forall_mem_cons.mpr ⟨isItem.leads, inductionHypothesis.1⟩,
        List.forall_mem_cons.mpr ⟨isItem.isValue, inductionHypothesis.2⟩⟩
  | absent => exact ⟨nofun, nofun⟩

/-- The characters have the form of a list of the record's fields. -/
def ArrayForms
    (schema : Schema σ α)
    (record : α)
    (chars : List Char) : Prop :=
  ∃ inside pieces draft, AreBlank inside ∧
    LinesUp schema.fields schema.start pieces draft ∧ record = schema.finish draft ∧
    chars = '[' :: bracketed .list true inside pieces []

theorem readArray_eq_ok_iff
    (steady : ∀ field ∈ schema.fields, IsSteady field.read)
    (opened : List Char)
    (record : α)
    (after : List Char) :
    schema.readArray opened = .ok (record, after) ↔
      ∃ chars, schema.ArrayForms record chars ∧ '[' :: opened = chars ++ after := by
  unfold readArray
  rw [Except.bind_eq_ok_iff]
  constructor
  · rintro ⟨⟨draft, last⟩, reads, closed⟩
    obtain ⟨unread, closes, same⟩ := Except.bind_eq_ok_iff.mp closed
    obtain ⟨rfl, rfl⟩ := Prod.mk.inj (Except.ok.inj same)
    obtain ⟨inside, pieces, blank, linesUp, rfl⟩ := exists_linesUp steady reads closes
    refine ⟨_, ⟨inside, pieces, draft, blank, linesUp, rfl, rfl⟩, ?_⟩
    rw [List.cons_append, bracketed_append, List.nil_append]
    rfl
  · rintro ⟨_, ⟨inside, pieces, draft, blank, linesUp, rfl, rfl⟩, same⟩
    rw [List.cons_append, bracketed_append, List.nil_append] at same
    obtain ⟨last, reads, closes⟩ := linesUp.readFields blank schema 0 after
    rw [(List.cons.inj same).2]
    exact ⟨(draft, last), reads, by simp only [closes, bind, Except.bind]⟩

end Schema
end Json
end KnowledgeClient
