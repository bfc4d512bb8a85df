import KnowledgeClient.Proofs.Grammar

/-!
# Values are read just as they are spelled

A text that spells a value whose brackets do not go too deep is read as that value,
sorted; and nothing else is read.  Both directions follow the reader: the words and
the brackets first, then the loops over items and members, then values by their depth.
-/

namespace KnowledgeClient
namespace Json

/-! ## Words and marks -/

theorem readWord_eq_ok_iff
    (word before after : List Char) :
    readWord word before = .ok after ↔ before = word ++ after := by
  induction word generalizing before with
  | nil => simp [readWord]
  | cons letter word inductionHypothesis =>
      cases before with
      | nil => simp [readWord, stopAt]
      | cons c rest =>
          by_cases same : c = letter
          · simp [readWord, same, inductionHypothesis]
          · simp [readWord, stopPast, same]

theorem readColon_eq_ok_iff
    (before after : List Char) :
    readColon before = .ok after ↔ skipSpace before = ':' :: after := by
  unfold readColon
  split
  · rename_i nothing
    simp [nothing, stopPast]
  · rename_i rest colon
    simp [colon]
  · rename_i other
    simp only [stopPast, reduceCtorEq, false_iff]
    exact other after

/-- Where the next item or member begins: at the start, or after a comma. -/
inductive GoesOn : Bool → List Char → List Char → Prop
  | start (before : List Char) : GoesOn true before before
  | comma
      {cs before : List Char}
      (comma : skipSpace cs = ',' :: before) :
      GoesOn false cs before

section Loops

variable {first : Bool} {cs before after unread : List Char}

/-! ## Items -/

theorem nextItem_of_closes
    (closes : skipSpace cs = ']' :: after)
    (first : Bool) :
    nextItem first cs = .ok (false, ']' :: after) := by
  simp [nextItem, closes]

theorem nextItem_of_goesOn
    {c : Char}
    {rest : List Char}
    (goesOn : GoesOn first cs before)
    (starts : skipSpace before = c :: rest)
    (notClosed : c ≠ ']') :
    nextItem first cs = .ok (true, c :: rest) := by
  cases goesOn with
  | start => simp [nextItem, starts]
  | comma comma => simp [nextItem, comma, starts, notClosed]

/-- A list ends at its closing bracket, or goes on where the next item begins. -/
theorem eq_of_nextItem
    {more : Bool}
    (next : nextItem first cs = .ok (more, unread)) :
    (more = false ∧ ∃ after, unread = ']' :: after ∧ skipSpace cs = ']' :: after) ∨
      (more = true ∧ ∃ before, GoesOn first cs before ∧ unread = skipSpace before) := by
  unfold nextItem at next
  split at next
  · cases next
  · rename_i rest closes
    obtain ⟨rfl, rfl⟩ := Prod.mk.inj (Except.ok.inj next)
    exact .inl ⟨rfl, rest, rfl, closes⟩
  · rename_i c rest _ starts
    cases first with
    | true =>
        obtain ⟨rfl, rfl⟩ := Prod.mk.inj (Except.ok.inj next)
        exact .inr ⟨rfl, cs, .start cs, starts.symm⟩
    | false =>
        simp only [Bool.false_eq_true, if_false] at next
        split at next
        · rename_i isComma
          obtain rfl := beq_iff_eq.mp isComma
          split at next
          · cases next
          · cases next
          · obtain ⟨rfl, rfl⟩ := Prod.mk.inj (Except.ok.inj next)
            exact .inr ⟨rfl, rest, .comma starts, rfl⟩
        · cases next

theorem closeList_bracket (after : List Char) : closeList (']' :: after) = .ok after := by
  simp [closeList, skipSpace_cons (c := ']') rfl]

/-! ## Members -/

theorem nextKey_of_closes
    (closes : skipSpace cs = '\x7d' :: after)
    (first : Bool) :
    nextKey first cs = .ok (none, '\x7d' :: after) := by
  simp [nextKey, closes]

theorem nextKey_of_goesOn
    {opened : List Char}
    {key : String}
    (goesOn : GoesOn first cs before)
    (opens : skipSpace before = '"' :: opened)
    (spells : SpellsText opened key.toList after) :
    nextKey first cs = .ok (some key, after) := by
  have reads := (readString_eq_ok_iff opened key after).mpr spells
  cases goesOn with
  | start => simp [nextKey, nextKey.key, opens, reads, bind, Except.bind]
  | comma comma => simp [nextKey, nextKey.key, comma, opens, reads, bind, Except.bind]

theorem spells_of_key
    {key? : Option String}
    (next : nextKey.key before = .ok (key?, unread)) :
    ∃ key opened, key? = some key ∧ before = '"' :: opened ∧
      SpellsText opened key.toList unread := by
  unfold nextKey.key at next
  split at next
  · rename_i opened
    obtain ⟨⟨key, closed⟩, reads, same⟩ := Except.bind_eq_ok_iff.mp next
    obtain ⟨rfl, rfl⟩ := Prod.mk.inj (Except.ok.inj same)
    exact ⟨key, opened, rfl, rfl, (readString_eq_ok_iff _ _ _).mp reads⟩
  · cases next

/-- An object ends at its closing brace, or goes on with a key where the next member begins. -/
theorem eq_of_nextKey
    {key? : Option String}
    (next : nextKey first cs = .ok (key?, unread)) :
    (key? = none ∧ ∃ after, unread = '\x7d' :: after ∧ skipSpace cs = '\x7d' :: after) ∨
      ∃ key before opened, key? = some key ∧ GoesOn first cs before ∧
        skipSpace before = '"' :: opened ∧ SpellsText opened key.toList unread := by
  unfold nextKey at next
  split at next
  · cases next
  · rename_i rest closes
    obtain ⟨rfl, rfl⟩ := Prod.mk.inj (Except.ok.inj next)
    exact .inl ⟨rfl, rest, rfl, closes⟩
  · rename_i c rest _ starts
    right
    cases first with
    | true =>
        obtain ⟨key, opened, isKey, opens, spells⟩ := spells_of_key next
        exact ⟨key, cs, opened, isKey, .start cs, starts.trans opens, spells⟩
    | false =>
        simp only [Bool.false_eq_true, if_false] at next
        split at next
        · rename_i isComma
          obtain rfl := beq_iff_eq.mp isComma
          split at next
          · cases next
          · cases next
          · obtain ⟨key, opened, isKey, opens, spells⟩ := spells_of_key next
            exact ⟨key, rest, opened, isKey, .comma starts, opens, spells⟩
        · cases next

theorem closeObject_brace (after : List Char) : closeObject ('\x7d' :: after) = .ok after := by
  simp [closeObject, skipSpace_cons (c := '\x7d') rfl]

end Loops

/-! ## Values that are spelled are read -/

theorem readValueWith_skipSpace
    (bracket : List Char → Read Value)
    (cs : List Char) :
    readValueWith bracket (skipSpace cs) = readValueWith bracket cs := by
  unfold readValueWith
  rw [skipSpace_skipSpace]

/-- A reader of values at some depth that begins with its brackets. -/
def bracketReader : Nat → List Char → Read Value
  | 0 => stopPast .tooDeep
  | depth + 1 => readBracket (readValue depth)

theorem readValue_eq (depth : Nat) : readValue depth = readValueWith (bracketReader depth) := by
  cases depth <;> rfl

/-- What a phrase that is spelled is read as. -/
def Phrase.IsRead (depth : Nat) (before : List Char) (after : List Char) : Phrase → Prop
  | .value given => readValue depth before = .ok (given.sorted, after)
  | .items given => ∀ budget first cs, given.length < budget.length → GoesOn first cs before →
      ∃ last, readItemsUpTo (readValue depth) budget first cs =
          .ok (Value.sortedItems given, last) ∧ closeList last = .ok after
  | .members given => ∀ budget first cs held, given.length < budget.length →
      GoesOn first cs before →
      ∃ last, readMembersUpTo (readMemberOnto (readValue depth)) budget first held cs =
          .ok (Value.sortedOnto held given, last) ∧ closeObject last = .ok after

section Dispatch

variable
  {bracket : List Char → Read Value}
  {before rest after : List Char}

theorem readValueWith_null
    (word : skipSpace before = nullChars ++ after) :
    readValueWith bracket before = .ok (.null, after) := by
  have starts : skipSpace before = 'n' :: 'u' :: 'l' :: 'l' :: after := word
  simp [readValueWith, starts, readWord, bind, Except.bind]

theorem readValueWith_flag
    {value : Bool}
    (word : skipSpace before = flagChars value ++ after) :
    readValueWith bracket before = .ok (.flag value, after) := by
  cases value with
  | true =>
      have starts : skipSpace before = 't' :: 'r' :: 'u' :: 'e' :: after := word
      simp [readValueWith, starts, readWord, bind, Except.bind]
  | false =>
      have starts : skipSpace before = 'f' :: 'a' :: 'l' :: 's' :: 'e' :: after := word
      simp [readValueWith, starts, readWord, bind, Except.bind]

/-- A sign or a digit is the start of a number. -/
theorem readValueWith_number
    {number : Number}
    (reads : readSignedNumber (skipSpace before) = .ok (number, after)) :
    readValueWith bracket before = .ok (.number number, after) := by
  obtain ⟨c, rest, starts, isNumber, _⟩ := inRange_of_readSignedNumber reads
  have notLetter : ∀ letter : Char, letter.isDigit = false → letter ≠ '-' → c ≠ letter := by
    rintro letter notDigit notSign rfl
    rcases isNumber with isSign | isDigit
    · exact notSign isSign
    · rw [notDigit] at isDigit
      cases isDigit
  have isNumeric : (c == '-' || c.isDigit) = true := by simpa using isNumber
  rw [starts] at reads
  simp only [readValueWith, starts, beq_iff_eq, notLetter 'n' rfl (by decide),
    notLetter 't' rfl (by decide), notLetter 'f' rfl (by decide), isNumeric, if_false, if_true,
    reads, bind, Except.bind]

theorem readValueWith_text
    {text : String}
    (opens : skipSpace before = '"' :: rest)
    (spells : SpellsText rest text.toList after) :
    readValueWith bracket before = .ok (.text text, after) := by
  have reads := (readString_eq_ok_iff rest text after).mpr spells
  simp [readValueWith, opens, reads, bind, Except.bind]

theorem readValueWith_list
    (opens : skipSpace before = '[' :: rest) :
    readValueWith bracket before = bracket ('[' :: rest) := by
  simp [readValueWith, opens]

theorem readValueWith_object
    (opens : skipSpace before = '\x7b' :: rest) :
    readValueWith bracket before = bracket ('\x7b' :: rest) := by
  simp [readValueWith, opens]

/-- What a value reader has read: a word, a number or a string as it is spelled, or what the
reader of brackets makes of a bracket. -/
theorem spells_of_readValueWith
    {value : Value}
    (reads : readValueWith bracket before = .ok (value, after)) :
    (Spells before (.value value) after ∧ value.nesting = 0 ∧ value.sorted = value) ∨
      ∃ rest, (skipSpace before = '[' :: rest ∨ skipSpace before = '\x7b' :: rest) ∧
        bracket (skipSpace before) = .ok (value, after) := by
  unfold readValueWith at reads
  split at reads
  · cases reads
  · rename_i c rest starts
    split at reads
    · rename_i letter
      obtain rfl := beq_iff_eq.mp letter
      obtain ⟨unread, word, same⟩ := Except.bind_eq_ok_iff.mp reads
      obtain ⟨rfl, rfl⟩ := Prod.mk.inj (Except.ok.inj same)
      rw [readWord_eq_ok_iff] at word
      exact .inl ⟨.null (starts.trans (congrArg _ word)), rfl, rfl⟩
    split at reads
    · rename_i letter
      obtain rfl := beq_iff_eq.mp letter
      obtain ⟨unread, word, same⟩ := Except.bind_eq_ok_iff.mp reads
      obtain ⟨rfl, rfl⟩ := Prod.mk.inj (Except.ok.inj same)
      rw [readWord_eq_ok_iff] at word
      exact .inl ⟨.flag true (starts.trans (congrArg _ word)), rfl, rfl⟩
    split at reads
    · rename_i letter
      obtain rfl := beq_iff_eq.mp letter
      obtain ⟨unread, word, same⟩ := Except.bind_eq_ok_iff.mp reads
      obtain ⟨rfl, rfl⟩ := Prod.mk.inj (Except.ok.inj same)
      rw [readWord_eq_ok_iff] at word
      exact .inl ⟨.flag false (starts.trans (congrArg _ word)), rfl, rfl⟩
    split at reads
    · obtain ⟨⟨number, unread⟩, isNumber, same⟩ := Except.bind_eq_ok_iff.mp reads
      obtain ⟨rfl, rfl⟩ := Prod.mk.inj (Except.ok.inj same)
      exact .inl ⟨.number (starts ▸ isNumber), rfl, rfl⟩
    split at reads
    · rename_i quote
      obtain rfl := beq_iff_eq.mp quote
      obtain ⟨⟨text, unread⟩, isText, same⟩ := Except.bind_eq_ok_iff.mp reads
      obtain ⟨rfl, rfl⟩ := Prod.mk.inj (Except.ok.inj same)
      exact .inl ⟨.text starts ((readString_eq_ok_iff _ _ _).mp isText), rfl, rfl⟩
    split at reads
    · rename_i isBracket
      right
      rw [Bool.or_eq_true, beq_iff_eq, beq_iff_eq] at isBracket
      rw [starts]
      rcases isBracket with rfl | rfl
      · exact ⟨rest, .inl rfl, reads⟩
      · exact ⟨rest, .inr rfl, reads⟩
    · cases reads

end Dispatch

theorem readValue_skipSpace
    (depth : Nat)
    (cs : List Char) :
    readValue depth (skipSpace cs) = readValue depth cs := by
  rw [readValue_eq, readValueWith_skipSpace]

theorem nextItem_of_spells
    {first : Bool}
    {cs before after : List Char}
    {item : Value}
    (goesOn : GoesOn first cs before)
    (spells : Spells before (.value item) after) :
    nextItem first cs = .ok (true, skipSpace before) := by
  obtain ⟨c, rest, starts, notClosed⟩ := spells.starts
  rw [starts]
  exact nextItem_of_goesOn goesOn starts notClosed

/-! ## Loops and brackets, step by step -/

section Steps

variable
  {α σ : Type}
  {item : List Char → Read α}
  {member : σ → String → List Char → Read σ}
  {value : List Char → Read Value}
  {opened budget cs last after : List Char}
  {b : Char}
  {first : Bool}

/-- A list is its items and its closing bracket. -/
theorem readBracket_list_eq_ok_iff (result : Value) :
    readBracket value ('[' :: opened) = .ok (result, after) ↔
      ∃ items last, readItemsUpTo value opened true opened = .ok (items, last) ∧
        closeList last = .ok after ∧ result = .list items := by
  have equation : readBracket value ('[' :: opened) =
      (readItemsUpTo value opened true opened >>= fun found => closeList found.2 >>=
        fun rest => .ok (found.1, rest)) >>= fun found => .ok (.list found.1, found.2) := rfl
  rw [equation]
  constructor
  · intro reads
    obtain ⟨⟨items, rest⟩, listed, same⟩ := Except.bind_eq_ok_iff.mp reads
    obtain ⟨⟨others, last⟩, loops, closed⟩ := Except.bind_eq_ok_iff.mp listed
    obtain ⟨unread, closes, sameItems⟩ := Except.bind_eq_ok_iff.mp closed
    obtain ⟨rfl, rfl⟩ := Prod.mk.inj (Except.ok.inj sameItems)
    obtain ⟨rfl, rfl⟩ := Prod.mk.inj (Except.ok.inj same)
    exact ⟨_, last, loops, closes, rfl⟩
  · rintro ⟨items, last, loops, closes, rfl⟩
    simp only [loops, closes, bind, Except.bind]

/-- An object is its members and its closing brace. -/
theorem readBracket_object_eq_ok_iff (result : Value) :
    readBracket value ('\x7b' :: opened) = .ok (result, after) ↔
      ∃ members last,
        readMembersUpTo (readMemberOnto value) opened true [] opened = .ok (members, last) ∧
        closeObject last = .ok after ∧ result = .object members := by
  have equation : readBracket value ('\x7b' :: opened) =
      readMembersUpTo (readMemberOnto value) opened true [] opened >>= fun found =>
        closeObject found.2 >>= fun rest => .ok (.object found.1, rest) := rfl
  rw [equation]
  constructor
  · intro reads
    obtain ⟨⟨members, last⟩, loops, closed⟩ := Except.bind_eq_ok_iff.mp reads
    obtain ⟨unread, closes, same⟩ := Except.bind_eq_ok_iff.mp closed
    obtain ⟨rfl, rfl⟩ := Prod.mk.inj (Except.ok.inj same)
    exact ⟨members, last, loops, closes, rfl⟩
  · rintro ⟨members, last, loops, closes, rfl⟩
    simp only [loops, closes, bind, Except.bind]

/-- A loop over items ends, or reads one item and goes on. -/
theorem readItemsUpTo_cons_eq_ok_iff (found : List α) :
    readItemsUpTo item (b :: budget) first cs = .ok (found, last) ↔
      (nextItem first cs = .ok (false, last) ∧ found = []) ∨
      ∃ unread one rest others, nextItem first cs = .ok (true, unread) ∧
        item unread = .ok (one, rest) ∧
        readItemsUpTo item budget false rest = .ok (others, last) ∧ found = one :: others := by
  rw [readItemsUpTo]
  constructor
  · intro reads
    obtain ⟨⟨more, unread⟩, next, reads⟩ := Except.bind_eq_ok_iff.mp reads
    cases more with
    | false =>
        obtain ⟨rfl, rfl⟩ := Prod.mk.inj (Except.ok.inj reads)
        exact .inl ⟨next, rfl⟩
    | true =>
        obtain ⟨⟨one, rest⟩, isItem, reads⟩ := Except.bind_eq_ok_iff.mp reads
        obtain ⟨⟨others, end'⟩, loops, same⟩ := Except.bind_eq_ok_iff.mp reads
        obtain ⟨rfl, rfl⟩ := Prod.mk.inj (Except.ok.inj same)
        exact .inr ⟨unread, one, rest, others, next, isItem, loops, rfl⟩
  · rintro (⟨next, rfl⟩ | ⟨unread, one, rest, others, next, isItem, loops, rfl⟩)
    · simp [next, bind, Except.bind]
    · simp [next, isItem, loops, bind, Except.bind]

/-- A loop over members ends, or reads one member and goes on. -/
theorem readMembersUpTo_cons_eq_ok_iff (state result : σ) :
    readMembersUpTo member (b :: budget) first state cs = .ok (result, last) ↔
      (nextKey first cs = .ok (none, last) ∧ result = state) ∨
      ∃ key inner next rest, nextKey first cs = .ok (some key, inner) ∧
        member state key inner = .ok (next, rest) ∧
        readMembersUpTo member budget false next rest = .ok (result, last) := by
  rw [readMembersUpTo]
  constructor
  · intro reads
    obtain ⟨⟨key?, inner⟩, keyed, reads⟩ := Except.bind_eq_ok_iff.mp reads
    cases key? with
    | none =>
        obtain ⟨rfl, rfl⟩ := Prod.mk.inj (Except.ok.inj reads)
        exact .inl ⟨keyed, rfl⟩
    | some key =>
        obtain ⟨⟨next, rest⟩, isMember, loops⟩ := Except.bind_eq_ok_iff.mp reads
        exact .inr ⟨key, inner, next, rest, keyed, isMember, loops⟩
  · rintro (⟨keyed, rfl⟩ | ⟨key, inner, next, rest, keyed, isMember, loops⟩)
    · simp only [keyed, bind, Except.bind]
    · simp only [keyed, isMember, bind, Except.bind]
      exact loops

/-- A member is a colon and a value, which is put among the members. -/
theorem readMemberOnto_eq_ok_iff
    (held next : List (String × Value))
    (key : String) :
    readMemberOnto value held key cs = .ok (next, after) ↔
      ∃ inner given, skipSpace cs = ':' :: inner ∧ value inner = .ok (given, after) ∧
        next = insertMember key given held := by
  unfold readMemberOnto
  constructor
  · intro reads
    obtain ⟨inner, colon, reads⟩ := Except.bind_eq_ok_iff.mp reads
    obtain ⟨⟨given, rest⟩, isValue, same⟩ := Except.bind_eq_ok_iff.mp reads
    obtain ⟨rfl, rfl⟩ := Prod.mk.inj (Except.ok.inj same)
    exact ⟨inner, given, (readColon_eq_ok_iff _ _).mp colon, isValue, rfl⟩
  · rintro ⟨inner, given, colon, isValue, rfl⟩
    simp only [(readColon_eq_ok_iff _ _).mpr colon, isValue, bind, Except.bind]

end Steps

/-! ## Steps of a reader of values -/

section ValueSteps

variable
  {depth : Nat}
  {opened budget cs before rest last after : List Char}
  {b : Char}
  {first : Bool}

theorem readItemsUpTo_of_closes
    {α : Type}
    (item : List Char → Read α)
    (closes : skipSpace cs = ']' :: after)
    (lasts : 0 < budget.length) :
    readItemsUpTo item budget first cs = .ok ([], ']' :: after) := by
  obtain ⟨b, budget, rfl⟩ := List.exists_cons_of_length_pos lasts
  exact (readItemsUpTo_cons_eq_ok_iff _).mpr (.inl ⟨nextItem_of_closes closes _, rfl⟩)

theorem readMembersUpTo_of_closes
    {σ : Type}
    (member : σ → String → List Char → Read σ)
    (state : σ)
    (closes : skipSpace cs = '\x7d' :: after)
    (lasts : 0 < budget.length) :
    readMembersUpTo member budget first state cs = .ok (state, '\x7d' :: after) := by
  obtain ⟨b, budget, rfl⟩ := List.exists_cons_of_length_pos lasts
  exact (readMembersUpTo_cons_eq_ok_iff _ _).mpr (.inl ⟨nextKey_of_closes closes _, rfl⟩)

/-- An item is read where it is spelled, and then the others. -/
theorem readItemsUpTo_of_spells
    {item value : Value}
    {others : List Value}
    (goesOn : GoesOn first cs before)
    (spells : Spells before (.value item) rest)
    (isRead : readValue depth before = .ok (value, rest))
    (loops : readItemsUpTo (readValue depth) budget false rest = .ok (others, last)) :
    readItemsUpTo (readValue depth) (b :: budget) first cs = .ok (value :: others, last) :=
  (readItemsUpTo_cons_eq_ok_iff _).mpr <| .inr ⟨_, _, rest, _, nextItem_of_spells goesOn spells,
    (readValue_skipSpace depth before).trans isRead, loops, rfl⟩

/-- A member is read where it is spelled, and then the others. -/
theorem readMembersUpTo_of_spells
    {key : String}
    {inner : List Char}
    {value : Value}
    {held found : List (String × Value)}
    (goesOn : GoesOn first cs before)
    (spellsKey : SpellsKey before key inner)
    (isRead : readValue depth inner = .ok (value, rest))
    (loops : readMembersUpTo (readMemberOnto (readValue depth)) budget false
      (insertMember key value held) rest = .ok (found, last)) :
    readMembersUpTo (readMemberOnto (readValue depth)) (b :: budget) first held cs =
      .ok (found, last) := by
  obtain ⟨opened, closed, opens, isKey, colon⟩ := spellsKey
  exact (readMembersUpTo_cons_eq_ok_iff _ _).mpr <| .inr ⟨key, closed, _, rest,
    nextKey_of_goesOn goesOn opens isKey,
    (readMemberOnto_eq_ok_iff _ _ _).mpr ⟨inner, value, colon, isRead, rfl⟩, loops⟩

/-- A list takes one level of depth. -/
theorem readValue_list
    {items : List Value}
    (opens : skipSpace before = '[' :: opened)
    (loops : readItemsUpTo (readValue depth) opened true opened = .ok (items, last))
    (closes : closeList last = .ok after) :
    readValue (depth + 1) before = .ok (.list items, after) := by
  rw [readValue_eq, readValueWith_list opens]
  exact (readBracket_list_eq_ok_iff _).mpr ⟨items, last, loops, closes, rfl⟩

/-- An object takes one level of depth. -/
theorem readValue_object
    {members : List (String × Value)}
    (opens : skipSpace before = '\x7b' :: opened)
    (loops : readMembersUpTo (readMemberOnto (readValue depth)) opened true [] opened =
      .ok (members, last))
    (closes : closeObject last = .ok after) :
    readValue (depth + 1) before = .ok (.object members, after) := by
  rw [readValue_eq, readValueWith_object opens]
  exact (readBracket_object_eq_ok_iff _).mpr ⟨members, last, loops, closes, rfl⟩

end ValueSteps

/-- A phrase that is spelled is read, if its brackets do not go too deep. -/
theorem Spells.isRead
    {before after : List Char}
    {phrase : Phrase}
    (spells : Spells before phrase after)
    {depth : Nat}
    (within : phrase.nesting ≤ depth) :
    phrase.IsRead depth before after := by
  have ofLeaf : ∀ {before after : List Char} {value : Value} {depth : Nat},
      readValueWith (bracketReader depth) before = .ok (value, after) →
        readValue depth before = .ok (value, after) :=
    fun reads => (congrFun (readValue_eq _) _).trans reads
  have positive : ∀ {before after : List Char} {c : Char},
      skipSpace before = c :: after → 0 < before.length :=
    fun starts => Nat.zero_lt_of_lt (length_lt_of_skipSpace starts)
  induction spells generalizing depth with
  | null word => exact ofLeaf (readValueWith_null word)
  | flag value word => exact ofLeaf (readValueWith_flag word)
  | number reads => exact ofLeaf (readValueWith_number reads)
  | text opens spells => exact ofLeaf (readValueWith_text opens spells)
  | @emptyList before opened after opens closes =>
      obtain ⟨depth, rfl⟩ := Nat.exists_eq_succ_of_ne_zero (Nat.ne_zero_of_lt within)
      exact readValue_list opens (readItemsUpTo_of_closes _ closes (positive closes))
        (closeList_bracket after)
  | @list before opened after items opens spells isRead =>
      obtain ⟨depth, rfl⟩ := Nat.exists_eq_succ_of_ne_zero (Nat.ne_zero_of_lt within)
      have lasts : items.length < opened.length :=
        Nat.lt_of_le_of_lt (Nat.le_add_right _ _) spells.length_lt
      obtain ⟨last, loops, closes⟩ :=
        isRead (Nat.le_of_succ_le_succ within) opened true opened lasts (.start opened)
      exact readValue_list opens loops closes
  | @emptyObject before opened after opens closes =>
      obtain ⟨depth, rfl⟩ := Nat.exists_eq_succ_of_ne_zero (Nat.ne_zero_of_lt within)
      exact readValue_object opens (readMembersUpTo_of_closes _ [] closes (positive closes))
        (closeObject_brace after)
  | @object before opened after members opens spells isRead =>
      obtain ⟨depth, rfl⟩ := Nat.exists_eq_succ_of_ne_zero (Nat.ne_zero_of_lt within)
      have lasts : members.length < opened.length :=
        Nat.lt_of_le_of_lt (Nat.le_add_right _ _) spells.length_lt
      obtain ⟨last, loops, closes⟩ :=
        isRead (Nat.le_of_succ_le_succ within) opened true opened [] lasts (.start opened)
      exact readValue_object opens loops closes
  | @lastItem before last after item spells closes isRead =>
      intro budget first cs lasts goesOn
      have readsItem := isRead (Nat.le_trans (Nat.le_max_left _ _) within)
      match budget, lasts with
      | _ :: budget, lasts =>
        exact ⟨_, readItemsUpTo_of_spells goesOn spells readsItem
          (readItemsUpTo_of_closes _ closes (Nat.lt_of_succ_lt_succ lasts)),
          closeList_bracket after⟩
  | @item before middle next after item items spells comma further isRead furtherRead =>
      intro budget first cs lasts goesOn
      have readsItem := isRead (Nat.le_trans (Nat.le_max_left _ _) within)
      have readsItems := furtherRead (Nat.le_trans (Nat.le_max_right _ _) within)
      match budget, lasts with
      | _ :: budget, lasts =>
        obtain ⟨last, loops, closes⟩ :=
          readsItems budget false middle (Nat.lt_of_succ_lt_succ lasts) (.comma comma)
        exact ⟨last, readItemsUpTo_of_spells goesOn spells readsItem loops, closes⟩
  | @lastMember before inner last after key held spellsKey spells closes isRead =>
      intro budget first cs kept lasts goesOn
      have readsHeld := isRead (Nat.le_trans (Nat.le_max_left _ _) within)
      match budget, lasts with
      | _ :: budget, lasts =>
        exact ⟨_, readMembersUpTo_of_spells goesOn spellsKey readsHeld
          (readMembersUpTo_of_closes _ _ closes (Nat.lt_of_succ_lt_succ lasts)),
          closeObject_brace after⟩
  | @member before inner middle next after key held members spellsKey spells comma further
      isRead furtherRead =>
      intro budget first cs kept lasts goesOn
      have readsHeld := isRead (Nat.le_trans (Nat.le_max_left _ _) within)
      have readsMembers := furtherRead (Nat.le_trans (Nat.le_max_right _ _) within)
      match budget, lasts with
      | _ :: budget, lasts =>
        obtain ⟨last, loops, closes⟩ := readsMembers budget false middle
          (insertMember key held.sorted kept) (Nat.lt_of_succ_lt_succ lasts) (.comma comma)
        exact ⟨last, readMembersUpTo_of_spells goesOn spellsKey readsHeld loops, closes⟩

/-! ## Nothing else is read -/

/-- Items that are read are spelled, if every item is. -/
theorem spells_of_readItemsUpTo
    {depth : Nat}
    (spells : ∀ {before after : List Char} {value : Value},
      readValue depth before = .ok (value, after) →
        ∃ given, Spells before (.value given) after ∧ given.nesting ≤ depth ∧
          given.sorted = value)
    {budget cs last after : List Char}
    {first : Bool}
    {values : List Value}
    (reads : readItemsUpTo (readValue depth) budget first cs = .ok (values, last))
    (closes : closeList last = .ok after) :
    (values = [] ∧ skipSpace cs = ']' :: after) ∨
      ∃ before given, GoesOn first cs before ∧ Spells before (.items given) after ∧
        Value.itemsNesting given ≤ depth ∧ Value.sortedItems given = values := by
  induction budget generalizing first cs values with
  | nil => cases reads
  | cons b budget inductionHypothesis =>
      rcases (readItemsUpTo_cons_eq_ok_iff _).mp reads with
        ⟨next, rfl⟩ | ⟨unread, one, rest, others, next, isItem, loops, rfl⟩
      · rcases eq_of_nextItem next with ⟨_, left, rfl, isClosed⟩ | ⟨more, _⟩
        · rw [closeList_bracket] at closes
          exact .inl ⟨rfl, Except.ok.inj closes ▸ isClosed⟩
        · cases more
      · rcases eq_of_nextItem next with ⟨more, _⟩ | ⟨_, before, goesOn, rfl⟩
        · cases more
        · obtain ⟨item, spellsItem, within, rfl⟩ := spells isItem
          have spellsHere := spellsItem.of_skipSpace_eq (skipSpace_skipSpace before).symm
          rcases inductionHypothesis loops with
            ⟨rfl, isClosed⟩ | ⟨next, items, goesFurther, spellsItems, itemsWithin, rfl⟩
          · refine .inr ⟨before, [item], goesOn, .lastItem spellsHere isClosed, ?_, rfl⟩
            exact Nat.max_le.mpr ⟨within, Nat.zero_le _⟩
          · cases goesFurther with
            | comma comma =>
                refine .inr ⟨before, item :: items, goesOn,
                  .item spellsHere comma spellsItems, ?_, rfl⟩
                exact Nat.max_le.mpr ⟨within, itemsWithin⟩

/-- Members that are read are spelled, if every value is. -/
theorem spells_of_readMembersUpTo
    {depth : Nat}
    (spells : ∀ {before after : List Char} {value : Value},
      readValue depth before = .ok (value, after) →
        ∃ given, Spells before (.value given) after ∧ given.nesting ≤ depth ∧
          given.sorted = value)
    {budget cs last after : List Char}
    {first : Bool}
    {held found : List (String × Value)}
    (reads : readMembersUpTo (readMemberOnto (readValue depth)) budget first held cs =
      .ok (found, last))
    (closes : closeObject last = .ok after) :
    (found = held ∧ skipSpace cs = '\x7d' :: after) ∨
      ∃ before given, GoesOn first cs before ∧ Spells before (.members given) after ∧
        Value.membersNesting given ≤ depth ∧ Value.sortedOnto held given = found := by
  induction budget generalizing first cs held with
  | nil => cases reads
  | cons b budget inductionHypothesis =>
      rcases (readMembersUpTo_cons_eq_ok_iff _ _).mp reads with
        ⟨keyed, rfl⟩ | ⟨key, closed, next, rest, keyed, isMember, loops⟩
      · rcases eq_of_nextKey keyed with ⟨_, left, rfl, isClosed⟩ | ⟨_, _, _, isKey, _⟩
        · rw [closeObject_brace] at closes
          exact .inl ⟨rfl, Except.ok.inj closes ▸ isClosed⟩
        · cases isKey
      · rcases eq_of_nextKey keyed with
          ⟨isKey, _⟩ | ⟨name, before, opened, isKey, goesOn, opens, spellsName⟩
        · cases isKey
        · obtain rfl := Option.some.inj isKey
          obtain ⟨inner, value, colon, isValue, rfl⟩ :=
            (readMemberOnto_eq_ok_iff _ _ _).mp isMember
          obtain ⟨given, spellsValue, within, rfl⟩ := spells isValue
          have spellsKey : SpellsKey before key inner := ⟨opened, closed, opens, spellsName, colon⟩
          rcases inductionHypothesis loops with
            ⟨rfl, isClosed⟩ | ⟨next, members, goesFurther, spellsMembers, membersWithin, rfl⟩
          · refine .inr ⟨before, [(key, given)], goesOn,
              .lastMember spellsKey spellsValue isClosed, ?_, rfl⟩
            exact Nat.max_le.mpr ⟨within, Nat.zero_le _⟩
          · cases goesFurther with
            | comma comma =>
                refine .inr ⟨before, (key, given) :: members, goesOn,
                  .member spellsKey spellsValue comma spellsMembers, ?_, rfl⟩
                exact Nat.max_le.mpr ⟨within, membersWithin⟩

/-- A value that is read is spelled, by a value whose brackets do not go too deep and that is
sorted into it. -/
theorem spells_of_readValue
    {depth : Nat}
    {before after : List Char}
    {value : Value}
    (reads : readValue depth before = .ok (value, after)) :
    ∃ given, Spells before (.value given) after ∧ given.nesting ≤ depth ∧
      given.sorted = value := by
  induction depth generalizing before after value with
  | zero =>
      rcases spells_of_readValueWith reads with ⟨spells, flat, sorted⟩ | ⟨_, _, tooDeep⟩
      · exact ⟨value, spells, Nat.le_of_eq flat, sorted⟩
      · cases tooDeep
  | succ depth inductionHypothesis =>
      rcases spells_of_readValueWith reads with
        ⟨spells, flat, sorted⟩ | ⟨opened, opens | opens, isBracket⟩
      · exact ⟨value, spells, flat ▸ Nat.zero_le _, sorted⟩
      · rw [opens] at isBracket
        obtain ⟨values, last, loops, closes, rfl⟩ := (readBracket_list_eq_ok_iff _).mp isBracket
        rcases spells_of_readItemsUpTo inductionHypothesis loops closes with
          ⟨rfl, isClosed⟩ | ⟨_, given, goesOn, spells, within, rfl⟩
        · exact ⟨.list [], .emptyList opens isClosed, Nat.succ_le_succ (Nat.zero_le _), rfl⟩
        · cases goesOn
          exact ⟨.list given, .list opens spells, Nat.succ_le_succ within, rfl⟩
      · rw [opens] at isBracket
        obtain ⟨members, last, loops, closes, rfl⟩ :=
          (readBracket_object_eq_ok_iff _).mp isBracket
        rcases spells_of_readMembersUpTo inductionHypothesis loops closes with
          ⟨rfl, isClosed⟩ | ⟨_, given, goesOn, spells, within, rfl⟩
        · exact ⟨.object [], .emptyObject opens isClosed, Nat.succ_le_succ (Nat.zero_le _), rfl⟩
        · cases goesOn
          exact ⟨.object given, .object opens spells, Nat.succ_le_succ within, rfl⟩

/-! ## A text spells one value only -/

section Unique

variable {before after otherAfter : List Char}

/-- What two spellings at the same place are sorted into is the same, and they end at the same
place: a reader that goes deep enough reads both. -/
theorem Spells.sorted_eq
    {one other : Value}
    (spells : Spells before (.value one) after)
    (otherSpells : Spells before (.value other) otherAfter) :
    one.sorted = other.sorted ∧ after = otherAfter := by
  have reads : readValue (max one.nesting other.nesting) before = .ok (one.sorted, after) :=
    spells.isRead (Nat.le_max_left _ _)
  have otherReads : readValue (max one.nesting other.nesting) before =
      .ok (other.sorted, otherAfter) :=
    otherSpells.isRead (Nat.le_max_right _ _)
  rw [reads] at otherReads
  exact Prod.mk.inj (Except.ok.inj otherReads)

theorem SpellsKey.eq
    {one other : String}
    (spells : SpellsKey before one after)
    (otherSpells : SpellsKey before other otherAfter) :
    one = other ∧ after = otherAfter := by
  obtain ⟨opened, closed, opens, isKey, colon⟩ := spells
  obtain ⟨_, otherClosed, otherOpens, isOther, otherColon⟩ := otherSpells
  rw [opens] at otherOpens
  obtain ⟨_, rfl⟩ := List.cons.inj otherOpens
  have reads := (readString_eq_ok_iff _ _ _).mpr isKey
  rw [(readString_eq_ok_iff _ _ _).mpr isOther] at reads
  obtain ⟨rfl, rfl⟩ := Prod.mk.inj (Except.ok.inj reads)
  rw [colon] at otherColon
  exact ⟨rfl, (List.cons.inj otherColon).2⟩

/-- No other phrase of its kind is spelled at the place. -/
def Phrase.IsUnique (before : List Char) : Phrase → Prop
  | .value given => ∀ other after, Spells before (.value other) after → given = other
  | .items given => ∀ others after, Spells before (.items others) after → given = others
  | .members given => ∀ others after, Spells before (.members others) after → given = others

/-- What is spelled after an opening bracket, where the value is sorted into a list. -/
theorem Spells.opens_list
    {given : Value}
    {items : List Value}
    {opened : List Char}
    (spells : Spells before (.value given) after)
    (isList : given.sorted = .list items)
    (opens : skipSpace before = '[' :: opened) :
    ∃ others, given = .list others ∧
      (others = [] ∧ (∃ rest, skipSpace opened = ']' :: rest) ∨
        Spells opened (.items others) after) := by
  cases spells with
  | null | flag | number | text | emptyObject | object => cases isList
  | emptyList otherOpens closes =>
      obtain ⟨_, rfl⟩ := List.cons.inj (opens.symm.trans otherOpens)
      exact ⟨_, rfl, .inl ⟨rfl, _, closes⟩⟩
  | list otherOpens spells =>
      obtain ⟨_, rfl⟩ := List.cons.inj (opens.symm.trans otherOpens)
      exact ⟨_, rfl, .inr spells⟩

/-- What is spelled after an opening brace, where the value is sorted into an object. -/
theorem Spells.opens_object
    {given : Value}
    {members : List (String × Value)}
    {opened : List Char}
    (spells : Spells before (.value given) after)
    (isObject : given.sorted = .object members)
    (opens : skipSpace before = '\x7b' :: opened) :
    ∃ others, given = .object others ∧
      (others = [] ∧ (∃ rest, skipSpace opened = '\x7d' :: rest) ∨
        Spells opened (.members others) after) := by
  cases spells with
  | null | flag | number | text | emptyList | list => cases isObject
  | emptyObject otherOpens closes =>
      obtain ⟨_, rfl⟩ := List.cons.inj (opens.symm.trans otherOpens)
      exact ⟨_, rfl, .inl ⟨rfl, _, closes⟩⟩
  | object otherOpens spells =>
      obtain ⟨_, rfl⟩ := List.cons.inj (opens.symm.trans otherOpens)
      exact ⟨_, rfl, .inr spells⟩

/-- No list closes where items are spelled. -/
theorem Spells.items_not_closed
    {items : List Value}
    (spells : Spells before (.items items) after)
    {rest : List Char}
    (closes : skipSpace before = ']' :: rest) :
    False := by
  obtain ⟨c, _, starts, notClosed⟩ := spells.items_start
  exact notClosed (List.cons.inj (starts.symm.trans closes)).1

/-- No object closes where members are spelled. -/
theorem Spells.members_not_closed
    {members : List (String × Value)}
    (spells : Spells before (.members members) after)
    {rest : List Char}
    (closes : skipSpace before = '\x7d' :: rest) :
    False := by
  obtain ⟨_, starts⟩ := spells.members_start
  exact absurd (List.cons.inj (starts.symm.trans closes)).1 (by decide)

/-- Where two values end, different marks do not follow. -/
theorem Spells.mark_eq
    {one other : Value}
    (spells : Spells before (.value one) after)
    (otherSpells : Spells before (.value other) otherAfter)
    {mark otherMark : Char}
    {rest otherRest : List Char}
    (follows : skipSpace after = mark :: rest)
    (otherFollows : skipSpace otherAfter = otherMark :: otherRest) :
    mark = otherMark ∧ rest = otherRest := by
  obtain ⟨_, rfl⟩ := spells.sorted_eq otherSpells
  exact List.cons.inj (follows.symm.trans otherFollows)

/-- Only one phrase of a kind is spelled at a place. -/
theorem Spells.isUnique
    {phrase : Phrase}
    (spells : Spells before phrase after) :
    phrase.IsUnique before := by
  -- Words, numbers and texts are sorted into themselves, and nothing else is sorted into them.
  have ofLeaf : ∀ {before after : List Char} {given : Value},
      Spells before (.value given) after →
        (∀ other : Value, given.sorted = other.sorted → given = other) →
          Phrase.IsUnique before (.value given) :=
    fun spells leaf other _ otherSpells => leaf other (spells.sorted_eq otherSpells).1
  induction spells with
  | null word => exact ofLeaf (.null word) fun other same => by cases other <;> cases same; rfl
  | flag value word =>
      exact ofLeaf (.flag value word) fun other same => by cases other <;> cases same; rfl
  | number reads =>
      exact ofLeaf (.number reads) fun other same => by cases other <;> cases same; rfl
  | text opens spells =>
      exact ofLeaf (.text opens spells) fun other same => by cases other <;> cases same; rfl
  | emptyList opens closes =>
      intro other otherAfter otherSpells
      have same := ((Spells.emptyList opens closes).sorted_eq otherSpells).1
      obtain ⟨others, rfl, ⟨rfl, _⟩ | otherItems⟩ := otherSpells.opens_list same.symm opens
      · rfl
      · exact (otherItems.items_not_closed closes).elim
  | list opens spells unique =>
      intro other otherAfter otherSpells
      have same := ((Spells.list opens spells).sorted_eq otherSpells).1
      obtain ⟨others, rfl, ⟨_, rest, closes⟩ | otherItems⟩ :=
        otherSpells.opens_list same.symm opens
      · exact (spells.items_not_closed closes).elim
      · exact congrArg Value.list (unique others _ otherItems)
  | emptyObject opens closes =>
      intro other otherAfter otherSpells
      have same := ((Spells.emptyObject opens closes).sorted_eq otherSpells).1
      obtain ⟨others, rfl, ⟨rfl, _⟩ | otherMembers⟩ := otherSpells.opens_object same.symm opens
      · rfl
      · exact (otherMembers.members_not_closed closes).elim
  | object opens spells unique =>
      intro other otherAfter otherSpells
      have same := ((Spells.object opens spells).sorted_eq otherSpells).1
      obtain ⟨others, rfl, ⟨_, rest, closes⟩ | otherMembers⟩ :=
        otherSpells.opens_object same.symm opens
      · exact (spells.members_not_closed closes).elim
      · exact congrArg Value.object (unique others _ otherMembers)
  | lastItem spells closes unique =>
      intro others otherAfter otherSpells
      cases otherSpells with
      | lastItem otherItem => rw [unique _ _ otherItem]
      | item otherItem comma => exact absurd (spells.mark_eq otherItem closes comma).1 (by decide)
  | item spells comma further unique furtherUnique =>
      intro others otherAfter otherSpells
      cases otherSpells with
      | lastItem otherItem closes =>
          exact absurd (spells.mark_eq otherItem comma closes).1 (by decide)
      | item otherItem otherComma otherFurther =>
          obtain ⟨_, rfl⟩ := spells.mark_eq otherItem comma otherComma
          rw [unique _ _ otherItem, furtherUnique _ _ otherFurther]
  | lastMember spellsKey spells closes unique =>
      intro others otherAfter otherSpells
      cases otherSpells with
      | lastMember otherKey otherHeld =>
          obtain ⟨rfl, rfl⟩ := spellsKey.eq otherKey
          rw [unique _ _ otherHeld]
      | member otherKey otherHeld comma =>
          obtain ⟨rfl, rfl⟩ := spellsKey.eq otherKey
          exact absurd (spells.mark_eq otherHeld closes comma).1 (by decide)
  | member spellsKey spells comma further unique furtherUnique =>
      intro others otherAfter otherSpells
      cases otherSpells with
      | lastMember otherKey otherHeld closes =>
          obtain ⟨rfl, rfl⟩ := spellsKey.eq otherKey
          exact absurd (spells.mark_eq otherHeld comma closes).1 (by decide)
      | member otherKey otherHeld otherComma otherFurther =>
          obtain ⟨rfl, rfl⟩ := spellsKey.eq otherKey
          obtain ⟨_, rfl⟩ := spells.mark_eq otherHeld comma otherComma
          rw [unique _ _ otherHeld, furtherUnique _ _ otherFurther]

end Unique

/-! ## Whole texts -/

theorem readAll_eq_ok_iff
    {α : Type}
    (reader : List Char → Read α)
    (text : String)
    (value : α) :
    readAll reader text = .ok value ↔
      ∃ rest, reader text.toList = .ok (value, rest) ∧ skipSpace rest = [] := by
  unfold readAll
  cases read : reader text.toList with
  | error stop => simp [bind, Except.bind, Except.mapError]
  | ok found =>
      cases left : skipSpace found.2 with
      | nil => simp [bind, Except.bind, Except.mapError, left, Prod.ext_iff]
      | cons c rest =>
          simp [bind, Except.bind, Except.mapError, left, stopPast, Prod.ext_iff]

namespace Value

/-- A text is read as a value exactly if it spells one that is sorted into it and whose
brackets do not go too deep. -/
theorem read_eq_ok_iff
    (text : String)
    (value : Value) :
    Value.read text = .ok value ↔
      ∃ given : Value, given.IsSpelledBy text ∧ given.nesting ≤ greatestDepth ∧
        given.sorted = value := by
  unfold Value.read
  rw [readAll_eq_ok_iff]
  constructor
  · rintro ⟨rest, reads, ends⟩
    obtain ⟨given, spells, within, sorted⟩ := spells_of_readValue reads
    exact ⟨given, ⟨rest, spells, ends⟩, within, sorted⟩
  · rintro ⟨given, ⟨rest, spells, ends⟩, within, rfl⟩
    exact ⟨rest, spells.isRead within, ends⟩

/-- A text spells one value only. -/
theorem IsSpelledBy.eq
    {text : String}
    {one other : Value}
    (spelled : one.IsSpelledBy text)
    (otherSpelled : other.IsSpelledBy text) :
    one = other := by
  obtain ⟨rest, spells, _⟩ := spelled
  obtain ⟨otherRest, otherSpells, _⟩ := otherSpelled
  exact spells.isUnique other otherRest otherSpells

theorem IsSpelledBy.iff_eq
    {text : String}
    {given written : Value}
    (spelled : given.IsSpelledBy text) :
    written.IsSpelledBy text ↔ written = given :=
  ⟨fun writtenSpelled => writtenSpelled.eq spelled, fun same => same ▸ spelled⟩

end Value

end Json
end KnowledgeClient
