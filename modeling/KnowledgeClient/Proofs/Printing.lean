import KnowledgeClient.CommandLine.Run
import KnowledgeClient.Proofs.Ordering
import Mathlib.Data.List.Forall2

/-!
# Values are printed as they are spelled

Texts that spell items and members spell a list and an object when they stand between
brackets with commas, whatever blanks come before and after them.  The compact and the
indented text of a value are made in this way, so that both spell the value; a response
whose numbers are all integers is read back from either, and the text depends on nothing
but the value.
-/

namespace KnowledgeClient
namespace Json

/-- The characters spell the value, before any text that does not go on with a number. -/
def Writes (chars : List Char) (value : Value) : Prop :=
  ∀ after, endsNumber after = true → Spells (chars ++ after) (.value value) after

/-- The characters spell the member, before any text that does not go on with a number. -/
def WritesMember (chars : List Char) (member : String × Value) : Prop :=
  ∀ after, endsNumber after = true →
    ∃ inner, SpellsKey (chars ++ after) member.1 inner ∧ Spells inner (.value member.2) after

/-- The characters are all blanks. -/
def AreBlank (chars : List Char) : Prop :=
  ∀ c ∈ chars, isSpace c = true

/-! ## Blanks -/

theorem areBlank_nil : AreBlank [] :=
  fun _ member => absurd member List.not_mem_nil

theorem areBlank_space : AreBlank [' '] := by
  simp [AreBlank, isSpace]

theorem areBlank_newLine (depth : Nat) : AreBlank (Value.newLine depth) := by
  intro c member
  rcases List.mem_cons.mp member with rfl | isFill
  · rfl
  · rw [List.eq_of_mem_replicate isFill]
    rfl

theorem skipSpace_append
    {blanks : List Char}
    (areBlank : AreBlank blanks)
    (cs : List Char) :
    skipSpace (blanks ++ cs) = skipSpace cs :=
  List.dropWhile_append_of_pos areBlank

/-- Blanks and then a character that ends a number end a number. -/
theorem endsNumber_append
    {blanks : List Char}
    (areBlank : AreBlank blanks)
    {rest : List Char}
    (ends : endsNumber rest = true) :
    endsNumber (blanks ++ rest) = true := by
  cases blanks with
  | nil => exact ends
  | cons c others =>
      have blank := areBlank c List.mem_cons_self
      simp only [isSpace, Bool.or_eq_true, beq_iff_eq] at blank
      rcases blank with ((rfl | rfl) | rfl) | rfl <;> rfl

theorem Writes.append
    {blanks chars : List Char}
    {value : Value}
    (areBlank : AreBlank blanks)
    (writes : Writes chars value) :
    Writes (blanks ++ chars) value := by
  intro after ends
  rw [List.append_assoc]
  exact (writes after ends).of_skipSpace_eq (skipSpace_append areBlank _)

/-! ## Words, strings and integers -/

theorem writes_null : Writes nullChars .null :=
  fun _ _ => .null (skipSpace_cons (c := 'n') rfl _)

theorem writes_flag (value : Bool) : Writes (flagChars value) (.flag value) := by
  intro after _
  cases value with
  | true => exact .flag true (skipSpace_cons (c := 't') rfl _)
  | false => exact .flag false (skipSpace_cons (c := 'f') rfl _)

/-- A printed string opens with its quote and spells its text. -/
theorem spells_stringChars
    (text : String)
    (after : List Char) :
    ∃ opened, skipSpace (stringChars text ++ after) = '"' :: opened ∧
      SpellsText opened text.toList after := by
  refine ⟨text.toList.flatMap escapedChar ++ '"' :: after, ?_,
    spellsText_flatMap_escapedChar text.toList after⟩
  simp only [stringChars, List.cons_append, List.append_assoc, List.nil_append]
  exact skipSpace_cons (c := '"') rfl _

theorem writes_text (text : String) : Writes (stringChars text) (.text text) := by
  intro after _
  obtain ⟨opened, opens, spells⟩ := spells_stringChars text after
  exact .text opens spells

/-- An integer that 64 bits hold is printed as it is spelled. -/
theorem writes_integer
    {value : Int}
    (inRange : (Number.integer value).InRange) :
    Writes (integerChars value) (.number (.integer value)) := by
  intro after ends
  have reads := readSignedNumber_integerChars inRange ends
  obtain ⟨c, rest, starts, isNumeric, _⟩ := inRange_of_readSignedNumber reads
  have notSpace : isSpace c = false := by
    rcases isNumeric with rfl | isDigit
    · rfl
    · cases blank : isSpace c with
      | false => rfl
      | true =>
          simp only [isSpace, Bool.or_eq_true, beq_iff_eq] at blank
          rcases blank with ((rfl | rfl) | rfl) | rfl <;> cases isDigit
  refine .number ?_
  rw [starts, skipSpace_cons notSpace, ← starts]
  exact reads

/-! ## Lists and objects -/

/-- Texts that spell items, with commas between them, spell the items of a list. -/
theorem spells_items
    {texts : List (List Char)}
    {items : List Value}
    (writes : List.Forall₂ Writes texts items)
    (nonempty : items ≠ [])
    {blanks : List Char}
    (areBlank : AreBlank blanks)
    (after : List Char) :
    Spells (commaSeparated texts ++ (blanks ++ ']' :: after)) (.items items) after := by
  induction writes with
  | nil => exact absurd rfl nonempty
  | @cons text item texts items writesItem writesItems inductionHypothesis =>
      cases writesItems with
      | nil =>
          refine .lastItem (writesItem _ (endsNumber_append areBlank rfl)) ?_
          rw [skipSpace_append areBlank, skipSpace_cons rfl]
      | cons =>
          simp only [commaSeparated, List.append_assoc, List.cons_append]
          exact .item (writesItem _ rfl) (skipSpace_cons rfl _)
            (inductionHypothesis (List.cons_ne_nil _ _))

/-- Texts that spell members, with commas between them, spell the members of an object. -/
theorem spells_members
    {texts : List (List Char)}
    {members : List (String × Value)}
    (writes : List.Forall₂ WritesMember texts members)
    (nonempty : members ≠ [])
    {blanks : List Char}
    (areBlank : AreBlank blanks)
    (after : List Char) :
    Spells (commaSeparated texts ++ (blanks ++ '\x7d' :: after)) (.members members) after := by
  induction writes with
  | nil => exact absurd rfl nonempty
  | @cons text member texts members writesMember writesMembers inductionHypothesis =>
      cases writesMembers with
      | nil =>
          obtain ⟨inner, spellsKey, spells⟩ :=
            writesMember (blanks ++ '\x7d' :: after) (endsNumber_append areBlank rfl)
          refine .lastMember spellsKey spells ?_
          rw [skipSpace_append areBlank, skipSpace_cons rfl]
      | @cons next _ others _ =>
          simp only [commaSeparated, List.append_assoc, List.cons_append]
          obtain ⟨inner, spellsKey, spells⟩ := writesMember
            (',' :: (commaSeparated (next :: others) ++ (blanks ++ '\x7d' :: after))) rfl
          exact .member spellsKey spells (skipSpace_cons rfl _)
            (inductionHypothesis (List.cons_ne_nil _ _))

/-- Texts that spell items spell a list between brackets. -/
theorem writes_list
    {texts : List (List Char)}
    {items : List Value}
    (writes : List.Forall₂ Writes texts items)
    {blanks : List Char}
    (areBlank : AreBlank blanks) :
    Writes ('[' :: (commaSeparated texts ++ (blanks ++ [']']))) (.list items) := by
  intro after _
  have opens : ∀ rest, skipSpace ('[' :: rest) = '[' :: rest := fun rest => skipSpace_cons rfl rest
  simp only [List.cons_append, List.append_assoc, List.nil_append]
  cases items with
  | nil =>
      cases writes
      refine .emptyList (opens _) ?_
      rw [commaSeparated, List.nil_append, skipSpace_append areBlank, skipSpace_cons rfl]
  | cons item items =>
      exact .list (opens _) (spells_items writes (List.cons_ne_nil _ _) areBlank after)

/-- Texts that spell members spell an object between braces. -/
theorem writes_object
    {texts : List (List Char)}
    {members : List (String × Value)}
    (writes : List.Forall₂ WritesMember texts members)
    {blanks : List Char}
    (areBlank : AreBlank blanks) :
    Writes ('\x7b' :: (commaSeparated texts ++ (blanks ++ ['\x7d']))) (.object members) := by
  intro after _
  have opens : ∀ rest, skipSpace ('\x7b' :: rest) = '\x7b' :: rest :=
    fun rest => skipSpace_cons rfl rest
  simp only [List.cons_append, List.append_assoc, List.nil_append]
  cases members with
  | nil =>
      cases writes
      refine .emptyObject (opens _) ?_
      rw [commaSeparated, List.nil_append, skipSpace_append areBlank, skipSpace_cons rfl]
  | cons member members =>
      exact .object (opens _) (spells_members writes (List.cons_ne_nil _ _) areBlank after)

/-- A key, a colon and the text of a value spell a member. -/
theorem writesMember
    {blanks chars : List Char}
    {value : Value}
    (areBlank : AreBlank blanks)
    (key : String)
    (writes : Writes chars value) :
    WritesMember (blanks ++ stringChars key ++ ':' :: chars) (key, value) := by
  intro after ends
  refine ⟨chars ++ after, ?_, writes after ends⟩
  obtain ⟨opened, opens, spells⟩ := spells_stringChars key (':' :: (chars ++ after))
  refine ⟨opened, ':' :: (chars ++ after), ?_, spells, skipSpace_cons rfl _⟩
  simp only [List.append_assoc, List.cons_append]
  rw [skipSpace_append areBlank]
  exact opens

/-! ## The two forms of a value -/

namespace Value

theorem compactItems_eq (items : List Value) :
    compactItems items = commaSeparated (items.map compactChars) := by
  induction items with
  | nil => rfl
  | cons item items inductionHypothesis =>
      cases items with
      | nil => rfl
      | cons next items =>
          rw [compactItems, inductionHypothesis]
          · rfl
          · exact List.cons_ne_nil _ _

theorem compactMembers_eq (members : List (String × Value)) :
    compactMembers members =
      commaSeparated (members.map fun member =>
        stringChars member.1 ++ ':' :: member.2.compactChars) := by
  induction members with
  | nil => rfl
  | cons member members inductionHypothesis =>
      cases members with
      | nil => rfl
      | cons next members =>
          rw [compactMembers, inductionHypothesis]
          · simp only [List.map_cons, commaSeparated, List.append_assoc, List.cons_append]
          · exact List.cons_ne_nil _ _

theorem indentedItems_eq
    (depth : Nat)
    (item : Value)
    (items : List Value) :
    newLine depth ++ indentedChars depth item ++ indentedItems depth items =
      commaSeparated
        ((item :: items).map fun item => newLine depth ++ indentedChars depth item) := by
  induction items generalizing item with
  | nil => simp [indentedItems, commaSeparated]
  | cons next items inductionHypothesis =>
      have further := inductionHypothesis next
      simp only [List.map_cons, commaSeparated] at further ⊢
      rw [← further]
      simp only [indentedItems, List.append_assoc, List.cons_append]

theorem indentedMembers_eq
    (depth : Nat)
    (member : String × Value)
    (members : List (String × Value)) :
    newLine depth ++ stringChars member.1 ++ ':' :: ' ' :: indentedChars depth member.2 ++
        indentedMembers depth members =
      commaSeparated ((member :: members).map fun member =>
        newLine depth ++ stringChars member.1 ++ ':' :: ' ' :: indentedChars depth member.2) := by
  induction members generalizing member with
  | nil => simp [indentedMembers, commaSeparated]
  | cons next members inductionHypothesis =>
      have further := inductionHypothesis next
      simp only [List.map_cons, commaSeparated] at further ⊢
      rw [← further]
      simp only [indentedMembers, List.append_assoc, List.cons_append]

end Value

/-- The number is an integer. -/
def Number.IsInteger : Number → Prop
  | .integer _ => True
  | .fraction _ => False

theorem writes_number
    {number : Number}
    (isInteger : number.IsInteger)
    (inRange : number.InRange) :
    Writes number.chars (.number number) := by
  cases number with
  | integer value => exact writes_integer inRange
  | fraction value => exact isInteger.elim

namespace Value

/-- The compact text of a value whose numbers are integers spells it. -/
theorem writes_compactChars
    {value : Value}
    (integers : value.HasNumbers Number.IsInteger)
    (inRange : value.HasNumbers Number.InRange) :
    Writes value.compactChars value := by
  induction value using induct with
  | null => exact writes_null
  | flag value => exact writes_flag value
  | number number => exact writes_number integers inRange
  | text text => exact writes_text text
  | list items inductionHypothesis =>
      have writes : List.Forall₂ Writes (items.map compactChars) items :=
        List.forall₂_map_left_iff.mpr <| List.forall₂_same.mpr fun item isItem =>
          inductionHypothesis item isItem ((itemsHaveNumbers_iff _).mp integers item isItem)
            ((itemsHaveNumbers_iff _).mp inRange item isItem)
      have spelled := writes_list writes areBlank_nil
      rw [← compactItems_eq] at spelled
      exact spelled
  | object members inductionHypothesis =>
      have writes : List.Forall₂ WritesMember
          (members.map fun member => stringChars member.1 ++ ':' :: member.2.compactChars)
          members :=
        List.forall₂_map_left_iff.mpr <| List.forall₂_same.mpr fun member isMember =>
          writesMember areBlank_nil member.1 <| inductionHypothesis member isMember
            ((membersHaveNumbers_iff _).mp integers member isMember)
            ((membersHaveNumbers_iff _).mp inRange member isMember)
      have spelled := writes_object writes areBlank_nil
      rw [← compactMembers_eq] at spelled
      exact spelled

/-- The indented text of a value whose numbers are integers spells it. -/
theorem writes_indentedChars
    {value : Value}
    (integers : value.HasNumbers Number.IsInteger)
    (inRange : value.HasNumbers Number.InRange)
    (depth : Nat) :
    Writes (indentedChars depth value) value := by
  induction value using induct generalizing depth with
  | null => exact writes_null
  | flag value => exact writes_flag value
  | number number => exact writes_number integers inRange
  | text text => exact writes_text text
  | list items inductionHypothesis =>
      have writes : List.Forall₂ Writes
          (items.map fun item => newLine (depth + 1) ++ indentedChars (depth + 1) item) items :=
        List.forall₂_map_left_iff.mpr <| List.forall₂_same.mpr fun item isItem =>
          Writes.append (areBlank_newLine _) <| inductionHypothesis item isItem
            ((itemsHaveNumbers_iff _).mp integers item isItem)
            ((itemsHaveNumbers_iff _).mp inRange item isItem) _
      cases items with
      | nil => exact writes_list writes areBlank_nil
      | cons item items =>
          have spelled := writes_list writes (areBlank_newLine depth)
          rw [← indentedItems_eq] at spelled
          simpa only [indentedChars, List.append_assoc, List.cons_append] using spelled
  | object members inductionHypothesis =>
      have writes : List.Forall₂ WritesMember
          (members.map fun member => newLine (depth + 1) ++ stringChars member.1 ++
            ':' :: ' ' :: indentedChars (depth + 1) member.2) members :=
        List.forall₂_map_left_iff.mpr <| List.forall₂_same.mpr fun member isMember =>
          writesMember (areBlank_newLine _) member.1 <|
            Writes.append areBlank_space <|
              inductionHypothesis member isMember
                ((membersHaveNumbers_iff _).mp integers member isMember)
                ((membersHaveNumbers_iff _).mp inRange member isMember) _
      cases members with
      | nil => exact writes_object writes areBlank_nil
      | cons member members =>
          have spelled := writes_object writes (areBlank_newLine depth)
          rw [← indentedMembers_eq] at spelled
          simpa only [indentedChars, List.append_assoc, List.cons_append] using spelled

end Value

/-! ## Printing what was read -/

/-- The numbers of a phrase. -/
def Phrase.HasNumbers (property : Number → Prop) : Phrase → Prop
  | .value given => given.HasNumbers property
  | .items given => Value.ItemsHaveNumbers property given
  | .members given => Value.MembersHaveNumbers property given

/-- Sixty-four bits hold the integers of a phrase that is spelled. -/
theorem Spells.inRange
    {before after : List Char}
    {phrase : Phrase}
    (spells : Spells before phrase after) :
    phrase.HasNumbers Number.InRange := by
  induction spells with
  | null | flag | text | emptyList | emptyObject => trivial
  | number reads =>
      obtain ⟨_, _, _, _, _, inRange⟩ := inRange_of_readSignedNumber reads
      exact inRange
  | list _ _ inRange => exact inRange
  | object _ _ inRange => exact inRange
  | lastItem _ _ inRange => exact ⟨inRange, trivial⟩
  | item _ _ _ inRange furtherInRange => exact ⟨inRange, furtherInRange⟩
  | lastMember _ _ _ inRange => exact ⟨inRange, trivial⟩
  | member _ _ _ _ inRange furtherInRange => exact ⟨inRange, furtherInRange⟩

namespace Value

variable {text : String} {value : Value}

/-- A value that was read is in order, its brackets do not go too deep, and 64 bits hold its
integers. -/
theorem of_read (reads : Value.read text = .ok value) :
    value.IsOrdered ∧ value.nesting ≤ greatestDepth ∧ value.HasNumbers Number.InRange := by
  obtain ⟨given, ⟨rest, spells, _⟩, within, rfl⟩ := (read_eq_ok_iff _ _).mp reads
  exact ⟨isOrdered_sorted given, Nat.le_trans (nesting_sorted_le given) within,
    hasNumbers_sorted spells.inRange⟩

/-- Characters that spell a value spell it as a whole text, also before blanks. -/
theorem isSpelledBy_of_writes
    {chars blanks : List Char}
    (writes : Writes chars value)
    (areBlank : AreBlank blanks) :
    value.IsSpelledBy (String.ofList (chars ++ blanks)) := by
  have ends : endsNumber blanks = true := by
    rw [← List.append_nil blanks]
    exact endsNumber_append areBlank rfl
  refine ⟨blanks, ?_, ?_⟩
  · rw [String.toList_ofList]
    exact writes blanks ends
  · rw [← List.append_nil blanks, skipSpace_append areBlank]
    rfl

/-- A value that was read is read again from a text that spells it. -/
theorem read_of_isSpelledBy
    (reads : Value.read text = .ok value)
    {printed : String}
    (spelled : value.IsSpelledBy printed) :
    Value.read printed = .ok value := by
  obtain ⟨ordered, within, _⟩ := of_read reads
  exact (read_eq_ok_iff _ _).mpr ⟨value, spelled, within, sorted_of_isOrdered ordered⟩

end Value

end Json

/-! ## Responses to chats -/

namespace ChatResponse

open Json CommandLine

/-- What the texts of a response have to do with the response. -/
structure PrintingLaw (response : ChatResponse) : Prop where
  /-- The compact text is read as the response. -/
  compact : ChatResponse.read response.value.compact = .ok response
  /-- The text that is printed of a whole response is read as the response. -/
  indented : ChatResponse.read (responseText true response) = .ok response
  /-- So is what a run leaves that prints it, whatever was shown besides. -/
  printed : ∀ complaints : String,
    ChatResponse.read ((Report.lines [responseText true response]).output complaints).stdout =
      .ok response
  /-- Reading the compact text and printing what was read leaves it as it is. -/
  idempotent : (ChatResponse.read response.value.compact).map (·.value.compact) =
    .ok response.value.compact
  /-- What the compact text spells, with its members as they stand there, is the value. -/
  compactSpells : ∀ written : Value,
    written.IsSpelledBy response.value.compact ↔ written = response.value
  /-- So is what the text spells that is printed of a whole response. -/
  indentedSpells : ∀ written : Value,
    written.IsSpelledBy (responseText true response) ↔ written = response.value
  /-- The keys of every object of the value strictly increase in the order of their bytes. -/
  ordered : response.value.IsOrdered

theorem read_eq_ok_iff
    (body : String)
    (response : ChatResponse) :
    ChatResponse.read body = .ok response ↔ Value.read body = .ok response.value := by
  unfold ChatResponse.read
  cases Value.read body with
  | error fault => simp [Except.map]
  | ok value =>
      obtain ⟨held⟩ := response
      simp [Except.map]

theorem responseText_true (response : ChatResponse) :
    responseText true response = response.value.indented := rfl

/-- A line that is printed ends with a line end. -/
theorem stdout_lines (line complaints : String) :
    ((Report.lines [line]).output complaints).stdout = String.ofList (line.toList ++ ['\n']) := by
  simp [Report.output, Report.lines, Report.joined, String.join]

/-- A response that was read is read again from what is printed of it, if its numbers are all
integers.  What is printed of two responses is the same if their bodies differ in blanks, in
escapes and in the order of members with different keys at most. -/
theorem printingLaw
    {body : String}
    {response : ChatResponse}
    (reads : ChatResponse.read body = .ok response) :
    (response.value.HasNumbers Number.IsInteger → response.PrintingLaw) ∧
      ∀ (otherBody : String) (other : ChatResponse) (written otherWritten : Value),
        ChatResponse.read otherBody = .ok other →
        written.IsSpelledBy body → otherWritten.IsSpelledBy otherBody →
        written.Like otherWritten →
        other.value.compact = response.value.compact ∧
          responseText true other = responseText true response := by
  rw [read_eq_ok_iff] at reads
  obtain ⟨ordered, within, inRange⟩ := Value.of_read reads
  refine ⟨fun integers => ?_, fun otherBody other written otherWritten otherReads spelled
    otherSpelled like => ?_⟩
  · have writesCompact := Value.writes_compactChars integers inRange
    have writesIndented := Value.writes_indentedChars integers inRange 0
    have compactSpelled := Value.isSpelledBy_of_writes writesCompact areBlank_nil
    have indentedSpelled := Value.isSpelledBy_of_writes writesIndented areBlank_nil
    have lineEnd : AreBlank ['\n'] := by simp [AreBlank, isSpace]
    have lineSpelled := Value.isSpelledBy_of_writes writesIndented lineEnd
    rw [List.append_nil] at compactSpelled indentedSpelled
    have compact : ChatResponse.read response.value.compact = .ok response :=
      (read_eq_ok_iff _ _).mpr (Value.read_of_isSpelledBy reads compactSpelled)
    exact {
      compact := compact
      indented := (read_eq_ok_iff _ _).mpr (Value.read_of_isSpelledBy reads indentedSpelled)
      printed := fun _ => by
        rw [stdout_lines, read_eq_ok_iff]
        refine Value.read_of_isSpelledBy reads ?_
        rw [responseText_true, Value.indented, String.toList_ofList]
        exact lineSpelled
      idempotent := by rw [compact]; rfl
      compactSpells := fun _ => compactSpelled.iff_eq
      indentedSpells := fun _ => indentedSpelled.iff_eq
      ordered := ordered }
  · rw [read_eq_ok_iff] at otherReads
    obtain ⟨given, givenSpelled, _, givenSorted⟩ := (Value.read_eq_ok_iff _ _).mp reads
    obtain ⟨otherGiven, otherGivenSpelled, _, otherSorted⟩ :=
      (Value.read_eq_ok_iff _ _).mp otherReads
    have same : other.value = response.value := by
      rw [← otherSorted, ← givenSorted, otherGivenSpelled.eq otherSpelled,
        givenSpelled.eq spelled, like.sorted_eq]
    simp only [responseText_true, same, and_self]

/-- A value with members out of order. -/
def sample : Value :=
  .object [("b", .list [.number (.integer 1), .object []]), ("a", .number (.integer (-2)))]

/-- A body with members out of order is read, and printed with its members in order. -/
theorem printingLaw_sample :
    ∃ response,
      ChatResponse.read "\x7b\"b\":[1,\x7b\x7d],\"a\":-2\x7d" = .ok response ∧
      response.value.compact = "\x7b\"a\":-2,\"b\":[1,\x7b\x7d]\x7d" ∧
      response.PrintingLaw := by
  have integers : sample.HasNumbers Number.IsInteger :=
    ⟨⟨trivial, trivial, trivial⟩, trivial, trivial⟩
  have inRange : sample.HasNumbers Number.InRange :=
    ⟨⟨by simp [Value.HasNumbers, Number.InRange], trivial, trivial⟩,
      by simp [Value.HasNumbers, Number.InRange], trivial⟩
  have text : "\x7b\"b\":[1,\x7b\x7d],\"a\":-2\x7d" =
      String.ofList (sample.compactChars ++ []) := by
    decide +kernel
  have reads : ChatResponse.read "\x7b\"b\":[1,\x7b\x7d],\"a\":-2\x7d" = .ok ⟨sample.sorted⟩ := by
    rw [read_eq_ok_iff, Value.read_eq_ok_iff, text]
    exact ⟨sample, Value.isSpelledBy_of_writes (Value.writes_compactChars integers inRange)
      areBlank_nil, by decide, rfl⟩
  exact ⟨⟨sample.sorted⟩, reads, by decide +kernel,
    (printingLaw reads).1 (Value.hasNumbers_sorted integers)⟩

end ChatResponse
end KnowledgeClient
