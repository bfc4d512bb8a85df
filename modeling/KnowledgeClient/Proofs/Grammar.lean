import KnowledgeClient.Proofs.Numerals
import KnowledgeClient.Proofs.Spelling
import Mathlib.Data.List.Basic

/-!
# How values are spelled

`Spells before phrase after` says that a text begins with the spelling of a value, or of
the items or the members that a bracket still holds, and goes on with the text after.
The values that are spelled are as they stand in the text: their members come in the
order in which they are written, and a key may come twice.  `Value.sorted` is what a
reader makes of such a value.
-/

namespace KnowledgeClient
namespace Json

/-! ## Blanks -/

/-- A character that is no blank is not skipped. -/
theorem skipSpace_cons
    {c : Char}
    (notSpace : isSpace c = false)
    (rest : List Char) :
    skipSpace (c :: rest) = c :: rest := by
  simp [skipSpace, notSpace]

theorem skipSpace_skipSpace (cs : List Char) : skipSpace (skipSpace cs) = skipSpace cs := by
  induction cs with
  | nil => rfl
  | cons c rest inductionHypothesis =>
      cases blank : isSpace c with
      | true =>
          have skipped : skipSpace (c :: rest) = skipSpace rest := by simp [skipSpace, blank]
          rw [skipped, inductionHypothesis]
      | false => rw [skipSpace_cons blank, skipSpace_cons blank]

theorem skipSpace_isSuffix (cs : List Char) : skipSpace cs <:+ cs :=
  List.dropWhile_suffix _

/-! ## The grammar -/

/-- The text before begins with a key and a colon, and goes on with the text after. -/
def SpellsKey (before : List Char) (key : String) (after : List Char) : Prop :=
  ∃ opened closed, skipSpace before = '"' :: opened ∧ SpellsText opened key.toList closed ∧
    skipSpace closed = ':' :: after

/-- What is spelled: a value, or the items or the members up to the closing bracket, of which
there is at least one. -/
inductive Phrase
  | value (value : Value)
  | items (items : List Value)
  | members (members : List (String × Value))

/-- The text before begins with the spelling of a phrase, and goes on with the text after. -/
inductive Spells : List Char → Phrase → List Char → Prop
  | null
      {before after : List Char}
      (word : skipSpace before = nullChars ++ after) :
      Spells before (.value .null) after
  | flag
      {before after : List Char}
      (value : Bool)
      (word : skipSpace before = flagChars value ++ after) :
      Spells before (.value (.flag value)) after
  | number
      {before after : List Char}
      {number : Number}
      (reads : readSignedNumber (skipSpace before) = .ok (number, after)) :
      Spells before (.value (.number number)) after
  | text
      {before opened after : List Char}
      {text : String}
      (opens : skipSpace before = '"' :: opened)
      (spells : SpellsText opened text.toList after) :
      Spells before (.value (.text text)) after
  | emptyList
      {before opened after : List Char}
      (opens : skipSpace before = '[' :: opened)
      (closes : skipSpace opened = ']' :: after) :
      Spells before (.value (.list [])) after
  | list
      {before opened after : List Char}
      {items : List Value}
      (opens : skipSpace before = '[' :: opened)
      (spells : Spells opened (.items items) after) :
      Spells before (.value (.list items)) after
  | emptyObject
      {before opened after : List Char}
      (opens : skipSpace before = '\x7b' :: opened)
      (closes : skipSpace opened = '\x7d' :: after) :
      Spells before (.value (.object [])) after
  | object
      {before opened after : List Char}
      {members : List (String × Value)}
      (opens : skipSpace before = '\x7b' :: opened)
      (spells : Spells opened (.members members) after) :
      Spells before (.value (.object members)) after
  | lastItem
      {before last after : List Char}
      {item : Value}
      (spells : Spells before (.value item) last)
      (closes : skipSpace last = ']' :: after) :
      Spells before (.items [item]) after
  | item
      {before middle next after : List Char}
      {item : Value}
      {items : List Value}
      (spells : Spells before (.value item) middle)
      (comma : skipSpace middle = ',' :: next)
      (further : Spells next (.items items) after) :
      Spells before (.items (item :: items)) after
  | lastMember
      {before inner last after : List Char}
      {key : String}
      {held : Value}
      (spellsKey : SpellsKey before key inner)
      (spells : Spells inner (.value held) last)
      (closes : skipSpace last = '\x7d' :: after) :
      Spells before (.members [(key, held)]) after
  | member
      {before inner middle next after : List Char}
      {key : String}
      {held : Value}
      {members : List (String × Value)}
      (spellsKey : SpellsKey before key inner)
      (spells : Spells inner (.value held) middle)
      (comma : skipSpace middle = ',' :: next)
      (further : Spells next (.members members) after) :
      Spells before (.members ((key, held) :: members)) after

/-- The whole text spells the value. -/
def Value.IsSpelledBy (value : Value) (text : String) : Prop :=
  ∃ rest, Spells text.toList (.value value) rest ∧ skipSpace rest = []

/-! ## What a reader makes of a value -/

namespace Value

mutual

/-- The value as a reader keeps it: the members of every object in increasing order of their
keys, the last one of each key. -/
def sorted : Value → Value
  | .list items => .list (sortedItems items)
  | .object members => .object (sortedOnto [] members)
  | value => value

/-- Items as a reader keeps them. -/
def sortedItems : List Value → List Value
  | [] => []
  | item :: items => sorted item :: sortedItems items

/-- Members put one after the other among members that are in order. -/
def sortedOnto (held : List (String × Value)) : List (String × Value) → List (String × Value)
  | [] => held
  | (key, value) :: members => sortedOnto (insertMember key (sorted value) held) members

end

mutual

/-- The greatest number of brackets that are open at a time. -/
def nesting : Value → Nat
  | .list items => itemsNesting items + 1
  | .object members => membersNesting members + 1
  | _ => 0

/-- The greatest number of brackets that are open at a time in one of the items. -/
def itemsNesting : List Value → Nat
  | [] => 0
  | item :: items => max (nesting item) (itemsNesting items)

/-- The greatest number of brackets that are open at a time in one of the members. -/
def membersNesting : List (String × Value) → Nat
  | [] => 0
  | (_, value) :: members => max (nesting value) (membersNesting members)

end

end Value

/-- The greatest number of brackets that are open at a time. -/
def Phrase.nesting : Phrase → Nat
  | .value given => given.nesting
  | .items given => Value.itemsNesting given
  | .members given => Value.membersNesting given

/-- The number of items or members. -/
def Phrase.count : Phrase → Nat
  | .value _ => 0
  | .items given => given.length
  | .members given => given.length

/-! ## Spellings begin and end -/

/-- Blanks before a value do not matter. -/
theorem Spells.of_skipSpace_eq
    {before other after : List Char}
    {value : Value}
    (same : skipSpace before = skipSpace other)
    (spells : Spells other (.value value) after) :
    Spells before (.value value) after := by
  cases spells with
  | null word => exact .null (same.trans word)
  | flag value word => exact .flag value (same.trans word)
  | number reads => exact .number (same ▸ reads)
  | text opens spells => exact .text (same.trans opens) spells
  | emptyList opens closes => exact .emptyList (same.trans opens) closes
  | list opens spells => exact .list (same.trans opens) spells
  | emptyObject opens closes => exact .emptyObject (same.trans opens) closes
  | object opens spells => exact .object (same.trans opens) spells

/-- A value begins with a character that closes no list. -/
theorem Spells.starts
    {before after : List Char}
    {value : Value}
    (spells : Spells before (.value value) after) :
    ∃ c rest, skipSpace before = c :: rest ∧ c ≠ ']' := by
  cases spells with
  | null word => exact ⟨'n', _, word, by decide⟩
  | flag value word =>
      cases value with
      | true => exact ⟨'t', _, word, by decide⟩
      | false => exact ⟨'f', _, word, by decide⟩
  | number reads =>
      obtain ⟨c, rest, same, starts, _⟩ := inRange_of_readSignedNumber reads
      refine ⟨c, rest, same, ?_⟩
      rintro rfl
      simp at starts
  | text opens => exact ⟨_, _, opens, by decide⟩
  | emptyList opens => exact ⟨_, _, opens, by decide⟩
  | list opens => exact ⟨_, _, opens, by decide⟩
  | emptyObject opens => exact ⟨_, _, opens, by decide⟩
  | object opens => exact ⟨_, _, opens, by decide⟩

/-- Items begin with a character that closes no list. -/
theorem Spells.items_start
    {before after : List Char}
    {items : List Value}
    (spells : Spells before (.items items) after) :
    ∃ c rest, skipSpace before = c :: rest ∧ c ≠ ']' := by
  cases spells with
  | lastItem spells => exact spells.starts
  | item spells => exact spells.starts

/-- Members begin with a quote. -/
theorem Spells.members_start
    {before after : List Char}
    {members : List (String × Value)}
    (spells : Spells before (.members members) after) :
    ∃ rest, skipSpace before = '"' :: rest := by
  cases spells with
  | lastMember spellsKey =>
      obtain ⟨opened, _, opens, _⟩ := spellsKey
      exact ⟨opened, opens⟩
  | member spellsKey =>
      obtain ⟨opened, _, opens, _⟩ := spellsKey
      exact ⟨opened, opens⟩

/-- What is left after a character is shorter than what was there before it. -/
theorem length_lt_of_skipSpace
    {before after : List Char}
    {c : Char}
    (starts : skipSpace before = c :: after) :
    after.length < before.length := by
  have shorter := (skipSpace_isSuffix before).length_le
  rw [starts, List.length_cons] at shorter
  exact shorter

theorem SpellsKey.length_lt
    {before after : List Char}
    {key : String}
    (spells : SpellsKey before key after) :
    after.length < before.length := by
  obtain ⟨opened, closed, opens, spells, colon⟩ := spells
  have keyShorter := spells.length_lt
  have opensShorter := length_lt_of_skipSpace opens
  have colonShorter := length_lt_of_skipSpace colon
  omega

/-- A spelling takes more characters than it has items or members. -/
theorem Spells.length_lt
    {before after : List Char}
    {phrase : Phrase}
    (spells : Spells before phrase after) :
    phrase.count + after.length < before.length := by
  have leaf : ∀ {before after : List Char} {c : Char} {word : List Char},
      skipSpace before = c :: word → after.length ≤ word.length →
        0 + after.length < before.length := by
    intro before after c word starts shorter
    have opens := length_lt_of_skipSpace starts
    omega
  induction spells with
  | null word => exact leaf word (List.suffix_append _ _).length_le
  | flag value word =>
      cases value with
      | true => exact leaf word (List.suffix_append _ _).length_le
      | false => exact leaf word (List.suffix_append _ _).length_le
  | number reads =>
      obtain ⟨c, rest, starts, _, inRest, _⟩ := inRange_of_readSignedNumber reads
      exact leaf starts inRest.length_le
  | text opens spells =>
      have shorter := spells.length_lt
      exact leaf opens (by omega)
  | emptyList opens closes =>
      have shorter := length_lt_of_skipSpace closes
      exact leaf opens (by omega)
  | emptyObject opens closes =>
      have shorter := length_lt_of_skipSpace closes
      exact leaf opens (by omega)
  | list opens _ shorter => exact leaf opens (by omega)
  | object opens _ shorter => exact leaf opens (by omega)
  | lastItem _ closes shorter =>
      have closesShorter := length_lt_of_skipSpace closes
      simp only [Phrase.count, List.length_singleton] at shorter ⊢
      omega
  | item _ comma _ shorter furtherShorter =>
      have commaShorter := length_lt_of_skipSpace comma
      simp only [Phrase.count, List.length_cons] at shorter furtherShorter ⊢
      omega
  | lastMember spellsKey _ closes shorter =>
      have keyShorter := spellsKey.length_lt
      have closesShorter := length_lt_of_skipSpace closes
      simp only [Phrase.count, List.length_singleton] at shorter ⊢
      omega
  | member spellsKey _ comma _ shorter furtherShorter =>
      have keyShorter := spellsKey.length_lt
      have commaShorter := length_lt_of_skipSpace comma
      simp only [Phrase.count, List.length_cons] at shorter furtherShorter ⊢
      omega

end Json
end KnowledgeClient
