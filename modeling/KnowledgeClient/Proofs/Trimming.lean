import KnowledgeClient.Text.Blank
import Mathlib.Data.List.DropRight

/-!
# The ends of texts

Characters with a property are dropped at the start of a text, at its end or at both, as far
as they follow each other there.  What is left is the one core that does not begin, or does
not end, with such a character, and lies in the text with nothing else around it.  Blank
characters are those with the Unicode property White_Space, one by one.
-/

namespace KnowledgeClient
namespace Text

variable
  {property : Char → Bool}
  {text core : List Char}

/-! ## Characters dropped at one end -/

/-- The core is the text less all characters with the property that it begins with. -/
structure LosesStart (property : Char → Bool) (text core : List Char) : Prop where
  dropped : ∃ front, (∀ c ∈ front, property c = true) ∧ text = front ++ core
  first : ∀ c ∈ core.head?, property c = false

/-- The core is the text less all characters with the property that it ends with. -/
structure LosesEnd (property : Char → Bool) (text core : List Char) : Prop where
  dropped : ∃ back, (∀ c ∈ back, property c = true) ∧ text = core ++ back
  last : ∀ c ∈ core.getLast?, property c = false

theorem losesStart_iff : LosesStart property text core ↔ text.dropWhile property = core := by
  constructor
  · rintro ⟨⟨front, areDropped, rfl⟩, first⟩
    rw [List.dropWhile_append_of_pos areDropped]
    cases core with
    | nil => rfl
    | cons c core => exact List.dropWhile_cons_of_neg (by simpa using first)
  · rintro rfl
    refine ⟨⟨text.takeWhile property, fun c => List.mem_takeWhile_imp,
      List.takeWhile_append_dropWhile.symm⟩, fun c isFirst => ?_⟩
    have kept := List.head?_dropWhile_not property text
    rw [isFirst] at kept
    simpa using kept

theorem losesStart_reverse :
    LosesStart property text.reverse core.reverse ↔ LosesEnd property text core := by
  constructor
  · rintro ⟨⟨front, areDropped, isText⟩, first⟩
    refine ⟨⟨front.reverse, by simpa using areDropped, ?_⟩, by simpa using first⟩
    rw [← List.reverse_inj, isText, List.reverse_append, List.reverse_reverse]
  · rintro ⟨⟨back, areDropped, rfl⟩, last⟩
    exact ⟨⟨back.reverse, by simpa using areDropped, List.reverse_append⟩, by simpa using last⟩

theorem losesEnd_iff : LosesEnd property text core ↔ dropWhileEnd property text = core := by
  rw [← losesStart_reverse, losesStart_iff, dropWhileEnd]
  exact List.reverse_eq_iff.symm

/-! ## Characters dropped at both ends -/

/-- The core lies in the text between characters with the property, and neither begins nor ends
with one. -/
structure IsCore (property : Char → Bool) (text core : List Char) : Prop where
  within : ∃ front back, (∀ c ∈ front, property c = true) ∧ (∀ c ∈ back, property c = true) ∧
    text = front ++ core ++ back
  first : ∀ c ∈ core.head?, property c = false
  last : ∀ c ∈ core.getLast?, property c = false

/-- A text that has a core besides the empty one loses its start and its end up to that core. -/
theorem dropWhile_of_core
    {front : List Char}
    (areDropped : ∀ c ∈ front, property c = true)
    (first : ∀ c ∈ core.head?, property c = false)
    (notEmpty : core ≠ [])
    (after : List Char) :
    (front ++ core ++ after).dropWhile property = core ++ after := by
  refine losesStart_iff.mp ⟨⟨front, areDropped, List.append_assoc _ _ _⟩, ?_⟩
  rwa [List.head?_append_of_ne_nil _ notEmpty]

theorem dropWhileEnd_of_core
    {back : List Char}
    (areDropped : ∀ c ∈ back, property c = true)
    (last : ∀ c ∈ core.getLast?, property c = false)
    (notEmpty : core ≠ [])
    (before : List Char) :
    dropWhileEnd property (before ++ core ++ back) = before ++ core := by
  refine losesEnd_iff.mp ⟨⟨back, areDropped, rfl⟩, ?_⟩
  rwa [List.getLast?_append_of_ne_nil _ notEmpty]

theorem isCore_iff :
    IsCore property text core ↔ dropWhileEnd property (text.dropWhile property) = core := by
  constructor
  · rintro ⟨⟨front, back, areFront, areBack, rfl⟩, first, last⟩
    by_cases isEmpty : core = []
    · subst isEmpty
      rw [List.append_nil, List.dropWhile_append_of_pos areFront,
        List.dropWhile_eq_nil_iff.mpr areBack]
      rfl
    · rw [dropWhile_of_core areFront first isEmpty]
      exact dropWhileEnd_of_core areBack last isEmpty []
  · intro isLeft
    obtain ⟨⟨front, areFront, isText⟩, first⟩ :
        LosesStart property text (text.dropWhile property) := losesStart_iff.mpr rfl
    obtain ⟨⟨back, areBack, isRest⟩, last⟩ := losesEnd_iff.mpr isLeft
    refine ⟨⟨front, back, areFront, areBack, ?_⟩, fun c isFirst => first c ?_, last⟩
    · rw [List.append_assoc, ← isRest]
      exact isText
    · rw [isRest]
      exact List.mem_head?_append_of_mem_head? isFirst

/-- Any text has a core. -/
theorem isCore_self (property : Char → Bool) (text : List Char) :
    IsCore property text (dropWhileEnd property (text.dropWhile property)) :=
  isCore_iff.mpr rfl

/-! ## White space -/

/-- The code points with the Unicode property White_Space. -/
def whiteSpace : List Nat :=
  [0x09, 0x0A, 0x0B, 0x0C, 0x0D, 0x20, 0x85, 0xA0, 0x1680, 0x2000, 0x2001, 0x2002, 0x2003, 0x2004,
    0x2005, 0x2006, 0x2007, 0x2008, 0x2009, 0x200A, 0x2028, 0x2029, 0x202F, 0x205F, 0x3000]

/-- All characters of the text are white space. -/
def AreWhite (text : List Char) : Prop :=
  ∀ c ∈ text, c.toNat ∈ whiteSpace

theorem isBlank_eq_true_iff (c : Char) : isBlank c = true ↔ c.toNat ∈ whiteSpace := by
  simp only [isBlank, whiteSpace, Bool.or_eq_true, Bool.and_eq_true, decide_eq_true_eq, beq_iff_eq,
    List.mem_cons, List.not_mem_nil, or_false]
  omega

theorem areWhite_iff : AreWhite text ↔ ∀ c ∈ text, isBlank c = true := by
  simp only [AreWhite, isBlank_eq_true_iff]

theorem not_areWhite_iff : ¬ AreWhite text ↔ ∃ c ∈ text, c.toNat ∉ whiteSpace := by
  simp only [AreWhite, not_forall, exists_prop]

theorem areWhite_iff_isAllBlank (text : String) :
    AreWhite text.toList ↔ isAllBlank text = true := by
  rw [areWhite_iff, isAllBlank, List.all_eq_true]

/-- The core is the text without the white space at its two ends, and with all that is between. -/
structure Trims (text core : String) : Prop where
  within : ∃ front back, AreWhite front ∧ AreWhite back ∧
    text.toList = front ++ core.toList ++ back
  first : ∀ c ∈ core.toList.head?, c.toNat ∉ whiteSpace
  last : ∀ c ∈ core.toList.getLast?, c.toNat ∉ whiteSpace

theorem trims_iff_isCore (text core : String) :
    Trims text core ↔ IsCore isBlank text.toList core.toList := by
  have kept : ∀ c, isBlank c = false ↔ c.toNat ∉ whiteSpace := fun c => by
    rw [← isBlank_eq_true_iff, Bool.not_eq_true]
  constructor
  · rintro ⟨within, first, last⟩
    simp only [areWhite_iff, ← kept] at within first last
    exact ⟨within, first, last⟩
  · rintro ⟨within, first, last⟩
    simp only [← areWhite_iff, kept] at within first last
    exact ⟨within, first, last⟩

/-- A text has one trimmed form. -/
theorem trims_iff (text core : String) : Trims text core ↔ trim text = core := by
  rw [trims_iff_isCore, isCore_iff, trim, ← String.toList_inj, String.toList_ofList]

/-- What is left without the white space has no more of it to lose. -/
theorem Trims.again
    {text core : String}
    (trims : Trims text core) :
    Trims core core :=
  ⟨⟨[], [], by simp [AreWhite], by simp [AreWhite], by simp⟩, trims.first, trims.last⟩

/-- Nothing is left of white space alone. -/
theorem AreWhite.trims
    {text : String}
    (areWhite : AreWhite text.toList) :
    Trims text "" :=
  ⟨⟨text.toList, [], areWhite, by simp [AreWhite], by simp⟩, by simp, by simp⟩

theorem trim_trim (text : String) : trim (trim text) = trim text :=
  (trims_iff _ _).mp ((trims_iff text _).mpr rfl).again

end Text
end KnowledgeClient
