import KnowledgeClient.Json.Skip
import KnowledgeClient.Proofs.Printing
import Mathlib.Data.List.TakeWhile

/-!
# The form of JSON texts

A text has the form of a value if it is built as the grammar says, whatever it means: numbers
of any size, strings with escapes by code that have no partner, brackets at any depth, and an
object with the same key twice.  Every part of a bracket carries the blanks around it, so that
the parts can be put together again in another order.  The readers that only pass over a word,
a string or a number pass over just what has its form.
-/

namespace KnowledgeClient
namespace Json

/-! ## Blanks -/

/-- Characters without blanks on either side, and the blanks that stand there. -/
structure Padded where
  before : List Char
  inner : List Char
  after : List Char
  blankBefore : AreBlank before
  blankAfter : AreBlank after

/-- The characters with the blanks around them. -/
def Padded.chars (padded : Padded) : List Char :=
  padded.before ++ (padded.inner ++ padded.after)

/-- The blanks at the start of a text. -/
theorem exists_blank_append_skipSpace (cs : List Char) :
    ∃ blanks, AreBlank blanks ∧ cs = blanks ++ skipSpace cs :=
  ⟨cs.takeWhile isSpace, fun _ member => List.mem_takeWhile_imp member,
    List.takeWhile_append_dropWhile.symm⟩

theorem skipSpace_blank
    {blanks rest : List Char}
    {c : Char}
    (areBlank : AreBlank blanks)
    (notSpace : isSpace c = false) :
    skipSpace (blanks ++ c :: rest) = c :: rest := by
  rw [skipSpace_append areBlank, skipSpace_cons notSpace]

/-! ## Strings -/

/-- The characters have the form of a string, after its opening quote. -/
inductive EndsString : List Char → Prop
  | close : EndsString ['"']
  | plain
      (c : Char)
      {rest : List Char}
      (notQuote : c ≠ '"')
      (notEscape : c ≠ '\\')
      (printable : 0x20 ≤ c.toNat)
      (further : EndsString rest) :
      EndsString (c :: rest)
  | letter
      (letter : Char)
      {rest : List Char}
      (known : (letterEscape? letter).isSome = true)
      (further : EndsString rest) :
      EndsString ('\\' :: letter :: rest)
  | code
      (a b c d : Char)
      {rest : List Char}
      (digits : (hexCode? a b c d).isSome = true)
      (further : EndsString rest) :
      EndsString ('\\' :: 'u' :: a :: b :: c :: d :: rest)

/-- The characters have the form of a string. -/
def IsString (chars : List Char) : Prop :=
  ∃ ending, EndsString ending ∧ chars = '"' :: ending

/-- The characters are a string that means the text. -/
def Quotes
    (chars : List Char)
    (text : String) : Prop :=
  ∃ ending, chars = '"' :: ending ∧ SpellsText ending text.toList []

theorem skipEscape_eq_ok_iff
    (before after : List Char) :
    skipEscape before = .ok after ↔
      (∃ letter, (letterEscape? letter).isSome = true ∧ before = letter :: after) ∨
        ∃ a b c d, (hexCode? a b c d).isSome = true ∧
          before = 'u' :: a :: b :: c :: d :: after := by
  cases before with
  | nil => simp [skipEscape, stopAt]
  | cons c rest =>
      by_cases byCode : c = 'u'
      · subst byCode
        have noLetter : (letterEscape? 'u').isSome = false := rfl
        simp only [skipEscape, beq_self_eq_true, if_true]
        constructor
        · intro skips
          cases hex : readHex rest with
          | error stop =>
              rw [hex] at skips
              cases skips
          | ok found =>
              obtain ⟨code, unread⟩ := found
              rw [hex] at skips
              obtain rfl := Except.ok.inj skips
              obtain ⟨a, b, c, d, rfl, digits⟩ := (readHex_eq_ok_iff _ _ _).mp hex
              exact .inr ⟨a, b, c, d, by rw [digits]; rfl, rfl⟩
        · rintro (⟨letter, known, same⟩ | ⟨a, b, c, d, digits, same⟩)
          · obtain ⟨rfl, _⟩ := List.cons.inj same
            rw [noLetter] at known
            cases known
          · obtain ⟨_, rfl⟩ := List.cons.inj same
            obtain ⟨code, isCode⟩ := Option.isSome_iff_exists.mp digits
            rw [(readHex_eq_ok_iff _ code after).mpr ⟨a, b, c, d, rfl, isCode⟩]
            rfl
      · simp only [skipEscape, beq_iff_eq, byCode, if_false]
        constructor
        · intro skips
          split at skips
          · rename_i known
            obtain rfl := Except.ok.inj skips
            exact .inl ⟨c, known, rfl⟩
          · cases skips
        · rintro (⟨letter, known, same⟩ | ⟨a, b, c', d, digits, same⟩)
          · obtain ⟨rfl, rfl⟩ := List.cons.inj same
            rw [if_pos known]
          · exact absurd (List.cons.inj same).1 byCode

theorem skipStringUpTo_of_endsString
    {ending : List Char}
    (ends : EndsString ending)
    {budget : List Char}
    (lasts : ending.length ≤ budget.length)
    (after : List Char) :
    skipStringUpTo budget (ending ++ after) = .ok after := by
  induction ends generalizing budget with
  | close =>
      cases budget with
      | nil => cases lasts
      | cons _ budget => simp [skipStringUpTo]
  | plain c notQuote notEscape printable _ inductionHypothesis =>
      cases budget with
      | nil => cases lasts
      | cons _ budget =>
          have further := inductionHypothesis (Nat.le_of_succ_le_succ lasts)
          simp [skipStringUpTo, notQuote, notEscape, Nat.not_lt.mpr printable, further]
  | @letter letter rest known _ inductionHypothesis =>
      cases budget with
      | nil => cases lasts
      | cons _ budget =>
          have further := @inductionHypothesis budget
            (by simp only [List.length_cons] at lasts; omega)
          have escape := (skipEscape_eq_ok_iff (letter :: (rest ++ after)) _).mpr
            (.inl ⟨letter, known, rfl⟩)
          simp [skipStringUpTo, escape, further]
  | @code a b c d rest digits _ inductionHypothesis =>
      cases budget with
      | nil => cases lasts
      | cons _ budget =>
          have further := @inductionHypothesis budget
            (by simp only [List.length_cons] at lasts; omega)
          have escape := (skipEscape_eq_ok_iff ('u' :: a :: b :: c :: d :: (rest ++ after)) _).mpr
            (.inr ⟨a, b, c, d, digits, rfl⟩)
          simp [skipStringUpTo, escape, further]

theorem endsString_of_skipStringUpTo
    {budget before after : List Char}
    (skips : skipStringUpTo budget before = .ok after) :
    ∃ ending, EndsString ending ∧ before = ending ++ after := by
  induction budget generalizing before with
  | nil => cases skips
  | cons _ budget inductionHypothesis =>
      cases before with
      | nil => cases skips
      | cons c rest =>
          unfold skipStringUpTo at skips
          split at skips
          · rename_i isQuote
            obtain rfl := Except.ok.inj skips
            rw [beq_iff_eq] at isQuote
            exact ⟨['"'], .close, by rw [isQuote]; rfl⟩
          · rename_i notQuote
            rw [beq_iff_eq] at notQuote
            split at skips
            · rename_i isEscape
              obtain rfl := beq_iff_eq.mp isEscape
              split at skips
              · rename_i unread escape
                obtain ⟨ending, further, rfl⟩ := inductionHypothesis skips
                rcases (skipEscape_eq_ok_iff _ _).mp escape with
                  ⟨letter, known, rfl⟩ | ⟨a, b, c, d, digits, rfl⟩
                · exact ⟨_, .letter letter known further, rfl⟩
                · exact ⟨_, .code a b c d digits further, rfl⟩
              · cases skips
            · rename_i notEscape
              rw [beq_iff_eq] at notEscape
              split at skips
              · cases skips
              · rename_i printable
                obtain ⟨ending, further, rfl⟩ := inductionHypothesis skips
                exact ⟨_, .plain c notQuote notEscape (Nat.le_of_not_lt printable) further, rfl⟩

/-- What is passed over as a string has the form of one. -/
theorem skipString_eq_ok_iff
    (before after : List Char) :
    skipString before = .ok after ↔ ∃ ending, EndsString ending ∧ before = ending ++ after := by
  constructor
  · exact endsString_of_skipStringUpTo
  · rintro ⟨ending, ends, rfl⟩
    exact skipStringUpTo_of_endsString ends (by simp) after

/-- The spelling of a character does not depend on what comes after it. -/
theorem SpellsChar.exists_chars
    {before after : List Char}
    {c : Char}
    (spells : SpellsChar before c after) :
    ∃ chars, before = chars ++ after ∧
      (∀ ending, EndsString ending → EndsString (chars ++ ending)) ∧
      ∀ other, SpellsChar (chars ++ other) c other := by
  cases spells with
  | plain _ _ notQuote notEscape printable =>
      exact ⟨[c], rfl, fun _ => .plain c notQuote notEscape printable,
        fun other => .plain c other notQuote notEscape printable⟩
  | letter letter _ _ means =>
      exact ⟨['\\', letter], rfl, fun _ => .letter letter (by rw [means]; rfl),
        fun other => .letter letter c other means⟩
  | code a b c d code _ digits notLow notHigh =>
      exact ⟨['\\', 'u', a, b, c, d], rfl, fun _ => .code a b c d (by rw [digits]; rfl),
        fun other => .code a b c d code other digits notLow notHigh⟩
  | pair a b c d e f g h high low _ highDigits lowDigits isHigh isLow =>
      exact ⟨['\\', 'u', a, b, c, d, '\\', 'u', e, f, g, h], rfl,
        fun _ further => .code a b c d (by rw [highDigits]; rfl)
          (.code e f g h (by rw [lowDigits]; rfl) further),
        fun other => .pair a b c d e f g h high low other highDigits lowDigits isHigh isLow⟩

/-- The spelling of a string does not depend on what comes after it, and has the form of one. -/
theorem SpellsText.exists_ending
    {before cs after : List Char}
    (spells : SpellsText before cs after) :
    ∃ ending, before = ending ++ after ∧ EndsString ending ∧
      ∀ other, SpellsText (ending ++ other) cs other := by
  induction spells with
  | close after => exact ⟨['"'], rfl, .close, .close⟩
  | char spells _ inductionHypothesis =>
      obtain ⟨chars, rfl, extends_, local_⟩ := spells.exists_chars
      obtain ⟨ending, rfl, ends, spellsText⟩ := inductionHypothesis
      refine ⟨chars ++ ending, (List.append_assoc _ _ _).symm, extends_ ending ends,
        fun other => ?_⟩
      rw [List.append_assoc]
      exact .char (local_ (ending ++ other)) (spellsText other)

namespace Quotes

variable {chars : List Char} {text other : String}

/-- A string that is spelled at the start of a text is quoted there. -/
theorem of_spells
    {opened after : List Char}
    (spells : SpellsText opened text.toList after) :
    ∃ chars, Quotes chars text ∧ '"' :: opened = chars ++ after := by
  obtain ⟨ending, rfl, _, spellsText⟩ := spells.exists_ending
  have alone := spellsText []
  rw [List.append_nil] at alone
  exact ⟨'"' :: ending, ⟨ending, rfl, alone⟩, rfl⟩

/-- A string that is quoted is spelled before any text. -/
theorem spells (quotes : Quotes chars text) :
    ∃ ending, chars = '"' :: ending ∧
      ∀ after, SpellsText (ending ++ after) text.toList after := by
  obtain ⟨ending, rfl, spells⟩ := quotes
  obtain ⟨same, isEnding, _, spellsText⟩ := spells.exists_ending
  rw [List.append_nil] at isEnding
  subst isEnding
  exact ⟨_, rfl, spellsText⟩

theorem isString (quotes : Quotes chars text) : IsString chars := by
  obtain ⟨ending, rfl, spells⟩ := quotes
  obtain ⟨same, isEnding, ends, _⟩ := spells.exists_ending
  rw [List.append_nil] at isEnding
  subst isEnding
  exact ⟨_, ends, rfl⟩

/-- A string means one text. -/
theorem eq
    (quotes : Quotes chars text)
    (otherQuotes : Quotes chars other) :
    text = other := by
  obtain ⟨ending, rfl, spells⟩ := quotes
  obtain ⟨otherEnding, same, otherSpells⟩ := otherQuotes
  obtain ⟨_, rfl⟩ := List.cons.inj same
  have reads := (readString_eq_ok_iff _ _ _).mpr spells
  rw [(readString_eq_ok_iff _ _ _).mpr otherSpells] at reads
  exact (Prod.mk.inj (Except.ok.inj reads)).1.symm

end Quotes

/-! ## Numbers -/

/-- The characters are digits, and there is one at least. -/
def AreDigits (chars : List Char) : Prop :=
  chars ≠ [] ∧ ∀ c ∈ chars, c.isDigit = true

/-- The characters have the form of the whole part of a number. -/
inductive IsWhole : List Char → Prop
  | zero : IsWhole ['0']
  | digits
      {c : Char}
      {rest : List Char}
      (notZero : c ≠ '0')
      (areDigits : AreDigits (c :: rest)) :
      IsWhole (c :: rest)

/-- The characters have the form of a fraction, which may be absent. -/
inductive IsFraction : List Char → Prop
  | absent : IsFraction []
  | present
      {digits : List Char}
      (areDigits : AreDigits digits) :
      IsFraction ('.' :: digits)

/-- The characters have the form of an exponent, which may be absent. -/
inductive IsExponent : List Char → Prop
  | absent : IsExponent []
  | present
      {mark : Char}
      {sign digits : List Char}
      (isMark : mark = 'e' ∨ mark = 'E')
      (isSign : sign = [] ∨ sign = ['+'] ∨ sign = ['-'])
      (areDigits : AreDigits digits) :
      IsExponent (mark :: (sign ++ digits))

/-- The characters have the form of a number without a sign. -/
def IsMagnitude (chars : List Char) : Prop :=
  ∃ whole fraction exponent,
    IsWhole whole ∧ IsFraction fraction ∧ IsExponent exponent ∧
      chars = whole ++ (fraction ++ exponent)

/-- The characters have the form of a number. -/
def IsNumeral (chars : List Char) : Prop :=
  IsMagnitude chars ∨ ∃ magnitude, IsMagnitude magnitude ∧ chars = '-' :: magnitude

theorem skipDigits_snd
    (count : Nat)
    (cs : List Char) :
    (skipDigits count cs).2 = cs.dropWhile Char.isDigit := by
  induction cs generalizing count with
  | nil => rfl
  | cons c rest inductionHypothesis =>
      unfold skipDigits
      cases isDigit : c.isDigit with
      | true => simp [isDigit, inductionHypothesis]
      | false => simp [isDigit]

theorem dropWhile_isDigit_of_not
    {after : List Char}
    (notDigit : startsWithDigit after = false) :
    after.dropWhile Char.isDigit = after := by
  cases after with
  | nil => rfl
  | cons c rest =>
      have stops : c.isDigit = false := notDigit
      simp [stops]

namespace AreDigits

variable {digits after : List Char}

theorem startsWithDigit
    (areDigits : AreDigits digits)
    (after : List Char) :
    Json.startsWithDigit (digits ++ after) = true := by
  obtain ⟨nonempty, all⟩ := areDigits
  cases digits with
  | nil => exact absurd rfl nonempty
  | cons c rest => exact all c List.mem_cons_self

theorem skipDigits
    (areDigits : AreDigits digits)
    (notDigit : Json.startsWithDigit after = false)
    (count : Nat) :
    (Json.skipDigits count (digits ++ after)).2 = after := by
  rw [skipDigits_snd, List.dropWhile_append_of_pos areDigits.2, dropWhile_isDigit_of_not notDigit]

end AreDigits

/-- Digits at the start of a text are passed over. -/
theorem areDigits_of_startsWithDigit
    {cs : List Char}
    (starts : startsWithDigit cs = true)
    (count : Nat) :
    ∃ digits, AreDigits digits ∧ cs = digits ++ (skipDigits count cs).2 := by
  refine ⟨cs.takeWhile Char.isDigit, ⟨?_, fun _ => List.mem_takeWhile_imp⟩, ?_⟩
  · cases cs with
    | nil => cases starts
    | cons c rest =>
        have isDigit : c.isDigit = true := starts
        simp [isDigit]
  · rw [skipDigits_snd]
    exact List.takeWhile_append_dropWhile.symm

theorem readExponentSign_exists_sign (cs : List Char) :
    ∃ sign, (sign = [] ∨ sign = ['+'] ∨ sign = ['-']) ∧ cs = sign ++ (readExponentSign cs).2 := by
  unfold readExponentSign
  split
  · exact ⟨['+'], .inr (.inl rfl), rfl⟩
  · exact ⟨['-'], .inr (.inr rfl), rfl⟩
  · exact ⟨[], .inl rfl, rfl⟩

theorem readExponentSign_append
    {sign digits : List Char}
    (isSign : sign = [] ∨ sign = ['+'] ∨ sign = ['-'])
    (areDigits : AreDigits digits)
    (after : List Char) :
    (readExponentSign (sign ++ (digits ++ after))).2 = digits ++ after := by
  rcases isSign with rfl | rfl | rfl
  · have starts := areDigits.startsWithDigit after
    rw [List.nil_append]
    unfold readExponentSign
    split
    · rename_i same
      rw [same] at starts
      cases starts
    · rename_i same
      rw [same] at starts
      cases starts
    · rfl
  · rfl
  · rfl

theorem skipExponent_append
    {sign digits after : List Char}
    (isSign : sign = [] ∨ sign = ['+'] ∨ sign = ['-'])
    (areDigits : AreDigits digits)
    (ends : endsNumber after = true) :
    skipExponent (sign ++ (digits ++ after)) = .ok after := by
  unfold skipExponent
  simp only [readExponentSign_append isSign areDigits, areDigits.startsWithDigit, if_true,
    areDigits.skipDigits (startsWithDigit_of_ends ends)]

theorem isExponent_of_skipExponent
    {mark : Char}
    {cs after : List Char}
    (isMark : mark = 'e' ∨ mark = 'E')
    (skips : skipExponent cs = .ok after) :
    ∃ exponent, IsExponent exponent ∧ mark :: cs = exponent ++ after := by
  unfold skipExponent at skips
  obtain ⟨sign, isSign, signed⟩ := readExponentSign_exists_sign cs
  generalize readExponentSign cs = unsigned at skips signed
  dsimp only at skips
  split at skips
  · rename_i starts
    obtain ⟨digits, areDigits, read⟩ := areDigits_of_startsWithDigit starts 0
    rw [Except.ok.inj skips] at read
    refine ⟨_, .present isMark isSign areDigits, ?_⟩
    rw [signed, read, List.cons_append, List.append_assoc]
  · cases skips

/-- What is passed over as an exponent has the form of one. -/
theorem isExponent_of_skipAnyExponent
    {cs after : List Char}
    (skips : skipAnyExponent cs = .ok after) :
    ∃ exponent, IsExponent exponent ∧ cs = exponent ++ after := by
  unfold skipAnyExponent at skips
  split at skips
  · exact isExponent_of_skipExponent (.inl rfl) skips
  · exact isExponent_of_skipExponent (.inr rfl) skips
  · obtain rfl := Except.ok.inj skips
    exact ⟨[], .absent, rfl⟩

theorem IsExponent.skipAnyExponent
    {exponent after : List Char}
    (isExponent : IsExponent exponent)
    (ends : endsNumber after = true) :
    Json.skipAnyExponent (exponent ++ after) = .ok after := by
  cases isExponent with
  | absent =>
      rw [List.nil_append]
      unfold Json.skipAnyExponent
      split
      · cases ends
      · cases ends
      · rfl
  | present isMark isSign areDigits =>
      have skips := skipExponent_append isSign areDigits ends
      rw [List.cons_append, List.append_assoc]
      rcases isMark with rfl | rfl
      · exact skips
      · exact skips

theorem IsExponent.not_startsWithDigit
    {exponent after : List Char}
    (isExponent : IsExponent exponent)
    (ends : endsNumber after = true) :
    startsWithDigit (exponent ++ after) = false := by
  cases isExponent with
  | absent => exact startsWithDigit_of_ends ends
  | present isMark =>
      rcases isMark with rfl | rfl
      · rfl
      · rfl

/-- What is passed over after a whole part has the form of a fraction and an exponent. -/
theorem exists_of_skipAfterInteger
    {cs after : List Char}
    (skips : skipAfterInteger cs = .ok after) :
    ∃ fraction exponent, IsFraction fraction ∧ IsExponent exponent ∧
      cs = fraction ++ (exponent ++ after) := by
  unfold skipAfterInteger at skips
  split at skips
  · rename_i rest
    split at skips
    · rename_i starts
      obtain ⟨digits, areDigits, read⟩ := areDigits_of_startsWithDigit starts 0
      obtain ⟨exponent, isExponent, same⟩ := isExponent_of_skipAnyExponent skips
      rw [same] at read
      exact ⟨_, exponent, .present areDigits, isExponent, congrArg _ read⟩
    · cases skips
  · obtain ⟨exponent, isExponent, same⟩ := isExponent_of_skipAnyExponent skips
    exact ⟨[], exponent, .absent, isExponent, same⟩

theorem skipAfterInteger_append
    {fraction exponent after : List Char}
    (isFraction : IsFraction fraction)
    (isExponent : IsExponent exponent)
    (ends : endsNumber after = true) :
    skipAfterInteger (fraction ++ (exponent ++ after)) = .ok after := by
  have skips := isExponent.skipAnyExponent ends
  cases isFraction with
  | absent =>
      rw [List.nil_append]
      unfold skipAfterInteger
      split
      · rename_i rest same
        cases isExponent with
        | absent =>
            rw [List.nil_append] at same
            rw [same] at ends
            cases ends
        | present isMark =>
            obtain ⟨rfl, _⟩ := List.cons.inj same
            rcases isMark with isMark | isMark <;> cases isMark
      · exact skips
  | present areDigits =>
      rw [List.cons_append]
      simp only [skipAfterInteger, areDigits.startsWithDigit, if_true,
        areDigits.skipDigits (isExponent.not_startsWithDigit ends), skips]

/-- A fraction, an exponent and what ends a number do not begin with a digit. -/
theorem not_startsWithDigit_append
    {fraction exponent after : List Char}
    (isFraction : IsFraction fraction)
    (isExponent : IsExponent exponent)
    (ends : endsNumber after = true) :
    startsWithDigit (fraction ++ (exponent ++ after)) = false := by
  cases isFraction with
  | absent => exact isExponent.not_startsWithDigit ends
  | present => rfl

/-- What is passed over as a number has the form of one, after its sign. -/
theorem isMagnitude_of_skipNumber
    {cs after : List Char}
    (skips : skipNumber cs = .ok after) :
    ∃ chars, IsMagnitude chars ∧ cs = chars ++ after := by
  unfold skipNumber at skips
  split at skips
  · split at skips
    · cases skips
    · obtain ⟨fraction, exponent, isFraction, isExponent, rfl⟩ := exists_of_skipAfterInteger skips
      refine ⟨_, ⟨['0'], fraction, exponent, .zero, isFraction, isExponent, rfl⟩, ?_⟩
      simp only [List.cons_append, List.nil_append, List.append_assoc]
  · rename_i notZero
    split at skips
    · rename_i starts
      obtain ⟨digits, areDigits, read⟩ := areDigits_of_startsWithDigit starts 0
      obtain ⟨fraction, exponent, isFraction, isExponent, same⟩ := exists_of_skipAfterInteger skips
      rw [same] at read
      have isWhole : IsWhole digits := by
        cases digits with
        | nil => exact absurd rfl areDigits.1
        | cons c rest =>
            refine .digits ?_ areDigits
            rintro rfl
            exact notZero _ read
      refine ⟨_, ⟨digits, fraction, exponent, isWhole, isFraction, isExponent, rfl⟩, ?_⟩
      rw [read, List.append_assoc, List.append_assoc]
    · cases skips

/-- What has the form of a number is passed over, before any text that does not go on with it. -/
theorem IsMagnitude.skipNumber
    {chars after : List Char}
    (isMagnitude : IsMagnitude chars)
    (ends : endsNumber after = true) :
    Json.skipNumber (chars ++ after) = .ok after := by
  obtain ⟨whole, fraction, exponent, isWhole, isFraction, isExponent, rfl⟩ := isMagnitude
  have skips := skipAfterInteger_append isFraction isExponent ends
  have notDigit := not_startsWithDigit_append isFraction isExponent ends
  rw [List.append_assoc, List.append_assoc]
  cases isWhole with
  | zero =>
      simp only [List.cons_append, List.nil_append, Json.skipNumber, notDigit, Bool.false_eq_true,
        if_false, skips]
  | @digits c rest notZero areDigits =>
      unfold Json.skipNumber
      split
      · rename_i same
        exact absurd (List.cons.inj same).1 notZero
      · rw [areDigits.startsWithDigit, if_pos rfl, areDigits.skipDigits notDigit, skips]

/-- A number begins with a digit, after its sign. -/
theorem IsMagnitude.starts
    {chars : List Char}
    (isMagnitude : IsMagnitude chars) :
    ∃ c rest, chars = c :: rest ∧ c.isDigit = true := by
  obtain ⟨whole, fraction, exponent, isWhole, _, _, rfl⟩ := isMagnitude
  cases isWhole with
  | zero => exact ⟨'0', _, rfl, rfl⟩
  | digits _ areDigits => exact ⟨_, _, rfl, areDigits.2 _ List.mem_cons_self⟩

/-! ## Values -/

/-- The characters have the form of a value without brackets. -/
inductive IsScalar : List Char → Prop
  | null : IsScalar nullChars
  | flag (value : Bool) : IsScalar (flagChars value)
  | number
      {chars : List Char}
      (isNumeral : IsNumeral chars) :
      IsScalar chars
  | text
      {chars : List Char}
      (isString : IsString chars) :
      IsScalar chars

namespace Frame

/-- The bracket that opens. -/
def opening : Frame → Char
  | .list => '['
  | .object => '\x7b'

/-- The bracket that closes. -/
def closing : Frame → Char
  | .list => ']'
  | .object => '\x7d'

/-- The characters have the form of what leads to a value in the bracket: nothing in a list, a
key and a colon in an object. -/
def Leads : Frame → List Char → Prop
  | .list, lead => lead = []
  | .object, lead => ∃ key : Padded, IsString key.inner ∧ lead = key.chars ++ [':']

end Frame

/-- What stands between the commas of a bracket: a value and what leads to it. -/
structure Piece where
  lead : List Char
  value : Padded

/-- The characters of a piece. -/
def Piece.chars (piece : Piece) : List Char :=
  piece.lead ++ piece.value.chars

/-- Texts with commas between them, and one more before the first of them unless it is the
first one in its bracket. -/
def separated : Bool → List (List Char) → List Char
  | _, [] => []
  | true, text :: texts => text ++ separated false texts
  | false, text :: texts => ',' :: (text ++ separated false texts)

/-- The characters of a bracket around pieces, after the opening one, and the text after them. -/
def bracketed
    (frame : Frame)
    (first : Bool)
    (inside : List Char)
    (pieces : List Piece)
    (after : List Char) : List Char :=
  inside ++ (separated first (pieces.map Piece.chars) ++ frame.closing :: after)

/-- The characters have the form of a value. -/
inductive IsValue : List Char → Prop
  | scalar
      {chars : List Char}
      (isScalar : IsScalar chars) :
      IsValue chars
  | bracket
      (frame : Frame)
      {inside : List Char}
      {pieces : List Piece}
      (blank : AreBlank inside)
      (leads : ∀ piece ∈ pieces, frame.Leads piece.lead)
      (values : ∀ piece ∈ pieces, IsValue piece.value.inner) :
      IsValue (frame.opening :: bracketed frame true inside pieces [])

theorem bracketed_append
    (frame : Frame)
    (first : Bool)
    (inside : List Char)
    (pieces : List Piece)
    (after other : List Char) :
    bracketed frame first inside pieces after ++ other =
      bracketed frame first inside pieces (after ++ other) := by
  simp only [bracketed, List.append_assoc, List.cons_append]

/-- A number begins with a sign or a digit. -/
theorem IsNumeral.starts
    {chars : List Char}
    (isNumeral : IsNumeral chars) :
    ∃ c rest, chars = c :: rest ∧ (c = '-' ∨ c.isDigit = true) := by
  rcases isNumeral with isMagnitude | ⟨magnitude, _, rfl⟩
  · obtain ⟨c, rest, same, isDigit⟩ := isMagnitude.starts
    exact ⟨c, rest, same, .inr isDigit⟩
  · exact ⟨'-', magnitude, rfl, .inl rfl⟩

/-- A sign or a digit is no other mark. -/
theorem ne_of_isNumeric
    {c : Char}
    (isNumeric : c = '-' ∨ c.isDigit = true)
    (mark : Char)
    (notSign : mark ≠ '-')
    (notDigit : mark.isDigit = false) :
    c ≠ mark := by
  rintro rfl
  rcases isNumeric with isSign | isDigit
  · exact notSign isSign
  · rw [notDigit] at isDigit
    cases isDigit

theorem isSpace_of_isNumeric
    {c : Char}
    (isNumeric : c = '-' ∨ c.isDigit = true) :
    isSpace c = false := by
  have ne := ne_of_isNumeric isNumeric
  simp only [isSpace, Bool.or_eq_false_iff, beq_eq_false_iff_ne, ne_eq]
  exact ⟨⟨⟨ne ' ' (by decide) rfl, ne '\t' (by decide) rfl⟩, ne '\n' (by decide) rfl⟩,
    ne '\r' (by decide) rfl⟩

/-- A value begins with a character that is no blank and closes no list. -/
theorem IsValue.starts
    {chars : List Char}
    (isValue : IsValue chars) :
    ∃ c rest, chars = c :: rest ∧ isSpace c = false ∧ c ≠ ']' := by
  cases isValue with
  | scalar isScalar =>
      cases isScalar with
      | null => exact ⟨'n', _, rfl, rfl, by decide⟩
      | flag value =>
          cases value with
          | true => exact ⟨'t', _, rfl, rfl, by decide⟩
          | false => exact ⟨'f', _, rfl, rfl, by decide⟩
      | number isNumeral =>
          obtain ⟨c, rest, rfl, isNumeric⟩ := isNumeral.starts
          exact ⟨c, rest, rfl, isSpace_of_isNumeric isNumeric,
            ne_of_isNumeric isNumeric ']' (by decide) rfl⟩
      | text isString =>
          obtain ⟨ending, _, rfl⟩ := isString
          exact ⟨'"', ending, rfl, rfl, by decide⟩
  | bracket frame =>
      cases frame with
      | list => exact ⟨'[', _, rfl, rfl, by decide⟩
      | object => exact ⟨'\x7b', _, rfl, rfl, by decide⟩

theorem IsValue.skipSpace_append
    {chars : List Char}
    (isValue : IsValue chars)
    (after : List Char) :
    skipSpace (chars ++ after) = chars ++ after := by
  obtain ⟨c, rest, rfl, notSpace, _⟩ := isValue.starts
  exact skipSpace_cons notSpace _

end Json
end KnowledgeClient
