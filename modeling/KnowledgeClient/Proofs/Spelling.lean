import KnowledgeClient.Json.Printer
import KnowledgeClient.Json.Reader

/-!
# How strings are spelled

A character inside a JSON string stands for itself or is escaped, by a letter, by its
code or by the codes of two surrogates.  `SpellsText` says what a string means without
saying how it is read; the reader of strings reads exactly the strings that it
describes.  What follows a string is part of the description, so that strings can be
found at the start of a longer text.
-/

namespace KnowledgeClient

/-- What two readings in a row give is what the second gives of what the first gives. -/
theorem Except.bind_eq_ok_iff
    {ε α β : Type}
    {first : Except ε α}
    {second : α → Except ε β}
    {result : β} :
    first >>= second = .ok result ↔ ∃ value, first = .ok value ∧ second value = .ok result := by
  cases first with
  | error fault => simp [bind, Except.bind]
  | ok value => simp [bind, Except.bind]

namespace Json

/-- The code that four hexadecimal digits are. -/
def hexCode? (a b c d : Char) : Option Nat :=
  match hexValue? a, hexValue? b, hexValue? c, hexValue? d with
  | some x, some y, some z, some w => some (((x * 16 + y) * 16 + z) * 16 + w)
  | _, _, _, _ => none

/-- The text before begins with the spelling of a character inside a string, and goes on with
the text after. -/
inductive SpellsChar : List Char → Char → List Char → Prop
  | plain
      (c : Char)
      (after : List Char)
      (notQuote : c ≠ '"')
      (notEscape : c ≠ '\\')
      (printable : 0x20 ≤ c.toNat) :
      SpellsChar (c :: after) c after
  | letter
      (letter meant : Char)
      (after : List Char)
      (means : letterEscape? letter = some meant) :
      SpellsChar ('\\' :: letter :: after) meant after
  | code
      (a b c d : Char)
      (code : Nat)
      (after : List Char)
      (digits : hexCode? a b c d = some code)
      (notLow : Text.isLowSurrogate code = false)
      (notHigh : Text.isHighSurrogate code = false) :
      SpellsChar ('\\' :: 'u' :: a :: b :: c :: d :: after) (Char.ofNat code) after
  | pair
      (a b c d e f g h : Char)
      (high low : Nat)
      (after : List Char)
      (highDigits : hexCode? a b c d = some high)
      (lowDigits : hexCode? e f g h = some low)
      (isHigh : Text.isHighSurrogate high = true)
      (isLow : Text.isLowSurrogate low = true) :
      SpellsChar
        ('\\' :: 'u' :: a :: b :: c :: d :: '\\' :: 'u' :: e :: f :: g :: h :: after)
        (Text.surrogatePair high low) after

/-- The text before begins with the spelling of some characters and a closing quote, and goes on
with the text after. -/
inductive SpellsText : List Char → List Char → List Char → Prop
  | close (after : List Char) : SpellsText ('"' :: after) [] after
  | char
      {before middle after : List Char}
      {c : Char}
      {cs : List Char}
      (spells : SpellsChar before c middle)
      (further : SpellsText middle cs after) :
      SpellsText before (c :: cs) after

/-! ## Escapes -/

theorem stopInHex_ne_ok
    {α : Type}
    (unread : List Char)
    (value : α) :
    stopInHex unread ≠ .ok value := by
  unfold stopInHex
  split <;> nofun

theorem readHex_cons
    (a b c d : Char)
    (after : List Char) :
    readHex (a :: b :: c :: d :: after) =
      match hexCode? a b c d with
      | some code => .ok (code, after)
      | none => stopInHex (a :: b :: c :: d :: after) := by
  simp only [readHex, hexCode?]
  cases hexValue? a <;> cases hexValue? b <;> cases hexValue? c <;> cases hexValue? d <;> rfl

theorem readHex_eq_ok_iff
    (before : List Char)
    (code : Nat)
    (after : List Char) :
    readHex before = .ok (code, after) ↔
      ∃ a b c d, before = a :: b :: c :: d :: after ∧ hexCode? a b c d = some code := by
  constructor
  · intro reads
    match before with
    | a :: b :: c :: d :: rest =>
        rw [readHex_cons] at reads
        cases digits : hexCode? a b c d with
        | none =>
            rw [digits] at reads
            exact absurd reads (stopInHex_ne_ok _ _)
        | some found =>
            rw [digits] at reads
            obtain ⟨rfl, rfl⟩ := Prod.mk.inj (Except.ok.inj reads)
            exact ⟨a, b, c, d, rfl, digits⟩
    | [] | [_] | [_, _] | [_, _, _] => exact absurd reads (stopInHex_ne_ok _ _)
  · rintro ⟨a, b, c, d, rfl, digits⟩
    rw [readHex_cons, digits]

theorem readPairMark_eq_ok_iff
    (mark : Char)
    (before after : List Char) :
    readPairMark mark before = .ok after ↔ before = mark :: after := by
  cases before with
  | nil => simp [readPairMark, stopAt]
  | cons c rest =>
      by_cases same : c = mark
      · simp [readPairMark, same]
      · simp [readPairMark, stopPast, same]

/-- An escape by code is read just as it is spelled. -/
theorem readCodeEscape_eq_ok_iff
    (before : List Char)
    (c : Char)
    (after : List Char) :
    readCodeEscape before = .ok (c, after) ↔ SpellsChar ('\\' :: 'u' :: before) c after := by
  unfold readCodeEscape
  constructor
  · intro escape
    obtain ⟨⟨code, rest⟩, digits, reads⟩ := Except.bind_eq_ok_iff.mp escape
    obtain ⟨a₁, a₂, a₃, a₄, rfl, isCode⟩ := (readHex_eq_ok_iff _ _ _).mp digits
    simp only at reads
    split at reads
    · cases reads
    · rename_i notLow
      split at reads
      · rename_i isHigh
        obtain ⟨second, backslash, marked⟩ := Except.bind_eq_ok_iff.mp reads
        obtain ⟨third, letter, lowered⟩ := Except.bind_eq_ok_iff.mp marked
        obtain ⟨⟨low, last⟩, lowDigits, paired⟩ := Except.bind_eq_ok_iff.mp lowered
        obtain rfl := (readPairMark_eq_ok_iff _ _ _).mp backslash
        obtain rfl := (readPairMark_eq_ok_iff _ _ _).mp letter
        obtain ⟨b₁, b₂, b₃, b₄, rfl, isLowCode⟩ := (readHex_eq_ok_iff _ _ _).mp lowDigits
        simp only at paired
        split at paired
        · rename_i isLow
          obtain ⟨rfl, rfl⟩ := Prod.mk.inj (Except.ok.inj paired)
          exact .pair _ _ _ _ _ _ _ _ _ _ _ isCode isLowCode isHigh isLow
        · cases paired
      · rename_i notHigh
        obtain ⟨rfl, rfl⟩ := Prod.mk.inj (Except.ok.inj reads)
        exact .code _ _ _ _ _ _ isCode (Bool.eq_false_iff.mpr notLow)
          (Bool.eq_false_iff.mpr notHigh)
  · intro spells
    cases spells with
    | plain _ _ _ notEscape => exact absurd rfl notEscape
    | letter _ _ _ means => cases means
    | code a b c d code _ digits notLow notHigh =>
        rw [readHex_cons, digits]
        simp only [bind, Except.bind, notLow, notHigh, Bool.false_eq_true, if_false]
    | pair a b c d e f g h high low _ highDigits lowDigits isHigh isLow =>
        have notLow : Text.isLowSurrogate high = false := by
          simp only [Text.isHighSurrogate, Text.isLowSurrogate, Bool.and_eq_true,
            decide_eq_true_eq, Bool.and_eq_false_iff, decide_eq_false_iff_not] at isHigh ⊢
          omega
        rw [readHex_cons, highDigits]
        simp only [bind, Except.bind, notLow, isHigh, Bool.false_eq_true, if_false, if_true,
          readPairMark, beq_self_eq_true, readHex_cons, lowDigits, isLow]

/-- An escape is read just as it is spelled. -/
theorem readEscape_eq_ok_iff
    (before : List Char)
    (c : Char)
    (after : List Char) :
    readEscape before = .ok (c, after) ↔ SpellsChar ('\\' :: before) c after := by
  cases before with
  | nil =>
      constructor
      · intro reads
        cases reads
      · intro spells
        cases spells with
        | plain _ _ _ notEscape => exact absurd rfl notEscape
  | cons letter rest =>
      unfold readEscape
      by_cases byCode : letter = 'u'
      · subst byCode
        exact readCodeEscape_eq_ok_iff rest c after
      · simp only [beq_iff_eq, byCode, if_false]
        constructor
        · intro reads
          cases means : letterEscape? letter with
          | none =>
              rw [means] at reads
              cases reads
          | some meant =>
              rw [means] at reads
              obtain ⟨rfl, rfl⟩ := Prod.mk.inj (Except.ok.inj reads)
              exact .letter letter meant rest means
        · intro spells
          cases spells with
          | plain _ _ _ notEscape => exact absurd rfl notEscape
          | letter _ _ _ means => rw [means]
          | code => exact absurd rfl byCode
          | pair => exact absurd rfl byCode

/-! ## Strings -/

/-- A spelling takes at least one character. -/
theorem SpellsChar.length_lt
    {before after : List Char}
    {c : Char}
    (spells : SpellsChar before c after) :
    after.length < before.length := by
  cases spells <;> simp only [List.length_cons] <;> omega

/-- The spelling of a string takes more characters than the string has. -/
theorem SpellsText.length_lt
    {before cs after : List Char}
    (spells : SpellsText before cs after) :
    cs.length + after.length < before.length := by
  induction spells with
  | close after => simp
  | char spells further inductionHypothesis =>
      have shorter := spells.length_lt
      rw [List.length_cons]
      omega

/-- A string that is spelled is read. -/
theorem readStringOnto_of_spells
    {before cs after : List Char}
    (spells : SpellsText before cs after)
    (budget read : List Char)
    (lasts : cs.length < budget.length) :
    readStringOnto budget read before = .ok (String.ofList (read.reverse ++ cs), after) := by
  induction spells generalizing budget read with
  | close after =>
      cases budget with
      | nil => cases lasts
      | cons _ budget => simp [readStringOnto]
  | @char before middle after c cs spells further inductionHypothesis =>
      cases budget with
      | nil => cases lasts
      | cons _ budget =>
          have further := inductionHypothesis budget (c :: read)
            (by simpa using lasts)
          rw [List.reverse_cons, List.append_assoc, List.singleton_append] at further
          cases before with
          | nil => exact absurd spells.length_lt (Nat.not_lt_zero _)
          | cons first rest =>
              by_cases escapes : first = '\\'
              · subst escapes
                have escaped := (readEscape_eq_ok_iff rest c middle).mpr spells
                simp [readStringOnto, escaped, further]
              · cases spells with
                | plain _ _ notQuote _ printable =>
                    simp [readStringOnto, notQuote, escapes, Nat.not_lt.mpr printable, further]
                | _ => exact absurd rfl escapes

/-- Only strings that are spelled are read. -/
theorem spells_of_readStringOnto
    {budget read before after : List Char}
    {text : String}
    (reads : readStringOnto budget read before = .ok (text, after)) :
    ∃ cs, SpellsText before cs after ∧ text = String.ofList (read.reverse ++ cs) := by
  induction budget generalizing read before with
  | nil => cases reads
  | cons _ budget inductionHypothesis =>
      cases before with
      | nil => cases reads
      | cons c rest =>
          unfold readStringOnto at reads
          split at reads
          · rename_i isQuote
            obtain ⟨rfl, rfl⟩ := Prod.mk.inj (Except.ok.inj reads)
            rw [beq_iff_eq] at isQuote
            exact ⟨[], isQuote ▸ .close _, by rw [List.append_nil]⟩
          · rename_i notQuote
            rw [beq_iff_eq] at notQuote
            split at reads
            · rename_i isEscape
              rw [beq_iff_eq] at isEscape
              cases escaped : readEscape rest with
              | error stop =>
                  rw [escaped] at reads
                  cases reads
              | ok found =>
                  rw [escaped] at reads
                  obtain ⟨cs, further, rfl⟩ := inductionHypothesis reads
                  refine ⟨found.1 :: cs, .char ?_ further, by simp⟩
                  rw [isEscape]
                  exact (readEscape_eq_ok_iff _ _ _).mp escaped
            · rename_i notEscape
              rw [beq_iff_eq] at notEscape
              split at reads
              · cases reads
              · rename_i printable
                obtain ⟨cs, further, rfl⟩ := inductionHypothesis reads
                exact ⟨c :: cs, .char (.plain c rest notQuote notEscape
                  (Nat.le_of_not_lt printable)) further, by simp⟩

/-- A string is read just as it is spelled. -/
theorem readString_eq_ok_iff
    (before : List Char)
    (text : String)
    (after : List Char) :
    readString before = .ok (text, after) ↔ SpellsText before text.toList after := by
  unfold readString
  constructor
  · intro reads
    obtain ⟨cs, spells, rfl⟩ := spells_of_readStringOnto reads
    simpa using spells
  · intro spells
    have shorter := spells.length_lt
    simpa using readStringOnto_of_spells spells before [] (by omega)

/-! ## Printed strings -/

/-- The code of a control character is spelled by the two digits that are printed. -/
theorem hexCode?_of_control
    (n : Nat)
    (control : n < 0x20) :
    hexCode? '0' '0' (hexDigit (n / 16)) (hexDigit (n % 16)) = some n := by
  revert n
  decide

/-- A printed character spells itself. -/
theorem spellsChar_escapedChar
    (c : Char)
    (after : List Char) :
    SpellsChar (escapedChar c ++ after) c after := by
  have byLetter : ∀ letter meant, letterEscape? letter = some meant →
      SpellsChar (['\\', letter] ++ after) meant after :=
    fun letter meant means => .letter letter meant after means
  unfold escapedChar
  simp only [beq_iff_eq]
  split
  · subst c
    exact byLetter '"' _ rfl
  · rename_i notQuote
    split
    · subst c
      exact byLetter '\\' _ rfl
    · rename_i notEscape
      repeat' split
      · subst c
        exact byLetter 'b' _ rfl
      · subst c
        exact byLetter 'f' _ rfl
      · subst c
        exact byLetter 'n' _ rfl
      · subst c
        exact byLetter 'r' _ rfl
      · subst c
        exact byLetter 't' _ rfl
      · rename_i control
        have spells := SpellsChar.code '0' '0' _ _ c.toNat after (hexCode?_of_control _ control)
          (by simp [Text.isLowSurrogate]; omega) (by simp [Text.isHighSurrogate]; omega)
        rwa [Char.ofNat_toNat] at spells
      · rename_i printable
        exact .plain c after notQuote notEscape (Nat.le_of_not_lt printable)

/-- A printed string spells its text. -/
theorem spellsText_flatMap_escapedChar
    (cs after : List Char) :
    SpellsText (cs.flatMap escapedChar ++ '"' :: after) cs after := by
  induction cs with
  | nil => exact .close after
  | cons c cs inductionHypothesis =>
      rw [List.flatMap_cons, List.append_assoc]
      exact .char (spellsChar_escapedChar c _) inductionHypothesis

end Json
end KnowledgeClient
