import KnowledgeClient.Http.Escaped
import Mathlib.Tactic.SplitIfs

/-!
# Resolving escapes

What is escaped reads as itself once its escapes are resolved, where it holds no escape
of its own: a percent sign is left alone when a text is escaped, and passes for the
start of an escape where two digits follow it.  Escaping brings nothing into a text but
percent signs and capital hexadecimal digits.
-/

namespace KnowledgeClient
namespace Http

/-! ## Bytes of characters -/

theorem utf8EncodeChar_of_ascii
    {c : Char}
    (ascii : c.toNat ≤ 0x7F) :
    String.utf8EncodeChar c = [UInt8.ofNat c.toNat] := by
  have isSmall : c.val.toNat ≤ 0x7F := ascii
  simp only [String.utf8EncodeChar, if_pos isSmall]
  rfl

theorem percent_eq_ofNat_iff
    {n : Nat}
    (isByte : n < 256) :
    (0x25 : UInt8) = UInt8.ofNat n ↔ n = 0x25 := by
  rw [← UInt8.toNat_inj, UInt8.toNat_ofNat']
  have percent : (0x25 : UInt8).toNat = 0x25 := rfl
  omega

/-- Only the percent sign has the byte of a percent sign. -/
theorem percent_notMem_utf8EncodeChar
    {c : Char}
    (notPercent : c ≠ '%') :
    (0x25 : UInt8) ∉ String.utf8EncodeChar c := by
  have other : c.val.toNat ≠ 0x25 := by
    intro same
    exact notPercent (Char.ext (UInt32.toNat_inj.mp same))
  intro member
  simp only [String.utf8EncodeChar] at member
  split_ifs at member
  · rw [List.mem_singleton, percent_eq_ofNat_iff (by omega)] at member
    omega
  all_goals
    simp (disch := omega) only [List.mem_cons, List.not_mem_nil, or_false,
      percent_eq_ofNat_iff] at member
    omega

/-- Texts with the same bytes are the same. -/
theorem flatMap_utf8EncodeChar_injective :
    Function.Injective fun text : List Char => text.flatMap String.utf8EncodeChar := by
  intro first second same
  have sameBytes : first.utf8Encode = second.utf8Encode := congrArg List.toByteArray same
  have sameText := congrArg ByteArray.utf8Decode? sameBytes
  rw [List.utf8Decode?_utf8Encode, List.utf8Decode?_utf8Encode, Option.some.injEq] at sameText
  simpa using congrArg Array.toList sameText

/-! ## Resolving -/

theorem unescape_cons_of_ne
    {b : UInt8}
    (notPercent : b ≠ 0x25)
    (rest : Bytes) :
    unescape (b :: rest) = b :: unescape rest := by
  have unequal : (b == 0x25) = false := by simpa using notPercent
  cases rest with
  | nil => rfl
  | cons second rest =>
      cases rest with
      | nil => rfl
      | cons third rest => simp [unescape, unequal]

theorem unescape_append_of_notMem
    {bytes : Bytes}
    (noPercent : (0x25 : UInt8) ∉ bytes)
    (rest : Bytes) :
    unescape (bytes ++ rest) = bytes ++ unescape rest := by
  induction bytes with
  | nil => rfl
  | cons b bytes inductionHypothesis =>
      simp only [List.mem_cons, not_or] at noPercent
      have notPercent : b ≠ 0x25 := fun same => noPercent.1 same.symm
      rw [List.cons_append, unescape_cons_of_ne notPercent, inductionHypothesis noPercent.2]
      rfl

/-- A digit below sixteen is read as its value. -/
theorem byteHexValue?_capitalHexDigit :
    ∀ n < 16, (capitalHexDigit n).toNat ≤ 0x7F ∧
      byteHexValue? (UInt8.ofNat (capitalHexDigit n).toNat) = some n := by
  decide

theorem unescape_escapedByte
    (b : UInt8)
    (rest : Bytes) :
    unescape ((escapedByte b).flatMap String.utf8EncodeChar ++ rest) = b :: unescape rest := by
  have isByte : b.toNat < 256 := b.toNat_lt
  obtain ⟨highAscii, highValue⟩ := byteHexValue?_capitalHexDigit (b.toNat / 16) (by omega)
  obtain ⟨lowAscii, lowValue⟩ := byteHexValue?_capitalHexDigit (b.toNat % 16) (by omega)
  have percentBytes : String.utf8EncodeChar '%' = [0x25] := by decide
  have value : b.toNat / 16 * 16 + b.toNat % 16 = b.toNat := by omega
  simp only [escapedByte, List.flatMap_cons, List.flatMap_nil, percentBytes,
    utf8EncodeChar_of_ascii highAscii, utf8EncodeChar_of_ascii lowAscii, List.cons_append,
    List.nil_append, unescape, highValue, lowValue, value, UInt8.ofNat_toNat]
  rfl

theorem unescape_flatMap_escapedByte
    (bytes rest : Bytes) :
    unescape ((bytes.flatMap escapedByte).flatMap String.utf8EncodeChar ++ rest) =
      bytes ++ unescape rest := by
  induction bytes with
  | nil => rfl
  | cons b bytes inductionHypothesis =>
      rw [List.flatMap_cons, List.flatMap_append, List.append_assoc, unescape_escapedByte,
        inductionHypothesis]
      rfl

/-! ## Texts without escapes -/

/-- A digit of an escape. -/
def isHexDigit (c : Char) : Bool :=
  c.toNat ≤ 0x7F && (byteHexValue? (UInt8.ofNat c.toNat)).isSome

/-- Somewhere in the text two digits follow a percent sign. -/
def holdsEscape : List Char → Bool
  | '%' :: high :: low :: rest =>
    (isHexDigit high && isHexDigit low) || holdsEscape (high :: low :: rest)
  | _ :: rest => holdsEscape rest
  | [] => false

theorem holdsEscape_of_cons
    {c : Char}
    {text : List Char}
    (noEscape : holdsEscape (c :: text) = false) :
    holdsEscape text = false := by
  unfold holdsEscape at noEscape
  split at noEscape
  · rename_i high low rest same
    rw [(List.cons.inj same).2]
    exact (Bool.or_eq_false_iff.mp noEscape).2
  · rename_i same
    rw [(List.cons.inj same).2]
    exact noEscape
  · rename_i same
    cases same

/-- A percent sign stays where no two digits follow it. -/
theorem unescape_percent
    {bytes : Bytes}
    (noHex : ∀ high low rest, bytes = high :: low :: rest →
      byteHexValue? high = none ∨ byteHexValue? low = none) :
    unescape (0x25 :: bytes) = 0x25 :: unescape bytes := by
  match bytes with
  | [] => rfl
  | [second] => rfl
  | high :: low :: rest =>
      rw [unescape, if_pos (beq_self_eq_true _)]
      rcases noHex high low rest rfl with none | none
      · rw [none]
      · rw [none]
        cases byteHexValue? high <;> rfl

theorem byteHexValue?_of_foreign
    {n : Nat}
    (foreign : 0x7F < n)
    (isByte : n < 256) :
    byteHexValue? (UInt8.ofNat n) = none := by
  have value : (UInt8.ofNat n).toNat = n := UInt8.toNat_ofNat_of_lt' isByte
  simp only [byteHexValue?, UInt8.le_iff_toNat_le, value, UInt8.reduceToNat, Bool.and_eq_true,
    decide_eq_true_eq]
  split_ifs <;> first | rfl | omega

/-- A character whose first byte is a digit is that digit. -/
theorem isHexDigit_of_utf8EncodeChar
    {c : Char}
    {b : UInt8}
    {bytes : Bytes}
    (encoded : String.utf8EncodeChar c = b :: bytes)
    (isHex : byteHexValue? b ≠ none) :
    isHexDigit c = true ∧ bytes = [] := by
  by_cases ascii : c.toNat ≤ 0x7F
  · rw [utf8EncodeChar_of_ascii ascii, List.cons.injEq] at encoded
    obtain ⟨rfl, rfl⟩ := encoded
    exact ⟨by simp [isHexDigit, ascii, Option.isSome_iff_ne_none, isHex], rfl⟩
  · have isForeign : ¬ c.val.toNat ≤ 0x7F := ascii
    simp only [String.utf8EncodeChar, if_neg isForeign] at encoded
    split_ifs at encoded
    all_goals
      rw [← (List.cons.inj encoded).1, byteHexValue?_of_foreign (by omega) (by omega)] at isHex
      exact absurd rfl isHex

/-- The bytes of an escaped text begin with a digit only if the text does. -/
theorem isHexDigit_of_escape
    {set : Char → Bool}
    {text : List Char}
    {b : UInt8}
    {bytes : Bytes}
    (encoded : (escape set text).flatMap String.utf8EncodeChar = b :: bytes)
    (isHex : byteHexValue? b ≠ none) :
    ∃ c rest, text = c :: rest ∧ isHexDigit c = true ∧
      bytes = (escape set rest).flatMap String.utf8EncodeChar := by
  cases text with
  | nil => cases encoded
  | cons c rest =>
      obtain ⟨first, further, isFirst⟩ :
          ∃ first further, String.utf8EncodeChar c = first :: further :=
        List.exists_cons_of_length_pos (by simp [Char.utf8Size_pos])
      unfold escape at encoded
      rw [List.flatMap_cons, List.flatMap_append] at encoded
      cases escaped : set c with
      | true =>
          rw [if_pos escaped, isFirst] at encoded
          have isPercent : (0x25 : UInt8) = b := (List.cons.inj encoded).1
          rw [← isPercent] at isHex
          exact absurd (by decide) isHex
      | false =>
          rw [if_neg (by simp [escaped]), List.flatMap_singleton, isFirst,
            List.cons_append] at encoded
          obtain ⟨rfl, same⟩ := List.cons.inj encoded
          obtain ⟨isDigit, rfl⟩ := isHexDigit_of_utf8EncodeChar isFirst isHex
          exact ⟨c, rest, rfl, isDigit, same.symm⟩

/-- Where a text holds no escape, neither does what follows its percent signs once it is
escaped. -/
theorem unescape_percent_escape
    {set : Char → Bool}
    {text : List Char}
    (noEscape : holdsEscape ('%' :: text) = false) :
    unescape (0x25 :: (escape set text).flatMap String.utf8EncodeChar) =
      0x25 :: unescape ((escape set text).flatMap String.utf8EncodeChar) := by
  apply unescape_percent
  intro high low rest encoded
  cases isHigh : byteHexValue? high with
  | none => exact .inl rfl
  | some _ =>
      cases isLow : byteHexValue? low with
      | none => exact .inr rfl
      | some _ =>
          obtain ⟨first, behind, rfl, isFirst, further⟩ :=
            isHexDigit_of_escape encoded (by simp [isHigh])
          obtain ⟨second, others, rfl, isSecond, -⟩ :=
            isHexDigit_of_escape further.symm (by simp [isLow])
          simp [holdsEscape, isFirst, isSecond] at noEscape

/-- A text without escapes is what its escaped form reads as. -/
theorem unescape_escape
    (set : Char → Bool)
    {text : List Char}
    (noEscape : holdsEscape text = false) :
    unescape ((escape set text).flatMap String.utf8EncodeChar) =
      text.flatMap String.utf8EncodeChar := by
  induction text with
  | nil => rfl
  | cons c text inductionHypothesis =>
      have rest := inductionHypothesis (holdsEscape_of_cons noEscape)
      have unfolded : escape set (c :: text) =
          (if set c then (String.utf8EncodeChar c).flatMap escapedByte else [c]) ++
            escape set text := rfl
      rw [unfolded, List.flatMap_append, List.flatMap_cons]
      cases escaped : set c with
      | true => rw [if_pos rfl, unescape_flatMap_escapedByte, rest]
      | false =>
          rw [if_neg Bool.false_ne_true, List.flatMap_singleton]
          -- A percent sign is not resolved for want of digits, other characters hold none.
          by_cases isPercent : c = '%'
          · subst isPercent
            have percentBytes : String.utf8EncodeChar '%' = [0x25] := by decide
            rw [percentBytes, List.singleton_append, unescape_percent_escape noEscape, rest]
            rfl
          · rw [unescape_append_of_notMem (percent_notMem_utf8EncodeChar isPercent), rest]

/-! ## What escaping brings in -/

/-- A text that is escaped has its own characters, percent signs and digits. -/
theorem mem_escape
    {set : Char → Bool}
    {text : List Char}
    {c : Char}
    (member : c ∈ escape set text) :
    (c ∈ text ∧ set c = false) ∨ c = '%' ∨ ∃ n < 16, c = capitalHexDigit n := by
  obtain ⟨source, inText, isWritten⟩ := List.mem_flatMap.mp member
  cases escaped : set source with
  | false =>
      rw [escaped, if_neg Bool.false_ne_true, List.mem_singleton] at isWritten
      subst isWritten
      exact .inl ⟨inText, escaped⟩
  | true =>
      rw [escaped, if_pos rfl] at isWritten
      obtain ⟨b, _, isDigit⟩ := List.mem_flatMap.mp isWritten
      have isByte : b.toNat < 256 := b.toNat_lt
      simp only [escapedByte, List.mem_cons, List.not_mem_nil, or_false] at isDigit
      rcases isDigit with isPercent | isHigh | isLow
      · exact .inr (.inl isPercent)
      · exact .inr (.inr ⟨b.toNat / 16, by omega, isHigh⟩)
      · exact .inr (.inr ⟨b.toNat % 16, by omega, isLow⟩)

/-- Escaping brings no slash into a text. -/
theorem slash_notMem_escape
    {set : Char → Bool}
    {text : List Char}
    (noSlash : '/' ∉ text) :
    '/' ∉ escape set text := by
  have noDigit : ∀ n < 16, '/' ≠ capitalHexDigit n := by decide
  intro member
  rcases mem_escape member with ⟨inText, _⟩ | isPercent | ⟨n, small, isDigit⟩
  · exact noSlash inText
  · cases isPercent
  · exact noDigit n small isDigit

end Http
end KnowledgeClient
