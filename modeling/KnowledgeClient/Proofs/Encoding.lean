import KnowledgeClient.Text.Utf8
import Mathlib.Data.List.Basic
import Mathlib.Tactic.SplitIfs

/-!
# Texts and their bytes

The well-formed sequences of bytes are told by a table: how many bytes follow the first one,
which bounds the second one keeps so that no code is written longer than it has to be, is a
surrogate or is too large, and which code it gives.  Characters are encoded by just these
sequences, and bytes are taken apart into just these.  So bytes are decoded exactly if they
are the encoding of a text, and give that text.
-/

namespace KnowledgeClient
namespace Text

/-- The bytes are a well-formed sequence for the code. -/
inductive Sequence : Bytes → Nat → Prop
  | one
      {b : UInt8}
      {code : Nat}
      (below : b.toNat ≤ 0x7F)
      (isCode : code = b.toNat) :
      Sequence [b] code
  | two
      {b x : UInt8}
      {code : Nat}
      (above : 0xC2 ≤ b.toNat)
      (below : b.toNat ≤ 0xDF)
      (second : 0x80 ≤ x.toNat ∧ x.toNat ≤ 0xBF)
      (isCode : code = (b.toNat - 0xC0) * 64 + x.toNat % 64) :
      Sequence [b, x] code
  | three
      {b x y : UInt8}
      {code : Nat}
      (above : 0xE0 ≤ b.toNat)
      (below : b.toNat ≤ 0xEF)
      (second : 0x80 ≤ x.toNat ∧ x.toNat ≤ 0xBF)
      (notLonger : b.toNat = 0xE0 → 0xA0 ≤ x.toNat)
      (notSurrogate : b.toNat = 0xED → x.toNat ≤ 0x9F)
      (third : 0x80 ≤ y.toNat ∧ y.toNat ≤ 0xBF)
      (isCode : code = ((b.toNat - 0xE0) * 64 + x.toNat % 64) * 64 + y.toNat % 64) :
      Sequence [b, x, y] code
  | four
      {b x y z : UInt8}
      {code : Nat}
      (above : 0xF0 ≤ b.toNat)
      (below : b.toNat ≤ 0xF4)
      (second : 0x80 ≤ x.toNat ∧ x.toNat ≤ 0xBF)
      (notLonger : b.toNat = 0xF0 → 0x90 ≤ x.toNat)
      (notLarge : b.toNat = 0xF4 → x.toNat ≤ 0x8F)
      (third : 0x80 ≤ y.toNat ∧ y.toNat ≤ 0xBF)
      (fourth : 0x80 ≤ z.toNat ∧ z.toNat ≤ 0xBF)
      (isCode : code = (((b.toNat - 0xF0) * 64 + x.toNat % 64) * 64 + y.toNat % 64) * 64 +
        z.toNat % 64) :
      Sequence [b, x, y, z] code

/-! ## Sequences of characters -/

section Encoding

variable {c : Char}

theorem toNat_ofNat_of_lt
    {n : Nat}
    (isByte : n < 256) :
    (UInt8.ofNat n).toNat = n := by
  rw [UInt8.toNat_ofNat', Nat.mod_eq_of_lt isByte]

theorem ofNat_eq_iff_of_lt
    {n : Nat}
    {b : UInt8}
    (isByte : n < 256) :
    UInt8.ofNat n = b ↔ n = b.toNat := by
  rw [← UInt8.toNat_inj, toNat_ofNat_of_lt isByte]

theorem toNat_charOfNat
    {code : Nat}
    (valid : code.isValidChar) :
    (Char.ofNat code).toNat = code := by
  rw [Char.ofNat, dif_pos valid]
  rfl

theorem utf8EncodeChar_one (below : c.toNat ≤ 0x7F) :
    String.utf8EncodeChar c = [UInt8.ofNat c.toNat] := by
  have code : c.val.toNat = c.toNat := rfl
  simp only [String.utf8EncodeChar, code]
  rw [if_pos below]

theorem utf8EncodeChar_two
    (above : 0x80 ≤ c.toNat)
    (below : c.toNat ≤ 0x7FF) :
    String.utf8EncodeChar c =
      [UInt8.ofNat (c.toNat / 64 + 0xC0), UInt8.ofNat (c.toNat % 64 + 0x80)] := by
  have code : c.val.toNat = c.toNat := rfl
  simp only [String.utf8EncodeChar, code]
  rw [if_neg (by omega), if_pos (by omega), Nat.mod_eq_of_lt (by omega)]

theorem utf8EncodeChar_three
    (above : 0x800 ≤ c.toNat)
    (below : c.toNat ≤ 0xFFFF) :
    String.utf8EncodeChar c =
      [UInt8.ofNat (c.toNat / 4096 + 0xE0), UInt8.ofNat (c.toNat / 64 % 64 + 0x80),
        UInt8.ofNat (c.toNat % 64 + 0x80)] := by
  have code : c.val.toNat = c.toNat := rfl
  have small : c.toNat / 4096 < 16 := by omega
  simp only [String.utf8EncodeChar, code]
  rw [if_neg (by omega), if_neg (by omega), if_pos (by omega), Nat.mod_eq_of_lt small]

theorem isValidChar_toNat (c : Char) : c.toNat < 0xD800 ∨ 0xDFFF < c.toNat ∧ c.toNat < 0x110000 :=
  c.valid

theorem utf8EncodeChar_four (above : 0x10000 ≤ c.toNat) :
    String.utf8EncodeChar c =
      [UInt8.ofNat (c.toNat / 262144 + 0xF0), UInt8.ofNat (c.toNat / 4096 % 64 + 0x80),
        UInt8.ofNat (c.toNat / 64 % 64 + 0x80), UInt8.ofNat (c.toNat % 64 + 0x80)] := by
  have code : c.val.toNat = c.toNat := rfl
  have valid := isValidChar_toNat c
  have small : c.toNat / 262144 < 8 := by omega
  simp only [String.utf8EncodeChar, code]
  rw [if_neg (by omega), if_neg (by omega), if_neg (by omega), Nat.mod_eq_of_lt small]

/-- A character is encoded by a sequence for its code. -/
theorem sequence_utf8EncodeChar (c : Char) : Sequence (String.utf8EncodeChar c) c.toNat := by
  have valid := isValidChar_toNat c
  by_cases one : c.toNat ≤ 0x7F
  · rw [utf8EncodeChar_one one]
    refine .one ?_ ?_ <;> rw [toNat_ofNat_of_lt (by omega)]
    exact one
  by_cases two : c.toNat ≤ 0x7FF
  · rw [utf8EncodeChar_two (by omega) two]
    refine .two ?_ ?_ ?_ ?_ <;> simp (disch := omega) only [toNat_ofNat_of_lt] <;> omega
  by_cases three : c.toNat ≤ 0xFFFF
  · rw [utf8EncodeChar_three (by omega) three]
    refine .three ?_ ?_ ?_ ?_ ?_ ?_ ?_ <;> simp (disch := omega) only [toNat_ofNat_of_lt] <;> omega
  · rw [utf8EncodeChar_four (by omega)]
    refine .four ?_ ?_ ?_ ?_ ?_ ?_ ?_ ?_ <;>
      simp (disch := omega) only [toNat_ofNat_of_lt] <;> omega

/-- A sequence for a code encodes the character with that code. -/
theorem utf8EncodeChar_of_sequence
    {bytes : Bytes}
    {code : Nat}
    (sequence : Sequence bytes code) :
    String.utf8EncodeChar (Char.ofNat code) = bytes := by
  have valid : code.isValidChar := by
    unfold Nat.isValidChar
    cases sequence <;> omega
  have isCode := toNat_charOfNat valid
  cases sequence with
  | one =>
      rw [utf8EncodeChar_one (by omega), isCode]
      simp (disch := omega) only [List.cons.injEq, ofNat_eq_iff_of_lt, and_true]
      omega
  | two =>
      rw [utf8EncodeChar_two (by omega) (by omega), isCode]
      simp (disch := omega) only [List.cons.injEq, ofNat_eq_iff_of_lt, and_true]
      omega
  | three =>
      rw [utf8EncodeChar_three (by omega) (by omega), isCode]
      simp (disch := omega) only [List.cons.injEq, ofNat_eq_iff_of_lt, and_true]
      omega
  | four =>
      rw [utf8EncodeChar_four (by omega), isCode]
      simp (disch := omega) only [List.cons.injEq, ofNat_eq_iff_of_lt, and_true]
      omega

end Encoding

/-! ## Sequences that are read -/

section Reading

variable
  {b : UInt8}
  {lead : Lead}
  {tail : Bytes}
  {code : Nat}

/-- What a byte announces that begins a sequence of two or more bytes. -/
inductive Announces (b : UInt8) : Lead → Prop
  | two
      (above : 0xC2 ≤ b.toNat)
      (below : b.toNat ≤ 0xDF) :
      Announces b ⟨1, b.toNat - 0xC0, 0x80, 0xBF⟩
  | three
      (above : 0xE0 ≤ b.toNat)
      (below : b.toNat ≤ 0xEF) :
      Announces b ⟨2, b.toNat - 0xE0, if b.toNat = 0xE0 then 0xA0 else 0x80,
        if b.toNat = 0xED then 0x9F else 0xBF⟩
  | four
      (above : 0xF0 ≤ b.toNat)
      (below : b.toNat ≤ 0xF4) :
      Announces b ⟨3, b.toNat - 0xF0, if b.toNat = 0xF0 then 0x90 else 0x80,
        if b.toNat = 0xF4 then 0x8F else 0xBF⟩

theorem lead?_eq (b : UInt8) :
    lead? b =
      if 0xC2 ≤ b.toNat ∧ b.toNat ≤ 0xDF then some ⟨1, b.toNat - 0xC0, 0x80, 0xBF⟩
      else if 0xE0 ≤ b.toNat ∧ b.toNat ≤ 0xEF then
        some ⟨2, b.toNat - 0xE0, if b.toNat = 0xE0 then 0xA0 else 0x80,
          if b.toNat = 0xED then 0x9F else 0xBF⟩
      else if 0xF0 ≤ b.toNat ∧ b.toNat ≤ 0xF4 then
        some ⟨3, b.toNat - 0xF0, if b.toNat = 0xF0 then 0x90 else 0x80,
          if b.toNat = 0xF4 then 0x8F else 0xBF⟩
      else none := by
  have fiveBits : (b &&& 0x1F).toNat = b.toNat % 32 :=
    (UInt8.toNat_and _ _).trans (Nat.and_two_pow_sub_one_eq_mod b.toNat 5)
  have fourBits : (b &&& 0x0F).toNat = b.toNat % 16 :=
    (UInt8.toNat_and _ _).trans (Nat.and_two_pow_sub_one_eq_mod b.toNat 4)
  have threeBits : (b &&& 0x07).toNat = b.toNat % 8 :=
    (UInt8.toNat_and _ _).trans (Nat.and_two_pow_sub_one_eq_mod b.toNat 3)
  unfold lead?
  simp only [fiveBits, fourBits, threeBits, UInt8.le_iff_toNat_le, beq_iff_eq, Bool.and_eq_true,
    decide_eq_true_eq, ← UInt8.toNat_inj, UInt8.reduceToNat]
  -- both sides ask for the byte; where their answers differ the byte would lie nowhere
  split_ifs
  all_goals first
    | omega
    | (simp only [Option.some.injEq, Lead.mk.injEq, and_true, true_and]; omega)
    | rfl

theorem lead?_eq_some_iff (b : UInt8) (lead : Lead) : lead? b = some lead ↔ Announces b lead := by
  rw [lead?_eq]
  constructor
  · intro isLead
    by_cases two : 0xC2 ≤ b.toNat ∧ b.toNat ≤ 0xDF
    · rw [if_pos two] at isLead
      obtain rfl := Option.some.inj isLead
      exact .two two.1 two.2
    rw [if_neg two] at isLead
    by_cases three : 0xE0 ≤ b.toNat ∧ b.toNat ≤ 0xEF
    · rw [if_pos three] at isLead
      obtain rfl := Option.some.inj isLead
      exact .three three.1 three.2
    rw [if_neg three] at isLead
    by_cases four : 0xF0 ≤ b.toNat ∧ b.toNat ≤ 0xF4
    · rw [if_pos four] at isLead
      obtain rfl := Option.some.inj isLead
      exact .four four.1 four.2
    · rw [if_neg four] at isLead
      cases isLead
  · rintro (⟨above, below⟩ | ⟨above, below⟩ | ⟨above, below⟩)
    · rw [if_pos ⟨above, below⟩]
    · rw [if_neg (by omega), if_pos ⟨above, below⟩]
    · rw [if_neg (by omega), if_neg (by omega), if_pos ⟨above, below⟩]

/-- The bytes continue a sequence within bounds for the first of them: they bring the bits that
were read before to a code. -/
inductive Continues : UInt8 → UInt8 → Nat → Bytes → Nat → Prop
  | done (low high : UInt8) (code : Nat) : Continues low high code [] code
  | more
      {low high b : UInt8}
      {bits code : Nat}
      {tail : Bytes}
      (above : low.toNat ≤ b.toNat)
      (below : b.toNat ≤ high.toNat)
      (further : Continues 0x80 0xBF (bits * 64 + b.toNat % 64) tail code) :
      Continues low high bits (b :: tail) code

theorem continueSequence_eq_some_iff
    (count : Nat)
    (low high : UInt8)
    (bits code : Nat)
    (bytes after : Bytes) :
    continueSequence count low high bits bytes = (some code, after) ↔
      ∃ tail, tail.length = count ∧ Continues low high bits tail code ∧ bytes = tail ++ after := by
  induction count generalizing low high bits bytes with
  | zero =>
      simp only [continueSequence, Prod.mk.injEq, Option.some.injEq, List.length_eq_zero_iff]
      constructor
      · rintro ⟨rfl, rfl⟩
        exact ⟨[], rfl, .done _ _ _, rfl⟩
      · rintro ⟨_, rfl, ⟨⟩, rfl⟩
        exact ⟨rfl, rfl⟩
  | succ count inductionHypothesis =>
      cases bytes with
      | nil =>
          refine iff_of_false (by simp [continueSequence]) ?_
          rintro ⟨_ | ⟨b, tail⟩, hasLength, _, isBytes⟩
          · cases hasLength
          · cases isBytes
      | cons b rest =>
          have fits_iff : (low ≤ b && b ≤ high) = true ↔
              low.toNat ≤ b.toNat ∧ b.toNat ≤ high.toNat := by
            rw [Bool.and_eq_true, decide_eq_true_eq, decide_eq_true_eq, UInt8.le_iff_toNat_le,
              UInt8.le_iff_toNat_le]
          have sixBits : (b &&& 0x3F).toNat = b.toNat % 64 :=
            (UInt8.toNat_and _ _).trans (Nat.and_two_pow_sub_one_eq_mod b.toNat 6)
          rw [continueSequence, sixBits]
          by_cases fits : low.toNat ≤ b.toNat ∧ b.toNat ≤ high.toNat
          · rw [if_pos (fits_iff.mpr fits), inductionHypothesis]
            constructor
            · rintro ⟨tail, hasLength, continues, rfl⟩
              exact ⟨b :: tail, congrArg Nat.succ hasLength, .more fits.1 fits.2 continues, rfl⟩
            · rintro ⟨_ | ⟨first, tail⟩, hasLength, continues, isBytes⟩
              · cases hasLength
              · obtain ⟨rfl, rfl⟩ := List.cons.inj isBytes
                cases continues with
                | more _ _ further => exact ⟨tail, Nat.succ.inj hasLength, further, rfl⟩
          · rw [if_neg (mt fits_iff.mp fits)]
            refine iff_of_false (by simp) ?_
            rintro ⟨_ | ⟨first, tail⟩, hasLength, continues, isBytes⟩
            · cases hasLength
            · obtain ⟨rfl, rfl⟩ := List.cons.inj isBytes
              cases continues with
              | more above below _ => exact fits ⟨above, below⟩

/-- What is read as announced is a sequence. -/
theorem sequence_of_continues
    (announces : Announces b lead)
    (hasLength : tail.length = lead.continuing)
    (continues : Continues lead.low lead.high lead.bits tail code) :
    Sequence (b :: tail) code := by
  cases announces with
  | two above below =>
      obtain ⟨x, rfl⟩ := List.length_eq_one_iff.mp hasLength
      obtain _ | ⟨aboveX, belowX, further⟩ := continues
      cases further
      exact .two above below ⟨aboveX, belowX⟩ rfl
  | three above below =>
      obtain ⟨x, y, rfl⟩ := List.length_eq_two.mp hasLength
      obtain _ | ⟨aboveX, belowX, further⟩ := continues
      obtain _ | ⟨aboveY, belowY, further⟩ := further
      cases further
      simp only [apply_ite UInt8.toNat, UInt8.reduceToNat] at aboveX belowX
      refine .three above below ⟨?_, ?_⟩ ?_ ?_ ⟨aboveY, belowY⟩ rfl <;>
        split_ifs at aboveX belowX <;> omega
  | four above below =>
      obtain ⟨x, y, z, rfl⟩ := List.length_eq_three.mp hasLength
      obtain _ | ⟨aboveX, belowX, further⟩ := continues
      obtain _ | ⟨aboveY, belowY, further⟩ := further
      obtain _ | ⟨aboveZ, belowZ, further⟩ := further
      cases further
      simp only [apply_ite UInt8.toNat, UInt8.reduceToNat] at aboveX belowX
      refine .four above below ⟨?_, ?_⟩ ?_ ?_ ⟨aboveY, belowY⟩ ⟨aboveZ, belowZ⟩ rfl <;>
        split_ifs at aboveX belowX <;> omega

/-- A sequence of several bytes is read as its first byte announces. -/
theorem continues_of_sequence
    (sequence : Sequence (b :: tail) code)
    (large : 0x80 ≤ b.toNat) :
    ∃ lead, Announces b lead ∧ tail.length = lead.continuing ∧
      Continues lead.low lead.high lead.bits tail code := by
  cases sequence with
  | one below => omega
  | two above below second isCode =>
      subst isCode
      exact ⟨_, .two above below, rfl, .more second.1 second.2 (.done _ _ _)⟩
  | three above below second notLonger notSurrogate third isCode =>
      subst isCode
      refine ⟨_, .three above below, rfl,
        .more ?_ ?_ (.more third.1 third.2 (.done _ _ _))⟩ <;>
        simp only [apply_ite UInt8.toNat, UInt8.reduceToNat] <;> split_ifs <;> omega
  | four above below second notLonger notLarge third fourth isCode =>
      subst isCode
      refine ⟨_, .four above below, rfl,
        .more ?_ ?_ (.more third.1 third.2 (.more fourth.1 fourth.2 (.done _ _ _)))⟩ <;>
        simp only [apply_ite UInt8.toNat, UInt8.reduceToNat] <;> split_ifs <;> omega

theorem lt_iff_toNat_lt (b : UInt8) : b < 0x80 ↔ b.toNat < 0x80 :=
  UInt8.lt_iff_toNat_lt

/-- Bytes whose first part is a character begin with the encoding of the character. -/
theorem eq_append_of_firstPart
    {rest after : Bytes}
    {c : Char}
    (isPart : firstPart b rest = (some c, after)) :
    b :: rest = String.utf8EncodeChar c ++ after := by
  unfold firstPart at isPart
  by_cases small : b.toNat < 0x80
  · rw [if_pos ((lt_iff_toNat_lt b).mpr small)] at isPart
    obtain ⟨isChar, rfl⟩ := Prod.mk.inj isPart
    obtain rfl := Option.some.inj isChar
    rw [utf8EncodeChar_of_sequence (.one (Nat.le_of_lt_succ small) rfl)]
    rfl
  · rw [if_neg (mt (lt_iff_toNat_lt b).mp small)] at isPart
    cases isLead : lead? b with
    | none =>
        rw [isLead] at isPart
        cases isPart
    | some lead =>
        rw [isLead] at isPart
        dsimp only at isPart
        rcases run : continueSequence lead.continuing lead.low lead.high lead.bits rest with
          ⟨_ | code, unread⟩
        · rw [run] at isPart
          cases isPart
        · rw [run] at isPart
          obtain ⟨isChar, rfl⟩ := Prod.mk.inj isPart
          obtain rfl := Option.some.inj isChar
          obtain ⟨tail, hasLength, continues, rfl⟩ :=
            (continueSequence_eq_some_iff _ _ _ _ _ _ _).mp run
          have announces := (lead?_eq_some_iff b lead).mp isLead
          rw [utf8EncodeChar_of_sequence (sequence_of_continues announces hasLength continues)]
          rfl

/-- The first part of bytes that begin with the encoding of a character is that character. -/
theorem firstPart_of_encoding
    {c : Char}
    (encoding : String.utf8EncodeChar c = b :: tail)
    (after : Bytes) :
    firstPart b (tail ++ after) = (some c, after) := by
  have sequence := sequence_utf8EncodeChar c
  rw [encoding] at sequence
  have isChar : Char.ofNat c.toNat = c := Char.ofNat_toNat c
  unfold firstPart
  by_cases small : b.toNat < 0x80
  · rw [if_pos ((lt_iff_toNat_lt b).mpr small)]
    cases sequence with
    | one below isCode =>
        rw [← isCode, isChar]
        rfl
    | _ => omega
  · rw [if_neg (mt (lt_iff_toNat_lt b).mp small)]
    obtain ⟨lead, announces, hasLength, continues⟩ :=
      continues_of_sequence sequence (Nat.le_of_not_lt small)
    have run := (continueSequence_eq_some_iff _ _ _ _ _ (tail ++ after) after).mpr
      ⟨tail, hasLength, continues, rfl⟩
    rw [(lead?_eq_some_iff b lead).mpr announces]
    simp only [run, Option.map_some, isChar]

end Reading

/-! ## Decoding -/

theorem exists_utf8EncodeChar_eq_cons (c : Char) :
    ∃ b tail, String.utf8EncodeChar c = b :: tail := by
  cases encoding : String.utf8EncodeChar c with
  | nil =>
      have sequence := sequence_utf8EncodeChar c
      rw [encoding] at sequence
      cases sequence
  | cons b tail => exact ⟨b, tail, rfl⟩

/-- The encoding of a text is taken apart into its characters. -/
theorem partsUpTo_flatMap
    {text : List Char}
    {fuel : Nat}
    (lasts : (text.flatMap String.utf8EncodeChar).length ≤ fuel) :
    partsUpTo fuel (text.flatMap String.utf8EncodeChar) = text.map some := by
  induction text generalizing fuel with
  | nil => cases fuel <;> rfl
  | cons c text inductionHypothesis =>
      obtain ⟨b, tail, encoding⟩ := exists_utf8EncodeChar_eq_cons c
      rw [List.flatMap_cons, encoding, List.cons_append] at lasts ⊢
      cases fuel with
      | zero => cases lasts
      | succ fuel =>
          rw [List.length_cons, List.length_append] at lasts
          rw [partsUpTo, firstPart_of_encoding encoding]
          dsimp only
          rw [inductionHypothesis (by omega), List.map_cons]

/-- Bytes that are taken apart into the characters of a text are its encoding. -/
theorem eq_flatMap_of_partsUpTo
    {fuel : Nat}
    {bytes : Bytes}
    {text : List Char}
    (lasts : bytes.length ≤ fuel)
    (areParts : partsUpTo fuel bytes = text.map some) :
    bytes = text.flatMap String.utf8EncodeChar := by
  induction fuel generalizing bytes text with
  | zero =>
      obtain rfl := List.length_eq_zero_iff.mp (Nat.le_zero.mp lasts)
      cases text with
      | nil => rfl
      | cons c text => cases areParts
  | succ fuel inductionHypothesis =>
      cases bytes with
      | nil =>
          cases text with
          | nil => rfl
          | cons c text => cases areParts
      | cons b rest =>
          cases text with
          | nil => cases areParts
          | cons c text =>
              rcases isPart : firstPart b rest with ⟨part, after⟩
              rw [partsUpTo, isPart] at areParts
              obtain ⟨rfl, areFurther⟩ := List.cons.inj areParts
              have isEncoding := eq_append_of_firstPart isPart
              obtain ⟨first, tail, encoding⟩ := exists_utf8EncodeChar_eq_cons c
              have sameLength := congrArg List.length isEncoding
              rw [encoding, List.length_append, List.length_cons, List.length_cons] at sameLength
              rw [List.length_cons] at lasts
              rw [isEncoding, List.flatMap_cons, inductionHypothesis (by omega) areFurther]

theorem mapM_id_eq_some_iff
    (parts : List (Option Char))
    (text : List Char) :
    parts.mapM id = some text ↔ parts = text.map some := by
  induction parts generalizing text with
  | nil => cases text <;> simp
  | cons part parts inductionHypothesis =>
      cases part with
      | none => cases text <;> simp
      | some c =>
          cases text with
          | nil => simp [Option.bind_eq_some_iff]
          | cons other text =>
              simp only [List.mapM_cons, id, Option.pure_def, Option.bind_eq_bind, Option.bind_some,
                Option.bind_eq_some_iff, Option.some.injEq, List.cons.injEq, inductionHypothesis,
                List.map_cons]
              exact ⟨fun ⟨_, areChars, isFirst, same⟩ => ⟨isFirst, same ▸ areChars⟩,
                fun ⟨isFirst, areChars⟩ => ⟨text, areChars, isFirst, rfl⟩⟩

/-- Bytes are decoded exactly if they are the encoding of a text, and give that text. -/
theorem decode?_eq_some_iff
    (bytes : Bytes)
    (text : String) :
    decode? bytes = some text ↔ bytes = encode text := by
  have isText : decode? bytes = some text ↔ (parts bytes).mapM id = some text.toList := by
    rw [decode?, Option.map_eq_some_iff]
    constructor
    · rintro ⟨chars, areChars, rfl⟩
      rw [areChars, String.toList_ofList]
    · intro areChars
      exact ⟨_, areChars, String.ofList_toList⟩
  rw [isText, mapM_id_eq_some_iff, parts, encode]
  constructor
  · exact eq_flatMap_of_partsUpTo (Nat.le_refl _)
  · rintro rfl
    exact partsUpTo_flatMap (Nat.le_refl _)

/-- No two texts have one encoding. -/
theorem encode_inj {text other : String} : encode text = encode other ↔ text = other := by
  have isDecoded := (decode?_eq_some_iff (encode text) text).mpr rfl
  rw [← decode?_eq_some_iff, isDecoded, Option.some.injEq]

end Text
end KnowledgeClient
