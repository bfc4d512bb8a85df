import KnowledgeClient.Json.Printer
import KnowledgeClient.Json.Scan

/-!
# How numbers are read and printed

A number that is read begins with a digit or a sign and ends before something else; it
is an integer only if 64 bits hold it.  The text of such an integer reads as itself, as
long as what follows does not go on with the number.
-/

namespace KnowledgeClient
namespace Json

/-- Sixty-four bits hold the number, if it is an integer. -/
def Number.InRange : Number → Prop
  | .integer value => -(Nat.pow 2 63 : Int) ≤ value ∧ value < (Nat.pow 2 64 : Int)
  | .fraction _ => True

/-- The text does not go on with a number. -/
def endsNumber : List Char → Bool
  | [] => true
  | c :: _ => !(c.isDigit || c == '.' || c == 'e' || c == 'E')

/-! ## Digits -/

theorem readSignificand_isSuffix
    (significand count : Nat)
    (cs : List Char) :
    (readSignificand significand count cs).2 <:+ cs := by
  induction cs generalizing significand count with
  | nil => exact List.suffix_refl _
  | cons c rest inductionHypothesis =>
      unfold readSignificand
      split
      · exact (inductionHypothesis _ _).trans (List.suffix_cons c rest)
      · exact List.suffix_refl _

/-- A significand stays below the bound. -/
theorem readSignificand_lt
    {significand : Nat}
    (below : significand < Nat.pow 2 64)
    (count : Nat)
    (cs : List Char) :
    (readSignificand significand count cs).1.1 < Nat.pow 2 64 := by
  induction cs generalizing significand count with
  | nil => exact below
  | cons c rest inductionHypothesis =>
      unfold readSignificand
      split
      · rename_i next
        rw [Bool.and_eq_true, decide_eq_true_eq] at next
        exact inductionHypothesis next.2 _
      · exact below

theorem skipDigits_isSuffix
    (count : Nat)
    (cs : List Char) :
    (skipDigits count cs).2 <:+ cs := by
  induction cs generalizing count with
  | nil => exact List.suffix_refl _
  | cons c rest inductionHypothesis =>
      unfold skipDigits
      split
      · exact (inductionHypothesis _).trans (List.suffix_cons c rest)
      · exact List.suffix_refl _

theorem readExponentDigits_isSuffix
    (exponent : Nat)
    (cs : List Char) :
    (readExponentDigits exponent cs).2 <:+ cs := by
  induction cs generalizing exponent with
  | nil => exact List.suffix_refl _
  | cons c rest inductionHypothesis =>
      unfold readExponentDigits
      split
      · split
        · exact (inductionHypothesis _).trans (List.suffix_cons c rest)
        · exact List.suffix_cons c rest
      · exact List.suffix_refl _

theorem readExponentSign_isSuffix (cs : List Char) : (readExponentSign cs).2 <:+ cs := by
  unfold readExponentSign
  split
  · exact List.suffix_cons _ _
  · exact List.suffix_cons _ _
  · exact List.suffix_refl _

/-! ## Numbers that are read -/

section Readings

variable
  {negative : Bool}
  {significand dropped : Nat}
  {exponent : Int}
  {cs after : List Char}
  {number : Number}

theorem fraction_of_finishNumber
    (finishes : finishNumber negative significand exponent cs = .ok (number, after)) :
    after = cs ∧ ∃ value, number = .fraction value := by
  unfold finishNumber at finishes
  split at finishes
  · obtain ⟨rfl, rfl⟩ := Prod.mk.inj (Except.ok.inj finishes)
    exact ⟨rfl, _, rfl⟩
  · cases finishes

theorem fraction_of_readExponent
    (reads : readExponent negative significand exponent cs = .ok (number, after)) :
    after <:+ cs ∧ ∃ value, number = .fraction value := by
  unfold readExponent at reads
  have signSuffix := readExponentSign_isSuffix cs
  rcases sign : readExponentSign cs with ⟨downward, unsigned⟩
  rw [sign] at signSuffix
  simp only [sign] at reads
  cases unsigned with
  | nil => cases reads
  | cons c rest =>
      have inRest : rest <:+ cs := (List.suffix_cons c rest).trans signSuffix
      simp only at reads
      split at reads
      · have digitsSuffix := readExponentDigits_isSuffix (digitValue c) rest
        rcases digits : readExponentDigits (digitValue c) rest with ⟨written | _, last⟩
        · simp only [digits] at reads digitsSuffix
          split at reads
          · cases reads
          · obtain ⟨rfl, rfl⟩ := Prod.mk.inj (Except.ok.inj reads)
            exact ⟨((skipDigits_isSuffix 0 last).trans digitsSuffix).trans inRest, _, rfl⟩
        · simp only [digits] at reads digitsSuffix
          obtain ⟨rfl, isFraction⟩ := fraction_of_finishNumber reads
          exact ⟨digitsSuffix.trans inRest, isFraction⟩
      · cases reads

theorem fraction_of_readFraction
    (reads : readFraction negative significand exponent cs = .ok (number, after)) :
    after <:+ cs ∧ ∃ value, number = .fraction value := by
  unfold readFraction at reads
  have digitsSuffix := readSignificand_isSuffix significand 0 cs
  rcases digits : readSignificand significand 0 cs with ⟨⟨whole, count⟩, rest⟩
  rw [digits] at digitsSuffix
  simp only [digits] at reads
  split at reads
  · cases reads
  · have skipped := (skipDigits_isSuffix 0 rest).trans digitsSuffix
    generalize (skipDigits 0 rest).2 = unread at reads skipped
    split at reads
    · obtain ⟨inUnread, isFraction⟩ := fraction_of_readExponent reads
      exact ⟨inUnread.trans ((List.suffix_cons _ _).trans skipped), isFraction⟩
    · obtain ⟨inUnread, isFraction⟩ := fraction_of_readExponent reads
      exact ⟨inUnread.trans ((List.suffix_cons _ _).trans skipped), isFraction⟩
    · obtain ⟨rfl, isFraction⟩ := fraction_of_finishNumber reads
      exact ⟨skipped, isFraction⟩

/-- The number of an integer is an integer only if 64 bits hold it. -/
theorem inRange_integerNumber
    (below : significand < Nat.pow 2 64) :
    (integerNumber negative significand).InRange := by
  rw [Nat.pow_eq] at below
  unfold integerNumber
  split
  · split
    · trivial
    · rename_i held
      simp only [Bool.or_eq_true, beq_iff_eq, decide_eq_true_eq, not_or, Nat.not_lt,
        Nat.pow_eq] at held
      simp only [Number.InRange, Nat.pow_eq]
      omega
  · simp only [Number.InRange, Nat.pow_eq]
    omega

theorem inRange_of_readAfterInteger
    (below : significand < Nat.pow 2 64)
    (reads : readAfterInteger negative significand dropped cs = .ok (number, after)) :
    after <:+ cs ∧ number.InRange := by
  unfold readAfterInteger at reads
  split at reads
  · obtain ⟨inRest, _, rfl⟩ := fraction_of_readFraction reads
    exact ⟨inRest.trans (List.suffix_cons _ _), trivial⟩
  · obtain ⟨inRest, _, rfl⟩ := fraction_of_readExponent reads
    exact ⟨inRest.trans (List.suffix_cons _ _), trivial⟩
  · obtain ⟨inRest, _, rfl⟩ := fraction_of_readExponent reads
    exact ⟨inRest.trans (List.suffix_cons _ _), trivial⟩
  · split at reads
    · obtain ⟨rfl, rfl⟩ := Prod.mk.inj (Except.ok.inj reads)
      exact ⟨List.suffix_refl _, inRange_integerNumber below⟩
    · obtain ⟨rfl, _, rfl⟩ := fraction_of_finishNumber reads
      exact ⟨List.suffix_refl _, trivial⟩

theorem digitValue_lt
    {c : Char}
    (isDigit : c.isDigit = true) :
    digitValue c < 10 := by
  have bounds : 48 ≤ c.toNat ∧ c.toNat ≤ 57 := by
    simpa [Char.isDigit, UInt32.le_iff_toNat_le] using isDigit
  unfold digitValue
  omega

/-- A number begins with a digit, after its sign. -/
theorem inRange_of_readNumber
    (reads : readNumber negative cs = .ok (number, after)) :
    ∃ c rest, cs = c :: rest ∧ c.isDigit = true ∧ after <:+ rest ∧ number.InRange := by
  unfold readNumber at reads
  split at reads
  · cases reads
  · rename_i rest
    split at reads
    · cases reads
    · obtain ⟨inRest, inRange⟩ := inRange_of_readAfterInteger (by decide) reads
      exact ⟨'0', rest, rfl, rfl, inRest, inRange⟩
  · rename_i c rest _
    split at reads
    · rename_i isDigit
      have start : digitValue c < Nat.pow 2 64 := Nat.lt_trans (digitValue_lt isDigit) (by decide)
      have below := readSignificand_lt start 1 rest
      have digitsSuffix := readSignificand_isSuffix (digitValue c) 1 rest
      rcases digits : readSignificand (digitValue c) 1 rest with ⟨⟨whole, count⟩, unread⟩
      rw [digits] at below digitsSuffix
      simp only [digits] at reads
      obtain ⟨inRest, inRange⟩ := inRange_of_readAfterInteger below reads
      exact ⟨c, rest, rfl, isDigit,
        (inRest.trans (skipDigits_isSuffix 0 unread)).trans digitsSuffix, inRange⟩
    · cases reads

/-- A number begins with a sign or a digit and takes at least that character; 64 bits hold it,
if it is an integer. -/
theorem inRange_of_readSignedNumber
    (reads : readSignedNumber cs = .ok (number, after)) :
    ∃ c rest, cs = c :: rest ∧ (c = '-' ∨ c.isDigit = true) ∧ after <:+ rest ∧
      number.InRange := by
  unfold readSignedNumber at reads
  split at reads
  · rename_i rest
    obtain ⟨c, unread, rfl, _, inUnread, inRange⟩ := inRange_of_readNumber reads
    exact ⟨'-', c :: unread, rfl, .inl rfl, inUnread.trans (List.suffix_cons c unread), inRange⟩
  · obtain ⟨c, rest, same, isDigit, inRest, inRange⟩ := inRange_of_readNumber reads
    exact ⟨c, rest, same, .inr isDigit, inRest, inRange⟩

end Readings

/-! ## Numbers that are printed -/

/-- Further digits make no number smaller. -/
theorem le_ofDigitChars
    (digits : List Char)
    (start : Nat) :
    start ≤ Nat.ofDigitChars 10 digits start := by
  rw [Nat.ofDigitChars_eq_ofDigitChars_zero]
  exact Nat.le_add_right_of_le (Nat.le_mul_of_pos_left _ (Nat.pow_pos (by decide)))

/-- Digits are read onto a significand, if it stays below the bound. -/
theorem readSignificand_append
    {digits after : List Char}
    (areDigits : ∀ c ∈ digits, c.isDigit = true)
    (ends : startsWithDigit after = false)
    (significand count : Nat)
    (below : Nat.ofDigitChars 10 digits significand < Nat.pow 2 64) :
    readSignificand significand count (digits ++ after) =
      ((Nat.ofDigitChars 10 digits significand, count + digits.length), after) := by
  induction digits generalizing significand count with
  | nil =>
      cases after with
      | nil => rfl
      | cons c rest =>
          have notDigit : c.isDigit = false := ends
          simp [readSignificand, notDigit, Nat.ofDigitChars]
  | cons c digits inductionHypothesis =>
      have next : 10 * significand + (c.toNat - '0'.toNat) = significand * 10 + digitValue c := by
        rw [Nat.mul_comm]
        rfl
      rw [Nat.ofDigitChars_cons, next] at below ⊢
      have stays := Nat.lt_of_le_of_lt (le_ofDigitChars digits _) below
      have isDigit := areDigits c List.mem_cons_self
      have further := inductionHypothesis
        (fun other member => areDigits other (List.mem_cons_of_mem c member)) _ (count + 1) below
      simp only [List.cons_append, readSignificand, isDigit, stays, Bool.true_and,
        decide_true, if_true, further, List.length_cons]
      rw [Nat.add_assoc, Nat.add_comm 1]

/-- The first digit of a positive number is not zero. -/
theorem eq_zero_of_toDigits
    {n : Nat}
    {rest : List Char}
    (starts : Nat.toDigits 10 n = '0' :: rest) :
    n = 0 := by
  induction n using Nat.strongRecOn generalizing rest with
  | ind n inductionHypothesis =>
      rcases Nat.lt_or_ge n 10 with small | large
      · have isZero : ∀ n < 10, Nat.digitChar n = '0' → n = 0 := by decide
        rw [Nat.toDigits_of_lt_base small] at starts
        exact isZero n small (List.cons.inj starts).1
      · rw [Nat.toDigits_of_base_le (by decide) large] at starts
        cases leading : Nat.toDigits 10 (n / 10) with
        | nil => exact absurd leading Nat.toDigits_ne_nil
        | cons c digits =>
            rw [leading, List.cons_append] at starts
            obtain ⟨rfl, _⟩ := List.cons.inj starts
            have tens := inductionHypothesis (n / 10) (by omega) leading
            omega

/-- What does not go on with a number is left. -/
theorem readAfterInteger_of_ends
    (negative : Bool)
    (significand : Nat)
    {after : List Char}
    (ends : endsNumber after = true) :
    readAfterInteger negative significand 0 after =
      .ok (integerNumber negative significand, after) := by
  unfold readAfterInteger
  split
  · cases ends
  · cases ends
  · cases ends
  · rfl

theorem startsWithDigit_of_ends
    {after : List Char}
    (ends : endsNumber after = true) :
    startsWithDigit after = false := by
  cases after with
  | nil => rfl
  | cons c rest =>
      simp only [endsNumber, Bool.not_eq_true', Bool.or_eq_false_iff] at ends
      exact ends.1.1.1

theorem skipDigits_of_ends
    {after : List Char}
    (ends : endsNumber after = true) :
    skipDigits 0 after = (0, after) := by
  have notDigit := startsWithDigit_of_ends ends
  cases after with
  | nil => rfl
  | cons c rest =>
      have notDigit : c.isDigit = false := notDigit
      simp [skipDigits, notDigit]

/-- The digits of a number are read back. -/
theorem readNumber_digitChars
    (negative : Bool)
    {n : Nat}
    (below : n < Nat.pow 2 64)
    {after : List Char}
    (ends : endsNumber after = true) :
    readNumber negative (Decimal.digitChars n ++ after) =
      .ok (integerNumber negative n, after) := by
  have value : Nat.ofDigitChars 10 (Nat.toDigits 10 n) 0 = n := Nat.ofDigitChars_ten_toDigits
  have areDigits : ∀ c ∈ Nat.toDigits 10 n, c.isDigit = true := fun c member =>
    Nat.isDigit_of_mem_toDigits (by decide) (by decide) member
  unfold Decimal.digitChars
  cases digits : Nat.toDigits 10 n with
  | nil => exact absurd digits Nat.toDigits_ne_nil
  | cons c rest =>
      rw [digits] at value areDigits
      rw [List.cons_append]
      by_cases isZero : c = '0'
      · subst isZero
        obtain rfl := eq_zero_of_toDigits digits
        rw [Nat.toDigits_zero] at digits
        obtain rfl := (List.cons.inj digits).2
        have noDigit := startsWithDigit_of_ends ends
        simp only [List.nil_append, readNumber, noDigit, Bool.false_eq_true, if_false]
        exact readAfterInteger_of_ends negative 0 ends
      · have isDigit := areDigits c List.mem_cons_self
        have start : 10 * 0 + (c.toNat - '0'.toNat) = digitValue c := by
          rw [Nat.mul_zero, Nat.zero_add]
          rfl
        rw [Nat.ofDigitChars_cons, start] at value
        have reads := readSignificand_append
          (fun other member => areDigits other (List.mem_cons_of_mem c member))
          (startsWithDigit_of_ends ends) (digitValue c) 1 (value.symm ▸ below)
        rw [value] at reads
        unfold readNumber
        split
        · rename_i none
          cases none
        · rename_i same
          exact absurd (List.cons.inj same).1 isZero
        · rename_i first others _ same
          obtain ⟨rfl, rfl⟩ := List.cons.inj same
          simp only [isDigit, if_true, reads, skipDigits_of_ends ends]
          exact readAfterInteger_of_ends negative n ends

/-- The text of an integer that 64 bits hold is read back. -/
theorem readSignedNumber_integerChars
    {value : Int}
    (inRange : (Number.integer value).InRange)
    {after : List Char}
    (ends : endsNumber after = true) :
    readSignedNumber (integerChars value ++ after) = .ok (.integer value, after) := by
  obtain ⟨least, greatest⟩ := inRange
  simp only [Nat.pow_eq] at least greatest
  have below : value.natAbs < Nat.pow 2 64 := by
    rw [Nat.pow_eq]
    omega
  unfold integerChars
  split
  · rename_i isNegative
    have held : (value.natAbs == 0 || decide (Nat.pow 2 63 < value.natAbs)) = false := by
      simp only [Bool.or_eq_false_iff, beq_eq_false_iff_ne, decide_eq_false_iff_not, Nat.pow_eq]
      omega
    have same : -(value.natAbs : Int) = value := by omega
    simp only [List.cons_append, readSignedNumber]
    rw [readNumber_digitChars true below ends]
    simp only [integerNumber, held, if_true, Bool.false_eq_true, if_false, same]
  · rename_i notNegative
    have same : (value.natAbs : Int) = value := by omega
    have unsigned : ∀ rest, Decimal.digitChars value.natAbs ++ after ≠ '-' :: rest := by
      intro rest starts
      cases digits : Decimal.digitChars value.natAbs with
      | nil => exact absurd digits Nat.toDigits_ne_nil
      | cons c others =>
          have member : c ∈ Decimal.digitChars value.natAbs := digits ▸ List.mem_cons_self
          have isDigit : c.isDigit = true :=
            Nat.isDigit_of_mem_toDigits (by decide) (by decide) member
          rw [digits, List.cons_append] at starts
          rw [(List.cons.inj starts).1] at isDigit
          cases isDigit
    unfold readSignedNumber
    split
    · rename_i rest starts
      exact absurd starts (unsigned rest)
    · rw [readNumber_digitChars false below ends]
      simp only [integerNumber, Bool.false_eq_true, if_false, same]

end Json
end KnowledgeClient
