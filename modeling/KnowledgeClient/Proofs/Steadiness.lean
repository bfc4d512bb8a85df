import KnowledgeClient.Proofs.Records
import KnowledgeClient.Proofs.Skipping

/-!
# Readers that look at values only

A reader of contents is steady if whatever it reads it passes over as a value, and takes it for
the same content wherever else it stands: what comes before and after a value, and in what
order the values of an object come, makes no difference to it.  Every reader of the contents of
fields is steady: texts, flags, integers, nulls, contents that may be null, names of variants,
and lists of what a steady reader reads.
-/

namespace KnowledgeClient
namespace Json

variable
  {α β : Type}
  {read : List Char → Read α}
  {before cs rest last after unread inside chars : List Char}
  {content : α}
  {first : Bool}

/-- The reader takes the characters for the content wherever they stand, if the text after them
does not go on with a number. -/
def Takes
    (read : List Char → Read α)
    (chars : List Char)
    (content : α) : Prop :=
  ∀ before after, skipSpace before = chars ++ after → endsNumber after = true →
    read before = .ok (content, after)

/-- What is read is passed over as a value, and is taken for the same content wherever it
stands. -/
def IsSteady (read : List Char → Read α) : Prop :=
  ∀ before content after, read before = .ok (content, after) →
    skipValue before = .ok after ∧
      ∃ chars, skipSpace before = chars ++ after ∧ Takes read chars content

/-- A reader that reads whatever begins with one of the forms of a content takes a value for a
content exactly if the value has one of its forms. -/
theorem takes_iff
    {Forms : α → List Char → Prop}
    (reads : ∀ before content after, read before = .ok (content, after) ↔
      ∃ chars, Forms content chars ∧ skipSpace before = chars ++ after)
    (isValue : IsValue chars) :
    Takes read chars content ↔ Forms content chars := by
  constructor
  · intro takes
    obtain ⟨found, forms, same⟩ :=
      (reads _ _ _).mp (takes (chars ++ []) [] (isValue.skipSpace_append []) rfl)
    rw [isValue.skipSpace_append] at same
    obtain rfl := List.append_cancel_right same
    exact forms
  · exact fun forms before after starts _ => (reads _ _ _).mpr ⟨chars, forms, starts⟩

namespace IsSteady

/-- What a steady reader reads has the form of a value. -/
theorem exists_isValue
    (steady : IsSteady read)
    (reads : read before = .ok (content, after)) :
    ∃ chars, IsValue chars ∧ skipSpace before = chars ++ after ∧ Takes read chars content := by
  obtain ⟨skips, chars, same, takes⟩ := steady _ _ _ reads
  obtain ⟨passed, isValue, starts⟩ := isValue_of_skipValue skips
  obtain rfl := List.append_cancel_right (starts.symm.trans same)
  exact ⟨passed, isValue, starts, takes⟩

/-- A reader is steady that reads whatever begins with one of the forms of a content. -/
theorem of_iff
    (Forms : α → List Char → Prop)
    (reads : ∀ before content after, read before = .ok (content, after) ↔
      ∃ chars, Forms content chars ∧ skipSpace before = chars ++ after)
    (isValue : ∀ content chars, Forms content chars → IsValue chars)
    (notNumeral : ∀ content chars, Forms content chars → ¬ IsNumeral chars) :
    IsSteady read := by
  intro before content after isRead
  obtain ⟨chars, forms, starts⟩ := (reads _ _ _).mp isRead
  refine ⟨(isValue _ _ forms).skipValue starts fun isNumeral =>
    absurd isNumeral (notNumeral _ _ forms), chars, starts, fun other last otherStarts _ => ?_⟩
  exact (reads _ _ _).mpr ⟨chars, forms, otherStarts⟩

/-- A reader is steady that makes something of what a steady reader reads. -/
theorem map
    {other : List Char → Read β}
    {function : α → β}
    (steady : IsSteady read)
    (same : ∀ cs, other cs = (read cs).map fun (content, rest) => (function content, rest)) :
    IsSteady other := by
  intro before content after reads
  rw [same] at reads
  obtain ⟨⟨found, rest⟩, isRead, isContent⟩ := Except.map_eq_ok_iff.mp reads
  obtain ⟨rfl, rfl⟩ := Prod.mk.inj isContent
  obtain ⟨skips, chars, starts, takes⟩ := steady _ _ _ isRead
  refine ⟨skips, chars, starts, fun others last otherStarts ends => ?_⟩
  rw [same, takes others last otherStarts ends]
  rfl

end IsSteady

/-- What begins with something else than a sign or a digit is no number. -/
theorem not_isNumeral_cons
    {c : Char}
    (notSign : c ≠ '-')
    (notDigit : c.isDigit = false)
    (rest : List Char) :
    ¬ IsNumeral (c :: rest) := by
  intro isNumeral
  obtain ⟨other, tail, same, isNumeric⟩ := isNumeral.starts
  obtain ⟨rfl, _⟩ := List.cons.inj same
  exact ne_of_isNumeric isNumeric c notSign notDigit rfl

theorem stopAtType_ne_ok
    (wanted : Wanted)
    (cs : List Char)
    (found : α) :
    stopAtType wanted cs ≠ .ok found := by
  unfold stopAtType
  cases cs with
  | nil => nofun
  | cons c rest =>
      dsimp only
      split
      · nofun
      · split
        · nofun
        · rcases readValueWith (stopPast .expectedValue) (c :: rest) with stop | ⟨value, unread⟩
          · nofun
          · cases value <;> nofun

/-! ## Texts, words and what may be null -/

theorem readText_eq_ok_iff
    (before : List Char)
    (text : String)
    (after : List Char) :
    readText before = .ok (text, after) ↔
      ∃ chars, Quotes chars text ∧ skipSpace before = chars ++ after := by
  unfold readText
  constructor
  · intro reads
    split at reads
    · cases reads
    · rename_i opened starts
      obtain ⟨chars, quotes, same⟩ := Quotes.of_spells ((readString_eq_ok_iff _ _ _).mp reads)
      exact ⟨chars, quotes, starts.trans same⟩
    · exact absurd reads (stopAtType_ne_ok _ _ _)
  · rintro ⟨chars, quotes, starts⟩
    obtain ⟨ending, rfl, spells⟩ := quotes.spells
    rw [starts]
    exact (readString_eq_ok_iff _ _ _).mpr (spells after)

theorem steady_readText : IsSteady readText :=
  .of_iff (fun text chars => Quotes chars text) readText_eq_ok_iff
    (fun _ _ quotes => .scalar (.text quotes.isString)) <| by
    rintro text chars ⟨ending, rfl, _⟩
    exact not_isNumeral_cons (by decide) rfl ending

theorem readFlag_eq_ok_iff
    (before : List Char)
    (value : Bool)
    (after : List Char) :
    readFlag before = .ok (value, after) ↔ skipSpace before = flagChars value ++ after := by
  have word : ∀ {letters cs : List Char} {flag : Bool},
      (readWord letters cs).map (flag, ·) = .ok (value, after) ↔
        flag = value ∧ cs = letters ++ after := by
    intro letters cs flag
    rw [Except.map_eq_ok_iff]
    simp only [readWord_eq_ok_iff, Prod.mk.injEq]
    exact ⟨fun ⟨_, same, isFlag, isAfter⟩ => ⟨isFlag, isAfter ▸ same⟩,
      fun ⟨isFlag, same⟩ => ⟨after, same, isFlag, rfl⟩⟩
  unfold readFlag
  constructor
  · intro reads
    split at reads
    · cases reads
    · rename_i starts
      obtain ⟨rfl, rfl⟩ := word.mp reads
      exact starts
    · rename_i starts
      obtain ⟨rfl, rfl⟩ := word.mp reads
      exact starts
    · exact absurd reads (stopAtType_ne_ok _ _ _)
  · intro starts
    rw [starts]
    cases value with
    | true => exact word.mpr ⟨rfl, rfl⟩
    | false => exact word.mpr ⟨rfl, rfl⟩

theorem not_isNumeral_flagChars (value : Bool) : ¬ IsNumeral (flagChars value) := by
  cases value with
  | true => exact not_isNumeral_cons (by decide) rfl _
  | false => exact not_isNumeral_cons (by decide) rfl _

theorem steady_readFlag : IsSteady readFlag := by
  refine .of_iff (fun value chars => chars = flagChars value) (fun before value after => ?_) ?_ ?_
  · simp [readFlag_eq_ok_iff]
  · rintro value _ rfl
    exact .scalar (.flag value)
  · rintro value _ rfl
    exact not_isNumeral_flagChars value

theorem readNull_eq_ok_iff
    {found : α} :
    (readWord ['u', 'l', 'l'] rest).map (found, ·) = .ok (content, after) ↔
      content = found ∧ 'n' :: rest = nullChars ++ after := by
  rw [Except.map_eq_ok_iff]
  simp only [readWord_eq_ok_iff, Prod.mk.injEq]
  constructor
  · rintro ⟨_, rfl, rfl, rfl⟩
    exact ⟨rfl, rfl⟩
  · rintro ⟨rfl, same⟩
    exact ⟨after, (List.cons.inj same).2, rfl, rfl⟩

theorem readUnit_eq_ok_iff
    (before : List Char)
    (content : Unit)
    (after : List Char) :
    readUnit before = .ok (content, after) ↔ skipSpace before = nullChars ++ after := by
  unfold readUnit
  constructor
  · intro reads
    split at reads
    · cases reads
    · rename_i starts
      exact starts.trans (readNull_eq_ok_iff.mp reads).2
    · exact absurd reads (stopAtType_ne_ok _ _ _)
  · intro starts
    rw [starts]
    exact readNull_eq_ok_iff.mpr ⟨rfl, rfl⟩

/-- What may be null is the null value, or something else that is read without its blanks. -/
theorem readOptional_eq_ok_iff
    (item : List Char → Read α)
    (before : List Char)
    (content : Option α)
    (after : List Char) :
    readOptional item before = .ok (content, after) ↔
      (content = none ∧ skipSpace before = nullChars ++ after) ∨
        ∃ found, content = some found ∧ (∀ rest, skipSpace before ≠ 'n' :: rest) ∧
          item (skipSpace before) = .ok (found, after) := by
  unfold readOptional
  split
  · rename_i starts
    rw [readNull_eq_ok_iff, starts]
    exact ⟨.inl, fun | .inl isNull => isNull | .inr ⟨_, _, notNull, _⟩ => absurd rfl (notNull _)⟩
  · rename_i notNull
    rw [Except.map_eq_ok_iff]
    constructor
    · rintro ⟨⟨found, unread⟩, isRead, same⟩
      obtain ⟨rfl, rfl⟩ := Prod.mk.inj same
      exact .inr ⟨found, rfl, notNull, isRead⟩
    · rintro (⟨_, isNull⟩ | ⟨found, rfl, _, isRead⟩)
      · exact absurd isNull (notNull _)
      · exact ⟨_, isRead, rfl⟩

theorem takes_null
    (item : List Char → Read α) :
    Takes (readOptional item) nullChars none :=
  fun _ _ starts _ => (readOptional_eq_ok_iff _ _ _ _).mpr (.inl ⟨rfl, starts⟩)

/-- A content is taken that is not null, if it is taken where it may not be null. -/
theorem Takes.optional
    {c : Char}
    (takes : Takes read (c :: rest) content)
    (notSpace : isSpace c = false)
    (notNull : c ≠ 'n') :
    Takes (readOptional read) (c :: rest) (some content) := by
  intro before after starts ends
  refine (readOptional_eq_ok_iff _ _ _ _).mpr (.inr ⟨content, rfl, ?_, ?_⟩)
  · rintro tail same
    exact notNull (List.cons.inj (starts.symm.trans same)).1
  · rw [starts]
    exact takes _ after (skipSpace_cons notSpace _) ends

theorem steady_readOptional (steady : IsSteady read) : IsSteady (readOptional read) := by
  intro before content after reads
  rcases (readOptional_eq_ok_iff _ _ _ _).mp reads with
    ⟨rfl, isNull⟩ | ⟨found, rfl, notNull, isRead⟩
  · exact ⟨IsValue.skipValue (.scalar .null) isNull fun isNumeral =>
      absurd isNumeral (not_isNumeral_cons (by decide) rfl _), nullChars, isNull, takes_null read⟩
  · obtain ⟨chars, isValue, starts, takes⟩ := steady.exists_isValue isRead
    rw [skipSpace_skipSpace] at starts
    obtain ⟨c, tail, rfl, notSpace, _⟩ := isValue.starts
    refine ⟨skipValue_of_skipSpace (steady _ _ _ isRead).1, _, starts,
      takes.optional notSpace ?_⟩
    rintro rfl
    exact notNull _ starts

/-! ## Integers -/

theorem endsNumber_iff :
    endsNumber cs = true ↔
      startsWithDigit cs = false ∧
        ∀ rest, cs ≠ '.' :: rest ∧ cs ≠ 'e' :: rest ∧ cs ≠ 'E' :: rest := by
  cases cs with
  | nil => simp [endsNumber, startsWithDigit]
  | cons c tail => simp [endsNumber, startsWithDigit, and_assoc, forall_and]

/-- Digits are not passed over only if there are none. -/
theorem eq_of_skipDigits
    {count : Nat}
    (skips : skipDigits count cs = (count, rest)) :
    rest = cs ∧ startsWithDigit cs = false := by
  have counts : ∀ (cs : List Char) (count : Nat), count ≤ (skipDigits count cs).1 := by
    intro cs
    induction cs with
    | nil => exact fun count => Nat.le_refl count
    | cons c rest inductionHypothesis =>
        intro count
        unfold skipDigits
        split
        · exact Nat.le_trans (Nat.le_succ count) (inductionHypothesis (count + 1))
        · exact Nat.le_refl count
  cases cs with
  | nil => exact ⟨(Prod.mk.inj skips).2.symm, rfl⟩
  | cons c tail =>
      unfold skipDigits at skips
      split at skips
      · have more := counts tail (count + 1)
        rw [skips] at more
        exact absurd more (Nat.not_succ_le_self count)
      · rename_i notDigit
        exact ⟨(Prod.mk.inj skips).2.symm, Bool.eq_false_iff.mpr notDigit⟩

/-- Digits are read onto a significand whatever comes after them. -/
theorem exists_of_readSignificand
    {significand count : Nat}
    {found : Nat × Nat}
    (reads : readSignificand significand count cs = (found, rest)) :
    ∃ digits : List Char, (∀ c ∈ digits, c.isDigit = true) ∧ cs = digits ++ rest ∧
      ∀ other, startsWithDigit other = false →
        readSignificand significand count (digits ++ other) = (found, other) := by
  have stops : ∀ (significand count : Nat) (other : List Char), startsWithDigit other = false →
      readSignificand significand count other = ((significand, count), other) := by
    intro significand count other notDigit
    cases other with
    | nil => rfl
    | cons c tail => simp [readSignificand, show c.isDigit = false from notDigit]
  induction cs generalizing significand count with
  | nil =>
      obtain ⟨rfl, rfl⟩ := Prod.mk.inj reads
      exact ⟨[], List.forall_mem_nil _, rfl, stops significand count⟩
  | cons c tail inductionHypothesis =>
      unfold readSignificand at reads
      split at reads
      · rename_i fits
        obtain ⟨digits, areDigits, rfl, further⟩ := inductionHypothesis reads
        refine ⟨c :: digits, List.forall_mem_cons.mpr ⟨?_, areDigits⟩, rfl,
          fun other notDigit => ?_⟩
        · exact (Bool.and_eq_true_iff.mp fits).1
        · rw [List.cons_append, readSignificand, if_pos fits]
          exact further other notDigit
      · obtain ⟨rfl, rfl⟩ := Prod.mk.inj reads
        exact ⟨[], List.forall_mem_nil _, rfl, stops significand count⟩

theorem eq_of_readAfterInteger
    {negative : Bool}
    {significand dropped : Nat}
    {value : Int}
    (reads : readAfterInteger negative significand dropped cs = .ok (.integer value, after))
    (notDigit : startsWithDigit cs = false) :
    dropped = 0 ∧ after = cs ∧ endsNumber cs = true ∧
      integerNumber negative significand = .integer value := by
  unfold readAfterInteger at reads
  split at reads
  · obtain ⟨_, _, same⟩ := fraction_of_readFraction reads
    cases same
  · obtain ⟨_, _, same⟩ := fraction_of_readExponent reads
    cases same
  · obtain ⟨_, _, same⟩ := fraction_of_readExponent reads
    cases same
  · rename_i notPoint notSmall notLarge
    split at reads
    · rename_i noneDropped
      obtain ⟨same, rfl⟩ := Prod.mk.inj (Except.ok.inj reads)
      exact ⟨beq_iff_eq.mp noneDropped, rfl, endsNumber_iff.mpr
        ⟨notDigit, fun rest => ⟨notPoint rest, notSmall rest, notLarge rest⟩⟩, same⟩
    · obtain ⟨_, _, same⟩ := fraction_of_finishNumber reads
      cases same

/-- An integer is read whatever comes after it that does not go on with a number. -/
theorem exists_of_readNumber
    {negative : Bool}
    {value : Int}
    (reads : readNumber negative cs = .ok (.integer value, after)) :
    ∃ chars, IsMagnitude chars ∧ cs = chars ++ after ∧ endsNumber after = true ∧
      ∀ other, endsNumber other = true →
        readNumber negative (chars ++ other) = .ok (.integer value, other) := by
  have isMagnitude : ∀ {whole : List Char}, IsWhole whole → IsMagnitude whole :=
    fun isWhole => ⟨_, [], [], isWhole, .absent, .absent, by simp⟩
  unfold readNumber at reads
  split at reads
  · cases reads
  · split at reads
    · cases reads
    · rename_i notDigit
      obtain ⟨_, rfl, ends, same⟩ :=
        eq_of_readAfterInteger reads (Bool.eq_false_iff.mpr notDigit)
      refine ⟨['0'], isMagnitude .zero, rfl, ends, fun other otherEnds => ?_⟩
      simp only [List.cons_append, List.nil_append, readNumber,
        startsWithDigit_of_ends otherEnds, Bool.false_eq_true, if_false,
        readAfterInteger_of_ends negative 0 otherEnds, same]
  · rename_i c tail notZero
    split at reads
    · rename_i isDigit
      rcases significand : readSignificand (digitValue c) 1 tail with ⟨⟨whole, count⟩, rest⟩
      rcases skipped : skipDigits 0 rest with ⟨dropped, unread⟩
      simp only [significand, skipped] at reads
      have noDigit : startsWithDigit unread = false := by
        have skippedAll := skipDigits_snd 0 rest
        rw [skipped] at skippedAll
        have dropsAll := List.head?_dropWhile_not Char.isDigit rest
        rw [← show unread = rest.dropWhile Char.isDigit from skippedAll] at dropsAll
        cases unread with
        | nil => rfl
        | cons d others => simpa [startsWithDigit] using dropsAll
      obtain ⟨rfl, rfl, ends, same⟩ := eq_of_readAfterInteger reads noDigit
      obtain ⟨rfl, _⟩ := eq_of_skipDigits skipped
      obtain ⟨digits, areDigits, rfl, further⟩ := exists_of_readSignificand significand
      refine ⟨c :: digits, isMagnitude (.digits ?_ ⟨List.cons_ne_nil _ _,
        List.forall_mem_cons.mpr ⟨isDigit, areDigits⟩⟩), rfl, ends, fun other otherEnds => ?_⟩
      · rintro rfl
        exact notZero rfl
      · rw [List.cons_append]
        unfold readNumber
        split
        · rename_i absurdity
          cases absurdity
        · rename_i isZero
          exact absurd (List.cons.inj isZero).1 notZero
        · rename_i d others _ isCons
          obtain ⟨rfl, rfl⟩ := List.cons.inj isCons
          simp only [isDigit, if_true, further other (startsWithDigit_of_ends otherEnds),
            skipDigits_of_ends otherEnds, readAfterInteger_of_ends negative whole otherEnds, same]
    · cases reads

theorem exists_of_readSignedNumber
    {value : Int}
    (reads : readSignedNumber cs = .ok (.integer value, after)) :
    ∃ chars, IsNumeral chars ∧ cs = chars ++ after ∧ endsNumber after = true ∧
      ∀ other, endsNumber other = true →
        readSignedNumber (chars ++ other) = .ok (.integer value, other) := by
  unfold readSignedNumber at reads
  split at reads
  · obtain ⟨magnitude, isMagnitude, rfl, ends, further⟩ := exists_of_readNumber reads
    exact ⟨'-' :: magnitude, .inr ⟨magnitude, isMagnitude, rfl⟩, rfl, ends, further⟩
  · obtain ⟨magnitude, isMagnitude, rfl, ends, further⟩ := exists_of_readNumber reads
    refine ⟨magnitude, .inl isMagnitude, rfl, ends, fun other otherEnds => ?_⟩
    obtain ⟨c, tail, rfl, isDigit⟩ := isMagnitude.starts
    rw [← further other otherEnds, List.cons_append]
    unfold readSignedNumber
    split
    · rename_i same
      rw [(List.cons.inj same).1] at isDigit
      cases isDigit
    · rfl

theorem steady_readInteger : IsSteady readInteger := by
  intro before content after reads
  unfold readInteger at reads
  split at reads
  · cases reads
  · rename_i c tail starts
    split at reads
    · rename_i isNumeric
      obtain ⟨⟨number, unread⟩, isNumber, isInteger⟩ := Except.bind_eq_ok_iff.mp reads
      cases number with
      | fraction value => cases isInteger
      | integer value =>
          dsimp only at isInteger
          split at isInteger
          · rename_i fits
            obtain ⟨rfl, rfl⟩ := Prod.mk.inj (Except.ok.inj isInteger)
            obtain ⟨chars, isNumeral, same, ends, further⟩ := exists_of_readSignedNumber isNumber
            rw [same] at starts
            refine ⟨IsValue.skipValue (.scalar (.number isNumeral)) starts fun _ => ends, chars,
              starts, fun other last otherStarts otherEnds => ?_⟩
            obtain ⟨d, others, rfl, isSign⟩ := isNumeral.starts
            have isNumericToo : (d == '-' || d.isDigit) = true := by simpa using isSign
            have readsToo := further last otherEnds
            rw [List.cons_append] at otherStarts readsToo
            simp only [readInteger, otherStarts, isNumericToo, if_true, readsToo, bind,
              Except.bind, fits]
          · cases isInteger
    · exact absurd reads (stopAtType_ne_ok _ _ _)

end Json
end KnowledgeClient
