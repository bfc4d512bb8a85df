import KnowledgeClient.Proofs.Shapes

/-!
# Values are passed over just as they are formed

A value that nobody wants is passed over by a loop that keeps the open brackets as a list.
`Closes` says what this list still demands of the text: each bracket its further pieces and
its closing mark, from the innermost one outwards.  The loop passes over a value inside open
brackets exactly if the value has the form of one and the text after it closes the brackets.
-/

namespace KnowledgeClient

/-- What a result is made into is made of that result. -/
theorem Except.map_eq_ok_iff
    {ε α β : Type}
    {given : Except ε α}
    {function : α → β}
    {result : β} :
    given.map function = .ok result ↔ ∃ value, given = .ok value ∧ function value = result := by
  cases given with
  | error fault => simp [Except.map]
  | ok value => simp [Except.map]

namespace Json

variable
  {frame : Frame}
  {frames outer left opened : List Frame}
  {chars cs rest unread after last budget inside lead : List Char}
  {afterValue : Bool}

/-! ## The start of a value -/

theorem skipStart_of_scalar
    (isScalar : IsScalar chars)
    (starts : skipSpace cs = chars ++ after)
    (ends : IsNumeral chars → endsNumber after = true)
    (frames : List Frame) :
    skipStart frames cs = .ok ((true, frames), after) := by
  cases isScalar with
  | null =>
      have word : skipSpace cs = 'n' :: 'u' :: 'l' :: 'l' :: after := starts
      simp [skipStart, word, readWord, Except.map]
  | flag value =>
      cases value with
      | true =>
          have word : skipSpace cs = 't' :: 'r' :: 'u' :: 'e' :: after := starts
          simp [skipStart, word, readWord, Except.map]
      | false =>
          have word : skipSpace cs = 'f' :: 'a' :: 'l' :: 's' :: 'e' :: after := starts
          simp [skipStart, word, readWord, Except.map]
  | number isNumeral =>
      have endsNumber := ends isNumeral
      rcases isNumeral with isMagnitude | ⟨magnitude, isMagnitude, rfl⟩
      · have skips := isMagnitude.skipNumber endsNumber
        obtain ⟨c, tail, rfl, isDigit⟩ := isMagnitude.starts
        have ne := ne_of_isNumeric (.inr isDigit)
        have notSign : c ≠ '-' := by
          rintro rfl
          cases isDigit
        rw [List.cons_append] at skips
        simp only [skipStart, starts, List.cons_append, beq_iff_eq, ne 'n' (by decide) rfl,
          ne 't' (by decide) rfl, ne 'f' (by decide) rfl, notSign, isDigit, if_true, if_false,
          skips, Except.map]
      · have skips := isMagnitude.skipNumber endsNumber
        simp [skipStart, starts, skips, Except.map]
  | text isString =>
      obtain ⟨ending, endsString, rfl⟩ := isString
      have skips := (skipString_eq_ok_iff _ after).mpr ⟨ending, endsString, rfl⟩
      simp [skipStart, starts, skips, Except.map]

theorem skipStart_of_opening
    (starts : skipSpace cs = frame.opening :: rest)
    (frames : List Frame) :
    skipStart frames cs = .ok ((false, frame :: frames), rest) := by
  cases frame with
  | list =>
      have opening : skipSpace cs = '[' :: rest := starts
      simp [skipStart, opening]
  | object =>
      have opening : skipSpace cs = '\x7b' :: rest := starts
      simp [skipStart, opening]

/-- A value without brackets is passed over, or an opening bracket. -/
theorem eq_of_skipStart
    (skips : skipStart frames cs = .ok ((afterValue, opened), rest)) :
    (afterValue = true ∧ opened = frames ∧
        ∃ chars, IsScalar chars ∧ skipSpace cs = chars ++ rest) ∨
      ∃ frame : Frame, afterValue = false ∧ opened = frame :: frames ∧
        skipSpace cs = frame.opening :: rest := by
  have scalar : ∀ {found : Except Stop (List Char)},
      found.map ((true, frames), ·) = .ok ((afterValue, opened), rest) →
      (found = .ok rest → ∃ chars, IsScalar chars ∧ skipSpace cs = chars ++ rest) →
      (afterValue = true ∧ opened = frames ∧
        ∃ chars, IsScalar chars ∧ skipSpace cs = chars ++ rest) := by
    intro found passes isScalar
    obtain ⟨value, isFound, same⟩ := Except.map_eq_ok_iff.mp passes
    obtain ⟨⟨rfl, rfl⟩, rfl⟩ := by simpa only [Prod.mk.injEq] using same
    exact ⟨rfl, rfl, isScalar isFound⟩
  unfold skipStart at skips
  split at skips
  · cases skips
  · rename_i c tail starts
    split at skips
    · rename_i letter
      obtain rfl := beq_iff_eq.mp letter
      refine .inl (scalar skips fun word => ⟨nullChars, .null, ?_⟩)
      rw [starts, (readWord_eq_ok_iff _ _ _).mp word]
      rfl
    split at skips
    · rename_i letter
      obtain rfl := beq_iff_eq.mp letter
      refine .inl (scalar skips fun word => ⟨flagChars true, .flag true, ?_⟩)
      rw [starts, (readWord_eq_ok_iff _ _ _).mp word]
      rfl
    split at skips
    · rename_i letter
      obtain rfl := beq_iff_eq.mp letter
      refine .inl (scalar skips fun word => ⟨flagChars false, .flag false, ?_⟩)
      rw [starts, (readWord_eq_ok_iff _ _ _).mp word]
      rfl
    split at skips
    · rename_i sign
      obtain rfl := beq_iff_eq.mp sign
      refine .inl (scalar skips fun number => ?_)
      obtain ⟨magnitude, isMagnitude, rfl⟩ := isMagnitude_of_skipNumber number
      exact ⟨_, .number (.inr ⟨magnitude, isMagnitude, rfl⟩), starts⟩
    split at skips
    · refine .inl (scalar skips fun number => ?_)
      obtain ⟨magnitude, isMagnitude, same⟩ := isMagnitude_of_skipNumber number
      exact ⟨magnitude, .number (.inl isMagnitude), starts.trans same⟩
    split at skips
    · rename_i quote
      obtain rfl := beq_iff_eq.mp quote
      refine .inl (scalar skips fun string => ?_)
      obtain ⟨ending, ends, rfl⟩ := (skipString_eq_ok_iff _ _).mp string
      exact ⟨_, .text ⟨ending, ends, rfl⟩, starts⟩
    split at skips
    · rename_i bracket
      obtain rfl := beq_iff_eq.mp bracket
      obtain ⟨⟨rfl, rfl⟩, rfl⟩ := by simpa only [Except.ok.injEq, Prod.mk.injEq] using skips
      exact .inr ⟨.list, rfl, rfl, starts⟩
    split at skips
    · rename_i brace
      obtain rfl := beq_iff_eq.mp brace
      obtain ⟨⟨rfl, rfl⟩, rfl⟩ := by simpa only [Except.ok.injEq, Prod.mk.injEq] using skips
      exact .inr ⟨.object, rfl, rfl, starts⟩
    · cases skips

/-! ## Between values -/

theorem skipClosing_of_closing
    (closes : skipSpace cs = frame.closing :: rest)
    (afterValue : Bool)
    (outer : List Frame) :
    skipClosing afterValue (frame :: outer) cs = skipClosing true outer rest := by
  rw [skipClosing, closes]
  cases frame with
  | list => simp [Frame.closing]
  | object => simp [Frame.closing]

theorem skipClosing_of_comma
    (comma : skipSpace cs = ',' :: rest)
    (frame : Frame)
    (outer : List Frame) :
    skipClosing true (frame :: outer) cs = .ok (frame :: outer, rest) := by
  rw [skipClosing, comma]
  simp

theorem skipClosing_of_first
    {c : Char}
    (starts : skipSpace cs = c :: rest)
    (notClosing : c ≠ frame.closing)
    (outer : List Frame) :
    skipClosing false (frame :: outer) cs = .ok (frame :: outer, c :: rest) := by
  rw [skipClosing, starts]
  cases frame with
  | list => simp [show c ≠ ']' from notClosing]
  | object => simp [show c ≠ '\x7d' from notClosing]

/-- A bracket is closed, or a comma is passed over after a value, or the bracket was opened just
before. -/
theorem eq_of_skipClosing
    (skips : skipClosing afterValue (frame :: outer) cs = .ok (left, unread)) :
    (∃ rest, skipSpace cs = frame.closing :: rest ∧
        skipClosing true outer rest = .ok (left, unread)) ∨
      (afterValue = true ∧ left = frame :: outer ∧ skipSpace cs = ',' :: unread) ∨
      (afterValue = false ∧ left = frame :: outer ∧ unread = skipSpace cs) := by
  rw [skipClosing] at skips
  split at skips
  · cases skips
  · rename_i c rest starts
    split at skips
    · rename_i comma
      obtain ⟨rfl, rfl⟩ : c = ',' ∧ afterValue = true := by simpa using comma
      obtain ⟨rfl, rfl⟩ := Prod.mk.inj (Except.ok.inj skips)
      exact .inr (.inl ⟨rfl, rfl, starts⟩)
    split at skips
    · rename_i closing
      obtain ⟨rfl, rfl⟩ : c = ']' ∧ frame = .list := by simpa using closing
      exact .inl ⟨rest, starts, skips⟩
    split at skips
    · rename_i closing
      obtain ⟨rfl, rfl⟩ : c = '\x7d' ∧ frame = .object := by simpa using closing
      exact .inl ⟨rest, starts, skips⟩
    split at skips
    · cases skips
    · rename_i notAfter
      obtain ⟨rfl, rfl⟩ := Prod.mk.inj (Except.ok.inj skips)
      exact .inr (.inr ⟨by simpa using notAfter, rfl, starts.symm⟩)

/-- What leads to a value is passed over. -/
theorem skipKey_eq_ok_iff :
    skipKey (frame :: outer) cs = .ok unread ↔
      ∃ lead, frame.Leads lead ∧ cs = lead ++ unread := by
  cases frame with
  | list => simp [skipKey, Frame.Leads]
  | object =>
      rw [skipKey]
      constructor
      · intro skips
        split at skips
        · cases skips
        · rename_i c rest starts
          split at skips
          · rename_i quote
            obtain rfl := beq_iff_eq.mp quote
            obtain ⟨closed, string, colon⟩ := Except.bind_eq_ok_iff.mp skips
            obtain ⟨ending, ends, rfl⟩ := (skipString_eq_ok_iff _ _).mp string
            rw [readColon_eq_ok_iff] at colon
            obtain ⟨blanks, areBlank, padded⟩ := exists_blank_append_skipSpace cs
            obtain ⟨others, othersBlank, paddedColon⟩ := exists_blank_append_skipSpace closed
            refine ⟨_, ⟨⟨blanks, '"' :: ending, others, areBlank, othersBlank⟩,
              ⟨ending, ends, rfl⟩, rfl⟩, ?_⟩
            rw [padded, starts, paddedColon, colon]
            simp only [Padded.chars, List.cons_append, List.append_assoc, List.nil_append]
          · cases skips
      · rintro ⟨_, ⟨key, ⟨ending, ends, inner⟩, rfl⟩, rfl⟩
        have starts : skipSpace (key.chars ++ [':'] ++ unread) =
            '"' :: (ending ++ (key.after ++ ':' :: unread)) := by
          simp only [Padded.chars, inner, List.append_assoc, List.cons_append, List.nil_append]
          exact skipSpace_blank key.blankBefore rfl
        have string := (skipString_eq_ok_iff (ending ++ (key.after ++ ':' :: unread)) _).mpr
          ⟨ending, ends, rfl⟩
        have colon := (readColon_eq_ok_iff (key.after ++ ':' :: unread) unread).mpr
          (skipSpace_blank key.blankAfter rfl)
        rw [starts]
        simp [string, colon, bind, Except.bind]

/-- What leads to the first value of a bracket is passed over where the blanks before it have
been passed over already. -/
theorem skipKey_of_first
    (leads : frame.Leads lead)
    (areBlank : AreBlank inside)
    (isValue : IsValue chars)
    {blanks : List Char}
    (blank : AreBlank blanks)
    (rest : List Char)
    (outer : List Frame) :
    ∃ c tail unread, skipSpace (inside ++ (lead ++ (blanks ++ (chars ++ rest)))) = c :: tail ∧
      c ≠ frame.closing ∧
      skipKey (frame :: outer) (c :: tail) = .ok unread ∧
      skipSpace unread = chars ++ rest := by
  have atValue : skipSpace (blanks ++ (chars ++ rest)) = chars ++ rest := by
    rw [skipSpace_append blank, isValue.skipSpace_append]
  rw [skipSpace_append areBlank]
  cases frame with
  | list =>
      obtain rfl : lead = [] := leads
      obtain ⟨c, tail, same, _, notClosing⟩ := isValue.starts
      rw [List.nil_append, atValue]
      refine ⟨c, tail ++ rest, chars ++ rest, ?_, notClosing, ?_, isValue.skipSpace_append rest⟩
      · rw [same, List.cons_append]
      · rw [same]
        rfl
  | object =>
      obtain ⟨key, ⟨ending, ends, inner⟩, rfl⟩ := leads
      have starts : skipSpace (key.chars ++ [':'] ++ (blanks ++ (chars ++ rest))) =
          key.inner ++ key.after ++ [':'] ++ (blanks ++ (chars ++ rest)) := by
        simp only [Padded.chars, inner, List.append_assoc, List.cons_append]
        exact skipSpace_blank key.blankBefore rfl
      refine ⟨'"', ending ++ key.after ++ [':'] ++ (blanks ++ (chars ++ rest)), _, ?_, by decide,
        skipKey_eq_ok_iff.mpr ⟨_, ⟨⟨[], key.inner, key.after, areBlank_nil, key.blankAfter⟩,
          ⟨ending, ends, inner⟩, rfl⟩, ?_⟩, atValue⟩
      · rw [starts, inner]
        simp only [List.cons_append]
      · simp only [Padded.chars, inner, List.nil_append, List.cons_append]

/-! ## The loop -/

/-- Passes over what follows a value or an opening bracket. -/
def skipRest
    (budget : List Char)
    (afterValue : Bool)
    (frames : List Frame)
    (cs : List Char) : Except Stop (List Char) := do
  let (left, unread) ← skipClosing afterValue frames cs
  if left.isEmpty then .ok unread
  else
    let inner ← skipKey left unread
    skipValueUpTo budget left inner

theorem skipValueUpTo_cons_eq_ok_iff (b : Char) :
    skipValueUpTo (b :: budget) frames cs = .ok last ↔
      ∃ afterValue opened rest, skipStart frames cs = .ok ((afterValue, opened), rest) ∧
        skipRest budget afterValue opened rest = .ok last := by
  have equation : skipValueUpTo (b :: budget) frames cs =
      skipStart frames cs >>= fun found => skipRest budget found.1.1 found.1.2 found.2 := rfl
  rw [equation, Except.bind_eq_ok_iff]
  constructor
  · rintro ⟨⟨⟨afterValue, opened⟩, rest⟩, starts, skips⟩
    exact ⟨afterValue, opened, rest, starts, skips⟩
  · rintro ⟨afterValue, opened, rest, starts, skips⟩
    exact ⟨((afterValue, opened), rest), starts, skips⟩

theorem skipRest_eq_ok_iff :
    skipRest budget afterValue frames cs = .ok last ↔
      ∃ left unread, skipClosing afterValue frames cs = .ok (left, unread) ∧
        ((left = [] ∧ last = unread) ∨
          ∃ frame outer inner, left = frame :: outer ∧ skipKey left unread = .ok inner ∧
            skipValueUpTo budget left inner = .ok last) := by
  unfold skipRest
  rw [Except.bind_eq_ok_iff]
  constructor
  · rintro ⟨⟨left, unread⟩, closes, skips⟩
    refine ⟨left, unread, closes, ?_⟩
    cases left with
    | nil => exact .inl ⟨rfl, (Except.ok.inj skips).symm⟩
    | cons frame outer =>
        obtain ⟨inner, leads, skips⟩ := Except.bind_eq_ok_iff.mp skips
        exact .inr ⟨frame, outer, inner, rfl, leads, skips⟩
  · rintro ⟨left, unread, closes, ⟨rfl, rfl⟩ | ⟨frame, outer, inner, rfl, leads, skips⟩⟩
    · exact ⟨_, closes, rfl⟩
    · exact ⟨_, closes, Except.bind_eq_ok_iff.mpr ⟨inner, leads, skips⟩⟩

/-! ## What is passed over has the form of a value -/

/-- The text after closes the open brackets one after the other, each behind the pieces that are
left in it, and goes on with the last text. -/
inductive Closes : List Frame → List Char → List Char → Prop
  | none (after : List Char) : Closes [] after after
  | bracket
      (frame : Frame)
      {outer : List Frame}
      {inside after last : List Char}
      {pieces : List Piece}
      (blank : AreBlank inside)
      (leads : ∀ piece ∈ pieces, frame.Leads piece.lead)
      (values : ∀ piece ∈ pieces, IsValue piece.value.inner)
      (further : Closes outer after last) :
      Closes (frame :: outer) (bracketed frame false inside pieces after) last

theorem bracketed_cons
    (frame : Frame)
    (inside : List Char)
    (piece : Piece)
    (pieces : List Piece)
    (after : List Char) :
    bracketed frame true inside (piece :: pieces) after =
      inside ++ (piece.lead ++ (piece.value.before ++ (piece.value.inner ++
        bracketed frame false piece.value.after pieces after))) := by
  simp only [bracketed, List.map_cons, separated, Piece.chars, Padded.chars, List.append_assoc]

theorem bracketed_cons_comma
    (frame : Frame)
    (inside : List Char)
    (piece : Piece)
    (pieces : List Piece)
    (after : List Char) :
    bracketed frame false inside (piece :: pieces) after =
      inside ++ ',' :: (piece.lead ++ (piece.value.before ++ (piece.value.inner ++
        bracketed frame false piece.value.after pieces after))) := by
  simp only [bracketed, List.map_cons, separated, Piece.chars, Padded.chars, List.append_assoc,
    List.cons_append]

/-- What is passed over is a value, and then the open brackets are closed. -/
def SkipsSoundly (budget : List Char) : Prop :=
  ∀ frames cs last, skipValueUpTo budget frames cs = .ok last →
    ∃ chars after, IsValue chars ∧ skipSpace cs = chars ++ after ∧ Closes frames after last

/-- A value with what leads to it, and the further pieces of its bracket, are pieces too. -/
theorem Closes.exists_pieces
    (sound : SkipsSoundly budget)
    (leads : skipKey (frame :: outer) cs = .ok unread)
    (skips : skipValueUpTo budget (frame :: outer) unread = .ok last) :
    ∃ (piece : Piece) (pieces : List Piece) (after : List Char),
      (∀ each ∈ piece :: pieces, frame.Leads each.lead) ∧
      (∀ each ∈ piece :: pieces, IsValue each.value.inner) ∧
      cs = piece.lead ++ (piece.value.before ++ (piece.value.inner ++
        bracketed frame false piece.value.after pieces after)) ∧
      Closes outer after last := by
  obtain ⟨lead, isLead, rfl⟩ := skipKey_eq_ok_iff.mp leads
  obtain ⟨chars, rest, isValue, starts, closes⟩ := sound _ _ _ skips
  cases closes with
  | @bracket _ _ inside after _ pieces blank allLead allValues further =>
      obtain ⟨blanks, areBlank, padded⟩ := exists_blank_append_skipSpace unread
      refine ⟨⟨lead, ⟨blanks, chars, inside, areBlank, blank⟩⟩, pieces, after,
        List.forall_mem_cons.mpr ⟨isLead, allLead⟩,
        List.forall_mem_cons.mpr ⟨isValue, allValues⟩, ?_, further⟩
      rw [padded, starts]

/-- After a value, the open brackets are closed. -/
theorem closes_of_skipRest
    (sound : SkipsSoundly budget)
    (skips : skipRest budget true frames cs = .ok last) :
    Closes frames cs last := by
  induction frames generalizing cs with
  | nil =>
      obtain ⟨left, unread, closes, rest⟩ := skipRest_eq_ok_iff.mp skips
      obtain ⟨rfl, rfl⟩ := Prod.mk.inj (Except.ok.inj closes)
      rcases rest with ⟨_, rfl⟩ | ⟨_, _, _, isCons, _⟩
      · exact .none _
      · cases isCons
  | cons frame outer inductionHypothesis =>
      obtain ⟨blanks, areBlank, padded⟩ := exists_blank_append_skipSpace cs
      obtain ⟨left, unread, closes, rest⟩ := skipRest_eq_ok_iff.mp skips
      rcases eq_of_skipClosing closes with
        ⟨after, closing, closesOuter⟩ | ⟨_, rfl, comma⟩ | ⟨isFirst, _⟩
      · have further := inductionHypothesis
          (skipRest_eq_ok_iff.mpr ⟨left, unread, closesOuter, rest⟩)
        rw [padded, closing]
        exact @Closes.bracket frame _ _ _ _ [] areBlank nofun nofun further
      · rcases rest with ⟨isNil, _⟩ | ⟨_, _, inner, same, leads, skips⟩
        · cases isNil
        · obtain ⟨piece, pieces, after, allLead, allValues, text, further⟩ :=
            Closes.exists_pieces sound leads skips
          rw [padded, comma, text, ← bracketed_cons_comma]
          exact .bracket frame areBlank allLead allValues further
      · cases isFirst

/-- After an opening bracket, its pieces follow, and then the other brackets are closed. -/
theorem exists_of_skipRest
    (sound : SkipsSoundly budget)
    (skips : skipRest budget false (frame :: outer) cs = .ok last) :
    ∃ inside pieces after,
      AreBlank inside ∧
      (∀ piece ∈ pieces, frame.Leads piece.lead) ∧
      (∀ piece ∈ pieces, IsValue piece.value.inner) ∧
      cs = bracketed frame true inside pieces after ∧
      Closes outer after last := by
  obtain ⟨blanks, areBlank, padded⟩ := exists_blank_append_skipSpace cs
  obtain ⟨left, unread, closes, rest⟩ := skipRest_eq_ok_iff.mp skips
  rcases eq_of_skipClosing closes with
    ⟨after, closing, closesOuter⟩ | ⟨isAfter, _⟩ | ⟨_, rfl, rfl⟩
  · have further := closes_of_skipRest sound
      (skipRest_eq_ok_iff.mpr ⟨left, unread, closesOuter, rest⟩)
    refine ⟨blanks, [], after, areBlank, nofun, nofun, ?_, further⟩
    rw [padded, closing]
    rfl
  · cases isAfter
  · rcases rest with ⟨isNil, _⟩ | ⟨_, _, inner, same, leads, skips⟩
    · cases isNil
    · obtain ⟨piece, pieces, after, allLead, allValues, text, further⟩ :=
        Closes.exists_pieces sound leads skips
      refine ⟨blanks, piece :: pieces, after, areBlank, allLead, allValues, ?_, further⟩
      rw [bracketed_cons, ← text]
      exact padded

theorem skipsSoundly (budget : List Char) : SkipsSoundly budget := by
  induction budget with
  | nil =>
      intro frames cs last skips
      cases skips
  | cons b budget inductionHypothesis =>
      intro frames cs last skips
      obtain ⟨afterValue, opened, rest, starts, skipsRest⟩ :=
        (skipValueUpTo_cons_eq_ok_iff b).mp skips
      rcases eq_of_skipStart starts with
        ⟨rfl, rfl, chars, isScalar, atScalar⟩ | ⟨frame, rfl, rfl, atBracket⟩
      · exact ⟨chars, rest, .scalar isScalar, atScalar,
          closes_of_skipRest inductionHypothesis skipsRest⟩
      · obtain ⟨inside, pieces, after, areBlank, leads, values, rfl, further⟩ :=
          exists_of_skipRest inductionHypothesis skipsRest
        refine ⟨_, after, .bracket frame areBlank leads values, ?_, further⟩
        rw [atBracket, List.cons_append, bracketed_append, List.nil_append]

/-- What is passed over has the form of a value. -/
theorem isValue_of_skipValue
    (skips : skipValue cs = .ok after) :
    ∃ chars, IsValue chars ∧ skipSpace cs = chars ++ after := by
  obtain ⟨chars, rest, isValue, starts, closes⟩ := skipsSoundly _ _ _ _ skips
  cases closes
  exact ⟨chars, isValue, starts⟩

/-! ## What has the form of a value is passed over -/

/-- A budget is enough for a value in brackets. -/
def Passes
    (frames : List Frame)
    (cs last : List Char) : Prop :=
  ∃ budget, skipValueUpTo budget frames cs = .ok last

/-- A budget is enough for what follows a value or an opening bracket. -/
def Proceeds
    (afterValue : Bool)
    (frames : List Frame)
    (cs last : List Char) : Prop :=
  ∃ budget, skipRest budget afterValue frames cs = .ok last

theorem Passes.of_start
    (starts : skipStart frames cs = .ok ((afterValue, opened), rest))
    (proceeds : Proceeds afterValue opened rest last) :
    Passes frames cs last := by
  obtain ⟨budget, skips⟩ := proceeds
  exact ⟨' ' :: budget, (skipValueUpTo_cons_eq_ok_iff _).mpr ⟨_, _, _, starts, skips⟩⟩

/-- A closing bracket is passed over with what follows it. -/
theorem Proceeds.of_closing
    (closes : skipSpace cs = frame.closing :: rest)
    (proceeds : Proceeds true outer rest last) :
    Proceeds afterValue (frame :: outer) cs last := by
  obtain ⟨budget, skips⟩ := proceeds
  refine ⟨budget, ?_⟩
  rw [skipRest, skipClosing_of_closing closes]
  exact skips

/-- Between values, what leads to the next one is passed over, and then that value. -/
theorem Proceeds.of_lead
    (closes : skipClosing afterValue (frame :: outer) cs = .ok (frame :: outer, rest))
    (leads : skipKey (frame :: outer) rest = .ok unread)
    (passes : Passes (frame :: outer) unread last) :
    Proceeds afterValue (frame :: outer) cs last := by
  obtain ⟨budget, skips⟩ := passes
  exact ⟨budget, skipRest_eq_ok_iff.mpr
    ⟨_, _, closes, .inr ⟨frame, outer, unread, rfl, leads, skips⟩⟩⟩

/-- Characters are passed over inside any brackets, if the text after them is. -/
def ArePassed (chars : List Char) : Prop :=
  ∀ frames cs after last,
    skipSpace cs = chars ++ after →
    (IsNumeral chars → endsNumber after = true) →
    Proceeds true frames after last →
    Passes frames cs last

/-- What follows a value in a bracket does not go on with a number. -/
theorem endsNumber_bracketed
    (blank : AreBlank inside)
    (frame : Frame)
    (pieces : List Piece)
    (after : List Char) :
    endsNumber (bracketed frame false inside pieces after) = true := by
  cases pieces with
  | nil =>
      refine endsNumber_append blank ?_
      cases frame <;> rfl
  | cons piece pieces =>
      rw [bracketed_cons_comma]
      exact endsNumber_append blank rfl

/-- The further pieces of a bracket and its closing mark are passed over. -/
theorem proceeds_of_pieces
    {pieces : List Piece}
    (leads : ∀ piece ∈ pieces, frame.Leads piece.lead)
    (values : ∀ piece ∈ pieces, IsValue piece.value.inner)
    (passed : ∀ piece ∈ pieces, ArePassed piece.value.inner)
    (blank : AreBlank inside)
    (proceeds : Proceeds true outer after last) :
    Proceeds true (frame :: outer) (bracketed frame false inside pieces after) last := by
  induction pieces generalizing inside with
  | nil =>
      refine .of_closing (skipSpace_blank blank ?_) proceeds
      cases frame <;> rfl
  | cons piece pieces inductionHypothesis =>
      rw [List.forall_mem_cons] at leads values passed
      have further := inductionHypothesis leads.2 values.2 passed.2 piece.value.blankAfter
      have atValue : skipSpace (piece.value.before ++ (piece.value.inner ++
          bracketed frame false piece.value.after pieces after)) = _ :=
        (skipSpace_append piece.value.blankBefore _).trans (values.1.skipSpace_append _)
      rw [bracketed_cons_comma]
      exact .of_lead (skipClosing_of_comma (skipSpace_blank blank rfl) frame outer)
        (skipKey_eq_ok_iff.mpr ⟨_, leads.1, rfl⟩)
        (passed.1 _ _ _ _ atValue
          (fun _ => endsNumber_bracketed piece.value.blankAfter frame pieces after) further)

/-- What has the form of a value is passed over inside any brackets. -/
theorem IsValue.arePassed (isValue : IsValue chars) : ArePassed chars := by
  induction isValue with
  | scalar isScalar =>
      intro frames cs after last starts ends proceeds
      exact .of_start (skipStart_of_scalar isScalar starts ends frames) proceeds
  | @bracket frame inside pieces blank leads values inductionHypothesis =>
      intro frames cs after last starts _ proceeds
      rw [List.cons_append, bracketed_append, List.nil_append] at starts
      refine .of_start (skipStart_of_opening starts frames) ?_
      cases pieces with
      | nil =>
          refine .of_closing (skipSpace_blank blank ?_) proceeds
          cases frame <;> rfl
      | cons piece pieces =>
          rw [List.forall_mem_cons] at leads values inductionHypothesis
          have further := proceeds_of_pieces leads.2 values.2 inductionHypothesis.2
            piece.value.blankAfter proceeds
          rw [bracketed_cons]
          obtain ⟨c, tail, unread, first, notClosing, skipsLead, atValue⟩ :=
            skipKey_of_first leads.1 blank values.1 piece.value.blankBefore
              (bracketed frame false piece.value.after pieces after) frames
          exact .of_lead (skipClosing_of_first first notClosing frames) skipsLead
            (inductionHypothesis.1 _ _ _ _ atValue
              (fun _ => endsNumber_bracketed piece.value.blankAfter frame pieces after) further)

/-! ## Budgets -/

theorem length_lt_of_skipStart
    (skips : skipStart frames cs = .ok ((afterValue, opened), rest)) :
    rest.length < cs.length := by
  rcases eq_of_skipStart skips with ⟨_, _, chars, isScalar, starts⟩ | ⟨frame, _, _, starts⟩
  · obtain ⟨c, tail, rfl, _⟩ := (IsValue.scalar isScalar).starts
    rw [List.cons_append] at starts
    have shorter := length_lt_of_skipSpace starts
    rw [List.length_append] at shorter
    omega
  · exact length_lt_of_skipSpace starts

theorem length_le_of_skipClosing
    (skips : skipClosing afterValue frames cs = .ok (left, unread)) :
    unread.length ≤ cs.length := by
  induction frames generalizing afterValue cs with
  | nil =>
      obtain ⟨rfl, rfl⟩ := Prod.mk.inj (Except.ok.inj skips)
      exact Nat.le_refl _
  | cons frame outer inductionHypothesis =>
      rcases eq_of_skipClosing skips with ⟨rest, closes, skips⟩ | ⟨_, _, comma⟩ | ⟨_, _, rfl⟩
      · exact Nat.le_trans (inductionHypothesis skips) (length_lt_of_skipSpace closes).le
      · exact (length_lt_of_skipSpace comma).le
      · exact (skipSpace_isSuffix cs).length_le

/-- A budget as long as the text is enough, if any is. -/
theorem skipValueUpTo_of_length
    (skips : skipValueUpTo budget frames cs = .ok last)
    {longer : List Char}
    (lasts : cs.length ≤ longer.length) :
    skipValueUpTo longer frames cs = .ok last := by
  induction budget generalizing longer frames cs with
  | nil => cases skips
  | cons b budget inductionHypothesis =>
      obtain ⟨afterValue, opened, rest, starts, skips⟩ :=
        (skipValueUpTo_cons_eq_ok_iff b).mp skips
      have shorter := length_lt_of_skipStart starts
      cases longer with
      | nil => simp only [List.length_nil] at lasts; omega
      | cons c longer =>
          refine (skipValueUpTo_cons_eq_ok_iff c).mpr ⟨_, _, _, starts, ?_⟩
          rw [skipRest_eq_ok_iff] at skips ⊢
          obtain ⟨left, unread, closes, done | ⟨frame, outer, inner, rfl, leads, skips⟩⟩ := skips
          · exact ⟨left, unread, closes, .inl done⟩
          · have closed := length_le_of_skipClosing closes
            obtain ⟨lead, _, same⟩ := skipKey_eq_ok_iff.mp leads
            have innerLength : inner.length ≤ longer.length := by
              rw [same, List.length_append] at closed
              rw [List.length_cons] at lasts
              omega
            exact ⟨_, unread, closes, .inr ⟨frame, outer, inner, rfl, leads,
              inductionHypothesis skips innerLength⟩⟩

/-- What has the form of a value is passed over. -/
theorem IsValue.skipValue
    (isValue : IsValue chars)
    (starts : skipSpace cs = chars ++ after)
    (ends : IsNumeral chars → endsNumber after = true) :
    Json.skipValue cs = .ok after := by
  have done : Proceeds true [] after after := ⟨[], rfl⟩
  obtain ⟨budget, skips⟩ := isValue.arePassed [] cs after after starts ends done
  exact skipValueUpTo_of_length skips (Nat.le_refl _)

/-- Blanks before a value make no difference. -/
theorem skipValue_of_skipSpace (skips : skipValue (skipSpace cs) = .ok after) :
    skipValue cs = .ok after := by
  have sameStart : skipStart [] (skipSpace cs) = skipStart [] cs := by
    unfold skipStart
    rw [skipSpace_skipSpace]
  unfold skipValue at skips
  cases start : skipSpace cs with
  | nil =>
      rw [start] at skips
      cases skips
  | cons b others =>
      rw [start, skipValueUpTo_cons_eq_ok_iff, ← start, sameStart,
        ← skipValueUpTo_cons_eq_ok_iff b] at skips
      exact skipValueUpTo_of_length skips (Nat.le_refl _)

end Json
end KnowledgeClient
