import KnowledgeClient.Proofs.Sending
import Mathlib.Data.List.Basic

/-!
# Addresses as segments

The address of a call is the endpoint without the slashes at its end, and then the
segments of the call with a slash before each.  Ids stand among the segments as they
are, so that an id with a slash in it is cut into several pieces where the address is
cut at its slashes.
-/

namespace KnowledgeClient

/-! ## Pieces between marks -/

namespace Text

variable {mark : Char}

@[simp] theorem cutAt_nil (mark : Char) : cutAt mark [] = [[]] := rfl

theorem cutAt_ne_nil
    (mark : Char)
    (text : List Char) :
    cutAt mark text ≠ [] := by
  cases text with
  | nil => simp
  | cons c rest =>
      unfold cutAt
      split
      · simp
      · split <;> simp

@[simp] theorem cutAt_mark
    (mark : Char)
    (rest : List Char) :
    cutAt mark (mark :: rest) = [] :: cutAt mark rest := by
  simp [cutAt]

/-- A character that is no mark goes to the first piece. -/
theorem cutAt_cons
    {c : Char}
    (other : c ≠ mark)
    (rest : List Char) :
    ∃ piece pieces, cutAt mark rest = piece :: pieces ∧
      cutAt mark (c :: rest) = (c :: piece) :: pieces := by
  cases cut : cutAt mark rest with
  | nil => exact absurd cut (cutAt_ne_nil mark rest)
  | cons piece pieces => exact ⟨piece, pieces, rfl, by simp [cutAt, other, cut]⟩

theorem cutAt_append
    (mark : Char)
    (before after : List Char) :
    cutAt mark (before ++ mark :: after) = cutAt mark before ++ cutAt mark after := by
  induction before with
  | nil => simp
  | cons c before inductionHypothesis =>
      by_cases isMark : c = mark
      · rw [isMark, List.cons_append, cutAt_mark, cutAt_mark, inductionHypothesis]
        rfl
      · -- The character joins the first piece of what follows, with and without the rest.
        obtain ⟨piece, pieces, cut, extended⟩ := cutAt_cons isMark before
        obtain ⟨_, _, cutAll, extendedAll⟩ := cutAt_cons isMark (before ++ mark :: after)
        rw [inductionHypothesis, cut, List.cons_append, List.cons.injEq] at cutAll
        rw [List.cons_append, extendedAll, extended, ← cutAll.1, ← cutAll.2]
        rfl

theorem cutAt_of_notMem
    {text : List Char}
    (noMark : mark ∉ text) :
    cutAt mark text = [text] := by
  induction text with
  | nil => rfl
  | cons c text inductionHypothesis =>
      simp only [List.mem_cons, not_or] at noMark
      have other : c ≠ mark := fun same => noMark.1 same.symm
      obtain ⟨piece, pieces, cut, extended⟩ := cutAt_cons other text
      rw [inductionHypothesis noMark.2, List.cons.injEq] at cut
      rw [extended, ← cut.1, ← cut.2]

/-- The pieces with a mark before each are the text with a mark before it. -/
theorem flatMap_cutAt
    (mark : Char)
    (text : List Char) :
    (cutAt mark text).flatMap (mark :: ·) = mark :: text := by
  induction text with
  | nil => rfl
  | cons c text inductionHypothesis =>
      by_cases isMark : c = mark
      · rw [isMark, cutAt_mark, List.flatMap_cons, inductionHypothesis]
        rfl
      · obtain ⟨piece, pieces, cut, extended⟩ := cutAt_cons isMark text
        rw [cut] at inductionHypothesis
        rw [extended]
        simpa using inductionHypothesis

/-- Segments with a mark before each are cut into the pieces of each. -/
theorem cutAt_of_flatMap
    {text : List Char}
    {segments : List (List Char)}
    (written : mark :: text = segments.flatMap (mark :: ·)) :
    cutAt mark text = segments.flatMap (cutAt mark) := by
  induction segments generalizing text with
  | nil => cases written
  | cons segment segments inductionHypothesis =>
      rw [List.flatMap_cons, List.cons_append, List.cons.injEq] at written
      obtain ⟨_, rfl⟩ := written
      cases segments with
      | nil => simp
      | cons next segments =>
          have rest : mark :: (next ++ segments.flatMap (mark :: ·)) =
              (next :: segments).flatMap (mark :: ·) := by simp
          rw [← rest, cutAt_append, inductionHypothesis rest]
          rfl

@[simp] theorem length_cutAt
    (mark : Char)
    (text : List Char) :
    (cutAt mark text).length = text.count mark + 1 := by
  induction text with
  | nil => rfl
  | cons c text inductionHypothesis =>
      by_cases isMark : c = mark
      · rw [isMark, cutAt_mark, List.length_cons, inductionHypothesis, List.count_cons_self]
      · obtain ⟨piece, pieces, cut, extended⟩ := cutAt_cons isMark text
        rw [cut, List.length_cons] at inductionHypothesis
        rw [extended, List.length_cons, inductionHypothesis, List.count_cons_of_ne isMark]

theorem length_le_length_flatMap_cutAt
    (mark : Char)
    (segments : List (List Char)) :
    segments.length ≤ (segments.flatMap (cutAt mark)).length := by
  induction segments with
  | nil => simp
  | cons segment segments inductionHypothesis =>
      simp only [List.flatMap_cons, List.length_append, List.length_cons, length_cutAt]
      omega

/-- Segments are their own pieces exactly if no mark is in them. -/
theorem flatMap_cutAt_eq_self_iff (segments : List (List Char)) :
    segments.flatMap (cutAt mark) = segments ↔ ∀ segment ∈ segments, mark ∉ segment := by
  induction segments with
  | nil => simp
  | cons segment segments inductionHypothesis =>
      rw [List.flatMap_cons, List.forall_mem_cons, ← inductionHypothesis]
      constructor
      · intro same
        -- Every segment gives a piece at least, so that one with a mark gives too many.
        have lengths := congrArg List.length same
        have atLeast := length_le_length_flatMap_cutAt mark segments
        simp only [List.length_append, List.length_cons, length_cutAt] at lengths
        have none : segment.count mark = 0 := by omega
        have noMark : mark ∉ segment := List.count_eq_zero.mp none
        rw [cutAt_of_notMem noMark] at same
        exact ⟨noMark, (List.cons.inj same).2⟩
      · rintro ⟨noMark, same⟩
        rw [cutAt_of_notMem noMark, same]
        rfl

theorem cutAt_injective (mark : Char) : Function.Injective (cutAt mark) := by
  intro first second same
  have rejoined := flatMap_cutAt mark first
  rw [same, flatMap_cutAt, List.cons.injEq] at rejoined
  exact rejoined.2.symm

/-- Texts with as many marks have as many pieces, so that they can be told from what follows. -/
theorem cutAt_append_inj
    {first second : List Char}
    {firstRest secondRest : List (List Char)}
    (sameCount : first.count mark = second.count mark)
    (same : cutAt mark first ++ firstRest = cutAt mark second ++ secondRest) :
    first = second ∧ firstRest = secondRest := by
  have sameLength : (cutAt mark first).length = (cutAt mark second).length := by
    simp [sameCount]
  obtain ⟨samePieces, sameRest⟩ := List.append_inj same sameLength
  exact ⟨cutAt_injective mark samePieces, sameRest⟩

end Text

/-! ## Addresses of calls -/

namespace Config

/-- Calls have the same address only if their paths are the same. -/
theorem path_eq_of_url_eq
    {config : Config}
    {first second : Call}
    (same : config.url first.path = config.url second.path) :
    first.path = second.path := by
  have sameText := congrArg String.toList same
  rw [url_eq_base_path, url_eq_base_path, List.append_cancel_left_eq, List.cons.injEq] at sameText
  exact String.toList_inj.mp sameText.2

end Config
end KnowledgeClient
