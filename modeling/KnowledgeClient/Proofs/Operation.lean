import KnowledgeClient.Session

/-!
# How operations run

An operation is a function of the situation that it acts in.  The lemmas of this
module say what the composed operations give and leave in terms of what their
parts give and leave, so that no later proof has to look into the layers that an
operation is made of.  Reading a reply changes nothing; what it gives is written
here as a function of the reply alone.
-/

namespace KnowledgeClient

/-! ## Noting -/

/-- Noting things changes files and what was said only. -/
theorem World.foldl_note
    (world : World)
    (notes : List Note) :
    ∃ files said, notes.foldl World.note world = { world with files, said } := by
  induction notes generalizing world with
  | nil => exact ⟨world.files, world.said, rfl⟩
  | cons noted notes inductionHypothesis =>
      obtain ⟨files, said, rest⟩ := inductionHypothesis (world.note noted)
      refine ⟨files, said, ?_⟩
      rw [List.foldl_cons, rest]
      cases noted <;> rfl

/-- The record that is noted, if it is one. -/
def Note.record? : Note → Option JournalRecord
  | .record given => some given
  | .event _ => none

/-- Notes without a record are events. -/
theorem Note.eq_map_event
    {notes : List Note}
    (unrecorded : notes.filterMap Note.record? = []) :
    ∃ events : List Event, notes = events.map Note.event := by
  induction notes with
  | nil => exact ⟨[], rfl⟩
  | cons noted notes inductionHypothesis =>
      cases noted with
      | record record => simp [Note.record?] at unrecorded
      | event event =>
          obtain ⟨events, rfl⟩ :=
            inductionHypothesis (by simpa [Note.record?] using unrecorded)
          exact ⟨event :: events, rfl⟩

/-- Files are changed by records only. -/
theorem World.foldl_note_files
    (world : World)
    {notes : List Note}
    (unrecorded : notes.filterMap Note.record? = []) :
    (notes.foldl World.note world).files = world.files := by
  induction notes generalizing world with
  | nil => rfl
  | cons noted notes inductionHypothesis =>
      cases noted with
      | record record => simp [Note.record?] at unrecorded
      | event event =>
          rw [List.foldl_cons, inductionHypothesis _ (by simpa [Note.record?] using unrecorded)]
          rfl

/-- Worlds that are the same before anything is said agree in all that does not depend on what is
said. -/
theorem World.eq_of_hushed_eq
    {Value : Type}
    {one other : World}
    (same : one.hushed = other.hushed)
    (get : World → Value)
    (silent : ∀ world, get world.hushed = get world) :
    get one = get other := by
  rw [← silent one, same, silent other]

namespace Situation

/-- The situation after some things are noted, one after the other. -/
def noting (situation : Situation) (notes : List Note) : Situation :=
  { situation with world := notes.foldl World.note situation.world }

@[simp] theorem noting_nil (situation : Situation) :
    situation.noting [] = situation := rfl

theorem noting_singleton
    (situation : Situation)
    (noted : Note) :
    situation.noting [noted] = { situation with world := situation.world.note noted } := rfl

/-- Events that are noted are said. -/
theorem noting_map_event
    (situation : Situation)
    (events : List Event) :
    situation.noting (events.map .event) =
      { situation with world := situation.world.say (events.map .event) } := by
  induction events generalizing situation with
  | nil => simp [World.say]
  | cons event events inductionHypothesis =>
      have rest := inductionHypothesis (situation.noting [.event event])
      rw [noting, noting_singleton] at rest
      rw [List.map_cons, noting, List.foldl_cons, rest]
      simp [World.note, World.say]

@[simp] theorem noting_noting
    (situation : Situation)
    (first second : List Note) :
    (situation.noting first).noting second = situation.noting (first ++ second) := by
  rw [noting, noting, noting, List.foldl_append]

@[simp] theorem noting_client
    (situation : Situation)
    (notes : List Note) :
    (situation.noting notes).client = situation.client := rfl

/-- What noting things leaves. -/
theorem noting_world
    (situation : Situation)
    (notes : List Note) :
    ∃ files said, (situation.noting notes).world = { situation.world with files, said } :=
  situation.world.foldl_note notes

@[simp] theorem noting_exchanges
    (situation : Situation)
    (notes : List Note) :
    (situation.noting notes).world.exchanges = situation.world.exchanges := by
  obtain ⟨files, said, noted⟩ := situation.noting_world notes
  rw [noted]

@[simp] theorem noting_network
    (situation : Situation)
    (notes : List Note) :
    (situation.noting notes).world.network = situation.world.network := by
  obtain ⟨files, said, noted⟩ := situation.noting_world notes
  rw [noted]

@[simp] theorem noting_journal
    (situation : Situation)
    (notes : List Note) :
    (situation.noting notes).world.journal = situation.world.journal := by
  obtain ⟨files, said, noted⟩ := situation.noting_world notes
  rw [noted]

@[simp] theorem noting_time
    (situation : Situation)
    (notes : List Note) :
    (situation.noting notes).world.time = situation.world.time := by
  obtain ⟨files, said, noted⟩ := situation.noting_world notes
  rw [noted]

@[simp] theorem noting_platform
    (situation : Situation)
    (notes : List Note) :
    (situation.noting notes).world.platform = situation.world.platform := by
  obtain ⟨files, said, noted⟩ := situation.noting_world notes
  rw [noted]

theorem noting_files
    (situation : Situation)
    {notes : List Note}
    (unrecorded : notes.filterMap Note.record? = []) :
    (situation.noting notes).world.files = situation.world.files :=
  situation.world.foldl_note_files unrecorded

end Situation

/-! ## Composed operations -/

namespace Operation

variable {α β : Type}

@[simp] theorem pure_apply
    (value : α)
    (situation : Situation) :
    (pure value : Operation α) situation = (.ok value, situation) := rfl

@[simp] theorem throw_apply
    (failure : Failure)
    (situation : Situation) :
    (throw failure : Operation α) situation = (.error failure, situation) := rfl

/-- An operation that goes on from another one does so where that one gave a
result; a failure ends both. -/
theorem bind_apply
    (operation : Operation α)
    (next : α → Operation β)
    (situation : Situation) :
    (operation >>= next) situation =
      match operation situation with
      | (.ok value, after) => next value after
      | (.error failure, after) => (.error failure, after) := by
  change ExceptT.bindCont next (operation situation).1 (operation situation).2 = _
  rcases operation situation with ⟨failure | value, after⟩ <;> rfl

theorem bind_of_ok
    {operation : Operation α}
    {situation after : Situation}
    {value : α}
    (given : operation situation = (.ok value, after))
    (next : α → Operation β) :
    (operation >>= next) situation = next value after := by
  rw [bind_apply, given]

theorem bind_of_error
    {operation : Operation α}
    {situation after : Situation}
    {failure : Failure}
    (failed : operation situation = (.error failure, after))
    (next : α → Operation β) :
    (operation >>= next) situation = (.error failure, after) := by
  rw [bind_apply, failed]

/-- Looking at the situation hands it on as it is. -/
@[simp] theorem get_bind_apply
    (next : Situation → Operation β)
    (situation : Situation) :
    ((get : Operation Situation) >>= next) situation = next situation situation := rfl

@[simp] theorem map_apply
    (function : α → β)
    (operation : Operation α)
    (situation : Situation) :
    (function <$> operation) situation =
      ((operation situation).1.map function, (operation situation).2) := by
  change (operation >>= fun value => pure (function value)) situation = _
  rw [bind_apply]
  rcases operation situation with ⟨failure | value, after⟩ <;> rfl

@[simp] theorem attempt_apply
    (operation : Operation α)
    (situation : Situation) :
    attempt operation situation = (.ok (operation situation).1, (operation situation).2) := rfl

@[simp] theorem note_apply
    (noted : Note)
    (situation : Situation) :
    note noted situation = (.ok (), situation.noting [noted]) := rfl

@[simp] theorem record_apply
    (level : Level)
    (category message : String)
    (situation : Situation) :
    record level category message situation =
      (.ok (), situation.noting [.record ⟨level, category, message⟩]) := rfl

@[simp] theorem tell_apply
    (severity : Severity)
    (message : String)
    (values : List (String × EventValue))
    (situation : Situation) :
    tell severity message values situation =
      (.ok (), situation.noting [.ofClient severity message values]) := rfl

/-! ## Reading replies -/

/-- The text of a reply's body, or the failure of a body that was cut off. -/
def bodyOf (reply : Http.Reply) : Except Failure String :=
  match reply.text? with
  | some text => .ok text
  | none => .error (.requestFailed .cutOff)

/-- What a text is read as, or the failure of a text that does not read. -/
def valueOf (read : String → Except Json.Fault α) (text : String) : Except Failure α :=
  match read text with
  | .ok value => .ok value
  | .error fault => .error (.invalidPayload fault)

/-- What a reply is read as: its body must have arrived, its status must tell
success, and the text must read. -/
def contentOf (read : String → Except Json.Fault α) (reply : Http.Reply) : Except Failure α :=
  match reply.text? with
  | some text =>
    if reply.status.isSuccess then valueOf read text
    else .error (.unexpectedStatus reply.status text)
  | none => .error (.requestFailed .cutOff)

@[simp] theorem bodyText_apply
    (reply : Http.Reply)
    (situation : Situation) :
    bodyText reply situation = (bodyOf reply, situation) := by
  unfold bodyText bodyOf
  cases reply.text? <;> rfl

@[simp] theorem parse_apply
    (read : String → Except Json.Fault α)
    (text : String)
    (situation : Situation) :
    parse read text situation = (valueOf read text, situation) := by
  unfold parse valueOf
  cases read text <;> rfl

@[simp] theorem readReply_apply
    (read : String → Except Json.Fault α)
    (reply : Http.Reply)
    (situation : Situation) :
    readReply read reply situation = (contentOf read reply, situation) := by
  unfold readReply contentOf
  rw [bind_apply, bodyText_apply, bodyOf]
  cases reply.text? with
  | none => rfl
  | some text =>
      cases success : reply.status.isSuccess with
      | false => simp
      | true => simp

/-- A reply gives a value exactly when its body arrived, its status tells success
and the text reads as that value. -/
theorem contentOf_eq_ok_iff
    (read : String → Except Json.Fault α)
    (reply : Http.Reply)
    (value : α) :
    contentOf read reply = .ok value ↔
      ∃ text, reply.text? = some text ∧ reply.status.isSuccess = true ∧ read text = .ok value := by
  unfold contentOf valueOf
  cases reply.text? with
  | none => simp
  | some text =>
      cases reply.status.isSuccess with
      | false => simp
      | true =>
          cases reading : read text <;> simp [reading]

end Operation
end KnowledgeClient
