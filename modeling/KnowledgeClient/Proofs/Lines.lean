import KnowledgeClient.Proofs.Journaling
import KnowledgeClient.Proofs.Judging
import KnowledgeClient.Proofs.Segments

/-!
# Records and lines

A record is written as one line of text with its time, its level, its category and its
message, and a line end after it.  Category and message stand in it as they are: a line
end in one of them ends a line like any other, and what comes after it can pass for a
record.  Records are one line each exactly if no category and no message has a line end.
-/

namespace KnowledgeClient

open Files

/-! ## The lines of records -/

namespace JournalRecord

/-- A record written at some time, without the line end after it. -/
def line (record : JournalRecord) (time : String) : String :=
  time ++ " [" ++ record.level.word ++ "] " ++ record.category ++ " - " ++ record.message

/-- The record has no line end of its own. -/
def IsOneLine (record : JournalRecord) : Prop :=
  '\n' ∉ record.category.toList ∧ '\n' ∉ record.message.toList

/-- The number of line ends that the record has of its own. -/
def lineEnds (record : JournalRecord) : Nat :=
  record.category.toList.count '\n' + record.message.toList.count '\n'

variable {record : JournalRecord} {time : String}

theorem toList_text (record : JournalRecord) (time : String) :
    (record.text time).toList = (record.line time).toList ++ ['\n'] := by
  simp [text, line]

theorem notMem_toList_word (level : Level) : '\n' ∉ level.word.toList := by
  cases level <;> decide

/-- The line ends of a line are those of the record. -/
theorem count_line
    (timed : '\n' ∉ time.toList)
    (record : JournalRecord) :
    (record.line time).toList.count '\n' = record.lineEnds := by
  have inTime : time.toList.count '\n' = 0 := List.count_eq_zero.mpr timed
  have inLevel : record.level.word.toList.count '\n' = 0 :=
    List.count_eq_zero.mpr (notMem_toList_word _)
  have opening : " [".toList.count '\n' = 0 := by decide
  have closing : "] ".toList.count '\n' = 0 := by decide
  have dash : " - ".toList.count '\n' = 0 := by decide
  simp only [line, lineEnds, String.toList_append, List.count_append, inTime, inLevel, opening,
    closing, dash]
  omega

theorem lineEnds_eq_zero_iff : record.lineEnds = 0 ↔ record.IsOneLine := by
  rw [lineEnds, IsOneLine, Nat.add_eq_zero_iff, List.count_eq_zero, List.count_eq_zero]

end JournalRecord

/-! ## The records of a client -/

theorem Text.notMem_toDigits (number : Nat) : '\n' ∉ Nat.toDigits 10 number :=
  fun member => absurd (Nat.isDigit_of_mem_toDigits (by decide) (by decide) member) (by decide)

/-- The text of a status is one line. -/
theorem Http.Status.notMem_text (status : Status) : '\n' ∉ status.text.toList := by
  have phrases : ∀ phrase ∈ reasons, '\n' ∉ phrase.2.toList := by decide +kernel
  have reason : '\n' ∉ status.reason.toList := by
    unfold reason
    cases found : reasons.lookup status.code with
    | none => decide
    | some phrase =>
        obtain ⟨before, after, split, _⟩ := List.lookup_eq_some_iff.mp found
        refine phrases (status.code, phrase) ?_
        rw [split]
        exact List.mem_append_right _ List.mem_cons_self
  simp [text, Text.notMem_toDigits, reason]

namespace Client

variable {reply : Http.Reply} {record : JournalRecord}

/-- The record of an upload is one line exactly if the name of the file is, and the id of the
document that was made, if one was. -/
theorem isOneLine_of_uploadRecords_iff
    {path : Files.Path}
    (member : record ∈ uploadRecords path reply) :
    record.IsOneLine ↔ '\n' ∉ path.shownName.toList ∧
      ∀ text document, reply.status = .ok → reply.text? = some text →
        Document.read text = .ok document → '\n' ∉ document.id.toList := by
  unfold uploadRecords at member
  cases arrived : reply.text? with
  | none => simp [arrived] at member
  | some text =>
      simp only [arrived] at member
      by_cases plain : reply.status = .ok
      · simp only [plain, if_true] at member
        cases reads : Document.read text with
        | error fault => simp [reads] at member
        | ok document =>
            simp only [reads, List.mem_singleton] at member
            subst member
            -- The document is the only one that the text reads as.
            have isRead : ∀ read made, some text = some read →
                Document.read read = .ok made → made = document := by
              intro read made same isMade
              rw [← Option.some.inj same, reads] at isMade
              exact (Except.ok.inj isMade).symm
            constructor
            · intro isOneLine
              refine ⟨fun inName => isOneLine.2 (by simp [inName]), ?_⟩
              intro read made _ same isMade inId
              rw [isRead read made same isMade] at inId
              exact isOneLine.2 (by simp [inId])
            · rintro ⟨named, identified⟩
              exact ⟨by simp, by simp [named, identified text document plain rfl reads]⟩
      · simp only [plain, if_false, List.mem_singleton] at member
        subst member
        simp [JournalRecord.IsOneLine, plain, Http.Status.notMem_text]

/-- The record of a removal is one line exactly if the id of the document is. -/
theorem isOneLine_of_removalRecords_iff
    {document : String}
    (member : record ∈ removalRecords document reply) :
    record.IsOneLine ↔ '\n' ∉ document.toList := by
  unfold removalRecords at member
  split at member
  · cases member
  · obtain rfl := List.mem_singleton.mp member
    simp [JournalRecord.IsOneLine, Http.Status.notMem_text]

/-- The record of a chat is one line exactly if the code of its language model is, whatever was
asked. -/
theorem isOneLine_of_chatRecords_iff
    {content : String}
    {options : ChatOptions}
    (member : record ∈ chatRecords content options reply) :
    record.IsOneLine ↔ '\n' ∉ options.model.code.toList := by
  unfold chatRecords at member
  split at member
  · cases member
  · split at member
    · obtain rfl := List.mem_singleton.mp member
      simp [JournalRecord.IsOneLine, Text.notMem_toDigits]
    · obtain rfl := List.mem_singleton.mp member
      simp [JournalRecord.IsOneLine, Http.Status.notMem_text]

end Client

namespace Text

/-- Lines with a mark after each are cut into the pieces of each, and nothing after the last
mark. -/
theorem cutAt_flatMap_mark
    (mark : Char)
    (lines : List (List Char)) :
    cutAt mark (lines.flatMap (· ++ [mark])) = lines.flatMap (cutAt mark) ++ [[]] := by
  induction lines with
  | nil => rfl
  | cons line lines inductionHypothesis =>
      rw [List.flatMap_cons, List.append_assoc, List.cons_append, List.nil_append, cutAt_append,
        inductionHypothesis, List.flatMap_cons, List.append_assoc]

end Text

/-! ## The journal as lines -/

namespace Journal

variable
  {journal : Journal}
  {files : Tree}
  {held : Bytes}
  {entries : List (String × JournalRecord)}

/-- The lines of records, each written at its time. -/
def lines (entries : List (String × JournalRecord)) : List (List Char) :=
  entries.map fun (time, record) => (record.line time).toList

/-- The number of line ends that records have of their own. -/
def ownLineEnds : List (String × JournalRecord) → Nat
  | [] => 0
  | (_, record) :: entries => record.lineEnds + ownLineEnds entries

theorem toList_written (entries : List (String × JournalRecord)) :
    (written entries).toList = (lines entries).flatMap (· ++ ['\n']) := by
  induction entries with
  | nil => rfl
  | cons entry entries inductionHypothesis =>
      rw [lines, List.map_cons, List.flatMap_cons]
      change _ = _ ++ (lines entries).flatMap _
      rw [← inductionHypothesis, ← JournalRecord.toList_text]
      simp [written]

/-- Each record has a line end after it, and those of its own. -/
theorem count_written (timed : ∀ entry ∈ entries, '\n' ∉ entry.1.toList) :
    (written entries).toList.count '\n' =
      entries.length + ownLineEnds entries := by
  induction entries with
  | nil => rfl
  | cons entry entries inductionHypothesis =>
      have first := JournalRecord.count_line (timed entry List.mem_cons_self) entry.2
      have others := inductionHypothesis fun other member =>
        timed other (List.mem_cons_of_mem _ member)
      rw [toList_written, lines, List.map_cons, List.flatMap_cons, ← lines, ← toList_written,
        List.count_append, List.count_append, first, others]
      simp only [List.count_singleton_self, List.length_cons, ownLineEnds]
      omega

/-- Giving records to a journal writes them one after the other. -/
theorem foldl_give
    (journal : Journal)
    (entries : List (String × JournalRecord))
    (files : Tree) :
    entries.foldl (fun state (time, record) => (JournalStep.give record).take time state)
        (journal, files) =
      (journal, journal.writes entries files) := by
  induction entries generalizing files with
  | nil => rfl
  | cons entry entries inductionHypothesis => exact inductionHypothesis _

/-- How records that were given to a journal stand in what its file holds. -/
structure LinesLaw
    (journal : Journal)
    (held : Bytes)
    (entries : List (String × JournalRecord))
    (after : Journal × Tree) : Prop where
  /-- The journal is kept as before. -/
  kept : after.1 = journal
  /-- The texts of the records go to the end of the file, in the order of the records. -/
  appended : journal.content? after.2 = some (held ++ Text.encode (written entries))
  /-- After any record the file can be read. -/
  readable : entries ≠ [] →
    after.2.read journal.file = .ok (held ++ Text.encode (written entries))
  /-- Each text is the line of its record, category and message as they are, and a line end. -/
  spelled : (written entries).toList = (lines entries).flatMap (· ++ ['\n'])
  /-- There is a line for each record and one more for each line end of a record's own. -/
  counted : (Text.cutAt '\n' (written entries).toList).length =
    entries.length + ownLineEnds entries + 1
  /-- The lines are those of the records, one each and in their order, exactly if no record has
  a line end of its own. -/
  aligned : Text.cutAt '\n' (written entries).toList = lines entries ++ [[]] ↔
    ∀ entry ∈ entries, entry.2.IsOneLine
  /-- What a client records of an upload has a line end only from the name of the file or from
  the id of the document that was made. -/
  uploads : ∀ (path : Path) (reply : Http.Reply), ∀ record ∈ Client.uploadRecords path reply,
    record.IsOneLine ↔ '\n' ∉ path.shownName.toList ∧
      ∀ text document, reply.status = .ok → reply.text? = some text →
        Document.read text = .ok document → '\n' ∉ document.id.toList
  /-- What it records of a removal has one only from the id of the document. -/
  removals : ∀ (document : String) (reply : Http.Reply),
    ∀ record ∈ Client.removalRecords document reply,
      record.IsOneLine ↔ '\n' ∉ document.toList
  /-- What it records of a chat has one only from the code of the language model. -/
  chats : ∀ (content : String) (options : ChatOptions) (reply : Http.Reply),
    ∀ record ∈ Client.chatRecords content options reply,
      record.IsOneLine ↔ '\n' ∉ options.model.code.toList

/-- Records are one line each in the journal exactly if they have no line ends. -/
theorem linesLaw
    (enabled : journal.enabled = true)
    (holds : journal.content? files = some held)
    (timed : ∀ entry ∈ entries, '\n' ∉ entry.1.toList) :
    journal.LinesLaw held entries
      (entries.foldl (fun state (time, record) => (JournalStep.give record).take time state)
        (journal, files)) := by
  rw [foldl_give]
  constructor
  case kept => rfl
  case appended => exact content?_writes enabled holds entries
  case readable => exact read_writes enabled holds
  case spelled => exact toList_written entries
  case counted => rw [Text.length_cutAt, count_written timed]
  case aligned =>
    rw [toList_written, Text.cutAt_flatMap_mark, List.append_left_inj,
      Text.flatMap_cutAt_eq_self_iff, lines, List.forall_mem_map]
    refine forall₂_congr fun entry member => ?_
    rw [← List.count_eq_zero, JournalRecord.count_line (timed entry member),
      JournalRecord.lineEnds_eq_zero_iff]
  case uploads => exact fun _ _ _ member => Client.isOneLine_of_uploadRecords_iff member
  case removals => exact fun _ _ _ member => Client.isOneLine_of_removalRecords_iff member
  case chats => exact fun _ _ _ _ member => Client.isOneLine_of_chatRecords_iff member

/-- Two records in a journal that is still to be made are two lines. -/
theorem linesLaw_sample :
    ∃ after, LinesLaw ⟨true, usualFolder⟩ []
        [("now", ⟨.info, "client.query", "model=o1 prompt_len=2"⟩),
          ("now", ⟨.error, "client.remove", "d -> 404 Not Found"⟩)] after ∧
      after.1.read? after.2 =
        some ("now [INFO] client.query - model=o1 prompt_len=2\n" ++
          "now [ERROR] client.remove - d -> 404 Not Found\n") := by
  have holds : content? ⟨true, usualFolder⟩ (.empty []) = some [] := by decide +kernel
  exact ⟨_, linesLaw rfl holds (by decide), by decide +kernel⟩

/-- A message with a line end is more than one line, and a document's id that came from the
service passes for a record of another upload. -/
theorem not_always_oneLine :
    (¬ ∀ (journal : Journal) (files : Tree) (entries : List (String × JournalRecord))
        (text : String),
      journal.enabled = true →
      journal.content? files = some [] →
      (∀ entry ∈ entries, '\n' ∉ entry.1.toList) →
      journal.read? (entries.foldl
        (fun state (time, record) => (JournalStep.give record).take time state)
        (journal, files)).2 = some text →
      Text.cutAt '\n' text.toList = lines entries ++ [[]]) ∧
    (Client.uploadRecords (.ofText "a") ⟨.ok, Text.encode
        "\x7b\"id\":\"d\\nnow [INFO] client.upload - b -> e\",\"filename\":\"\"\x7d", true⟩).map
          (·.text "now") =
      [written [("now", ⟨.info, "client.upload", "a -> d"⟩),
        ("now", ⟨.info, "client.upload", "b -> e"⟩)]] := by
  refine ⟨fun oneLine => ?_, by decide +kernel⟩
  have lines := oneLine ⟨true, usualFolder⟩ (.empty [])
    [("now", ⟨.info, "client.upload", "a\nb"⟩)] "now [INFO] client.upload - a\nb\n" rfl
    (by decide +kernel) (by decide) (by decide +kernel)
  exact absurd lines (by decide +kernel)

end Journal

end KnowledgeClient
