import KnowledgeClient.Proofs.Operation
import KnowledgeClient.Proofs.Places

/-!
# What a record does to the files

A record that is written changes only the journal's places: those in its folder, and those
on the way to the folder where nothing stood.  While the journal can be written to, the
text of the record is put at the end of what the journal's file holds.
-/

namespace KnowledgeClient
namespace Journal

open Files

theorem isFileName_fileName : IsFileName fileName :=
  ⟨⟨by decide, by decide, by decide⟩, by decide⟩

/-- The place of a journal's folder. -/
def home (folder : Path) (files : Tree) : Place :=
  leadTo (files.start folder) (cutAtSlashes folder.bytes)

/-- The places of a journal that is kept in the folder: those in the folder, and those on the
way to it where nothing stands. -/
def Owns
    (folder : Path)
    (files : Tree)
    (place : Place) : Prop :=
  home folder files <+: place ∨ place ∈ files.way folder ∧ files.entry? place = none

instance
    (folder : Path)
    (files : Tree) :
    DecidablePred (Owns folder files) :=
  fun place => inferInstanceAs (Decidable (home folder files <+: place ∨
    place ∈ files.way folder ∧ files.entry? place = none))

/-- The files with the journal's folder made, if nothing was there. -/
def ready (journal : Journal) (files : Tree) : Tree :=
  if files.holds journal.folder then files else files.makeFolder journal.folder

/-- What the journal's file holds, which is nothing as long as it is not made; there is no
such content where the file cannot be written to. -/
def content? (journal : Journal) (files : Tree) : Option Bytes :=
  (journal.ready files).appendable? journal.file

variable {journal : Journal} {files : Tree} {place : Place} {held : Bytes}

theorem write_of_disabled
    (disabled : journal.enabled = false)
    (time : String)
    (record : JournalRecord)
    (files : Tree) :
    journal.write time record files = files := by
  simp [write, disabled]

theorem write_of_enabled
    (enabled : journal.enabled = true)
    (time : String)
    (record : JournalRecord)
    (files : Tree) :
    journal.write time record files =
      (journal.ready files).append journal.file (Text.encode (record.text time)) := by
  simp [write, enabled, ready]

/-! ## The journal's places -/

/-- Where the journal's file is located is in the journal's folder. -/
theorem home_isPrefix_of_locate (locates : files.locate journal.file = .ok place) :
    home journal.folder files <+: place := by
  have reached := Tree.eq_leadTo_of_locate locates
  rw [file, Path.start_join isFileName_fileName, Path.leadTo_join isFileName_fileName] at reached
  exact ⟨[fileName], reached.symm⟩

/-- A journal's folder stays where it is when the working folder does. -/
theorem home_congr
    {others : Tree}
    (working : others.working = files.working)
    (folder : Path) :
    home folder others = home folder files := by
  unfold home Tree.start
  rw [working]

/-- A journal owns no place that it did not own before its places changed. -/
theorem owns_of_sameBut
    {folder : Path}
    {base : Tree}
    (same : Tree.SameBut (Owns folder base) base files)
    (owns : Owns folder files place) :
    Owns folder base place := by
  rcases owns with within | ⟨onWay, nothing⟩
  · exact .inl (home_congr same.working_eq folder ▸ within)
  · by_contra notOwned
    have stood := same.entry_eq place notOwned
    have onWayBefore : place ∈ base.way folder := by
      unfold Tree.way Tree.start at onWay ⊢
      rwa [same.working_eq] at onWay
    exact notOwned (.inr ⟨onWayBefore, stood ▸ nothing⟩)

/-- The usual folder is below the working folder; where that stands, the journal's places are
those in the usual folder. -/
theorem owns_usualFolder_iff
    (stands : files.entry? files.working = some .folder)
    (place : Place) :
    Owns usualFolder files place ↔ files.working ++ [Text.encode "logs"] <+: place := by
  have pieces : cutAtSlashes usualFolder.bytes = [Text.encode "logs"] := by decide
  have start : files.start usualFolder = files.working := if_neg (by decide)
  have ordinary : IsOrdinary (Text.encode "logs") := ⟨by decide, by decide, by decide⟩
  have below := stepTo_of_isOrdinary ordinary files.working
  have atHome : home usualFolder files = files.working ++ [Text.encode "logs"] := by
    rw [home, start, pieces, leadTo_cons, leadTo_nil, below]
  have onWay : files.way usualFolder =
      [files.working, files.working ++ [Text.encode "logs"]] := by
    rw [Tree.way, start, pieces, way, way, below]
  rw [Owns, atHome, onWay]
  constructor
  · rintro (within | ⟨member, nothing⟩)
    · exact within
    · rcases List.mem_cons.mp member with rfl | last
      · rw [stands] at nothing
        cases nothing
      · rw [List.mem_singleton.mp last]
  · exact .inl

/-- A record changes only places of the journal. -/
theorem write_sameBut
    (journal : Journal)
    (time : String)
    (record : JournalRecord)
    (files : Tree) :
    Tree.SameBut (Owns journal.folder files) files (journal.write time record files) := by
  cases enabled : journal.enabled with
  | false =>
      rw [write_of_disabled enabled]
      exact .refl _ _
  | true =>
      have made : Tree.SameBut (Owns journal.folder files) files (journal.ready files) := by
        unfold ready
        split
        · exact .refl _ _
        · exact Tree.makeFolder_sameBut fun place onWay nothing => .inr ⟨onWay, nothing⟩
      rw [write_of_enabled enabled]
      refine made.trans ?_
      unfold Tree.append
      split
      · rename_i place locates
        have owned : Owns journal.folder files place :=
          .inl (home_congr made.working_eq journal.folder ▸ home_isPrefix_of_locate locates)
        split
        · exact .put owned _ _
        · exact .refl _ _
        · exact .put owned _ _
      · exact .refl _ _

/-- Records written one after the other change only places that were the journal's at first. -/
theorem write_keeps
    {base : Tree}
    (same : Tree.SameBut (Owns journal.folder base) base files)
    (time : String)
    (record : JournalRecord) :
    Tree.SameBut (Owns journal.folder base) base (journal.write time record files) where
  working_eq := (journal.write_sameBut time record files).working_eq.trans same.working_eq
  entry_eq := by
    intro place notOwned
    have untouched := (journal.write_sameBut time record files).entry_eq place
      fun owned => notOwned (owns_of_sameBut same owned)
    exact untouched.trans (same.entry_eq place notOwned)

/-! ## The journal's content -/

/-- Where the journal's file is located there is nothing left to be made. -/
theorem ready_of_locate (locates : files.locate journal.file = .ok place) :
    journal.ready files = files := by
  unfold ready
  split
  · rfl
  · rename_i missing
    by_cases empty : journal.folder.bytes = []
    · have names : journal.folder.names = [] := by simp [Path.names, empty, cutAtSlashes]
      simp [Tree.makeFolder, names, Tree.makeFolders]
    · exact absurd (Tree.holds_of_locate_join isFileName_fileName empty locates) missing

/-- What is read of the journal's file is its content. -/
theorem content?_of_read (reads : files.read journal.file = .ok held) :
    journal.content? files = some held := by
  have appendable := Tree.appendable?_of_read reads
  obtain ⟨place, locates, _⟩ := Tree.append_of_appendable? appendable []
  rw [content?, ready_of_locate locates, appendable]

/-- While the journal is switched on and can be written to, a record goes to the end of what
its file holds. -/
theorem read_write
    (enabled : journal.enabled = true)
    (holds : journal.content? files = some held)
    (time : String)
    (record : JournalRecord) :
    (journal.write time record files).read journal.file =
      .ok (held ++ Text.encode (record.text time)) := by
  rw [write_of_enabled enabled]
  exact Tree.read_append holds _

/-- The content of the journal after a record is written. -/
theorem content?_write
    (enabled : journal.enabled = true)
    (holds : journal.content? files = some held)
    (time : String)
    (record : JournalRecord) :
    journal.content? (journal.write time record files) =
      some (held ++ Text.encode (record.text time)) :=
  content?_of_read (read_write enabled holds time record)

/-! ## Records one after the other -/

/-- The files after records are written, each at its time. -/
def writes
    (journal : Journal)
    (entries : List (String × JournalRecord))
    (files : Tree) : Tree :=
  entries.foldl (fun files (time, record) => journal.write time record files) files

/-- The texts of records, each at its time, one after the other. -/
def written (entries : List (String × JournalRecord)) : String :=
  String.join (entries.map fun (time, record) => record.text time)

variable {entries : List (String × JournalRecord)}

@[simp] theorem writes_nil
    (journal : Journal)
    (files : Tree) :
    journal.writes [] files = files := rfl

@[simp] theorem writes_cons
    (journal : Journal)
    (entry : String × JournalRecord)
    (entries : List (String × JournalRecord))
    (files : Tree) :
    journal.writes (entry :: entries) files =
      journal.writes entries (journal.write entry.1 entry.2 files) := rfl

theorem writes_append
    (journal : Journal)
    (entries others : List (String × JournalRecord))
    (files : Tree) :
    journal.writes (entries ++ others) files =
      journal.writes others (journal.writes entries files) :=
  List.foldl_append

/-- Records change only places that were the journal's at first. -/
theorem writes_keep
    {base : Tree}
    (same : Tree.SameBut (Owns journal.folder base) base files)
    (entries : List (String × JournalRecord)) :
    Tree.SameBut (Owns journal.folder base) base (journal.writes entries files) := by
  induction entries generalizing files with
  | nil => exact same
  | cons entry entries inductionHypothesis =>
      exact inductionHypothesis (write_keeps same entry.1 entry.2)

@[simp] theorem encode_written_cons
    (entry : String × JournalRecord)
    (entries : List (String × JournalRecord)) :
    Text.encode (written (entry :: entries)) =
      Text.encode (entry.2.text entry.1) ++ Text.encode (written entries) := by
  simp [written, Text.encode]

/-- Records are put one after the other at the end of what the journal's file holds. -/
theorem read_writes
    (enabled : journal.enabled = true)
    (holds : journal.content? files = some held)
    (nonempty : entries ≠ []) :
    (journal.writes entries files).read journal.file =
      .ok (held ++ Text.encode (written entries)) := by
  induction entries generalizing files held with
  | nil => exact absurd rfl nonempty
  | cons entry entries inductionHypothesis =>
      cases entries with
      | nil =>
          rw [encode_written_cons, written, List.map_nil]
          simpa [Text.encode] using read_write enabled holds entry.1 entry.2
      | cons next others =>
          rw [writes_cons, inductionHypothesis (content?_write enabled holds entry.1 entry.2)
            (List.cons_ne_nil _ _), encode_written_cons entry, List.append_assoc]

/-- The content of the journal after records are written one after the other. -/
theorem content?_writes
    (enabled : journal.enabled = true)
    (holds : journal.content? files = some held)
    (entries : List (String × JournalRecord)) :
    journal.content? (journal.writes entries files) =
      some (held ++ Text.encode (written entries)) := by
  cases entries with
  | nil => simpa [written, Text.encode] using holds
  | cons entry entries =>
      exact content?_of_read (read_writes enabled holds (List.cons_ne_nil _ _))

end Journal

/-! ## Notes -/

namespace Situation

/-- Noting things writes the records among them to the journal. -/
theorem noting_writes
    (situation : Situation)
    (notes : List Note) :
    (situation.noting notes).world.files =
      situation.world.journal.writes
        ((notes.filterMap Note.record?).map fun record => (situation.world.time, record))
        situation.world.files := by
  induction notes generalizing situation with
  | nil => rfl
  | cons noted notes inductionHypothesis =>
      have rest := inductionHypothesis (situation.noting [noted])
      rw [noting_noting, noting_journal, noting_time] at rest
      rw [List.singleton_append] at rest
      rw [rest]
      cases noted <;> rfl

/-- The situation before anything is said in it. -/
def hushed (situation : Situation) : Situation :=
  { situation with world := situation.world.hushed }

/-- Besides what is said, noting things leaves the same if the same records are among them. -/
theorem hushed_noting_congr
    (situation : Situation)
    {notes others : List Note}
    (same : notes.filterMap Note.record? = others.filterMap Note.record?) :
    (situation.noting notes).hushed = (situation.noting others).hushed := by
  have sameFiles : (situation.noting notes).world.files =
      (situation.noting others).world.files := by
    rw [noting_writes, noting_writes, same]
  obtain ⟨files, said, noted⟩ := situation.noting_world notes
  obtain ⟨otherFiles, otherSaid, otherNoted⟩ := situation.noting_world others
  rw [noted, otherNoted] at sameFiles
  simp only at sameFiles
  rw [hushed, hushed, noted, otherNoted, sameFiles]
  rfl

end Situation
end KnowledgeClient
