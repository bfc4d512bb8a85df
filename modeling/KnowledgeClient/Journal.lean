import KnowledgeClient.Diagnostics
import KnowledgeClient.Files.Tree

/-!
# The journal

The journal is a file that records are put at the end of, one after the other.
While it is switched off nothing is recorded.  A record that cannot be written is
lost, and an event says so and why: keeping a journal never makes anything else fail.
-/

namespace KnowledgeClient

/-- What kind of event a record tells of. -/
inductive Level
  | info
  | error
deriving DecidableEq, Repr

/-- The word for a level. -/
def Level.word : Level → String
  | .info => "INFO"
  | .error => "ERROR"

/-- A record of the journal. -/
structure JournalRecord where
  level : Level
  category : String
  message : String
deriving DecidableEq, Repr

/-- The text of a record written at some time. -/
def JournalRecord.text (record : JournalRecord) (time : String) : String :=
  time ++ " [" ++ record.level.word ++ "] " ++ record.category ++ " - " ++ record.message ++ "\n"

/-- Whether a journal is kept, and the folder it is kept in. -/
structure Journal where
  enabled : Bool
  folder : Files.Path
deriving DecidableEq, Repr

namespace Journal

/-- The folder that the journal is kept in unless another is chosen. -/
def usualFolder : Files.Path := .ofText "logs"

/-- The name of the journal's file. -/
def fileName : Files.Name := Text.encode "kmforge.log"

/-- The journal before anything is chosen: switched off. -/
def initial : Journal := ⟨false, usualFolder⟩

/-- The path of the journal's file. -/
def file (journal : Journal) : Files.Path :=
  journal.folder.join fileName

/-- The text of the journal's file, if there is one that can be read. -/
def read? (journal : Journal) (files : Files.Tree) : Option String :=
  (files.readText journal.file).toOption

/-- The files after a record is written at some time: the folder is made if nothing is there. -/
def write (journal : Journal) (time : String) (record : JournalRecord) (files : Files.Tree) :
    Files.Tree :=
  if journal.enabled then
    let files := if files.holds journal.folder then files else files.makeFolder journal.folder
    files.append journal.file (Text.encode (record.text time))
  else files

/-- Why the journal's folder is not there and cannot be made, if that is so. -/
def folderFault? (journal : Journal) (files : Files.Tree) : Option Files.Fault :=
  if journal.folder.bytes.isEmpty then none
  else
    match files.find journal.folder with
    | .ok _ => none
    | .error .missing =>
      match (files.makeFolder journal.folder).find journal.folder with
      | .ok .folder => none
      | .ok (.file _) => some .taken
      | .error .notFolder => some .taken
      | .error fault => some fault
    | .error fault => some fault

/-- Why nothing can be put at the end of the journal's file, if that is so. -/
def fileFault? (journal : Journal) (files : Files.Tree) : Option Files.Fault :=
  match files.locate journal.file with
  | .ok place => if files.entry? place = some .folder then some .isFolder else none
  | .error fault => some fault

/-- Why a record is not written, if it is not: first the folder is seen to, then the file. -/
def fault? (journal : Journal) (files : Files.Tree) : Option Files.Fault :=
  (journal.folderFault? files).or
    (journal.fileFault?
      (if files.holds journal.folder then files else files.makeFolder journal.folder))

/-- The event that a record is lost, if the journal is kept and the record cannot be written. -/
def loss? (journal : Journal) (files : Files.Tree) : Option Event :=
  if journal.enabled then (journal.fault? files).map fun fault => .recordLost fault.message
  else none

end Journal

/-- What can be done with a journal: switch it, choose its folder, start tracing elsewhere, or
give it a record. -/
inductive JournalStep
  | switch (on : Bool)
  | choose (folder : Files.Path)
  | startTracing (directive : String)
  | give (record : JournalRecord)
deriving DecidableEq, Repr

/-- Takes a step at some time with a journal among files.  Tracing leaves both as they are. -/
def JournalStep.take (time : String) : JournalStep → Journal × Files.Tree → Journal × Files.Tree
  | .switch on, (journal, files) => ({ journal with enabled := on }, files)
  | .choose folder, (journal, files) => ({ journal with folder }, files)
  | .startTracing _, (journal, files) => (journal, files)
  | .give record, (journal, files) => (journal, journal.write time record files)

end KnowledgeClient
