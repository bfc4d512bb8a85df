import KnowledgeClient.Proofs.Journaling
import KnowledgeClient.Proofs.Rooted

/-!
# The journal only grows

In a rooted tree a record goes to the end of the journal's file, in the folder that was chosen
last, and that folder is made with those above it.  The record is lost exactly if something is
in the way, or if the path of the folder ends with a dot after a folder that is missing; no
file changes then, and an event tells of the loss.  So any file holds at any point what it held
at first and the records that went to it since, in their order.
-/

namespace KnowledgeClient

open Files

/-- Bytes that can be put nowhere change nothing. -/
theorem Files.Tree.append_of_unappendable
    {tree : Tree}
    {path : Path}
    (nowhere : tree.appendable? path = none)
    (bytes : Bytes) :
    tree.append path bytes = tree := by
  unfold Tree.appendable? at nowhere
  unfold Tree.append
  cases locates : tree.locate path with
  | error fault => rfl
  | ok place =>
      cases stands : tree.entry? place with
      | none => simp [locates, stands] at nowhere
      | some entry =>
          cases entry with
          | folder => simp [stands]
          | file content => simp [locates, stands] at nowhere

/-- What is reached in a tree with more in it is reached in the smaller tree, or misses something
there: nothing else stops the way. -/
theorem Files.Tree.follow_of_kept
    {tree other : Tree}
    {place reached : Place}
    {names : List Name}
    (kept : ∀ place entry, tree.entry? place = some entry → other.entry? place = some entry)
    (follows : other.follow place names = .ok reached) :
    tree.follow place names = .ok reached ∨ tree.follow place names = .error .missing := by
  induction names generalizing place with
  | nil => exact .inl follows
  | cons name names inductionHypothesis =>
      obtain ⟨folder, short, further⟩ := follow_cons_eq_ok follows
      cases stands : tree.entry? place with
      | none => exact .inr (by simp [follow, stands])
      | some entry =>
          obtain rfl : entry = .folder :=
            Option.some.inj ((kept place entry stands).symm.trans folder)
          rw [follow_cons stands, if_neg short]
          exact inductionHypothesis further

/-- What a path finds in a tree with more in it is found in the smaller tree, or is missing. -/
theorem Files.Tree.find_of_kept
    {tree other : Tree}
    {path : Path}
    {entry : Entry}
    (working : other.working = tree.working)
    (kept : ∀ place entry, tree.entry? place = some entry → other.entry? place = some entry)
    (finds : other.find path = .ok entry) :
    (∃ found, tree.find path = .ok found) ∨ tree.find path = .error .missing := by
  obtain ⟨reached, locates, _⟩ := find_eq_ok_iff.mp finds
  obtain ⟨noNul, nonempty, short, follows⟩ := locate_eq_ok_iff.mp locates
  have start : other.start path = tree.start path := by
    unfold Tree.start
    rw [working]
  have located : tree.locate path = tree.follow (tree.start path) (cutAtSlashes path.bytes) := by
    simp [Tree.locate, noNul, nonempty, Nat.not_le.mpr short]
  rw [start] at follows
  rcases follow_of_kept kept follows with same | misses
  · cases stands : tree.entry? reached with
    | none => exact .inr (by simp [Tree.find, located, same, stands, bind, Except.bind])
    | some found => exact .inl ⟨found, find_eq_ok_iff.mpr ⟨reached, located.trans same, stands⟩⟩
  · exact .inr (by simp [Tree.find, located, misses, bind, Except.bind])

namespace Journal

/-- The place of the journal's file. -/
def place (journal : Journal) (files : Tree) : Place :=
  home journal.folder files ++ [fileName]

/-- Something is in the way of the journal's file: a file on the way to its folder, or a folder
in its own place, which may be one on that way. -/
def IsObstructed (journal : Journal) (files : Tree) : Prop :=
  (∃ passed ∈ files.way journal.folder, files.fileAt? passed ≠ none) ∨
    files.entry? (journal.place files) = some .folder ∨
    journal.place files ∈ files.way journal.folder

/-- A record that the journal is given is lost: something is in the way of the journal's file,
or its folder is one that is not made. -/
def Loses (journal : Journal) (files : Tree) : Prop :=
  journal.IsObstructed files ∨ files.LacksLast journal.folder

instance (journal : Journal) (files : Tree) : Decidable (journal.IsObstructed files) :=
  inferInstanceAs (Decidable (_ ∨ _ ∨ _))

instance (journal : Journal) (files : Tree) : Decidable (journal.Loses files) :=
  inferInstanceAs (Decidable (_ ∨ _))

variable {journal : Journal} {files : Tree} {passed : Place} {entry : Entry}

theorem place_ne_nil (journal : Journal) (files : Tree) : journal.place files ≠ [] := by
  simp [place]

/-- Where the journal's file is located is its place. -/
theorem eq_place_of_locate
    {reached : Place}
    (locates : files.locate journal.file = .ok reached) :
    reached = journal.place files := by
  rw [Tree.eq_leadTo_of_locate locates, file, Path.start_join isFileName_fileName,
    Path.leadTo_join isFileName_fileName]
  rfl

/-! ## The journal's folder -/

/-- Making the folder ready changes only what is missing on the way to it. -/
theorem ready_sameBut
    (journal : Journal)
    (files : Tree) :
    Tree.SameBut (fun passed => passed ∈ files.way journal.folder ∧ files.entry? passed = none)
      files (journal.ready files) := by
  unfold ready
  split
  · exact .refl _ _
  · exact Tree.makeFolder_sameBut fun _ onWay nothing => ⟨onWay, nothing⟩

theorem entry_ready_of_stands (stands : files.entry? passed = some entry) :
    Tree.entry? (journal.ready files) passed = some entry := by
  rw [(ready_sameBut journal files).entry_eq passed (by simp [stands]), stands]

theorem fileAt?_ready
    (journal : Journal)
    (files : Tree)
    (passed : Place) :
    (journal.ready files).fileAt? passed = files.fileAt? passed := by
  unfold ready
  split
  · rfl
  · exact Tree.fileAt?_makeFolder _ _ _

theorem isRooted_ready (rooted : files.IsRooted) : (journal.ready files).IsRooted := by
  unfold ready
  split
  · exact rooted
  · exact rooted.makeFolder _

theorem place_ready
    (journal : Journal)
    (files : Tree) :
    journal.place (journal.ready files) = journal.place files := by
  rw [place, home_congr (ready_sameBut journal files).working_eq, place]

theorem way_ready
    (journal : Journal)
    (files : Tree) :
    (journal.ready files).way journal.folder = files.way journal.folder := by
  unfold Tree.way Tree.start
  rw [(ready_sameBut journal files).working_eq]

/-- Unless records are lost, there are folders all the way once the folder is ready. -/
theorem folders_ready
    (rooted : files.IsRooted)
    (usable : journal.file.IsUsable)
    (takes : ¬ journal.Loses files) :
    ∀ passed ∈ files.way journal.folder,
      Tree.entry? (journal.ready files) passed = some .folder := by
  obtain ⟨free, complete⟩ := not_or.mp takes
  have clear : ∀ passed ∈ files.way journal.folder, files.fileAt? passed = none := by
    intro passed onWay
    by_contra blocked
    exact free (.inl ⟨passed, onWay, blocked⟩)
  unfold ready
  split
  · rename_i holds
    exact Tree.folders_of_holds holds clear
  · exact Tree.folders_makeFolder rooted (.of_join isFileName_fileName usable) clear complete

/-! ## Where records go -/

/-- Unless records are lost, they go to the end of what the file in the journal's place holds. -/
theorem content?_of_takes
    (rooted : files.IsRooted)
    (usable : journal.file.IsUsable)
    (takes : ¬ journal.Loses files) :
    (journal.ready files).locate journal.file = .ok (journal.place files) ∧
      journal.content? files = some ((files.fileAt? (journal.place files)).getD []) := by
  have folders := folders_ready rooted usable takes
  have located : (journal.ready files).locate journal.file = .ok (journal.place files) := by
    rw [← place_ready]
    exact Tree.locate_join_of_folders isFileName_fileName usable
      fun passed onWay => folders passed (way_ready journal files ▸ onWay)
  obtain ⟨free, _⟩ := not_or.mp takes
  have notPassed : journal.place files ∉ files.way journal.folder :=
    fun onWay => free (.inr (.inr onWay))
  have stands : Tree.entry? (journal.ready files) (journal.place files) =
      files.entry? (journal.place files) :=
    (ready_sameBut journal files).entry_eq _ fun ⟨onWay, _⟩ => notPassed onWay
  refine ⟨located, ?_⟩
  rw [content?, Tree.appendable?, located]
  dsimp only
  rw [stands, Tree.fileAt?]
  cases atPlace : files.entry? (journal.place files) with
  | none => rfl
  | some entry =>
      cases entry with
      | file content => rfl
      | folder => exact absurd (.inr (.inl atPlace)) free

/-- Where records are lost there is no content that they could go to the end of. -/
theorem content?_of_loses (loses : journal.Loses files) : journal.content? files = none := by
  rw [content?, Tree.appendable?]
  cases locates : (journal.ready files).locate journal.file with
  | error fault => rfl
  | ok reached =>
      have folders := Tree.folders_of_locate_join isFileName_fileName locates
      rw [way_ready] at folders
      have isPlace : reached = journal.place files := by
        rw [eq_place_of_locate locates, place_ready]
      have isFolder : Tree.entry? (journal.ready files) reached = some .folder := by
        rcases loses with (⟨passed, onWay, blocked⟩ | stands | onWay) | lacks
        · rw [← fileAt?_ready, Tree.fileAt?_of_folder (folders passed onWay)] at blocked
          exact absurd rfl blocked
        · rw [isPlace, entry_ready_of_stands stands]
        · rw [isPlace, folders _ onWay]
        · -- The folder would have to be there, but it is left out.
          have missing := lacks.2.1
          have made := folders (home journal.folder files) (leadTo_mem_way _ _)
          unfold ready at made
          split at made
          · rw [show files.entry? (home journal.folder files) = none from missing] at made
            cases made
          · rw [show Tree.entry? (files.makeFolder journal.folder) (home journal.folder files) =
              none from Tree.entry_makeFolder_of_lacksLast lacks] at made
            cases made
      dsimp only
      rw [isFolder]

/-! ## Why records are lost -/

/-- Where the journal's file is located once its folder is ready, there was nothing wrong with
the folder. -/
theorem folderFault?_of_locate
    {reached : Place}
    (locates : (journal.ready files).locate journal.file = .ok reached) :
    journal.folderFault? files = none := by
  unfold folderFault?
  by_cases empty : journal.folder.bytes = []
  · simp [empty]
  · obtain ⟨entry, finds⟩ :=
      Tree.holds_iff.mp (Tree.holds_of_locate_join isFileName_fileName empty locates)
    have kept : ∀ place entry, files.entry? place = some entry →
        Tree.entry? (journal.ready files) place = some entry := fun _ _ => entry_ready_of_stands
    rcases Tree.find_of_kept (ready_sameBut journal files).working_eq kept finds with
      ⟨found, stood⟩ | missing
    · simp [stood]
    · have isMade : journal.ready files = files.makeFolder journal.folder := by
        simp [ready, Tree.holds, missing, Except.toOption]
      obtain ⟨place, leads, stands⟩ := Tree.find_eq_ok_iff.mp finds
      have isFolder : entry = .folder := by
        have onWay := Tree.folders_of_locate_join isFileName_fileName locates _
          (leadTo_mem_way _ _)
        rw [← Tree.eq_leadTo_of_locate leads, stands] at onWay
        exact Option.some.inj onWay
      rw [isMade, isFolder] at finds
      simp [empty, missing, finds]

/-- Nothing keeps records from being written exactly if they can go to the end of the journal's
file. -/
theorem fault?_eq_none_iff (journal : Journal) (files : Tree) :
    journal.fault? files = none ↔ (journal.content? files).isSome = true := by
  have isFault : journal.fault? files =
      (journal.folderFault? files).or (journal.fileFault? (journal.ready files)) := rfl
  rw [isFault, Option.or_eq_none_iff, content?, fileFault?, Tree.appendable?]
  cases locates : (journal.ready files).locate journal.file with
  | error fault => simp
  | ok reached =>
      rw [folderFault?_of_locate locates]
      cases stands : Tree.entry? (journal.ready files) reached with
      | none => simp [stands]
      | some entry => cases entry <;> simp [stands]

/-- An event tells that a record is lost exactly if it is. -/
theorem isSome_loss?_iff
    (rooted : files.IsRooted)
    (usable : journal.file.IsUsable) :
    (journal.loss? files).isSome = true ↔ journal.enabled = true ∧ journal.Loses files := by
  have faultless := fault?_eq_none_iff journal files
  unfold loss?
  cases journal.enabled with
  | false => simp
  | true =>
      by_cases loses : journal.Loses files
      · rw [content?_of_loses loses] at faultless
        obtain ⟨fault, isFault⟩ := Option.ne_none_iff_exists'.mp (by simpa using faultless)
        simp [isFault, loses]
      · rw [(content?_of_takes rooted usable loses).2] at faultless
        simp [faultless, loses]

/-- A record that is not lost goes to the end of the journal's file, and the folders on the way
to it are made; there is no other change. -/
theorem entry_write
    (rooted : files.IsRooted)
    (usable : journal.file.IsUsable)
    (enabled : journal.enabled = true)
    (takes : ¬ journal.Loses files)
    (time : String)
    (record : JournalRecord)
    (place : Place) :
    Tree.entry? (journal.write time record files) place =
      if place = journal.place files then
        some (.file ((files.fileAt? place).getD [] ++ Text.encode (record.text time)))
      else if place ∈ files.way journal.folder then some .folder
      else files.entry? place := by
  obtain ⟨located, holds⟩ := content?_of_takes rooted usable takes
  obtain ⟨_, locates, _, appended⟩ :=
    Tree.append_of_appendable? holds (Text.encode (record.text time))
  obtain rfl := Except.ok.inj (located.symm.trans locates)
  rw [write_of_enabled enabled, appended, Tree.entry_put]
  by_cases atPlace : place = journal.place files
  · rw [if_pos ⟨atPlace, atPlace ▸ place_ne_nil _ _⟩, if_pos atPlace, atPlace]
  · rw [if_neg fun ⟨same, _⟩ => atPlace same, if_neg atPlace]
    split
    · rename_i onWay
      exact folders_ready rooted usable takes place onWay
    · rename_i offWay
      exact (ready_sameBut journal files).entry_eq place fun ⟨onWay, _⟩ => offWay onWay

/-- A record that is lost makes some of the folders at most. -/
theorem write_of_loses
    (enabled : journal.enabled = true)
    (loses : journal.Loses files)
    (time : String)
    (record : JournalRecord) :
    journal.write time record files = journal.ready files := by
  rw [write_of_enabled enabled]
  exact Tree.append_of_unappendable (content?_of_loses loses) _

/-- A record that is not lost changes the content of one file. -/
theorem fileAt?_write
    (rooted : files.IsRooted)
    (usable : journal.file.IsUsable)
    (enabled : journal.enabled = true)
    (takes : ¬ journal.Loses files)
    (time : String)
    (record : JournalRecord)
    (place : Place) :
    (journal.write time record files).fileAt? place =
      if place = journal.place files then
        some ((files.fileAt? place).getD [] ++ Text.encode (record.text time))
      else files.fileAt? place := by
  have entry := entry_write rooted usable enabled takes time record place
  split
  · rename_i atPlace
    rw [if_pos atPlace] at entry
    exact Tree.fileAt?_eq_some_iff.mpr entry
  · rename_i elsewhere
    rw [if_neg elsewhere] at entry
    split at entry
    · rename_i onWay
      rw [Tree.fileAt?_of_folder entry, ← fileAt?_ready journal,
        Tree.fileAt?_of_folder (folders_ready rooted usable takes place onWay)]
    · exact Tree.fileAt?_congr entry

/-- Files stay rooted when a record is written. -/
theorem isRooted_write
    (rooted : files.IsRooted)
    (time : String)
    (record : JournalRecord) :
    (journal.write time record files).IsRooted := by
  cases enabled : journal.enabled with
  | false => rwa [write_of_disabled enabled]
  | true =>
      rw [write_of_enabled enabled]
      cases holds : (journal.ready files).appendable? journal.file with
      | none =>
          rw [Tree.append_of_unappendable holds]
          exact isRooted_ready rooted
      | some held =>
          obtain ⟨reached, locates, noFolder, appended⟩ := Tree.append_of_appendable? holds
            (Text.encode (record.text time))
          have folders := Tree.folders_of_locate_join isFileName_fileName locates
          rw [appended]
          refine (isRooted_ready rooted).put ?_ fun folder => absurd folder noFolder
          rw [eq_place_of_locate locates, place, List.dropLast_concat]
          exact folders _ (leadTo_mem_way _ _)

/-- A folder stays when a record is written. -/
theorem folder_write
    (folder : files.entry? passed = some .folder)
    (time : String)
    (record : JournalRecord) :
    Tree.entry? (journal.write time record files) passed = some .folder := by
  cases enabled : journal.enabled with
  | false => rwa [write_of_disabled enabled]
  | true =>
      have stays : Tree.entry? (journal.ready files) passed = some .folder :=
        entry_ready_of_stands folder
      rw [write_of_enabled enabled]
      cases holds : (journal.ready files).appendable? journal.file with
      | none => rwa [Tree.append_of_unappendable holds]
      | some held =>
          obtain ⟨_, _, noFolder, appended⟩ := Tree.append_of_appendable? holds
            (Text.encode (record.text time))
          rw [appended]
          exact Tree.entry_put_of_folder (fun folder => absurd folder noFolder) stays

end Journal

/-! ## Steps one after the other -/

namespace JournalStep

/-- The folder that a step chooses. -/
def chosen? : JournalStep → Option Path
  | .choose folder => some folder
  | _ => none

/-- What a step switches the journal to. -/
def switched? : JournalStep → Option Bool
  | .switch on => some on
  | _ => none

/-- Takes steps one after the other, each at its time. -/
def takeAll
    (steps : List (String × JournalStep))
    (state : Journal × Tree) : Journal × Tree :=
  steps.foldl (fun state (time, step) => step.take time state) state

@[simp] theorem takeAll_cons
    (step : String × JournalStep)
    (steps : List (String × JournalStep))
    (state : Journal × Tree) :
    takeAll (step :: steps) state = takeAll steps (step.2.take step.1 state) := rfl

theorem takeAll_concat
    (steps : List (String × JournalStep))
    (step : String × JournalStep)
    (state : Journal × Tree) :
    takeAll (steps ++ [step]) state = step.2.take step.1 (takeAll steps state) :=
  List.foldl_append

/-- What steps set is as the last of those that set it has set it. -/
theorem takeAll_last
    {Value : Type}
    (get : Journal × Tree → Value)
    (sets? : JournalStep → Option Value)
    (each : ∀ time step state, get (take time step state) = (sets? step).getD (get state))
    (steps : List (String × JournalStep))
    (state : Journal × Tree) :
    get (takeAll steps state) = (steps.filterMap (sets? ·.2)).getLast?.getD (get state) := by
  induction steps using List.reverseRecOn with
  | nil => rfl
  | append_singleton steps step inductionHypothesis =>
      rw [takeAll_concat, each, List.filterMap_append, inductionHypothesis]
      cases sets : sets? step.2 <;> simp [sets]

end JournalStep

namespace Journal

open JournalStep

/-- What a file holds after records are put at its end: the file is made for the first of
them. -/
def extended (held : Option Bytes) (entries : List (String × JournalRecord)) : Option Bytes :=
  if entries = [] then held else some (held.getD [] ++ Text.encode (written entries))

theorem extended_append
    (held : Option Bytes)
    (entries others : List (String × JournalRecord)) :
    extended (extended held entries) others = extended held (entries ++ others) := by
  have joined : Text.encode (written (entries ++ others)) =
      Text.encode (written entries) ++ Text.encode (written others) := by
    simp [written, Text.encode]
  cases entries with
  | nil => rfl
  | cons entry entries =>
      cases others with
      | nil => simp [extended]
      | cons other others =>
          simp only [extended, List.cons_append, reduceCtorEq, if_false, Option.getD_some]
          rw [List.append_assoc, ← joined, List.cons_append]

/-- The record that a step puts at the end of the file at a place, with its time. -/
def recordedBy
    (place : Place)
    (time : String)
    (step : JournalStep)
    (state : Journal × Tree) : Option (String × JournalRecord) :=
  match step with
  | .give record =>
    if state.1.enabled = true ∧ ¬ state.1.Loses state.2 ∧ place = state.1.place state.2 then
      some (time, record)
    else none
  | _ => none

/-- The records that steps put at the end of the file at a place, one after the other: those
that are given while the journal is switched on and kept there, and that are not lost. -/
def recorded (place : Place) :
    List (String × JournalStep) → Journal × Tree → List (String × JournalRecord)
  | [], _ => []
  | (time, step) :: steps, state =>
    (recordedBy place time step state).toList ++ recorded place steps (step.take time state)

/-- What a step does to the files that it finds. -/
structure Grows
    (time : String)
    (step : JournalStep)
    (journal : Journal)
    (files : Tree) : Prop where
  /-- Nothing but a record that is given while the journal is switched on changes the files. -/
  quiet :
    (∀ record, step = .give record → journal.enabled = false) →
      (step.take time (journal, files)).2 = files
  /-- A record that is not lost goes to the end of the journal's file, and the folders on the
  way to it are made.  There is no other change. -/
  appended :
    ∀ record, step = .give record → journal.enabled = true → ¬ journal.Loses files →
      ∀ place, Tree.entry? (step.take time (journal, files)).2 place =
        if place = journal.place files then
          some (.file ((files.fileAt? place).getD [] ++ Text.encode (record.text time)))
        else if place ∈ files.way journal.folder then some .folder
        else files.entry? place
  /-- A record that is lost changes no file. -/
  lost :
    ∀ record, step = .give record → journal.enabled = true → journal.Loses files →
      ∀ place, (step.take time (journal, files)).2.fileAt? place = files.fileAt? place
  /-- An event tells of every record that is lost, and of no other. -/
  told : (journal.loss? files).isSome = true ↔ journal.enabled = true ∧ journal.Loses files
  /-- No file changes but the journal's. -/
  frame :
    ∀ place, place ≠ journal.place files →
      (step.take time (journal, files)).2.fileAt? place = files.fileAt? place
  /-- No folder is taken away. -/
  folders :
    ∀ place, files.entry? place = some .folder →
      Tree.entry? (step.take time (journal, files)).2 place = some .folder

/-- What steps with a journal make of the files that they find at first, and what any next step
does to the files that they leave. -/
structure OnlyGrows
    (steps : List (String × JournalStep))
    (journal : Journal)
    (files : Tree) : Prop where
  /-- The journal is kept in the folder that was chosen last. -/
  folder :
    (takeAll steps (journal, files)).1.folder =
      (steps.filterMap (chosen? ·.2)).getLast?.getD journal.folder
  /-- The journal is kept as it was switched last. -/
  enabled :
    (takeAll steps (journal, files)).1.enabled =
      (steps.filterMap (switched? ·.2)).getLast?.getD journal.enabled
  /-- Every file holds what it held at first and the records that went to it, in their order. -/
  content :
    ∀ place, (takeAll steps (journal, files)).2.fileAt? place =
      extended (files.fileAt? place) (recorded place steps (journal, files))
  /-- The next step changes the files as far as it adds to the journal's file. -/
  next :
    ∀ time step, Grows time step (takeAll steps (journal, files)).1
      (takeAll steps (journal, files)).2

/-- A step among rooted files only adds to the journal's file. -/
theorem grows_of_rooted
    (rooted : files.IsRooted)
    (usable : journal.file.IsUsable)
    (time : String)
    (step : JournalStep) :
    Grows time step journal files where
  quiet := by
    intro notGiven
    cases step with
    | give record => exact write_of_disabled (notGiven record rfl) _ _ _
    | _ => rfl
  appended := by
    rintro record rfl enabled takes place
    exact entry_write rooted usable enabled takes time record place
  lost := by
    rintro record rfl enabled loses place
    exact (congrArg (·.fileAt? place) (write_of_loses enabled loses time record)).trans
      (fileAt?_ready journal files place)
  told := isSome_loss?_iff rooted usable
  frame := by
    intro place elsewhere
    cases step with
    | give record =>
        change (journal.write time record files).fileAt? place = _
        cases enabled : journal.enabled with
        | false => rw [write_of_disabled enabled]
        | true =>
            by_cases loses : journal.Loses files
            · rw [write_of_loses enabled loses, fileAt?_ready]
            · rw [fileAt?_write rooted usable enabled loses, if_neg elsewhere]
    | _ => rfl
  folders := by
    intro place folder
    cases step with
    | give record => exact folder_write folder time record
    | _ => exact folder

/-- A step adds to a file what it puts at its end. -/
theorem fileAt?_take
    (rooted : files.IsRooted)
    (usable : journal.file.IsUsable)
    (time : String)
    (step : JournalStep)
    (place : Place) :
    (step.take time (journal, files)).2.fileAt? place =
      extended (files.fileAt? place) (recordedBy place time step (journal, files)).toList := by
  cases step with
  | give record =>
      have grows := grows_of_rooted rooted usable time (.give record)
      unfold recordedBy
      dsimp only
      split
      · rename_i goes
        obtain ⟨enabled, takes, atPlace⟩ := goes
        have entry := grows.appended record rfl enabled takes place
        rw [if_pos atPlace] at entry
        rw [Tree.fileAt?_eq_some_iff.mpr entry]
        simp [extended, written]
      · rename_i stays
        by_cases atPlace : place = journal.place files
        · cases enabled : journal.enabled with
          | false => exact congrArg (·.fileAt? place) (write_of_disabled enabled _ _ _)
          | true =>
              have loses : journal.Loses files := by
                by_contra takes
                exact stays ⟨enabled, takes, atPlace⟩
              exact grows.lost record rfl enabled loses place
        · exact grows.frame place atPlace
  | _ => rfl

/-- Files stay rooted, and a journal usable whose folders are. -/
theorem usable_take
    (rooted : files.IsRooted)
    (usable : journal.file.IsUsable)
    {time : String}
    {step : JournalStep}
    (chosen : ∀ folder, step.chosen? = some folder → (folder.join fileName).IsUsable) :
    (step.take time (journal, files)).2.IsRooted ∧
      (step.take time (journal, files)).1.file.IsUsable := by
  cases step with
  | give record => exact ⟨isRooted_write rooted time record, usable⟩
  | choose folder => exact ⟨rooted, chosen folder rfl⟩
  | switch on => exact ⟨rooted, usable⟩
  | startTracing directive => exact ⟨rooted, usable⟩

/-- Steps with a journal among rooted files only add to the journal's files, one record after
the other. -/
theorem onlyGrows_of_rooted
    (steps : List (String × JournalStep))
    (journal : Journal)
    (files : Tree)
    (rooted : files.IsRooted)
    (usable : journal.file.IsUsable)
    (chosen : ∀ step ∈ steps, ∀ folder, step.2.chosen? = some folder →
      (folder.join fileName).IsUsable) :
    OnlyGrows steps journal files where
  folder :=
    takeAll_last (·.1.folder) chosen? (fun _ step _ => by cases step <;> rfl) steps _
  enabled :=
    takeAll_last (·.1.enabled) switched? (fun _ step _ => by cases step <;> rfl) steps _
  content := by
    intro place
    induction steps generalizing journal files with
    | nil => rfl
    | cons step steps inductionHypothesis =>
        obtain ⟨stillRooted, stillUsable⟩ :=
          usable_take rooted usable (chosen step List.mem_cons_self)
        rw [takeAll_cons, inductionHypothesis _ _ stillRooted stillUsable
            fun later member => chosen later (List.mem_cons_of_mem _ member),
          fileAt?_take rooted usable, extended_append]
        rfl
  next := by
    induction steps generalizing journal files with
    | nil => exact grows_of_rooted rooted usable
    | cons step steps inductionHypothesis =>
        obtain ⟨stillRooted, stillUsable⟩ :=
          usable_take rooted usable (chosen step List.mem_cons_self)
        exact inductionHypothesis _ _ stillRooted stillUsable
          fun later member => chosen later (List.mem_cons_of_mem _ member)

/-- One journal is given its first and its third record under two paths of its folder, another
one the second. -/
theorem onlyGrows_of_rooted_sample :
    let give (message : String) : String × JournalStep := ("now", .give ⟨.info, "c", message⟩)
    let choose (folder : String) : String × JournalStep := ("now", .choose (.ofText folder))
    let steps := [("now", .switch true), choose "a", give "one", choose "b/", give "two",
      choose "b/.././a/", give "three"]
    let files := Tree.empty []
    (files.IsRooted ∧ initial.file.IsUsable ∧
      ∀ step ∈ steps, ∀ folder, step.2.chosen? = some folder →
        (folder.join fileName).IsUsable) ∧
      ["a", "b"].map (fun folder => ((takeAll steps (initial, files)).2.fileAt?
          [Text.encode folder, fileName]).map Text.decodeLossy) =
        [some "now [INFO] c - one\nnow [INFO] c - three\n", some "now [INFO] c - two\n"] := by
  intro give choose steps files
  have rooted : files.IsRooted := Tree.isRooted_empty []
  have usable : initial.file.IsUsable := by decide +kernel
  have chosen : ∀ step ∈ steps, ∀ folder, step.2.chosen? = some folder →
      (folder.join fileName).IsUsable := by
    have each : ∀ folder ∈ steps.filterMap (chosen? ·.2), (folder.join fileName).IsUsable := by
      decide +kernel
    intro step member folder isChosen
    exact each folder (List.mem_filterMap.mpr ⟨step, member, isChosen⟩)
  have grows := onlyGrows_of_rooted steps initial files rooted usable chosen
  refine ⟨⟨rooted, usable, chosen⟩, ?_⟩
  simp only [List.map_cons, List.map_nil, grows.content]
  decide +kernel

/-- A record is lost with nothing in the way of it: the folder is named by a dot at the end of
its path, and is not made. -/
theorem not_always_appended :
    ¬ ∀ (journal : Journal) (files : Tree) (time : String) (record : JournalRecord),
      files.IsRooted →
      journal.file.IsUsable →
      journal.enabled = true →
      ¬ journal.IsObstructed files →
      (journal.write time record files).fileAt? (journal.place files) =
        some ((files.fileAt? (journal.place files)).getD [] ++
          Text.encode (record.text time)) := by
  intro appended
  have held := appended ⟨true, .ofText "logs/."⟩ (.empty []) "now" ⟨.info, "c", "m"⟩
    (Tree.isRooted_empty []) (by decide +kernel) rfl (by decide +kernel)
  revert held
  decide +kernel

end Journal
end KnowledgeClient
