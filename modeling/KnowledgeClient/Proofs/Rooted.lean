import KnowledgeClient.Proofs.Places

/-!
# Rooted trees

A tree is rooted if its working folder stands and whatever stands in it stands in a folder.
In a rooted tree the folders of a way can be made exactly if no file is in the way, and a
path is followed to its end exactly if it leads through folders alone.
-/

namespace KnowledgeClient
namespace Files

variable {place passed reached : Place} {name : Name} {names : List Name}

/-! ## Ways and the names that lead along them -/

/-- A name that stands for nothing leads nowhere else. -/
theorem stepTo_of_idle
    (idle : (!name.isEmpty && name != hereName) = false)
    (place : Place) :
    stepTo place name = place := by
  unfold stepTo
  rw [if_pos]
  revert idle
  cases name.isEmpty <;> simp

/-- Names that stand for nothing can be left out of a way or put into it. -/
theorem mem_way_filter_iff :
    passed ∈ way place (names.filter fun name => !name.isEmpty && name != hereName) ↔
      passed ∈ way place names := by
  refine ⟨mem_way_of_filter, fun member => ?_⟩
  induction names generalizing place with
  | nil => exact member
  | cons name names inductionHypothesis =>
      rw [List.filter_cons]
      cases leads : !name.isEmpty && name != hereName with
      | true =>
          rw [if_pos rfl]
          rcases List.mem_cons.mp member with rfl | further
          · exact List.mem_cons_self
          · exact List.mem_cons_of_mem _ (inductionHypothesis further)
      | false =>
          rw [if_neg Bool.false_ne_true]
          rcases List.mem_cons.mp member with rfl | further
          · exact mem_way_start _ _
          · rw [stepTo_of_idle leads] at further
            exact inductionHypothesis further

theorem leadTo_filter
    (place : Place)
    (names : List Name) :
    leadTo place (names.filter fun name => !name.isEmpty && name != hereName) =
      leadTo place names := by
  induction names generalizing place with
  | nil => rfl
  | cons name names inductionHypothesis =>
      rw [List.filter_cons, leadTo_cons]
      cases leads : !name.isEmpty && name != hereName with
      | true => rw [if_pos rfl, leadTo_cons, inductionHypothesis]
      | false =>
          rw [if_neg Bool.false_ne_true, inductionHypothesis, stepTo_of_idle leads]

/-- A way goes on by one more name to the place that the name leads to. -/
theorem mem_way_concat_iff :
    passed ∈ way place (names ++ [name]) ↔
      passed ∈ way place names ∨ passed = leadTo place (names ++ [name]) := by
  induction names generalizing place with
  | nil => simp [way]
  | cons first names inductionHypothesis =>
      rw [List.cons_append, way, way, List.mem_cons, List.mem_cons, inductionHypothesis,
        leadTo_cons, or_assoc]

/-- A way is what its names but the last lead through, and the place that all lead to. -/
theorem mem_way_dropLast_iff :
    passed ∈ way place names ↔
      passed ∈ way place names.dropLast ∨ passed = leadTo place names := by
  cases names using List.reverseRecOn with
  | nil => simp [way]
  | append_singleton names name => rw [List.dropLast_concat, mem_way_concat_iff]

namespace Tree

variable {tree : Tree} {path : Path} {entry : Entry}

/-- What the file at a place holds, if a file stands there. -/
def fileAt? (tree : Tree) (place : Place) : Option Bytes :=
  match tree.entry? place with
  | some (.file content) => some content
  | _ => none

/-- What stands in the tree stands in a folder, and so does the working folder. -/
structure IsRooted (tree : Tree) : Prop where
  working : tree.entry? tree.working = some .folder
  above : ∀ place, tree.entry? place ≠ none → tree.entry? place.dropLast = some .folder

/-- A tree is rooted if all its entries stand in folders. -/
theorem isRooted_iff :
    tree.IsRooted ↔ tree.entry? tree.working = some .folder ∧
      ∀ pair ∈ tree.entries, tree.entry? pair.1.dropLast = some .folder := by
  constructor
  · intro rooted
    refine ⟨rooted.working, fun pair member => rooted.above pair.1 ?_⟩
    unfold entry?
    split
    · simp
    · simp only [ne_eq, List.lookup_eq_none_iff, not_forall]
      exact ⟨pair, member, by simp⟩
  · rintro ⟨working, entries⟩
    refine ⟨working, fun place stands => ?_⟩
    unfold entry? at stands
    split at stands
    · rename_i top
      rw [List.isEmpty_iff.mp top]
      rfl
    · obtain ⟨entry, found⟩ := Option.ne_none_iff_exists'.mp stands
      obtain ⟨before, after, split, _⟩ := List.lookup_eq_some_iff.mp found
      exact entries (place, entry) (split ▸ List.mem_append_right _ List.mem_cons_self)

instance (tree : Tree) : Decidable tree.IsRooted :=
  decidable_of_iff _ isRooted_iff.symm

/-- The folders above an empty working folder stand, and so does that folder. -/
theorem entry_empty
    (working : Place)
    (depth : Nat) :
    Tree.entry? (empty working) (working.take depth) = some .folder := by
  unfold entry?
  split
  · rfl
  · rename_i below
    have nonempty : working.take depth ≠ [] := by simpa using below
    have positive : 0 < min depth working.length := by
      rw [← List.length_take]
      exact List.length_pos_iff.mpr nonempty
    have listed : (working.take depth, Entry.folder) ∈ (empty working).entries := by
      refine List.mem_map.mpr ⟨min depth working.length - 1, List.mem_range.mpr (by omega), ?_⟩
      rw [Nat.sub_add_cancel positive, ← List.take_eq_take_min]
    cases found : (empty working).entries.lookup (working.take depth) with
    | none => simpa using List.lookup_eq_none_iff.mp found _ listed
    | some entry =>
        obtain ⟨before, after, split, _⟩ := List.lookup_eq_some_iff.mp found
        have member : (working.take depth, entry) ∈ (empty working).entries :=
          split ▸ List.mem_append_right _ List.mem_cons_self
        obtain ⟨_, _, same⟩ := List.mem_map.mp member
        rw [← (Prod.mk.inj same).2]

theorem isRooted_empty (working : Place) : (empty working).IsRooted := by
  refine isRooted_iff.mpr ⟨?_, fun pair member => ?_⟩
  · have whole := entry_empty working working.length
    rwa [List.take_length] at whole
  · obtain ⟨depth, inRange, rfl⟩ := List.mem_map.mp member
    have above : (working.take (depth + 1)).dropLast = working.take depth := by
      rw [List.take_add_one, List.getElem?_eq_getElem (List.mem_range.mp inRange)]
      exact List.dropLast_concat
    dsimp only
    rw [above]
    exact entry_empty working depth

theorem fileAt?_eq_some_iff
    {content : Bytes} :
    tree.fileAt? place = some content ↔ tree.entry? place = some (.file content) := by
  unfold fileAt?
  split <;> simp_all

theorem fileAt?_of_folder (folder : tree.entry? place = some .folder) :
    tree.fileAt? place = none := by
  rw [fileAt?, folder]

theorem fileAt?_congr
    {other : Tree}
    (same : other.entry? place = tree.entry? place) :
    other.fileAt? place = tree.fileAt? place := by
  rw [fileAt?, same, fileAt?]

/-! ## Putting things into folders -/

/-- A folder stays when something is put elsewhere, or a folder in its place. -/
theorem entry_put_of_folder
    (keeps : tree.entry? place = some .folder → entry = .folder)
    (folder : tree.entry? passed = some .folder) :
    Tree.entry? (tree.put place entry) passed = some .folder := by
  rw [entry_put]
  split
  · rename_i same
    rw [keeps (same.1 ▸ folder)]
  · exact folder

/-- A tree stays rooted when something is put into a folder that keeps its folders. -/
theorem IsRooted.put
    (rooted : tree.IsRooted)
    (above : tree.entry? place.dropLast = some .folder)
    (keeps : tree.entry? place = some .folder → entry = .folder) :
    (tree.put place entry).IsRooted where
  working := entry_put_of_folder keeps rooted.working
  above := by
    intro other stands
    refine entry_put_of_folder keeps ?_
    rw [entry_put] at stands
    split at stands
    · rename_i same
      rw [same.1]
      exact above
    · exact rooted.above other stands

/-- A folder that is put where nothing stood changes what no file holds. -/
theorem fileAt?_put_folder
    (nothing : tree.entry? place = none)
    (passed : Place) :
    Tree.fileAt? (tree.put place .folder) passed = tree.fileAt? passed := by
  by_cases changed : passed = place ∧ passed ≠ []
  · obtain ⟨rfl, notTop⟩ := changed
    rw [fileAt?_of_folder (by rw [entry_put, if_pos ⟨rfl, notTop⟩]), fileAt?, nothing]
  · exact fileAt?_congr (by rw [entry_put, if_neg changed])

/-! ## Making folders -/

/-- Making folders changes what no file holds, as far as it gets. -/
theorem fileAt?_makeFolders
    (tree : Tree)
    (place : Place)
    (names : List Name)
    (passed : Place) :
    Tree.fileAt? (tree.makeFolders place names).1 passed = tree.fileAt? passed := by
  induction names generalizing tree place with
  | nil => rfl
  | cons name names inductionHypothesis =>
      unfold makeFolders
      split
      · exact inductionHypothesis tree place.dropLast
      · split
        · rfl
        · dsimp only
          split
          · exact inductionHypothesis tree (place ++ [name])
          · rfl
          · rename_i nothing
            rw [inductionHypothesis, fileAt?_put_folder nothing]

/-- What stands is kept when folders are made. -/
theorem entry_makeFolders_of_stands
    (leading : ∀ name ∈ names, name ≠ [] ∧ name ≠ hereName)
    (stands : tree.entry? passed = some entry)
    (place : Place) :
    Tree.entry? (tree.makeFolders place names).1 passed = some entry := by
  have same : SameBut (fun other => tree.entry? other = none) tree
      (tree.makeFolders place names).1 :=
    makeFolders_sameBut leading fun _ _ nothing => nothing
  rw [same.entry_eq passed (by simp [stands]), stands]

theorem IsRooted.makeFolders
    (rooted : tree.IsRooted)
    (folder : tree.entry? place = some .folder)
    (names : List Name) :
    (tree.makeFolders place names).1.IsRooted := by
  induction names generalizing tree place with
  | nil => exact rooted
  | cons name names inductionHypothesis =>
      unfold Tree.makeFolders
      split
      · exact inductionHypothesis rooted (rooted.above place (by simp [folder]))
      · split
        · exact rooted
        · dsimp only
          split
          · rename_i stands
            exact inductionHypothesis rooted stands
          · exact rooted
          · refine inductionHypothesis ?_ (by rw [entry_put, if_pos ⟨rfl, by simp⟩])
            exact rooted.put (by rw [List.dropLast_concat, folder]) fun _ => rfl

/-- Where no file is in the way, the folders of names are made: there is a folder at every place
on the way then. -/
theorem folders_makeFolders
    (rooted : tree.IsRooted)
    (folder : tree.entry? place = some .folder)
    (leading : ∀ name ∈ names, name ≠ [] ∧ name ≠ hereName)
    (short : ∀ name ∈ names, name.length ≤ greatestName)
    (clear : ∀ passed ∈ Files.way place names, tree.fileAt? passed = none) :
    ∀ passed ∈ Files.way place names,
      Tree.entry? (tree.makeFolders place names).1 passed = some .folder := by
  induction names generalizing tree place with
  | nil =>
      intro passed member
      rw [List.mem_singleton.mp member]
      exact folder
  | cons name names inductionHypothesis =>
      have leadingFurther : ∀ other ∈ names, other ≠ [] ∧ other ≠ hereName :=
        fun other member => leading other (List.mem_cons_of_mem _ member)
      have shortFurther : ∀ other ∈ names, other.length ≤ greatestName :=
        fun other member => short other (List.mem_cons_of_mem _ member)
      have clearFurther : ∀ passed ∈ Files.way (stepTo place name) names,
          tree.fileAt? passed = none :=
        fun passed member => clear passed (List.mem_cons_of_mem _ member)
      intro passed member
      rcases List.mem_cons.mp member with rfl | later
      · exact entry_makeFolders_of_stands leading folder passed
      clear member
      unfold makeFolders
      by_cases isAbove : name = aboveName
      · have back : stepTo place name = place.dropLast := by
          rw [isAbove]
          rfl
        rw [back] at clearFurther later
        rw [if_pos (beq_iff_eq.mpr isAbove)]
        exact inductionHypothesis rooted (rooted.above place (by simp [folder])) leadingFurther
          shortFurther clearFurther passed later
      · obtain ⟨nonempty, notHere⟩ := leading name List.mem_cons_self
        have below := stepTo_of_isOrdinary ⟨nonempty, notHere, isAbove⟩ place
        have fits := Nat.not_lt.mpr (short name List.mem_cons_self)
        rw [below] at clearFurther later
        rw [if_neg (by simpa using isAbove), if_neg fits]
        dsimp only
        split
        · rename_i stands
          exact inductionHypothesis rooted stands leadingFurther shortFurther clearFurther passed
            later
        · rename_i content stands
          have noFile := clearFurther _ (mem_way_start _ _)
          rw [fileAt?_eq_some_iff.mpr stands] at noFile
          cases noFile
        · rename_i nothing
          refine inductionHypothesis ?_ ?_ leadingFurther shortFurther ?_ passed later
          · exact rooted.put (by rw [List.dropLast_concat, folder]) fun _ => rfl
          · rw [entry_put, if_pos ⟨rfl, by simp⟩]
          · intro other member
            rw [fileAt?_put_folder nothing, clearFurther other member]

/-! ## Making the folder of a path -/

/-- The last folder of a path is named by a dot after it, and it neither stands nor is passed on
the way of the other names: it is not made with the others. -/
def LacksLast (tree : Tree) (path : Path) : Prop :=
  endsWithDot path = true ∧
    tree.entry? (leadTo (tree.start path) (cutAtSlashes path.bytes)) = none ∧
    leadTo (tree.start path) (cutAtSlashes path.bytes) ∉
      Files.way (tree.start path) path.names.dropLast

instance (tree : Tree) (path : Path) : Decidable (tree.LacksLast path) :=
  inferInstanceAs (Decidable (_ ∧ _ ∧ _))

theorem IsRooted.start
    (rooted : tree.IsRooted)
    (path : Path) :
    tree.entry? (tree.start path) = some .folder := by
  unfold Tree.start
  split
  · rfl
  · exact rooted.working

theorem leading_names (path : Path) : ∀ name ∈ path.names, name ≠ [] ∧ name ≠ hereName := by
  intro name member
  simpa [Path.names] using (List.mem_filter.mp member).2

/-- The names of a path lead through the places on its way. -/
theorem mem_way_names_iff :
    passed ∈ Files.way (tree.start path) path.names ↔ passed ∈ tree.way path :=
  mem_way_filter_iff

theorem fileAt?_makeFolder
    (tree : Tree)
    (path : Path)
    (passed : Place) :
    Tree.fileAt? (tree.makeFolder path) passed = tree.fileAt? passed := by
  unfold makeFolder
  split
  · rfl
  · exact fileAt?_makeFolders _ _ _ _

theorem IsRooted.makeFolder
    (rooted : tree.IsRooted)
    (path : Path) :
    (tree.makeFolder path).IsRooted := by
  unfold Tree.makeFolder
  split
  · exact rooted
  · exact rooted.makeFolders (rooted.start path) _

end Tree

/-- The system takes the path: it has no NUL byte, and neither the path nor a name in it is too
long. -/
structure Path.IsUsable (path : Path) : Prop where
  noNul : 0 ∉ path.bytes
  short : path.bytes.length < pathLimit
  pieces : ∀ piece ∈ cutAtSlashes path.bytes, piece.length ≤ greatestName

instance (path : Path) : Decidable path.IsUsable :=
  decidable_of_iff (0 ∉ path.bytes ∧ path.bytes.length < pathLimit ∧
      ∀ piece ∈ cutAtSlashes path.bytes, piece.length ≤ greatestName)
    ⟨fun ⟨noNul, short, pieces⟩ => ⟨noNul, short, pieces⟩,
      fun ⟨noNul, short, pieces⟩ => ⟨noNul, short, pieces⟩⟩

namespace Tree

variable {tree : Tree} {path : Path} {entry : Entry}

/-- Where no file is in the way, the folder of a path is made, unless its last name is left out:
there is a folder at every place on the way then. -/
theorem folders_makeFolder
    (rooted : tree.IsRooted)
    (usable : path.IsUsable)
    (clear : ∀ passed ∈ tree.way path, tree.fileAt? passed = none)
    (complete : ¬ tree.LacksLast path) :
    ∀ passed ∈ tree.way path, Tree.entry? (tree.makeFolder path) passed = some .folder := by
  have leading := leading_names path
  have short : ∀ name ∈ path.names, name.length ≤ greatestName :=
    fun name member => usable.pieces name (List.mem_filter.mp member).1
  have folder := rooted.start path
  have possible : ¬ (path.bytes.contains 0 = true ∨ pathLimit ≤ path.bytes.length) := by
    simpa using ⟨usable.noNul, usable.short⟩
  intro passed member
  rw [← mem_way_names_iff] at member
  unfold makeFolder
  rw [if_neg (by simpa using possible)]
  cases dotted : endsWithDot path with
  | false =>
      refine folders_makeFolders rooted folder leading short (fun other onWay => ?_) passed member
      exact clear other (mem_way_names_iff.mp onWay)
  | true =>
      rw [if_pos rfl]
      have made := folders_makeFolders rooted folder
        (fun name inInit => leading name (List.mem_of_mem_dropLast inInit))
        (fun name inInit => short name (List.mem_of_mem_dropLast inInit))
        fun other onWay => clear other
          (mem_way_names_iff.mp (mem_way_dropLast_iff.mpr (.inl onWay)))
      rcases mem_way_dropLast_iff.mp member with onWay | isLast
      · exact made passed onWay
      · -- The last place is passed before, or it stands and is no file.
        by_cases before : passed ∈ Files.way (tree.start path) path.names.dropLast
        · exact made passed before
        · have target : passed = leadTo (tree.start path) (cutAtSlashes path.bytes) := by
            rw [isLast, Path.names, leadTo_filter]
          have stands : tree.entry? passed ≠ none := by
            intro nothing
            rw [target] at nothing before
            exact complete ⟨dotted, nothing, before⟩
          obtain ⟨entry, isEntry⟩ := Option.ne_none_iff_exists'.mp stands
          have noFile := clear passed (mem_way_names_iff.mp member)
          cases entry with
          | file content =>
              rw [fileAt?_eq_some_iff.mpr isEntry] at noFile
              cases noFile
          | folder =>
              exact entry_makeFolders_of_stands
                (fun name inInit => leading name (List.mem_of_mem_dropLast inInit)) isEntry _

/-- A last folder that is left out is missing still. -/
theorem entry_makeFolder_of_lacksLast (lacks : tree.LacksLast path) :
    Tree.entry? (tree.makeFolder path)
      (leadTo (tree.start path) (cutAtSlashes path.bytes)) = none := by
  obtain ⟨dotted, nothing, before⟩ := lacks
  unfold makeFolder
  split
  · exact nothing
  · dsimp only
    have same : SameBut (· ∈ Files.way (tree.start path) path.names.dropLast) tree
        (tree.makeFolders (tree.start path) path.names.dropLast).1 :=
      makeFolders_sameBut
        (fun name inInit => leading_names path name (List.mem_of_mem_dropLast inInit))
        fun _ onWay _ => onWay
    rw [same.entry_eq _ before, nothing]

/-! ## Following ways -/

/-- Names that lead through folders are followed to the end. -/
theorem follow_of_folders
    (folders : ∀ passed ∈ Files.way place names, tree.entry? passed = some .folder)
    (short : ∀ name ∈ names, name.length ≤ greatestName) :
    tree.follow place names = .ok (leadTo place names) := by
  induction names generalizing place with
  | nil => rfl
  | cons name names inductionHypothesis =>
      have fits := Nat.not_lt.mpr (short name List.mem_cons_self)
      rw [follow_cons (folders place List.mem_cons_self), if_neg fits, leadTo_cons]
      exact inductionHypothesis
        (fun passed member => folders passed (List.mem_cons_of_mem _ member))
        fun other member => short other (List.mem_cons_of_mem _ member)

/-- Names that are followed lead through folders, up to the place that they lead to. -/
theorem folders_of_follow
    (follows : tree.follow place names = .ok reached) :
    ∀ passed ∈ Files.way place names.dropLast, names ≠ [] → tree.entry? passed = some .folder := by
  induction names generalizing place with
  | nil => exact fun _ _ nonempty => absurd rfl nonempty
  | cons name names inductionHypothesis =>
      obtain ⟨folder, _, further⟩ := follow_cons_eq_ok follows
      intro passed member _
      cases names with
      | nil =>
          rw [List.mem_singleton.mp member]
          exact folder
      | cons next names =>
          rcases List.mem_cons.mp member with rfl | later
          · exact folder
          · exact inductionHypothesis further passed later (List.cons_ne_nil _ _)

/-- What a path leads to stands at the place that it is located at. -/
theorem find_eq_ok_iff :
    tree.find path = .ok entry ↔
      ∃ reached, tree.locate path = .ok reached ∧ tree.entry? reached = some entry := by
  unfold find
  cases tree.locate path with
  | error fault => simp [bind, Except.bind]
  | ok reached =>
      cases stands : tree.entry? reached <;> simp [stands, bind, Except.bind]

theorem holds_iff : tree.holds path = true ↔ ∃ entry, tree.find path = .ok entry := by
  unfold holds
  cases tree.find path <;> simp [Except.toOption]

/-- What stands where a path is located stands behind folders alone; if no file is in the way,
the path leads through folders to the end. -/
theorem folders_of_holds
    (holds : tree.holds path = true)
    (clear : ∀ passed ∈ tree.way path, tree.fileAt? passed = none) :
    ∀ passed ∈ tree.way path, tree.entry? passed = some .folder := by
  obtain ⟨entry, finds⟩ := holds_iff.mp holds
  obtain ⟨reached, locates, stands⟩ := find_eq_ok_iff.mp finds
  have follows := (locate_eq_ok_iff.mp locates).2.2.2
  intro passed member
  rcases mem_way_dropLast_iff.mp member with before | last
  · exact folders_of_follow follows passed before (cutAtSlashes_ne_nil _)
  · rw [← eq_leadTo_of_follow follows] at last
    rw [← last] at stands
    cases entry with
    | folder => exact stands
    | file content =>
        have noFile := clear passed member
        rw [fileAt?_eq_some_iff.mpr stands] at noFile
        cases noFile

end Tree

/-! ## Joined paths -/

/-- The pieces of a joined path before its name lead the same way as those of the folder. -/
theorem Path.cutAtSlashes_join_way
    (isFileName : IsFileName name)
    (folder : Path) :
    ∃ pieces, cutAtSlashes (folder.join name).bytes = pieces ++ [name] ∧
      ∀ place passed,
        passed ∈ way place pieces ↔ passed ∈ way place (cutAtSlashes folder.bytes) := by
  have withEmpty : ∀ pieces place passed,
      passed ∈ way place (pieces ++ [[]]) ↔ passed ∈ way place pieces := by
    intro pieces place passed
    have stays : leadTo place (pieces ++ [[]]) = leadTo place pieces := leadTo_append _ _ _
    rw [mem_way_concat_iff, stays, or_iff_left_of_imp]
    rintro rfl
    exact leadTo_mem_way _ _
  by_cases empty : folder.bytes = []
  · refine ⟨[], ?_, fun place passed => ?_⟩
    · rw [join_of_empty empty, cutAtSlashes_of_notMem isFileName.noSlash]
      rfl
    · rw [empty]
      exact (withEmpty [] place passed).symm
  · obtain ⟨pieces, cut, open_ | closed⟩ := cutAtSlashes_join isFileName empty
    · exact ⟨pieces, cut, fun _ _ => by rw [open_]⟩
    · exact ⟨pieces, cut, fun place passed => by rw [closed, withEmpty]⟩

/-- A folder can be used if a path of a name in it can. -/
theorem Path.IsUsable.of_join
    {folder : Path}
    (isFileName : IsFileName name)
    (usable : (folder.join name).IsUsable) :
    folder.IsUsable := by
  have part : folder.bytes <+: (folder.join name).bytes := by
    unfold Path.join
    split <;> exact List.prefix_append _ _
  refine ⟨fun nul => usable.noNul (part.subset nul),
    Nat.lt_of_le_of_lt part.length_le usable.short, fun piece member => ?_⟩
  by_cases empty : folder.bytes = []
  · rw [empty] at member
    rw [List.mem_singleton.mp member]
    exact Nat.zero_le _
  · obtain ⟨pieces, cut, open_ | closed⟩ := cutAtSlashes_join isFileName empty
    · exact usable.pieces piece (cut ▸ List.mem_append_left _ (open_ ▸ member))
    · rw [closed] at member
      rcases List.mem_append.mp member with early | last
      · exact usable.pieces piece (cut ▸ List.mem_append_left _ early)
      · rw [List.mem_singleton.mp last]
        exact Nat.zero_le _

namespace Tree

variable {tree : Tree} {folder : Path}

/-- A joined path is located through folders alone. -/
theorem folders_of_locate_join
    (isFileName : IsFileName name)
    (locates : tree.locate (folder.join name) = .ok reached) :
    ∀ passed ∈ tree.way folder, tree.entry? passed = some .folder := by
  have follows := (locate_eq_ok_iff.mp locates).2.2.2
  obtain ⟨pieces, cut, sameWay⟩ := Path.cutAtSlashes_join_way isFileName folder
  rw [Path.start_join isFileName, cut] at follows
  intro passed member
  refine folders_of_follow follows passed ?_ (by simp)
  rw [List.dropLast_concat, sameWay]
  exact member

/-- A joined path is located in its folder if it leads through folders alone. -/
theorem locate_join_of_folders
    (isFileName : IsFileName name)
    (usable : (folder.join name).IsUsable)
    (folders : ∀ passed ∈ tree.way folder, tree.entry? passed = some .folder) :
    tree.locate (folder.join name) =
      .ok (leadTo (tree.start folder) (cutAtSlashes folder.bytes) ++ [name]) := by
  obtain ⟨pieces, cut, sameWay⟩ := Path.cutAtSlashes_join_way isFileName folder
  have nonempty : (folder.join name).bytes ≠ [] := by
    intro empty
    rw [empty] at cut
    have single : [] = name := by
      simpa [cutAtSlashes] using congrArg List.getLast? cut
    exact isFileName.ordinary.1 single.symm
  refine locate_eq_ok_iff.mpr ⟨usable.noNul, nonempty, usable.short, ?_⟩
  rw [← Path.leadTo_join isFileName, Path.start_join isFileName, cut]
  have through : ∀ passed ∈ Files.way (tree.start folder) pieces,
      tree.entry? passed = some .folder :=
    fun passed member => folders passed ((sameWay _ _).mp member)
  have fits : ∀ piece ∈ pieces ++ [name], piece.length ≤ greatestName :=
    fun piece member => usable.pieces piece (cut ▸ member)
  rw [follow_append, follow_of_folders through
    fun piece member => fits piece (List.mem_append_left _ member)]
  change tree.follow (leadTo (tree.start folder) pieces) [name] = _
  rw [follow_cons (through _ (leadTo_mem_way _ _)),
    if_neg (Nat.not_lt.mpr (fits name (List.mem_append_right _ List.mem_cons_self)))]
  exact congrArg Except.ok (leadTo_append (tree.start folder) pieces [name]).symm

end Tree
end Files
end KnowledgeClient
