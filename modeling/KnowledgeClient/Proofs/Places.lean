import KnowledgeClient.Files.Tree
import Mathlib.Data.List.Infix

/-!
# Places that paths lead through

A path that can be followed leads through places that its names alone decide, and to the
last of them.  What it leads to depends on nothing but what stands at these places: trees
that are the same there find the same.  Making a folder changes only places on its way
where nothing stands.
-/

namespace KnowledgeClient
namespace Files

/-! ## Pieces of a path -/

theorem cutAtSlashes_ne_nil (bytes : Bytes) : cutAtSlashes bytes ≠ [] := by
  cases bytes with
  | nil => simp [cutAtSlashes]
  | cons b rest =>
      unfold cutAtSlashes
      split
      · simp
      · split <;> simp

/-- A byte that is no slash goes to the first piece. -/
theorem cutAtSlashes_cons
    {b : UInt8}
    (other : b ≠ slash)
    (rest : Bytes) :
    ∃ piece pieces, cutAtSlashes rest = piece :: pieces ∧
      cutAtSlashes (b :: rest) = (b :: piece) :: pieces := by
  cases cut : cutAtSlashes rest with
  | nil => exact absurd cut (cutAtSlashes_ne_nil rest)
  | cons piece pieces => exact ⟨piece, pieces, rfl, by simp [cutAtSlashes, other, cut]⟩

theorem cutAtSlashes_append
    (before after : Bytes) :
    cutAtSlashes (before ++ slash :: after) = cutAtSlashes before ++ cutAtSlashes after := by
  induction before with
  | nil => simp [cutAtSlashes]
  | cons b before inductionHypothesis =>
      by_cases isSlash : b = slash
      · subst isSlash
        simp only [List.cons_append, cutAtSlashes, beq_self_eq_true, if_true, inductionHypothesis]
      · obtain ⟨piece, pieces, cut, extended⟩ := cutAtSlashes_cons isSlash before
        obtain ⟨_, _, cutAll, extendedAll⟩ :=
          cutAtSlashes_cons isSlash (before ++ slash :: after)
        rw [inductionHypothesis, cut, List.cons_append, List.cons.injEq] at cutAll
        rw [List.cons_append, extendedAll, extended, ← cutAll.1, ← cutAll.2]
        rfl

theorem cutAtSlashes_of_notMem
    {bytes : Bytes}
    (noSlash : slash ∉ bytes) :
    cutAtSlashes bytes = [bytes] := by
  induction bytes with
  | nil => rfl
  | cons b bytes inductionHypothesis =>
      simp only [List.mem_cons, not_or] at noSlash
      have other : b ≠ slash := fun same => noSlash.1 same.symm
      obtain ⟨piece, pieces, cut, extended⟩ := cutAtSlashes_cons other bytes
      rw [inductionHypothesis noSlash.2, List.cons.injEq] at cut
      rw [extended, ← cut.1, ← cut.2]

/-! ## Where names lead -/

/-- The name stands for a place below the one it is met at. -/
def IsOrdinary (name : Name) : Prop :=
  name ≠ [] ∧ name ≠ hereName ∧ name ≠ aboveName

/-- The place that a name leads to from a folder. -/
def stepTo (place : Place) (name : Name) : Place :=
  if name.isEmpty || name == hereName then place
  else if name == aboveName then place.dropLast
  else place ++ [name]

/-- The place that names lead to, one after the other. -/
def leadTo (place : Place) (names : List Name) : Place :=
  names.foldl stepTo place

/-- The places that names lead through, the first and the last of them too. -/
def way (place : Place) : List Name → List Place
  | [] => [place]
  | name :: names => place :: way (stepTo place name) names

variable {place reached : Place} {name : Name} {names others : List Name}

theorem stepTo_of_isOrdinary
    (ordinary : IsOrdinary name)
    (place : Place) :
    stepTo place name = place ++ [name] := by
  obtain ⟨nonempty, notHere, notAbove⟩ := ordinary
  simp [stepTo, nonempty, notHere, notAbove]

@[simp] theorem leadTo_nil (place : Place) : leadTo place [] = place := rfl

@[simp] theorem leadTo_cons
    (place : Place)
    (name : Name)
    (names : List Name) :
    leadTo place (name :: names) = leadTo (stepTo place name) names := rfl

theorem leadTo_append
    (place : Place)
    (names others : List Name) :
    leadTo place (names ++ others) = leadTo (leadTo place names) others :=
  List.foldl_append

theorem mem_way_start
    (place : Place)
    (names : List Name) :
    place ∈ way place names := by
  cases names <;> exact List.mem_cons_self

theorem leadTo_mem_way
    (place : Place)
    (names : List Name) :
    leadTo place names ∈ way place names := by
  induction names generalizing place with
  | nil => exact List.mem_singleton_self place
  | cons name names inductionHypothesis =>
      exact List.mem_cons_of_mem _ (inductionHypothesis _)

/-- The way of names is the beginning of the way that goes on with others. -/
theorem mem_way_append
    (member : reached ∈ way place names)
    (others : List Name) :
    reached ∈ way place (names ++ others) := by
  induction names generalizing place with
  | nil =>
      obtain rfl := List.mem_singleton.mp member
      exact mem_way_start _ _
  | cons name names inductionHypothesis =>
      rcases List.mem_cons.mp member with rfl | further
      · exact List.mem_cons_self
      · exact List.mem_cons_of_mem _ (inductionHypothesis further)

theorem mem_way_of_dropLast (member : reached ∈ way place names.dropLast) :
    reached ∈ way place names := by
  cases names using List.reverseRecOn with
  | nil => exact member
  | append_singleton names name =>
      rw [List.dropLast_concat] at member
      exact mem_way_append member [name]

/-- Names that stand for nothing can be left out of a way. -/
theorem mem_way_of_filter
    (member : reached ∈ way place
      (names.filter fun name => !name.isEmpty && name != hereName)) :
    reached ∈ way place names := by
  induction names generalizing place with
  | nil => exact member
  | cons name names inductionHypothesis =>
      rw [List.filter_cons] at member
      split at member
      · rcases List.mem_cons.mp member with rfl | further
        · exact List.mem_cons_self
        · exact List.mem_cons_of_mem _ (inductionHypothesis further)
      · rename_i nothing
        have stays : stepTo place name = place := by
          unfold stepTo
          rw [if_pos]
          revert nothing
          cases name.isEmpty <;> simp
        refine List.mem_cons_of_mem _ ?_
        rw [stays]
        exact inductionHypothesis member

namespace Tree

variable {tree first second : Tree} {path : Path} {entry : Entry}

/-! ## What stands where -/

/-- Leaving out what is at one place changes nothing elsewhere. -/
theorem lookup_filter_of_ne
    {other : Place}
    (different : other ≠ place)
    (entries : List (Place × Entry)) :
    (entries.filter (·.1 != place)).lookup other = entries.lookup other := by
  induction entries with
  | nil => rfl
  | cons pair entries inductionHypothesis =>
      rw [List.filter_cons, List.lookup_cons]
      by_cases left : pair.1 = place
      · have missed : (other == pair.1) = false := by simpa [left] using different
        simp only [left, bne_self_eq_false, Bool.false_eq_true, if_false, inductionHypothesis]
        rw [← left, missed]
      · have kept : (pair.1 != place) = true := by simpa using left
        rw [if_pos kept, List.lookup_cons, inductionHypothesis]

theorem entry_put
    (tree : Tree)
    (place : Place)
    (entry : Entry)
    (other : Place) :
    Tree.entry? (tree.put place entry) other =
      if other = place ∧ other ≠ [] then some entry else tree.entry? other := by
  unfold entry? put
  cases other with
  | nil => simp
  | cons name names =>
      simp only [List.isEmpty_cons, Bool.false_eq_true, if_false, ne_eq, reduceCtorEq,
        not_false_eq_true, and_true, List.lookup_cons]
      by_cases same : name :: names = place
      · simp [same]
      · have notFirst : (name :: names == place) = false := by simpa using same
        rw [notFirst, if_neg same]
        exact lookup_filter_of_ne same _

/-- The places that a path leads through. -/
def way (tree : Tree) (path : Path) : List Place :=
  Files.way (tree.start path) (cutAtSlashes path.bytes)

/-- The path leads through none of the places. -/
def Avoids (tree : Tree) (path : Path) (places : Place → Prop) : Prop :=
  ∀ place ∈ tree.way path, ¬ places place

instance
    (tree : Tree)
    (path : Path)
    (places : Place → Prop)
    [DecidablePred places] :
    Decidable (tree.Avoids path places) :=
  inferInstanceAs (Decidable (∀ place ∈ tree.way path, ¬ places place))

/-- The trees are the same except at some places. -/
structure SameBut (places : Place → Prop) (first second : Tree) : Prop where
  working_eq : second.working = first.working
  entry_eq : ∀ place, ¬ places place → second.entry? place = first.entry? place

namespace SameBut

variable {places : Place → Prop} {third : Tree}

theorem refl (places : Place → Prop) (tree : Tree) : SameBut places tree tree :=
  ⟨rfl, fun _ _ => rfl⟩

theorem trans
    (same : SameBut places first second)
    (further : SameBut places second third) :
    SameBut places first third :=
  ⟨further.working_eq.trans same.working_eq,
    fun place other => (further.entry_eq place other).trans (same.entry_eq place other)⟩

/-- Putting something at one of the places keeps all others as they are. -/
theorem put
    {place : Place}
    (among : places place)
    (tree : Tree)
    (entry : Entry) :
    SameBut places tree (tree.put place entry) where
  working_eq := rfl
  entry_eq := by
    intro other notAmong
    rw [entry_put, if_neg]
    rintro ⟨rfl, _⟩
    exact notAmong among

end SameBut

/-! ## Following names -/

/-- A folder is left by any name that is not too long. -/
theorem follow_cons
    (folder : tree.entry? place = some .folder)
    (name : Name)
    (names : List Name) :
    tree.follow place (name :: names) =
      if greatestName < name.length then .error .nameTooLong
      else tree.follow (stepTo place name) names := by
  simp only [follow, folder, stepTo]
  split
  · rename_i stays
    have short : ¬ greatestName < name.length := by
      rcases Bool.or_eq_true _ _ ▸ stays with empty | here
      · simp [List.isEmpty_iff.mp empty]
      · simp [beq_iff_eq.mp here, hereName, greatestName]
    rw [if_neg short]
  · split
    · rename_i above
      have short : ¬ greatestName < name.length := by
        simp [beq_iff_eq.mp above, aboveName, greatestName]
      rw [if_neg short]
    · rfl

/-- Only a folder is left by a name. -/
theorem folder_of_follow
    (follows : tree.follow place (name :: names) = .ok reached) :
    tree.entry? place = some .folder := by
  unfold follow at follows
  cases stands : tree.entry? place with
  | none => rw [stands] at follows; cases follows
  | some entry =>
      cases entry with
      | folder => rfl
      | file content => rw [stands] at follows; cases follows

/-- A step is taken from a folder, and the rest from where it leads. -/
theorem follow_cons_eq_ok
    (follows : tree.follow place (name :: names) = .ok reached) :
    tree.entry? place = some .folder ∧ ¬ greatestName < name.length ∧
      tree.follow (stepTo place name) names = .ok reached := by
  have folder := folder_of_follow follows
  rw [follow_cons folder] at follows
  split at follows
  · cases follows
  · rename_i short
    exact ⟨folder, short, follows⟩

/-- The place reached is the one that the names lead to. -/
theorem eq_leadTo_of_follow (follows : tree.follow place names = .ok reached) :
    reached = leadTo place names := by
  induction names generalizing place with
  | nil => exact (Except.ok.inj follows).symm
  | cons name names inductionHypothesis =>
      exact inductionHypothesis (follow_cons_eq_ok follows).2.2

theorem follow_append
    (tree : Tree)
    (place : Place)
    (names others : List Name) :
    tree.follow place (names ++ others) =
      (tree.follow place names).bind fun reached => tree.follow reached others := by
  induction names generalizing place with
  | nil => rfl
  | cons name names inductionHypothesis =>
      cases stands : tree.entry? place with
      | none => simp [follow, stands, Except.bind]
      | some entry =>
          cases entry with
          | file content => simp [follow, stands, Except.bind]
          | folder =>
              rw [List.cons_append, follow_cons stands, follow_cons stands]
              split
              · rfl
              · exact inductionHypothesis _

/-- Names are followed alike where the same stands on their way. -/
theorem follow_congr
    (same : ∀ passed ∈ Files.way place names, second.entry? passed = first.entry? passed) :
    second.follow place names = first.follow place names := by
  induction names generalizing place with
  | nil => rfl
  | cons name names inductionHypothesis =>
      have here := same place List.mem_cons_self
      cases stands : first.entry? place with
      | none => simp [follow, here, stands]
      | some entry =>
          cases entry with
          | file content => simp [follow, here, stands]
          | folder =>
              rw [follow_cons (here.trans stands), follow_cons stands]
              split
              · rfl
              · exact inductionHypothesis fun passed member =>
                  same passed (List.mem_cons_of_mem _ member)

/-- Names are followed past a new file that stands where no folder was. -/
theorem follow_put
    {changed : Place}
    (noFolder : tree.entry? changed ≠ some .folder)
    (content : Bytes)
    (follows : tree.follow place names = .ok reached) :
    (tree.put changed (.file content)).follow place names = .ok reached := by
  induction names generalizing place with
  | nil => exact follows
  | cons name names inductionHypothesis =>
      obtain ⟨folder, short, further⟩ := follow_cons_eq_ok follows
      have elsewhere : Tree.entry? (tree.put changed (.file content)) place = some .folder := by
        rw [entry_put, if_neg, folder]
        rintro ⟨rfl, _⟩
        exact noFolder folder
      rw [follow_cons elsewhere, if_neg short]
      exact inductionHypothesis further

/-! ## Finding -/

/-- A place is located by following all pieces of a path that can name something. -/
theorem locate_eq_ok_iff :
    tree.locate path = .ok reached ↔
      0 ∉ path.bytes ∧ path.bytes ≠ [] ∧ path.bytes.length < pathLimit ∧
        tree.follow (tree.start path) (cutAtSlashes path.bytes) = .ok reached := by
  unfold locate
  split
  · simp_all
  · split
    · simp_all
    · split
      · rename_i long
        simp [Nat.not_lt.mpr long]
      · simp_all

theorem eq_leadTo_of_locate (locates : tree.locate path = .ok reached) :
    reached = leadTo (tree.start path) (cutAtSlashes path.bytes) :=
  eq_leadTo_of_follow (locate_eq_ok_iff.mp locates).2.2.2

/-- A path finds the same in trees that are the same on its way. -/
theorem SameBut.find_eq
    {places : Place → Prop}
    (same : SameBut places first second)
    (avoids : first.Avoids path places) :
    second.find path = first.find path := by
  have start : second.start path = first.start path := by
    unfold Tree.start
    rw [same.working_eq]
  have onWay : ∀ passed ∈ first.way path, second.entry? passed = first.entry? passed :=
    fun passed member => same.entry_eq passed (avoids passed member)
  have located : second.locate path = first.locate path := by
    unfold locate
    rw [start, follow_congr onWay]
  unfold find
  rw [located]
  cases reaches : first.locate path with
  | error fault => rfl
  | ok reached =>
      have last : reached ∈ first.way path := by
        rw [eq_leadTo_of_locate reaches]
        exact leadTo_mem_way _ _
      simp only [bind, Except.bind, onWay reached last]

/-- What is read as text depends on what is found. -/
theorem readText_congr
    (same : second.find path = first.find path) :
    second.readText path = first.readText path := by
  unfold readText read
  rw [same]

/-! ## Appending to files -/

/-- What the file that a path leads to holds, which is nothing if the file is still to be made;
there is no such content where there can be no file. -/
def appendable? (tree : Tree) (path : Path) : Option Bytes :=
  match tree.locate path with
  | .error _ => none
  | .ok place =>
    match tree.entry? place with
    | some (.file content) => some content
    | some .folder => none
    | none => some []

/-- What is read of a file can be appended to. -/
theorem appendable?_of_read
    {held : Bytes}
    (reads : tree.read path = .ok held) :
    tree.appendable? path = some held := by
  unfold read find at reads
  unfold appendable?
  cases locates : tree.locate path with
  | error fault => simp [locates, bind, Except.bind] at reads
  | ok place =>
      dsimp only
      cases stands : tree.entry? place with
      | none => simp [locates, stands, bind, Except.bind] at reads
      | some entry =>
          cases entry with
          | folder => simp [locates, stands, bind, Except.bind] at reads
          | file content => simpa [locates, stands, bind, Except.bind] using reads

/-- A file that is appended to is put in its place, where no folder was. -/
theorem append_of_appendable?
    {held : Bytes}
    (holds : tree.appendable? path = some held)
    (bytes : Bytes) :
    ∃ place, tree.locate path = .ok place ∧ tree.entry? place ≠ some .folder ∧
      tree.append path bytes = tree.put place (.file (held ++ bytes)) := by
  unfold appendable? at holds
  unfold append
  cases locates : tree.locate path with
  | error fault => simp [locates] at holds
  | ok place =>
      refine ⟨place, rfl, ?_⟩
      simp only [locates] at holds ⊢
      cases stands : tree.entry? place with
      | none =>
          obtain rfl : [] = held := by simpa [stands] using holds
          simp
      | some entry =>
          cases entry with
          | folder => simp [stands] at holds
          | file content =>
              obtain rfl : content = held := by simpa [stands] using holds
              simp

/-- What is appended to a file is read at its end. -/
theorem read_append
    {held : Bytes}
    (holds : tree.appendable? path = some held)
    (bytes : Bytes) :
    (tree.append path bytes).read path = .ok (held ++ bytes) := by
  obtain ⟨place, locates, noFolder, appended⟩ := append_of_appendable? holds bytes
  have notTop : place ≠ [] := by
    rintro rfl
    exact noFolder rfl
  have located : (tree.put place (.file (held ++ bytes))).locate path = .ok place := by
    obtain ⟨noNul, nonempty, short, follows⟩ := locate_eq_ok_iff.mp locates
    exact locate_eq_ok_iff.mpr ⟨noNul, nonempty, short, follow_put noFolder _ follows⟩
  have stands : Tree.entry? (tree.put place (.file (held ++ bytes))) place =
      some (.file (held ++ bytes)) := by
    rw [entry_put, if_pos ⟨rfl, notTop⟩]
  rw [appended]
  simp [read, find, located, stands, bind, Except.bind]

/-! ## Making folders -/

/-- Making folders changes only places on their way where nothing stands. -/
theorem makeFolders_sameBut
    {places : Place → Prop}
    (ordinary : ∀ name ∈ names, name ≠ [] ∧ name ≠ hereName)
    (among : ∀ passed ∈ Files.way place names, tree.entry? passed = none → places passed) :
    SameBut places tree (tree.makeFolders place names).1 := by
  induction names generalizing tree place with
  | nil => exact .refl _ _
  | cons name names inductionHypothesis =>
      have further : ∀ other ∈ names, other ≠ [] ∧ other ≠ hereName :=
        fun other member => ordinary other (List.mem_cons_of_mem _ member)
      have onward : ∀ passed ∈ Files.way (stepTo place name) names,
          tree.entry? passed = none → places passed :=
        fun passed member => among passed (List.mem_cons_of_mem _ member)
      unfold makeFolders
      split
      · rename_i above
        have back : stepTo place name = place.dropLast := by
          obtain rfl := beq_iff_eq.mp above
          rfl
        exact inductionHypothesis further (back ▸ onward)
      · rename_i notAbove
        have below : stepTo place name = place ++ [name] :=
          stepTo_of_isOrdinary ⟨(ordinary name List.mem_cons_self).1,
            (ordinary name List.mem_cons_self).2, by simpa using notAbove⟩ place
        rw [below] at onward
        split
        · exact .refl _ _
        · dsimp only
          split
          · exact inductionHypothesis further onward
          · exact .refl _ _
          · rename_i empty
            refine .trans (.put (onward _ (mem_way_start _ _) empty) _ _)
              (inductionHypothesis further ?_)
            intro passed member nothing
            refine onward passed member ?_
            rw [entry_put] at nothing
            split at nothing
            · cases nothing
            · exact nothing

/-- Making the folder of a path changes only places on the way of the path where nothing
stands. -/
theorem makeFolder_sameBut
    {places : Place → Prop}
    (among : ∀ passed ∈ tree.way path, tree.entry? passed = none → places passed) :
    SameBut places tree (tree.makeFolder path) := by
  have ordinary : ∀ name ∈ path.names, name ≠ [] ∧ name ≠ hereName := by
    intro name member
    simpa [Path.names] using (List.mem_filter.mp member).2
  unfold makeFolder
  split
  · exact .refl _ _
  · dsimp only
    split
    · exact makeFolders_sameBut (fun name member => ordinary name (List.mem_of_mem_dropLast member))
        fun passed member => among passed (mem_way_of_filter (mem_way_of_dropLast member))
    · exact makeFolders_sameBut ordinary
        fun passed member => among passed (mem_way_of_filter member)

end Tree

/-! ## Joined paths -/

/-- A name is written in a path as it is, and leads to a place below. -/
structure IsFileName (name : Name) : Prop where
  ordinary : IsOrdinary name
  noSlash : slash ∉ name

namespace Path

variable {folder : Path}

/-- The pieces of a joined path are those of the folder, but for an empty one at the end, and
the name. -/
theorem cutAtSlashes_join
    (isFileName : IsFileName name)
    (nonempty : folder.bytes ≠ []) :
    ∃ pieces, cutAtSlashes (folder.join name).bytes = pieces ++ [name] ∧
      (cutAtSlashes folder.bytes = pieces ∨ cutAtSlashes folder.bytes = pieces ++ [[]]) := by
  have single := cutAtSlashes_of_notMem isFileName.noSlash
  unfold join
  split
  · rename_i closed
    have ends : folder.bytes.getLast? = some slash := by
      simpa [nonempty] using closed
    obtain ⟨before, shape⟩ := List.getLast?_eq_some_iff.mp ends
    refine ⟨cutAtSlashes before, ?_, .inr ?_⟩
    · simp only [shape, List.append_assoc, List.cons_append, List.nil_append]
      rw [cutAtSlashes_append, single]
    · rw [shape, cutAtSlashes_append]
      rfl
  · refine ⟨cutAtSlashes folder.bytes, ?_, .inl rfl⟩
    dsimp only
    rw [cutAtSlashes_append, single]

theorem join_of_empty
    (empty : folder.bytes = [])
    (name : Name) :
    (folder.join name).bytes = name := by
  simp [join, empty]

/-- A joined path starts where its folder does. -/
theorem start_join
    (isFileName : IsFileName name)
    (tree : Tree)
    (folder : Path) :
    tree.start (folder.join name) = tree.start folder := by
  have same : (folder.join name).isAbsolute = folder.isAbsolute := by
    unfold isAbsolute join
    cases bytes : folder.bytes with
    | nil =>
        cases shape : name with
        | nil => exact absurd shape isFileName.ordinary.1
        | cons b rest =>
            have other : b ≠ slash := by
              rintro rfl
              exact isFileName.noSlash (shape ▸ List.mem_cons_self)
            simp [other]
    | cons b rest => split <;> simp
  unfold Tree.start
  rw [same]

/-- A joined path leads to the place of the name in the place of the folder. -/
theorem leadTo_join
    (isFileName : IsFileName name)
    (place : Place)
    (folder : Path) :
    leadTo place (cutAtSlashes (folder.join name).bytes) =
      leadTo place (cutAtSlashes folder.bytes) ++ [name] := by
  rw [← stepTo_of_isOrdinary isFileName.ordinary]
  by_cases empty : folder.bytes = []
  · rw [join_of_empty empty, cutAtSlashes_of_notMem isFileName.noSlash, empty]
    rfl
  · obtain ⟨pieces, cut, open_ | closed⟩ := cutAtSlashes_join isFileName empty
    · rw [cut, open_, leadTo_append]
      rfl
    · rw [cut, closed, leadTo_append, leadTo_append]
      rfl

end Path

/-- Where a joined path can be located, its folder holds something. -/
theorem Tree.holds_of_locate_join
    {tree : Tree}
    {folder : Path}
    (isFileName : IsFileName name)
    (nonempty : folder.bytes ≠ [])
    (locates : tree.locate (folder.join name) = .ok reached) :
    tree.holds folder = true := by
  obtain ⟨noNul, _, short, follows⟩ := locate_eq_ok_iff.mp locates
  obtain ⟨pieces, cut, same⟩ := Path.cutAtSlashes_join isFileName nonempty
  rw [Path.start_join isFileName, cut, follow_append] at follows
  cases onto : tree.follow (tree.start folder) pieces with
  | error fault => rw [onto] at follows; cases follows
  | ok home =>
      rw [onto] at follows
      have isFolder := folder_of_follow follows
      have reaches : tree.follow (tree.start folder) (cutAtSlashes folder.bytes) = .ok home := by
        rcases same with open_ | closed
        · rw [open_, onto]
        · rw [closed, follow_append, onto]
          change tree.follow home [[]] = .ok home
          rw [follow_cons isFolder, if_neg (by simp)]
          rfl
      have part : folder.bytes <+: (folder.join name).bytes := by
        unfold Path.join
        split <;> exact List.prefix_append _ _
      have located : tree.locate folder = .ok home :=
        locate_eq_ok_iff.mpr ⟨fun nul => noNul (part.subset nul), nonempty,
          Nat.lt_of_le_of_lt part.length_le short, reaches⟩
      simp [Tree.holds, Tree.find, located, isFolder, bind, Except.bind, Except.toOption]

end Files
end KnowledgeClient
