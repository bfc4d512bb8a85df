import KnowledgeClient.Proofs.Segments
import KnowledgeClient.Proofs.Trimming
import Mathlib.Data.List.Forall2

/-!
# Endpoints below endpoints

The address of a path can be the endpoint of another address.  Slashes at the end of an
endpoint and at the start of a path do not count, so that it makes no difference whether a
path is put below the address of another one or both are joined first, and exactly one
slash comes between any two parts, however many endpoints lie below each other.
-/

namespace KnowledgeClient

namespace Config

open Text

/-- A slash. -/
def isSlash (c : Char) : Bool :=
  c == '/'

/-- A number of slashes. -/
def slashes (count : Nat) : String :=
  String.ofList (List.replicate count '/')

theorem isSlash_of_mem_slashes (count : Nat) : ∀ c ∈ (slashes count).toList, isSlash c = true := by
  rw [slashes, String.toList_ofList]
  intro c isMember
  rw [List.eq_of_mem_replicate isMember]
  rfl

/-- The configuration with another endpoint. -/
def reaching (config : Config) (endpoint : String) : Config :=
  { config with endpoint }

/-- The path without the slashes at its start. -/
def relative (path : String) : List Char :=
  path.toList.dropWhile isSlash

/-- The path without the slashes at its two ends. -/
def between (path : String) : List Char :=
  dropWhileEnd isSlash (relative path)

/-- What a path adds to an endpoint: nothing if there are only slashes in it, otherwise what is
between its outer slashes, after one slash. -/
def stretch (path : String) : List Char :=
  if between path = [] then [] else '/' :: between path

/-- The configuration whose endpoint lies below the given one by some paths, one below the
other. -/
def nested (config : Config) (paths : List String) : Config :=
  paths.foldl (fun config path => config.reaching (config.url path)) config

variable
  (config : Config)
  (path : String)

theorem losesEnd_base : LosesEnd isSlash config.endpoint.toList config.base :=
  losesEnd_iff.mpr rfl

theorem losesStart_relative : LosesStart isSlash path.toList (relative path) :=
  losesStart_iff.mpr rfl

theorem isCore_between : IsCore isSlash path.toList (between path) :=
  isCore_self isSlash path.toList

theorem toList_url : (config.url path).toList = config.base ++ '/' :: relative path :=
  String.toList_ofList

@[simp] theorem endpoint_reaching (endpoint : String) :
    (config.reaching endpoint).endpoint = endpoint := rfl

@[simp] theorem base_reaching (endpoint : String) :
    (config.reaching endpoint).base = dropWhileEnd isSlash endpoint.toList := rfl

/-! ## One endpoint below another -/

/-- A path of slashes only adds nothing, neither to an endpoint nor to a path. -/
theorem relative_of_between_eq_nil
    {path : String}
    (onlySlashes : between path = []) :
    relative path = [] ∧ dropWhileEnd isSlash path.toList = [] := by
  obtain ⟨front, back, areFront, areBack, isPath⟩ := (isCore_between path).within
  have areSlashes : ∀ c ∈ path.toList, isSlash c = true := by
    intro c isMember
    rw [isPath, onlySlashes, List.append_nil] at isMember
    exact (List.mem_append.mp isMember).elim (areFront c) (areBack c)
  exact ⟨List.dropWhile_eq_nil_iff.mpr areSlashes,
    List.rdropWhile_eq_nil_iff.mpr areSlashes⟩

/-- The endpoint of an address is the endpoint above it and what the path adds. -/
theorem base_url : (config.reaching (config.url path)).base = config.base ++ stretch path := by
  rw [base_reaching, toList_url, stretch]
  by_cases onlySlashes : between path = []
  -- The slash that joins is then the last character of the address, and dropped as such.
  · obtain ⟨nothing, _⟩ := relative_of_between_eq_nil onlySlashes
    obtain ⟨_, last⟩ := config.losesEnd_base
    rw [if_pos onlySlashes, nothing, List.append_nil]
    exact losesEnd_iff.mp ⟨⟨['/'], by simp [isSlash], rfl⟩, last⟩
  · obtain ⟨⟨back, areBack, isRelative⟩, last⟩ :
        LosesEnd isSlash (relative path) (between path) := losesEnd_iff.mpr rfl
    rw [if_neg onlySlashes, isRelative]
    have parted : config.base ++ '/' :: (between path ++ back) =
        (config.base ++ ['/']) ++ between path ++ back := by simp
    rw [parted, dropWhileEnd_of_core areBack last onlySlashes]
    simp

/-- The address of a path below another path has what that path adds before it. -/
theorem slash_relative_url (middle : String) :
    '/' :: relative ((config.reaching middle).url path) =
      stretch middle ++ '/' :: relative path := by
  rw [relative, toList_url, base_reaching, stretch]
  by_cases onlySlashes : between middle = []
  · obtain ⟨_, nothing⟩ := relative_of_between_eq_nil onlySlashes
    obtain ⟨_, first⟩ := losesStart_relative path
    rw [if_pos onlySlashes, nothing]
    have unslashed : ('/' :: relative path).dropWhile isSlash = relative path :=
      losesStart_iff.mp ⟨⟨['/'], by simp [isSlash], rfl⟩, first⟩
    rw [List.nil_append, unslashed]
  · obtain ⟨⟨front, back, areFront, areBack, isMiddle⟩, first, last⟩ := isCore_between middle
    have isEnd : dropWhileEnd isSlash middle.toList = front ++ between middle := by
      conv_lhs => rw [isMiddle]
      exact dropWhileEnd_of_core areBack last onlySlashes front
    rw [if_neg onlySlashes, isEnd, dropWhile_of_core areFront first onlySlashes]
    rfl

/-! ## Endpoints below each other -/

@[simp] theorem nested_nil : config.nested [] = config := rfl

@[simp] theorem nested_cons (paths : List String) :
    config.nested (path :: paths) = (config.reaching (config.url path)).nested paths := rfl

theorem base_nested (paths : List String) :
    (config.nested paths).base = config.base ++ paths.flatMap stretch := by
  induction paths generalizing config with
  | nil => simp
  | cons path paths inductionHypothesis =>
      rw [nested_cons, inductionHypothesis, base_url, List.flatMap_cons, List.append_assoc]

/-- What paths add is what is between their outer slashes, each after one slash, where there is
anything between them. -/
theorem flatMap_stretch (paths : List String) :
    paths.flatMap stretch =
      ((paths.map between).filter (!·.isEmpty)).flatMap ('/' :: ·) := by
  induction paths with
  | nil => rfl
  | cons path paths inductionHypothesis =>
      rw [List.flatMap_cons, inductionHypothesis, stretch]
      by_cases onlySlashes : between path = [] <;> simp [onlySlashes]

/-- How addresses are put together of endpoints and paths. -/
structure JoiningLaw : Prop where
  /-- An address is the endpoint without the slashes at its end, one slash, and the path without
  the slashes at its start. -/
  address : ∀ (config : Config) (path : String), ∃ start rest,
    LosesEnd isSlash config.endpoint.toList start ∧ LosesStart isSlash path.toList rest ∧
      (config.url path).toList = start ++ '/' :: rest
  /-- A path below the address of another path has the address of the two paths joined. -/
  associates : ∀ (config : Config) (middle path : String),
    (config.reaching (config.url middle)).url path =
      config.url ((config.reaching middle).url path)
  /-- Further slashes at the end of the endpoint and at the start of the path change nothing. -/
  insensitive : ∀ (config : Config) (path : String) (count other : Nat),
    (config.reaching (config.endpoint ++ slashes count)).url (slashes other ++ path) =
      config.url path
  /-- Endpoints that are the same without the slashes at their ends, and paths that are the same
  without the slashes at their starts, have the same addresses. -/
  agrees : ∀ (config other : Config) (path otherPath : String) (start rest : List Char),
    LosesEnd isSlash config.endpoint.toList start → LosesEnd isSlash other.endpoint.toList start →
    LosesStart isSlash path.toList rest → LosesStart isSlash otherPath.toList rest →
    config.url path = other.url otherPath
  /-- Below one endpoint only such paths have the same address. -/
  tellsPaths : ∀ (config : Config) (path otherPath : String),
    config.url path = config.url otherPath →
    ∃ rest, LosesStart isSlash path.toList rest ∧ LosesStart isSlash otherPath.toList rest
  /-- One path has the same address below such endpoints only. -/
  tellsEndpoints : ∀ (config other : Config) (path : String),
    config.url path = other.url path →
    ∃ start, LosesEnd isSlash config.endpoint.toList start ∧
      LosesEnd isSlash other.endpoint.toList start
  /-- Below any number of endpoints that lie below each other, an address has one slash before
  each part, and no part without anything in it. -/
  nests : ∀ (config : Config) (middles : List String) (path : String), ∃ start cores rest,
    LosesEnd isSlash config.endpoint.toList start ∧
    List.Forall₂ (fun middle core => IsCore isSlash middle.toList core) middles cores ∧
    LosesStart isSlash path.toList rest ∧
      ((config.nested middles).url path).toList =
        start ++ (cores.filter (!·.isEmpty)).flatMap ('/' :: ·) ++ '/' :: rest

/-- Addresses are put together of endpoints and paths with single slashes, in whatever order. -/
theorem joiningLaw : JoiningLaw where
  address config path :=
    ⟨config.base, relative path, config.losesEnd_base, losesStart_relative path,
      config.toList_url path⟩
  associates config middle path := by
    apply String.toList_inj.mp
    calc ((config.reaching (config.url middle)).url path).toList
        = (config.base ++ stretch middle) ++ '/' :: relative path := by
          rw [toList_url, base_url]
      _ = config.base ++ '/' :: relative ((config.reaching middle).url path) := by
          rw [slash_relative_url, List.append_assoc]
      _ = (config.url ((config.reaching middle).url path)).toList := by
          rw [toList_url]
  insensitive config path count other := by
    obtain ⟨⟨back, areBack, isEndpoint⟩, last⟩ := config.losesEnd_base
    obtain ⟨⟨front, areFront, isPath⟩, first⟩ := losesStart_relative path
    have sameBase : (config.reaching (config.endpoint ++ slashes count)).base = config.base := by
      refine losesEnd_iff.mp ⟨⟨back ++ (slashes count).toList, ?_, ?_⟩, last⟩
      · exact List.forall_mem_append.mpr ⟨areBack, isSlash_of_mem_slashes count⟩
      · rw [endpoint_reaching, String.toList_append, ← List.append_assoc, ← isEndpoint]
    have sameRelative : relative (slashes other ++ path) = relative path := by
      refine losesStart_iff.mp ⟨⟨(slashes other).toList ++ front, ?_, ?_⟩, first⟩
      · exact List.forall_mem_append.mpr ⟨isSlash_of_mem_slashes other, areFront⟩
      · rw [String.toList_append, List.append_assoc, ← isPath]
    apply String.toList_inj.mp
    rw [toList_url, toList_url, sameBase, sameRelative]
  agrees config other path otherPath start rest ends otherEnds starts otherStarts := by
    have isBase : config.base = start := losesEnd_iff.mp ends
    have isOtherBase : other.base = start := losesEnd_iff.mp otherEnds
    have isRelative : relative path = rest := losesStart_iff.mp starts
    have isOtherRelative : relative otherPath = rest := losesStart_iff.mp otherStarts
    apply String.toList_inj.mp
    rw [toList_url, toList_url, isBase, isOtherBase, isRelative, isOtherRelative]
  tellsPaths config path otherPath same := by
    have sameChars := congrArg String.toList same
    rw [toList_url, toList_url, List.append_cancel_left_eq, List.cons.injEq] at sameChars
    exact ⟨relative path, losesStart_relative path, sameChars.2 ▸ losesStart_relative otherPath⟩
  tellsEndpoints config other path same := by
    have sameChars := congrArg String.toList same
    rw [toList_url, toList_url, List.append_cancel_right_eq] at sameChars
    exact ⟨config.base, config.losesEnd_base, sameChars ▸ other.losesEnd_base⟩
  nests config middles path := by
    refine ⟨config.base, middles.map between, relative path, config.losesEnd_base, ?_,
      losesStart_relative path, ?_⟩
    · exact List.forall₂_map_right_iff.mpr
        (List.forall₂_same.mpr fun middle _ => isCore_between middle)
    · rw [toList_url, base_nested, flatMap_stretch]

/-- An endpoint with slashes at its end and one without, each below a path of slashes only and
another path. -/
theorem joiningLaw_sample :
    let config : Config := .requiring "http://h/v1//" "token"
    let other : Config := .requiring "http://h/v1" "token"
    config.url "/models" = other.url "//models" ∧
      (config.nested ["//", "/a/b/"]).url "c" = "http://h/v1/a/b/c" := by
  intro config other
  have sameStart : LosesEnd isSlash config.endpoint.toList other.base :=
    losesEnd_iff.mpr (by decide +kernel)
  have sameRest : LosesStart isSlash "//models".toList (relative "/models") :=
    losesStart_iff.mpr (by decide +kernel)
  exact ⟨joiningLaw.agrees config other _ _ _ _ sameStart other.losesEnd_base
    (losesStart_relative _) sameRest, by decide +kernel⟩

end Config
end KnowledgeClient
