import KnowledgeClient.CommandLine.Invocation
import KnowledgeClient.Proofs.Spelling
import Mathlib.Tactic.SplitIfs

/-!
# Flags among the words of a command line

A level without operands is read as a row of flags and options with values, up to a command
that leads further.  What else could follow a dash is refused, also where a value is
expected.  So a flag is found exactly if its word stands among those that the level reads, and a
flag of a query exactly if its word stands anywhere on the command line.
-/

namespace KnowledgeClient
namespace CommandLine

/-- The words that are left for a further level, the command first. -/
def Further.words : Further → List String
  | none => []
  | some (name, words) => name :: words

namespace Level

variable
  {level : Level}
  {found last : Found}
  {words : List String}
  {further : Further}

/-! ## Words -/

/-- A long option is its name, or its name and a value with an equals sign between them. -/
theorem eq_of_cutLong
    {characters : List Char}
    {name : String}
    {attached : Option String}
    (cut : cutLong characters = (name, attached)) :
    characters = name.toList ++ (attached.elim [] fun value => '=' :: value.toList) := by
  have whole : characters.takeWhile (· != '=') ++ characters.dropWhile (· != '=') = characters :=
    List.takeWhile_append_dropWhile
  unfold cutLong at cut
  cases rest : characters.dropWhile (· != '=') with
  | nil =>
      rw [rest] at cut whole
      obtain ⟨rfl, rfl⟩ := Prod.mk.inj cut
      rw [String.toList_ofList]
      exact whole.symm
  | cons c value =>
      obtain rfl : c = '=' := by
        have stops := List.head?_dropWhile_not (· != '=') characters
        rw [rest] at stops
        simpa using stops
      rw [rest] at cut whole
      obtain ⟨rfl, rfl⟩ := Prod.mk.inj cut
      rw [String.toList_ofList, Option.elim_some, String.toList_ofList]
      exact whole.symm

theorem eq_dashes_append
    {word : String}
    {characters : List Char}
    (isLong : word.toList = '-' :: '-' :: characters) :
    word = "--" ++ String.ofList characters := by
  have isName := (String.toList_ofList : (String.ofList characters).toList = characters)
  rw [← String.toList_inj, isLong, String.toList_append, isName]
  rfl

theorem dashes_append_inj {name other : String} : "--" ++ name = "--" ++ other ↔ name = other := by
  rw [← String.toList_inj, String.toList_append, String.toList_append, List.append_cancel_left_eq,
    String.toList_inj]

theorem isPlain_dashes_append (name : String) : isPlain ("--" ++ name) = false := by
  have isLong : ("--" ++ name).toList = '-' :: '-' :: name.toList := String.toList_append
  simp only [isPlain, isLong]

/-! ## Steps -/

theorem addValue_eq_ok
    {option : ValuedOption}
    {value : String}
    (added : addValue option value found = .ok last) :
    last = { found with values := found.values ++ [(option.name, value)] } := by
  unfold addValue at added
  split at added
  · cases added
  · exact (Except.ok.inj added).symm

/-- Without a value of its own a long option is a flag, or the scan ends. -/
theorem readFlag_eq_ok
    {name : String}
    {attached : Option String}
    (flagged : level.readFlag name attached found = .ok last) :
    attached = none ∧ name ∈ level.flags ∧
      last = { found with flags := found.flags ++ [name] } := by
  unfold readFlag at flagged
  split_ifs at flagged with isAttached isHelp isVersion isFlag
  unfold addFlag at flagged
  split_ifs at flagged with isFound
  exact ⟨Option.not_isSome_iff_eq_none.mp isAttached, by simpa using isFlag,
    (Except.ok.inj flagged).symm⟩

section NoOperands

variable (noOperands : level.operandLimit = some 0)
include noOperands

theorem addOperand_eq_error (word : String) : level.addOperand word found = .error .refused := by
  simp [addOperand, noOperands]

theorem scanOperands_eq_ok
    (scanned : level.scanOperands found words = .ok last) :
    words = [] ∧ last = found := by
  cases words with
  | nil => exact ⟨rfl, (Except.ok.inj scanned).symm⟩
  | cons word words =>
      rw [scanOperands, List.foldlM_cons, addOperand_eq_error noOperands] at scanned
      cases scanned

end NoOperands

/-! ## Scans -/

/-- How a level without operands goes through its words, from what was found before to what is
found at last. -/
inductive Scans (level : Level) : Found → List String → Found → Further → Prop
  | finished (found : Found) : Scans level found [] found none
  | closed (found : Found) : Scans level found ["--"] found none
  | command (found : Found) (name : String) (words : List String)
      (isCommand : (level.commands.lookup name).isSome = true) :
      Scans level found (name :: words) found (some (name, words))
  | flag {found last : Found} {words : List String} {further : Further} (name : String)
      (isFlag : name ∈ level.flags)
      (scans : Scans level { found with flags := found.flags ++ [name] } words last further) :
      Scans level found (("--" ++ name) :: words) last further
  | attached {found last : Found} {words : List String} {further : Further}
      (name value : String) (option : ValuedOption)
      (scans : Scans level { found with values := found.values ++ [(option.name, value)] } words
        last further) :
      Scans level found (("--" ++ name ++ "=" ++ value) :: words) last further
  | separate {found last : Found} {words : List String} {further : Further}
      (name value : String) (option : ValuedOption)
      (isValued : level.valued? name = some option)
      (isPlain : isPlain value = true)
      (scans : Scans level { found with values := found.values ++ [(option.name, value)] } words
        last further) :
      Scans level found (("--" ++ name) :: value :: words) last further

/-- Words that a level without operands does not refuse are read one way or another. -/
theorem scans_of_scan
    (noOperands : level.operandLimit = some 0)
    (scanned : level.scan found words = .ok (last, further)) :
    Scans level found words last further := by
  fun_induction level.scan found words with
  | case1 found =>
      obtain ⟨rfl, rfl⟩ := Prod.mk.inj (Except.ok.inj scanned)
      exact .finished found
  -- After two dashes every word is an operand, and there is no room for one.
  | case2 found word words isClosing =>
      obtain rfl : word = "--" := String.toList_inj.mp isClosing
      cases operands : level.scanOperands found words with
      | error halt => rw [operands] at scanned; cases scanned
      | ok after =>
          rw [operands] at scanned
          obtain ⟨rfl, rfl⟩ := Prod.mk.inj (Except.ok.inj scanned)
          obtain ⟨rfl, rfl⟩ := scanOperands_eq_ok noOperands operands
          exact .closed _
  | case3 found word characters _ isLong name option value words isValued cut inductionHypothesis =>
      have isWord : word = "--" ++ name ++ "=" ++ value := by
        rw [eq_dashes_append isLong, eq_of_cutLong cut, ← String.toList_inj]
        simp
      obtain ⟨after, added, scanned⟩ := Except.bind_eq_ok_iff.mp scanned
      have scans := inductionHypothesis after scanned
      rw [addValue_eq_ok added] at scans
      exact isWord ▸ .attached name value option scans
  | case4 found word characters _ isLong name option value words isValued isPlain cut
      inductionHypothesis =>
      have isWord : word = "--" ++ name := by
        rw [eq_dashes_append isLong, eq_of_cutLong cut, Option.elim_none, List.append_nil,
          String.ofList_toList]
      obtain ⟨after, added, scanned⟩ := Except.bind_eq_ok_iff.mp scanned
      have scans := inductionHypothesis after scanned
      rw [addValue_eq_ok added] at scans
      exact isWord ▸ .separate name value option isValued isPlain scans
  | case5 => cases scanned
  | case6 => cases scanned
  | case7 found word characters _ isLong name attached words isFree cut inductionHypothesis =>
      obtain ⟨after, flagged, scanned⟩ := Except.bind_eq_ok_iff.mp scanned
      obtain ⟨rfl, isFlag, rfl⟩ := readFlag_eq_ok flagged
      have isWord : word = "--" ++ name := by
        rw [eq_dashes_append isLong, eq_of_cutLong cut, Option.elim_none, List.append_nil,
          String.ofList_toList]
      exact isWord ▸ .flag name isFlag (inductionHypothesis _ scanned)
  | case8 => cases scanned
  | case9 found word words isCommand =>
      obtain ⟨rfl, rfl⟩ := Prod.mk.inj (Except.ok.inj scanned)
      exact .command found word words isCommand
  | case10 => cases scanned
  | case11 found word words =>
      rw [addOperand_eq_error noOperands] at scanned
      cases scanned

namespace Scans

/-- A scan goes further only with a command of the level. -/
theorem isCommand
    (scans : Scans level found words last further) :
    ∀ name left, further = some (name, left) → (level.commands.lookup name).isSome = true := by
  induction scans with
  | finished found => simp
  | closed found => simp
  | command found name words isCommand =>
      rintro _ _ ⟨⟩
      exact isCommand
  | flag _ _ _ inductionHypothesis => exact inductionHypothesis
  | attached _ _ _ _ inductionHypothesis => exact inductionHypothesis
  | separate _ _ _ _ _ _ inductionHypothesis => exact inductionHypothesis

/-- Only flags of the level are found. -/
theorem mem_flags
    {flag : String}
    (scans : Scans level found words last further) :
    flag ∈ last.flags → flag ∈ found.flags ∨ flag ∈ level.flags := by
  induction scans with
  | finished found => exact .inl
  | closed found => exact .inl
  | command found name words isCommand => exact .inl
  | flag name isFlag _ inductionHypothesis =>
      intro isFound
      rcases inductionHypothesis isFound with before | isListed
      · rcases List.mem_append.mp before with before | isName
        · exact .inl before
        · exact .inr (List.mem_singleton.mp isName ▸ isFlag)
      · exact .inr isListed
  | attached _ _ _ _ inductionHypothesis => exact inductionHypothesis
  | separate _ _ _ _ _ _ inductionHypothesis => exact inductionHypothesis

/-- A flag is found exactly if its word is read.  The word of another option is no such word, and
neither is a value: a value that follows its option does not begin with a dash. -/
theorem mem_flags_iff
    {flag : String}
    (notEmpty : flag ≠ "")
    (bare : '=' ∉ flag.toList)
    (isFree : level.valued? flag = none)
    (scans : Scans level found words last further) :
    ∃ read, words = read ++ further.words ∧
      (flag ∈ last.flags ↔ flag ∈ found.flags ∨ "--" ++ flag ∈ read) := by
  induction scans with
  | finished found => exact ⟨[], rfl, by simp⟩
  | closed found =>
      refine ⟨["--"], rfl, ?_⟩
      have other : "--" ++ flag ≠ "--" := fun same => notEmpty (dashes_append_inj.mp same)
      simp [other]
  | command found name words isCommand => exact ⟨[], rfl, by simp⟩
  | flag name isFlag _ inductionHypothesis =>
      obtain ⟨read, isRead, iff⟩ := inductionHypothesis
      refine ⟨("--" ++ name) :: read, by rw [isRead]; rfl, ?_⟩
      rw [iff, List.mem_append, List.mem_singleton, List.mem_cons, dashes_append_inj, or_assoc]
  | attached name value option _ inductionHypothesis =>
      obtain ⟨read, isRead, iff⟩ := inductionHypothesis
      refine ⟨("--" ++ name ++ "=" ++ value) :: read, by rw [isRead]; rfl, ?_⟩
      have other : "--" ++ flag ≠ "--" ++ name ++ "=" ++ value := fun same => by
        rw [String.append_assoc, String.append_assoc, dashes_append_inj] at same
        exact bare (same ▸ by simp)
      rw [iff, List.mem_cons, or_iff_right other]
  | separate name value option isValued isPlain _ inductionHypothesis =>
      obtain ⟨read, isRead, iff⟩ := inductionHypothesis
      refine ⟨("--" ++ name) :: value :: read, by rw [isRead]; rfl, ?_⟩
      have other : "--" ++ flag ≠ "--" ++ name := fun same => by
        rw [dashes_append_inj.mp same, isValued] at isFree
        cases isFree
      have notValue : "--" ++ flag ≠ value := fun same => by
        rw [← same, isPlain_dashes_append] at isPlain
        cases isPlain
      rw [iff, List.mem_cons, List.mem_cons, or_iff_right other, or_iff_right notValue]

end Scans
end Level

/-! ## Queries -/

section Queries

variable
  {words : List String}
  {invocation : Invocation}
  {arguments : QueryArguments}

/-- No command on documents asks a chat. -/
theorem not_query_of_readDocuments
    {top documents : Found}
    {name : String}
    (read : readDocuments top documents name words = .ok invocation) :
    invocation.command ≠ .query arguments := by
  unfold readDocuments at read
  split_ifs at read <;> obtain ⟨found, _, read⟩ := Except.bind_eq_ok_iff.mp read
  · split_ifs at read
    obtain rfl := Except.ok.inj read
    simp [CommandLine.invocation]
  · split at read
    · obtain rfl := Except.ok.inj read
      simp [CommandLine.invocation]
    · cases read
  · obtain rfl := Except.ok.inj read
    simp [CommandLine.invocation]
  · obtain rfl := Except.ok.inj read
    simp [CommandLine.invocation]

/-- Of all commands only "query" asks a chat. -/
theorem eq_query_of_readCommand
    {top : Found}
    {name : String}
    (read : readCommand top name words = .ok invocation)
    (asks : invocation.command = .query arguments) :
    name = "query" ∧
      ∃ found further, queryLevel.scan .nothing words = .ok (found, further) ∧
        queryOf found = .ok arguments := by
  unfold readCommand at read
  split_ifs at read with isDocs isCreation isQuery
  · obtain ⟨⟨documents, further⟩, _, read⟩ := Except.bind_eq_ok_iff.mp read
    rcases further with _ | ⟨name, words⟩
    · cases read
    · exact absurd asks (not_query_of_readDocuments read)
  · obtain ⟨found, _, read⟩ := Except.bind_eq_ok_iff.mp read
    obtain ⟨proposal, _, read⟩ := Except.bind_eq_ok_iff.mp read
    obtain rfl := Except.ok.inj read
    cases asks
  · obtain ⟨last, scannedLast, read⟩ := Except.bind_eq_ok_iff.mp read
    obtain ⟨⟨found, further⟩, scanned, isLast⟩ := Except.bind_eq_ok_iff.mp scannedLast
    obtain rfl := Except.ok.inj isLast
    obtain ⟨others, isArguments, read⟩ := Except.bind_eq_ok_iff.mp read
    obtain rfl := Except.ok.inj read
    obtain rfl := Command.query.inj asks
    exact ⟨beq_iff_eq.mp isQuery, _, further, scanned, isArguments⟩
  all_goals
    obtain ⟨found, _, read⟩ := Except.bind_eq_ok_iff.mp read
    obtain rfl := Except.ok.inj read
    cases asks

/-- A command line that asks a chat has the options for all commands, the command, and what is
found for the chat. -/
theorem scans_of_query
    (read : Invocation.read words = .ok invocation)
    (asks : invocation.command = .query arguments) :
    ∃ top found left,
      topLevel.Scans .nothing words top (some ("query", left)) ∧
      queryLevel.Scans .nothing left found none ∧
      queryOf found = .ok arguments := by
  obtain ⟨⟨top, further⟩, scanned, read⟩ := Except.bind_eq_ok_iff.mp read
  rcases further with _ | ⟨name, left⟩
  · cases read
  obtain ⟨rfl, found, further, scannedQuery, isQuery⟩ := eq_query_of_readCommand read asks
  have scans : queryLevel.Scans .nothing left found further :=
    Level.scans_of_scan rfl scannedQuery
  have last : further = none := by
    rcases further with _ | ⟨name, left⟩
    · rfl
    · cases scans.isCommand name left rfl
  exact ⟨top, found, left, Level.scans_of_scan rfl scanned, last ▸ scans, isQuery⟩

/-- A flag of a chat is found exactly if its word stands on the command line. -/
theorem flags_of_query
    (read : Invocation.read words = .ok invocation)
    (asks : invocation.command = .query arguments) :
    ∃ found, queryOf found = .ok arguments ∧
      ∀ flag ∈ ["stream", "accept-any-status", "raw"],
        (found.has flag = true ↔ "--" ++ flag ∈ words) := by
  obtain ⟨top, found, left, scansTop, scans, isQuery⟩ := scans_of_query read asks
  refine ⟨found, isQuery, fun flag isFlag => ?_⟩
  have isName : flag ≠ "" ∧ '=' ∉ flag.toList ∧ topLevel.valued? flag = none ∧
      queryLevel.valued? flag = none ∧ flag ∉ topLevel.flags ∧ "--" ++ flag ≠ "query" := by
    revert flag
    decide
  obtain ⟨notEmpty, bare, isFreeAtTop, isFree, unlisted, notQuery⟩ := isName
  obtain ⟨before, rfl, iffTop⟩ := scansTop.mem_flags_iff notEmpty bare isFreeAtTop
  obtain ⟨after, rfl, iff⟩ := scans.mem_flags_iff notEmpty bare isFree
  have notBefore : "--" ++ flag ∉ before := fun isRead => by
    rcases scansTop.mem_flags (iffTop.mpr (.inr isRead)) with isFound | isListed
    · cases isFound
    · exact unlisted isListed
  rw [Found.has, List.contains_iff_mem, iff]
  simp [Further.words, Found.nothing, notBefore, notQuery]

theorem acceptAnyStatus_iff
    (read : Invocation.read words = .ok invocation)
    (asks : invocation.command = .query arguments) :
    arguments.acceptAnyStatus = true ↔ "--accept-any-status" ∈ words := by
  obtain ⟨found, isQuery, flags⟩ := flags_of_query read asks
  obtain ⟨prompt, _, isArguments⟩ := Except.bind_eq_ok_iff.mp isQuery
  obtain rfl := Except.ok.inj isArguments
  exact flags "accept-any-status" (by simp)

end Queries

end CommandLine
end KnowledgeClient
