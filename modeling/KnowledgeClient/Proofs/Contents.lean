import KnowledgeClient.Proofs.Exits
import KnowledgeClient.Proofs.Printing

/-!
# What a response to a chat holds

The contents of a response are the texts at `message.content` of its choices, in the order of
the choices.  A choice that has none counts for nothing and moves nothing, whatever it is
instead.  A command line prints the contents if there are any, however short they are, and the
whole response otherwise; no contents look like a response that holds them.
-/

namespace KnowledgeClient

/-! ## Where contents are -/

namespace Json.Value

/-- The value is an object whose choices are these. -/
def HasChoices
    (value : Value)
    (choices : List Value) : Prop :=
  ∃ members, value = .object members ∧ members.lookup "choices" = some (.list choices)

/-- The choice is an object with a message that is an object whose content is the text. -/
def HasContent
    (choice : Value)
    (text : String) : Prop :=
  ∃ members message, choice = .object members ∧
    members.lookup "message" = some (.object message) ∧
    message.lookup "content" = some (.text text)

theorem member?_eq_some_iff
    (key : String)
    (value held : Value) :
    value.member? key = some held ↔
      ∃ members, value = .object members ∧ members.lookup key = some held := by
  cases value <;> simp [member?]

theorem text?_eq_some_iff
    (value : Value)
    (text : String) :
    value.text? = some text ↔ value = .text text := by
  cases value <;> simp [text?]

theorem list?_eq_some_iff
    (value : Value)
    (items : List Value) :
    value.list? = some items ↔ value = .list items := by
  cases value <;> simp [list?]

end Json.Value

namespace ChatResponse

open Json (Value)

variable
  {value other : Value}
  {choices : List Value}

theorem choiceContent?_eq_some_iff
    (choice : Value)
    (text : String) :
    choiceContent? choice = some text ↔ choice.HasContent text := by
  simp only [choiceContent?, Option.bind_eq_bind, Option.bind_eq_some_iff,
    Value.member?_eq_some_iff, Value.text?_eq_some_iff, Value.HasContent]
  constructor
  · rintro ⟨_, ⟨members, rfl, atMessage⟩, _, ⟨message, rfl, atContent⟩, rfl⟩
    exact ⟨members, message, rfl, atMessage, atContent⟩
  · rintro ⟨members, message, rfl, atMessage, atContent⟩
    exact ⟨_, ⟨members, rfl, atMessage⟩, _, ⟨message, rfl, atContent⟩, rfl⟩

/-- The contents are those of the choices. -/
theorem contents_of_choices
    (hasChoices : value.HasChoices choices) :
    (ChatResponse.mk value).contents = choices.filterMap choiceContent? := by
  obtain ⟨members, rfl, atChoices⟩ := hasChoices
  have found : Value.member? "choices" (.object members) = some (.list choices) := atChoices
  simp only [contents, found, Value.list?, Option.getD_some]

/-- A value without choices has no contents. -/
theorem contents_of_noChoices
    (noChoices : ∀ choices, ¬ value.HasChoices choices) :
    (ChatResponse.mk value).contents = [] := by
  unfold contents
  dsimp only
  split
  · rename_i held atChoices
    obtain ⟨members, rfl, found⟩ := (Value.member?_eq_some_iff _ _ _).mp atChoices
    have notList : held.list? = none := by
      refine Option.eq_none_iff_forall_ne_some.mpr fun items isList => ?_
      rw [(Value.list?_eq_some_iff _ _).mp isList] at found
      exact noChoices items ⟨members, rfl, found⟩
    rw [notList]
    rfl
  · rfl

/-- What a partial function finds in a list, it finds at increasing indices, and at no others. -/
theorem exists_indices_filterMap
    {α β : Type}
    (function : α → Option β)
    (items : List α) :
    ∃ indices : List Nat, indices.Pairwise (· < ·) ∧
      (∀ index, index ∈ indices ↔ ∃ found, items[index]?.bind function = some found) ∧
      List.Forall₂ (fun index found => items[index]?.bind function = some found)
        indices (items.filterMap function) := by
  induction items with
  | nil => exact ⟨[], .nil, by simp, .nil⟩
  | cons item items inductionHypothesis =>
      obtain ⟨indices, increasing, member, found⟩ := inductionHypothesis
      have increasingLater : (indices.map (· + 1)).Pairwise (· < ·) :=
        increasing.map _ fun _ _ less => Nat.add_lt_add_right less 1
      have foundLater : List.Forall₂
          (fun index found => (item :: items)[index]?.bind function = some found)
          (indices.map (· + 1)) (items.filterMap function) := by
        rw [List.forall₂_map_left_iff]
        exact found
      cases atStart : function item with
      | none =>
          refine ⟨indices.map (· + 1), increasingLater, fun index => ?_, ?_⟩
          · cases index with
            | zero => simp [atStart]
            | succ index => simpa using member index
          · rw [List.filterMap_cons_none atStart]
            exact foundLater
      | some content =>
          refine ⟨0 :: indices.map (· + 1), .cons ?_ increasingLater, fun index => ?_, ?_⟩
          · simp
          · cases index with
            | zero => simp [atStart]
            | succ index => simpa using member index
          · rw [List.filterMap_cons_some atStart]
            exact .cons (by simpa using atStart) foundLater

/-! ## Lengths of contents -/

theorem length_lt_length_stringChars (text : String) :
    text.length + 1 < (Json.stringChars text).length := by
  have longer : ∀ cs : List Char, cs.length ≤ (cs.flatMap Json.escapedChar).length := by
    intro cs
    induction cs with
    | nil => exact Nat.le_refl 0
    | cons c cs inductionHypothesis =>
        have shown : 0 < (Json.escapedChar c).length := by
          unfold Json.escapedChar
          repeat' split
          all_goals exact Nat.zero_lt_succ _
        rw [List.flatMap_cons, List.length_append, List.length_cons]
        omega
  have inner := longer text.toList
  rw [String.length_toList] at inner
  simp only [Json.stringChars, List.cons_append, List.length_cons, List.length_append]
  omega

theorem length_lt_indentedMembers
    {members : List (String × Value)}
    {key : String}
    {held : Value}
    (found : members.lookup key = some held)
    (depth : Nat) :
    (held.indentedChars depth).length < (Value.indentedMembers depth members).length := by
  induction members with
  | nil => cases found
  | cons member members inductionHypothesis =>
      obtain ⟨other, value⟩ := member
      rw [Value.indentedMembers]
      simp only [List.cons_append, List.append_assoc, List.length_cons, List.length_append]
      rw [List.lookup_cons] at found
      split at found
      · obtain rfl := Option.some.inj found
        omega
      · have shorter := inductionHypothesis found
        omega

/-- A member of an object is shorter than the object. -/
theorem length_lt_indentedChars
    {members : List (String × Value)}
    {key : String}
    {held : Value}
    (found : members.lookup key = some held)
    (depth : Nat) :
    (held.indentedChars (depth + 1)).length <
      (Value.indentedChars depth (.object members)).length := by
  cases members with
  | nil => cases found
  | cons member members =>
      obtain ⟨other, value⟩ := member
      rw [Value.indentedChars]
      simp only [List.cons_append, List.append_assoc, List.length_cons, List.length_append]
      rw [List.lookup_cons] at found
      split at found
      · obtain rfl := Option.some.inj found
        omega
      · have shorter := length_lt_indentedMembers found (depth + 1)
        omega

/-- A content is shorter than its choice. -/
theorem length_lt_of_hasContent
    {choice : Value}
    {text : String}
    (hasContent : choice.HasContent text)
    (depth : Nat) :
    text.length + 1 < (choice.indentedChars depth).length := by
  obtain ⟨members, message, rfl, atMessage, atContent⟩ := hasContent
  have inMessage := length_lt_indentedChars atContent (depth + 1)
  have inChoice := length_lt_indentedChars atMessage depth
  have quoted := length_lt_length_stringChars text
  rw [Value.indentedChars] at inMessage
  omega

/-- The number of characters of some texts that end a line each. -/
def lengthOfLines (texts : List String) : Nat :=
  texts.foldr (fun text length => text.length + 1 + length) 0

theorem lengthOfLines_le_indentedItems
    (choices : List Value)
    (depth : Nat) :
    lengthOfLines (choices.filterMap choiceContent?) ≤
      (Value.indentedItems depth choices).length := by
  induction choices with
  | nil => exact Nat.le_refl 0
  | cons choice choices inductionHypothesis =>
      rw [Value.indentedItems]
      simp only [List.cons_append, List.append_assoc, List.length_cons, List.length_append]
      cases found : choiceContent? choice with
      | none =>
          rw [List.filterMap_cons_none found]
          omega
      | some text =>
          have shorter :=
            length_lt_of_hasContent ((choiceContent?_eq_some_iff _ _).mp found) depth
          rw [List.filterMap_cons_some found]
          simp only [lengthOfLines, List.foldr_cons] at inductionHypothesis ⊢
          omega

/-- The contents of a response, each on a line of its own, are shorter than the response. -/
theorem lengthOfLines_lt_indentedChars
    (hasChoices : value.HasChoices choices)
    (depth : Nat) :
    lengthOfLines (choices.filterMap choiceContent?) < (value.indentedChars depth).length := by
  obtain ⟨members, rfl, atChoices⟩ := hasChoices
  have inValue := length_lt_indentedChars atChoices depth
  cases choices with
  | nil => exact Nat.zero_lt_of_lt inValue
  | cons choice choices =>
      have items := lengthOfLines_le_indentedItems (choice :: choices) (depth + 1 + 1)
      rw [Value.indentedItems] at items
      rw [Value.indentedChars] at inValue
      simp only [List.cons_append, List.append_assoc, List.length_cons,
        List.length_append] at items inValue
      omega

/-- Lines that are joined are as long as the lines without the last line end. -/
theorem length_intercalate
    (texts : List String)
    (nonempty : texts ≠ []) :
    ("\n".intercalate texts).length + 1 = lengthOfLines texts := by
  induction texts with
  | nil => exact absurd rfl nonempty
  | cons text texts inductionHypothesis =>
      cases texts with
      | nil => simp [lengthOfLines]
      | cons next texts =>
          have joined := inductionHypothesis (List.cons_ne_nil _ _)
          rw [String.intercalate_cons_cons, String.length_append, String.length_append]
          simp only [lengthOfLines, List.foldr_cons] at joined ⊢
          have lineEnd : "\n".length = 1 := rfl
          omega

/-- Contents that are printed are not the response as it is printed. -/
theorem intercalate_contents_ne
    (response : ChatResponse)
    (hasContents : response.contents ≠ []) :
    "\n".intercalate response.contents ≠ response.value.indented := by
  intro same
  have joined := length_intercalate _ hasContents
  by_cases noChoices : ∀ choices, ¬ response.value.HasChoices choices
  · exact hasContents (contents_of_noChoices noChoices)
  · obtain ⟨choices, hasChoices⟩ := not_forall_not.mp noChoices
    have shorter := lengthOfLines_lt_indentedChars hasChoices 0
    rw [← contents_of_choices hasChoices, ← joined, same, Value.indented,
      String.length_ofList] at shorter
    omega

end ChatResponse

/-! ## What is printed -/

namespace CommandLine

/-- A command line that asks a chat and ends well prints the contents of the response, or the
response. -/
theorem stdout_of_query
    {words : List String}
    {environment : Environment}
    {world : World}
    {invocation : Invocation}
    {arguments : QueryArguments}
    (read : Invocation.read words = .ok invocation)
    (asks : invocation.command = .query arguments)
    (succeeds : (run words environment world).1.exitCode = 0) :
    ∃ config systemContent response,
      Config.ofEnvironment environment = .ok config ∧
      arguments.systemFile.mapM (Prompt.load world.files) = .ok systemContent ∧
      (arguments.operation systemContent (invocation.situation config world)).1 = .ok response ∧
      (run words environment world).1.stdout = responseText arguments.raw response ++ "\n" := by
  cases configured : Config.ofEnvironment environment with
  | error failure =>
      simp only [run, read, runInvocation, configured] at succeeds
      exact absurd ((Report.output_exitCode_eq_zero_iff _ _).mp succeeds)
        (by simp [Report.failed])
  | ok config =>
      have ran := run_of_read read configured world
      rw [ran] at succeeds
      have noError := (Report.output_exitCode_eq_zero_iff _ _).mp succeeds
      cases usable : config.hasUsableToken with
      | false =>
          rw [Disguise.runCommand_of_refused usable] at noError
          simp [Disguise.refusalReport, Report.failed] at noError
      | true =>
          have opens : ∀ proposal, invocation.command ≠ .createModel proposal := by simp [asks]
          have opened := runCommand_of_opens usable opens world
          rw [opened, asks] at noError
          obtain ⟨systemContent, loads, response, given⟩ :=
            (error_runQuery_eq_none_iff _ _).mp noError
          refine ⟨config, systemContent, response, rfl, loads, given, ?_⟩
          have printed : (runQuery arguments (invocation.situation config world)).1 =
              .lines [responseText arguments.raw response] := by
            unfold runQuery
            simp only [loads]
            change (reportOn _ _ (arguments.operation systemContent _)).1 = _
            rw [show arguments.operation systemContent (invocation.situation config world) =
              (.ok response, _) from Prod.ext given rfl]
            rfl
          rw [ran, opened, asks]
          change ((runQuery arguments _).1.output _).stdout = _
          rw [printed]
          simp [Report.output, Report.lines, Report.joined, String.join]

/-- The whole response is what is printed of it exactly if it has no contents. -/
theorem responseText_false_eq_indented_iff (response : ChatResponse) :
    responseText false response = response.value.indented ↔ response.contents = [] := by
  cases texts : response.contents with
  | nil => simp [responseText, texts]
  | cons text others =>
      have hasContents : response.contents ≠ [] := by simp [texts]
      have printed : responseText false response = "\n".intercalate response.contents := by
        simp [responseText, texts]
      rw [printed]
      simp [response.intercalate_contents_ne hasContents]

end CommandLine

/-! ## The law -/

open Json (Value)

/-- What the contents of a response are, and what is printed of it. -/
structure ContentLaw : Prop where
  /-- The contents of a value with choices are the texts of those choices that have one: they
  come from increasing indices, and from all indices at which there is one. -/
  found :
    ∀ (value : Value) (choices : List Value),
      value.HasChoices choices →
      ∃ indices : List Nat,
        indices.Pairwise (· < ·) ∧
        (∀ index, index ∈ indices ↔
          ∃ choice text, choices[index]? = some choice ∧ choice.HasContent text) ∧
        List.Forall₂
          (fun index text => ∃ choice, choices[index]? = some choice ∧ choice.HasContent text)
          indices (ChatResponse.mk value).contents
  /-- Any other value has no contents. -/
  nothing :
    ∀ value : Value,
      (∀ choices, ¬ value.HasChoices choices) →
      (ChatResponse.mk value).contents = []
  /-- A choice without a content might as well not be there. -/
  passedOver :
    ∀ (value other choice : Value) (earlier later : List Value),
      value.HasChoices (earlier ++ choice :: later) →
      other.HasChoices (earlier ++ later) →
      (∀ text, ¬ choice.HasContent text) →
      (ChatResponse.mk value).contents = (ChatResponse.mk other).contents
  /-- The contents of choices and of further choices are those of the ones and of the others. -/
  joined :
    ∀ (value first second : Value) (earlier later : List Value),
      value.HasChoices (earlier ++ later) →
      first.HasChoices earlier →
      second.HasChoices later →
      (ChatResponse.mk value).contents =
        (ChatResponse.mk first).contents ++ (ChatResponse.mk second).contents
  /-- A command line that asks a chat and ends well prints the contents of the response if there
  are any, and the whole response exactly if there are none. -/
  printed :
    ∀ (words : List String) (environment : Environment) (world : World)
      (invocation : CommandLine.Invocation) (arguments : CommandLine.QueryArguments),
      CommandLine.Invocation.read words = .ok invocation →
      invocation.command = .query arguments →
      arguments.raw = false →
      (CommandLine.run words environment world).1.exitCode = 0 →
      ∃ config systemContent response,
        Config.ofEnvironment environment = .ok config ∧
        arguments.systemFile.mapM (Prompt.load world.files) = .ok systemContent ∧
        (arguments.operation systemContent (invocation.situation config world)).1 =
          .ok response ∧
        (response.contents ≠ [] →
          (CommandLine.run words environment world).1.stdout =
            "\n".intercalate response.contents ++ "\n") ∧
        ((CommandLine.run words environment world).1.stdout = response.value.indented ++ "\n" ↔
          response.contents = [])

theorem contentLaw : ContentLaw where
  found value choices hasChoices := by
    rw [ChatResponse.contents_of_choices hasChoices]
    have selected := ChatResponse.exists_indices_filterMap ChatResponse.choiceContent? choices
    simp only [Option.bind_eq_some_iff, ChatResponse.choiceContent?_eq_some_iff] at selected
    obtain ⟨indices, increasing, member, found⟩ := selected
    refine ⟨indices, increasing, fun index => ?_, found⟩
    rw [member, exists_comm]
  nothing _ noChoices := ChatResponse.contents_of_noChoices noChoices
  passedOver value other choice earlier later hasChoices otherChoices noContent := by
    have unfound : ChatResponse.choiceContent? choice = none :=
      Option.eq_none_iff_forall_ne_some.mpr fun text found =>
        noContent text ((ChatResponse.choiceContent?_eq_some_iff _ _).mp found)
    rw [ChatResponse.contents_of_choices hasChoices,
      ChatResponse.contents_of_choices otherChoices, List.filterMap_append,
      List.filterMap_append, List.filterMap_cons_none unfound]
  joined value first second earlier later hasChoices firstChoices secondChoices := by
    rw [ChatResponse.contents_of_choices hasChoices,
      ChatResponse.contents_of_choices firstChoices,
      ChatResponse.contents_of_choices secondChoices, List.filterMap_append]
  printed words environment world invocation arguments read asks notRaw succeeds := by
    obtain ⟨config, systemContent, response, configured, loads, given, stdout⟩ :=
      CommandLine.stdout_of_query read asks succeeds
    refine ⟨config, systemContent, response, configured, loads, given, fun hasContents => ?_, ?_⟩
    · rw [stdout, notRaw]
      simp [CommandLine.responseText, hasContents]
    · rw [stdout, notRaw, String.append_left_inj,
        CommandLine.responseText_false_eq_indented_iff]

/-- Of three choices the second is nothing: it might as well not be there, and the contents of
the others are printed, though one of them is empty. -/
theorem contentLaw_sample :
    let content (text : String) : Value :=
      .object [("message", .object [("content", .text text)])]
    let value : Value := .object [("choices", .list [content "", .null, content "b"])]
    let other : Value := .object [("choices", .list [content "", content "b"])]
    let words := ["--model-id", "m", "query", "--prompt", "x"]
    let environment : Environment :=
      [(Config.tokenVariable, Text.encode "token"),
        (Config.endpointVariable, Text.encode "http://127.0.0.1/v1")]
    let world := World.sample [.reply ⟨.ok, Text.encode value.compact, true⟩]
    (value.HasChoices ([content ""] ++ .null :: [content "b"]) ∧
      other.HasChoices ([content ""] ++ [content "b"]) ∧
      (∀ text, ¬ Value.HasContent .null text) ∧
      (ChatResponse.mk value).contents = (ChatResponse.mk other).contents) ∧
    (CommandLine.run words environment world).1.exitCode = 0 ∧
    (CommandLine.run words environment world).1.stdout = "\n".intercalate ["", "b"] ++ "\n" := by
  intro content value other words environment world
  have hasChoices : value.HasChoices ([content ""] ++ .null :: [content "b"]) := ⟨_, rfl, rfl⟩
  have otherChoices : other.HasChoices ([content ""] ++ [content "b"]) := ⟨_, rfl, rfl⟩
  have noContent : ∀ text, ¬ Value.HasContent .null text := by
    rintro text ⟨members, message, same, _⟩
    cases same
  have succeeds : (CommandLine.run words environment world).1.exitCode = 0 := by decide +kernel
  refine ⟨⟨hasChoices, otherChoices, noContent,
    contentLaw.passedOver _ _ _ _ _ hasChoices otherChoices noContent⟩, succeeds, ?_⟩
  let arguments : CommandLine.QueryArguments := ⟨.text "x", none, .usual, false, false, false⟩
  let invocation : CommandLine.Invocation := ⟨some "m", false, .query arguments⟩
  have read : CommandLine.Invocation.read words = .ok invocation := by decide +kernel
  have isConfig : Config.ofEnvironment environment = .ok .sample := by decide +kernel
  obtain ⟨config, systemContent, response, configured, loads, given, stdout, _⟩ :=
    contentLaw.printed words environment world invocation arguments read rfl rfl succeeds
  obtain rfl := Except.ok.inj (isConfig.symm.trans configured)
  obtain rfl : none = systemContent := Except.ok.inj loads
  have contents : ((arguments.operation none (invocation.situation .sample world)).1.map
      ChatResponse.contents) = .ok ["", "b"] := by
    decide +kernel
  rw [given] at contents
  have held : response.contents = ["", "b"] := Except.ok.inj contents
  rw [stdout (by simp [held]), held]

end KnowledgeClient
