import KnowledgeClient.Proofs.Judging
import KnowledgeClient.Proofs.Printing

/-!
# What the bodies of requests tell

The body of a request to make a knowledge model or to complete a chat is a JSON text
that is put together from the texts of its parts.  Whatever strings are put into it,
the text spells the one object that is meant and nothing else, and no control character
stands in it bare.  The operations that send such a body send just this text, or fail
before they send any.
-/

namespace KnowledgeClient
namespace Json

/-! ## Characters that are not escaped -/

/-- No control character stands among the characters. -/
def HasNoControls (chars : List Char) : Prop :=
  ∀ c ∈ chars, 0x20 ≤ c.toNat

@[simp] theorem hasNoControls_nil : HasNoControls [] :=
  fun _ member => absurd member List.not_mem_nil

@[simp] theorem hasNoControls_cons
    (c : Char)
    (chars : List Char) :
    HasNoControls (c :: chars) ↔ 0x20 ≤ c.toNat ∧ HasNoControls chars :=
  List.forall_mem_cons

@[simp] theorem hasNoControls_append
    (chars others : List Char) :
    HasNoControls (chars ++ others) ↔ HasNoControls chars ∧ HasNoControls others :=
  List.forall_mem_append

theorem le_toNat_hexDigit :
    ∀ n < 16, 0x20 ≤ (hexDigit n).toNat := by
  decide

/-- Control characters are escaped by characters that are none. -/
theorem hasNoControls_escapedChar (c : Char) : HasNoControls (escapedChar c) := by
  unfold escapedChar
  by_cases isControl : c.toNat < 0x20
  · have high := le_toNat_hexDigit (c.toNat / 16) (by omega)
    have low := le_toNat_hexDigit (c.toNat % 16) (by omega)
    split_ifs <;> simp [high, low]
  · rw [if_neg isControl]
    split_ifs <;> simp [Nat.le_of_not_lt isControl]

theorem hasNoControls_stringChars (text : String) : HasNoControls (stringChars text) := by
  have inside : HasNoControls (text.toList.flatMap escapedChar) := by
    intro c member
    obtain ⟨given, _, isEscape⟩ := List.mem_flatMap.mp member
    exact hasNoControls_escapedChar given c isEscape
  simp [stringChars, inside]

theorem hasNoControls_flagChars (value : Bool) : HasNoControls (flagChars value) := by
  cases value <;> simp [flagChars]

theorem hasNoControls_commaSeparated
    {texts : List (List Char)}
    (haveNone : ∀ text ∈ texts, HasNoControls text) :
    HasNoControls (commaSeparated texts) := by
  induction texts with
  | nil => simp [commaSeparated]
  | cons text texts inductionHypothesis =>
      obtain ⟨here, further⟩ := List.forall_mem_cons.mp haveNone
      cases texts with
      | nil => exact here
      | cons next texts => simp [commaSeparated, here, inductionHypothesis further]

theorem hasNoControls_listChars
    {texts : List (List Char)}
    (haveNone : ∀ text ∈ texts, HasNoControls text) :
    HasNoControls (listChars texts) := by
  simp [listChars, hasNoControls_commaSeparated haveNone]

theorem hasNoControls_objectChars
    {texts : List (String × List Char)}
    (haveNone : ∀ text ∈ texts, HasNoControls text.2) :
    HasNoControls (objectChars texts) := by
  have members : ∀ text ∈ texts, HasNoControls (stringChars text.1 ++ ':' :: text.2) := by
    intro text member
    simp [hasNoControls_stringChars, haveNone text member]
  simp [objectChars, hasNoControls_commaSeparated (List.forall_mem_map.mpr members)]

/-- The bytes of a character are below U+0020 only if the character is. -/
theorem le_of_mem_utf8EncodeChar
    {c : Char}
    (notControl : 0x20 ≤ c.toNat)
    {b : UInt8}
    (member : b ∈ String.utf8EncodeChar c) :
    0x20 ≤ b := by
  have code : c.val.toNat = c.toNat := rfl
  rw [UInt8.le_iff_toNat_le]
  simp only [String.utf8EncodeChar] at member
  split_ifs at member <;>
    simp only [List.mem_cons, List.not_mem_nil, or_false] at member <;>
    rcases member with rfl | rfl | rfl | rfl <;> simp <;> omega

/-- The bytes of characters without control characters are all from 0x20 on. -/
theorem le_of_mem_encode
    {chars : List Char}
    (hasNone : HasNoControls chars) :
    ∀ b ∈ Text.encode (String.ofList chars), 0x20 ≤ b := by
  intro b member
  rw [Text.encode, String.toList_ofList] at member
  obtain ⟨c, isChar, isByte⟩ := List.mem_flatMap.mp member
  exact le_of_mem_utf8EncodeChar (hasNone c isChar) isByte

/-! ## Texts that are put together -/

/-- The texts of some members spell them, each under its key. -/
def WritesUnder (text : String × List Char) (member : String × Value) : Prop :=
  text.1 = member.1 ∧ Writes text.2 member.2

theorem writes_listChars
    {texts : List (List Char)}
    {items : List Value}
    (writes : List.Forall₂ Writes texts items) :
    Writes (listChars texts) (.list items) :=
  writes_list writes areBlank_nil

theorem writes_objectChars
    {texts : List (String × List Char)}
    {members : List (String × Value)}
    (writes : List.Forall₂ WritesUnder texts members) :
    Writes (objectChars texts) (.object members) := by
  refine writes_object (List.forall₂_map_left_iff.mpr (writes.imp ?_)) areBlank_nil
  rintro ⟨key, text⟩ ⟨_, value⟩ ⟨rfl, writesValue⟩
  exact writesMember areBlank_nil key writesValue

/-- The text tells a value and nothing else: it spells the value with its members as they are
written and no other, it is read as the value with its members in order, and no control
character stands in it. -/
structure Tells (text : String) (written value : Value) : Prop where
  alone : ∀ given : Value, given.IsSpelledBy text ↔ given = written
  reads : Value.read text = .ok value
  printable : ∀ b ∈ Text.encode text, 0x20 ≤ b

theorem tells_of_writes
    {chars : List Char}
    {written value : Value}
    (writes : Writes chars written)
    (hasNone : HasNoControls chars)
    (within : written.nesting ≤ greatestDepth)
    (sorted : written.sorted = value) :
    Tells (String.ofList chars) written value := by
  have spelled := Value.isSpelledBy_of_writes writes areBlank_nil
  rw [List.append_nil] at spelled
  exact {
    alone := fun _ => spelled.iff_eq
    reads := (Value.read_eq_ok_iff _ _).mpr ⟨written, spelled, within, sorted⟩
    printable := le_of_mem_encode hasNone }

end Json

open Json

/-! ## Messages and requests -/

namespace Message

/-- A message as it is written. -/
def written (message : Message) : Value :=
  .object <|
    [("role", .text message.role.word), ("content", .text message.content)] ++
      message.name.toList.map fun name => ("name", .text name)

/-- A message as it is read: with its name exactly when it has one. -/
def value (message : Message) : Value :=
  .object <|
    ("content", .text message.content) ::
      (message.name.toList.map fun name => ("name", .text name)) ++
        [("role", .text message.role.word)]

theorem writes_jsonChars (message : Message) : Writes message.jsonChars message.written := by
  have role : WritesUnder ("role", stringChars message.role.word)
      ("role", .text message.role.word) :=
    ⟨rfl, writes_text _⟩
  have content : WritesUnder ("content", stringChars message.content)
      ("content", .text message.content) :=
    ⟨rfl, writes_text _⟩
  apply writes_objectChars
  cases message.name with
  | none => exact .cons role (.cons content .nil)
  | some name => exact .cons role (.cons content (.cons ⟨rfl, writes_text name⟩ .nil))

theorem hasNoControls_jsonChars (message : Message) : HasNoControls message.jsonChars := by
  apply hasNoControls_objectChars
  cases message.name <;> simp [hasNoControls_stringChars]

theorem sorted_written (message : Message) : message.written.sorted = message.value := by
  unfold written value
  cases message.name with
  | none => rfl
  | some name => rfl

theorem nesting_written (message : Message) : message.written.nesting = 1 := by
  unfold written
  cases message.name with
  | none => rfl
  | some name => rfl

end Message

namespace ChatRequest

/-- A request as it is written. -/
def written (request : ChatRequest) : Value :=
  .object
    [("model", .text request.model.code),
      ("messages", .list (request.messages.map Message.written)),
      ("stream", .flag request.stream)]

/-- A request as it is read. -/
def value (request : ChatRequest) : Value :=
  .object
    [("messages", .list (request.messages.map Message.value)),
      ("model", .text request.model.code),
      ("stream", .flag request.stream)]

/-- The text of a request tells the request: its model, its messages in their order and whether
the answer is to be streamed. -/
theorem tells (request : ChatRequest) :
    Tells (String.ofList request.jsonChars) request.written request.value := by
  have messages : Writes (messagesChars request.messages)
      (.list (request.messages.map Message.written)) :=
    writes_listChars <| List.forall₂_map_left_iff.mpr <| List.forall₂_map_right_iff.mpr <|
      List.forall₂_same.mpr fun message _ => message.writes_jsonChars
  have hasNone : HasNoControls (messagesChars request.messages) :=
    hasNoControls_listChars <| List.forall_mem_map.mpr fun message _ =>
      message.hasNoControls_jsonChars
  have flat : Value.itemsNesting (request.messages.map Message.written) ≤ 1 :=
    (Value.itemsNesting_le_iff _ _).mpr <| List.forall_mem_map.mpr fun message _ =>
      Nat.le_of_eq message.nesting_written
  refine tells_of_writes ?_ ?_ ?_ ?_
  · exact writes_objectChars
      (.cons ⟨rfl, writes_text _⟩ (.cons ⟨rfl, messages⟩ (.cons ⟨rfl, writes_flag _⟩ .nil)))
  · apply hasNoControls_objectChars
    simp [LanguageModel.jsonChars, hasNoControls_stringChars, hasNoControls_flagChars, hasNone]
  · simp only [written, Value.nesting, Value.membersNesting, greatestDepth]
    omega
  · have sortedMessages : Value.sortedItems (request.messages.map Message.written) =
        request.messages.map Message.value := by
      rw [Value.sortedItems_eq_map, List.map_map]
      exact List.map_congr_left fun message _ => message.sorted_written
    have sortedObject : request.written.sorted =
        .object [("messages", .list (Value.sortedItems (request.messages.map Message.written))),
          ("model", .text request.model.code), ("stream", .flag request.stream)] := rfl
    rw [sortedObject, sortedMessages, value]

end ChatRequest

/-! ## Proposals -/

namespace ModelProposal

/-- A proposal as it is written. -/
def written (proposal : ModelProposal) : Value :=
  .object
    [("name", .text proposal.name),
      ("description", .text proposal.description),
      ("shared_type", .text proposal.sharing.word)]

/-- A proposal as it is read. -/
def value (proposal : ModelProposal) : Value :=
  .object
    [("description", .text proposal.description),
      ("name", .text proposal.name),
      ("shared_type", .text proposal.sharing.word)]

/-- The text of a proposal tells the proposal. -/
theorem tells (proposal : ModelProposal) :
    Tells (String.ofList proposal.jsonChars) proposal.written proposal.value := by
  refine tells_of_writes ?_ ?_ ?_ ?_
  · exact writes_objectChars
      (.cons ⟨rfl, writes_text _⟩ (.cons ⟨rfl, writes_text _⟩ (.cons ⟨rfl, writes_text _⟩ .nil)))
  · apply hasNoControls_objectChars
    simp [Sharing.jsonChars, hasNoControls_stringChars]
  · simp [written, Value.nesting, Value.membersNesting, greatestDepth]
  · rfl

end ModelProposal

/-- A scope is asked for by its word in any letter case; any other word asks for none. -/
theorem Sharing.ofRequest_eq (raw : String) :
    match Sharing.ofRequest raw with
    | .ok sharing => sharing.word = Text.lower raw ∧ sharing ≠ .unlisted
    | .error message =>
      message = "unknown shared type: " ++ Text.lower raw ∧
        ∀ sharing : Sharing, sharing ≠ .unlisted → sharing.word ≠ Text.lower raw := by
  unfold ofRequest
  cases found : listed.find? (·.word == Text.lower raw) with
  | some sharing =>
      have isWord := List.find?_some found
      refine ⟨beq_iff_eq.mp isWord, ?_⟩
      rintro rfl
      exact absurd (List.mem_of_find?_eq_some found) (by decide)
  | none =>
      refine ⟨rfl, fun sharing isListed isWord => ?_⟩
      have none := List.find?_eq_none.mp found sharing
      cases sharing <;> simp_all [listed]

/-! ## The bodies that are sent -/

/-- The JSON text that a payload carries. -/
def Http.Payload.json? : Payload → Option String
  | .json text => some text
  | _ => none

namespace World

variable {α : Type}

/-- The JSON texts that were sent, in their order. -/
def bodies (world : World) : List String :=
  world.exchanges.filterMap (·.request.payload.json?)

/-- The text was sent, unless something hindered it. -/
structure Posts
    (before : World)
    (text : String)
    (hindrance : Option Failure)
    (outcome : Except Failure α)
    (after : World) : Prop where
  /-- Where nothing hinders it, the text was sent and no other JSON text. -/
  sent : hindrance = none → after.bodies = before.bodies ++ [text]
  /-- What hinders it is the failure, and then no JSON text was sent. -/
  hindered : ∀ failure, hindrance = some failure →
    after.bodies = before.bodies ∧ outcome = .error failure

theorem Posts.of_bodies_eq
    {before other after : World}
    {text : String}
    {hindrance : Option Failure}
    {outcome : Except Failure α}
    (posts : before.Posts text hindrance outcome after)
    (same : before.bodies = other.bodies) :
    other.Posts text hindrance outcome after where
  sent free := same ▸ posts.sent free
  hindered failure isHindrance := same ▸ posts.hindered failure isHindrance

end World

namespace Situation

/-- What hinders the request of a call from going out: its address is refused. -/
def hindrance? (situation : Situation) (call : Call) : Option Failure :=
  match situation.world.target (situation.client.config.address call) (some .nothing) with
  | .ok _ => none
  | .error fault => some (.requestFailed fault)

theorem noting_bodies
    (situation : Situation)
    (notes : List Note) :
    (situation.noting notes).world.bodies = situation.world.bodies := by
  rw [World.bodies, noting_exchanges, World.bodies]

theorem noting_hindrance?
    (situation : Situation)
    (notes : List Note)
    (call : Call) :
    (situation.noting notes).hindrance? call = situation.hindrance? call := by
  rw [hindrance?, noting_target, noting_client, hindrance?]

/-- A call with a JSON text sends the text, unless its address is refused. -/
theorem calling_posts
    {α : Type}
    (situation : Situation)
    (call : Call)
    (text : String)
    (judge : Http.Reply → Except Failure α)
    (notes : Http.Reply → List Note) :
    situation.world.Posts text (situation.hindrance? call)
      (situation.calling call (some (.json text)) judge notes).1
      (situation.calling call (some (.json text)) judge notes).2.world := by
  rw [hindrance?, calling, World.target_payload _ _ (.json text) .nothing]
  cases situation.world.target (situation.client.config.address call) (some .nothing) with
  | error fault => exact ⟨nofun, fun failure isHindrance => ⟨rfl, by simpa using isHindrance⟩⟩
  | ok url =>
      refine ⟨fun _ => ?_, nofun⟩
      simp only
      split <;>
        simp [World.bodies, World.requestTo, Http.Payload.json?]

end Situation

/-- Resolving the model sends no JSON text. -/
theorem Resolution.bodies_eq
    {situation after : Situation}
    {outcome : Except Failure ModelId}
    (resolution : Resolution situation outcome after) :
    after.world.bodies = situation.world.bodies := by
  have listing : ∀ url, (situation.listing url).world.bodies = situation.world.bodies := by
    intro url
    simp [World.bodies, Situation.listingRequest, World.requestTo, Http.Payload.json?]
  cases resolution with
  | bound | refused => rfl
  | failed url => exact listing url
  | found url => exact listing url

namespace Client

theorem createModel_posts
    (proposal : ModelProposal)
    (situation : Situation) :
    situation.world.Posts (String.ofList proposal.jsonChars) (situation.hindrance? .newModel)
      (createModel proposal situation).1 (createModel proposal situation).2.world := by
  rw [createModel_calling]
  exact situation.calling_posts _ _ _ _

/-- What hinders a client from being opened by making its model: the token is refused, or the
address of the models is. -/
def creationHindrance? (config : Config) (world : World) : Option Failure :=
  if config.hasUsableToken then (⟨⟨config, none⟩, world⟩ : Situation).hindrance? .newModel
  else some (.configuration .tokenRefused)

/-- Opening a client by making its model sends the text of the proposal. -/
theorem openedByCreating_posts
    (config : Config)
    (proposal : ModelProposal)
    (world : World) :
    world.Posts (String.ofList proposal.jsonChars) (creationHindrance? config world)
      (openedByCreating config proposal world).1 (openedByCreating config proposal world).2 := by
  unfold openedByCreating opened creationHindrance?
  by_cases usable : config.hasUsableToken = true
  · simp only [if_pos usable]
    have posts := createModel_posts proposal ⟨⟨config, none⟩, world⟩
    rw [announceModel_apply]
    generalize (⟨⟨config, none⟩, world⟩ : Situation).hindrance? .newModel = hindrance at posts ⊢
    generalize createModel proposal ⟨⟨config, none⟩, world⟩ = made at posts ⊢
    obtain ⟨failure | model, after⟩ := made
    · refine ⟨posts.sent, fun found isHindrance => ?_⟩
      obtain ⟨same, fails⟩ := posts.hindered found isHindrance
      exact ⟨same, congrArg Except.error (Except.error.inj fails)⟩
    · refine ⟨fun free => ?_, fun found isHindrance => nomatch (posts.hindered found isHindrance).2⟩
      rw [Situation.noting_bodies, posts.sent free]
  · simp only [if_neg usable]
    exact ⟨nofun, fun found isHindrance => ⟨rfl, by simpa using isHindrance⟩⟩

/-- What hinders a query from being sent: the model is not resolved, or the address of its chat
is refused. -/
def queryHindrance? (situation : Situation) : Option Failure :=
  match resolve situation with
  | (.error failure, _) => some failure
  | (.ok model, after) => after.hindrance? (.chat model)

theorem query_posts
    (content : String)
    (options : ChatOptions)
    (situation : Situation) :
    situation.world.Posts (String.ofList (chatRequest content options).jsonChars)
      (queryHindrance? situation) (query content options situation).1
      (query content options situation).2.world := by
  have bodies := (resolution situation).bodies_eq
  unfold query queryHindrance?
  rw [Operation.bind_apply]
  generalize resolve situation = resolved at bodies ⊢
  obtain ⟨failure | model, after⟩ := resolved
  · exact ⟨nofun, fun found isHindrance => ⟨bodies, by simpa using isHindrance⟩⟩
  · have posts := (after.noting (askingNotes content options)).calling_posts (.chat model)
      (String.ofList (chatRequest content options).jsonChars)
      ((Call.chat model).judge after.client.config.policy (·.reading ChatResponse.read))
      (chatNotes after.client.config.policy content options)
    rw [← askOf_calling, Situation.noting_hindrance?] at posts
    dsimp only at bodies ⊢
    generalize askOf content options model after = asked at posts ⊢
    exact posts.of_bodies_eq ((Situation.noting_bodies _ _).trans bodies)

/-- What the service is sent to complete a chat or to make a model is read as just that, whatever
strings it is made of.  A query sends the system's message, the usual one if it is given none,
and the user's; a word that asks for no scope leaves nothing to send. -/
theorem bodiesTell :
    (∀ request : ChatRequest,
      Tells (String.ofList request.jsonChars) request.written request.value) ∧
    (∀ (content : String) (options : ChatOptions) (situation : Situation),
      ∃ text, Tells text (chatRequest content options).written
          (.object
            [("messages", .list
                [.object
                  [("content", .text (options.systemContent.getD Prompt.usualText)),
                    ("name", .text options.systemName), ("role", .text "system")],
                  .object [("content", .text content), ("role", .text "user")]]),
              ("model", .text options.model.code),
              ("stream", .flag options.stream)]) ∧
        situation.world.Posts text (queryHindrance? situation)
          (query content options situation).1 (query content options situation).2.world) ∧
    ∀ name description raw : String,
      match Sharing.ofRequest raw with
      | .ok sharing =>
        Text.lower raw ∈ ["private", "all", "tenant"] ∧
        ∃ text,
          Tells text (ModelProposal.written ⟨name, description, sharing⟩)
            (.object
              [("description", .text description), ("name", .text name),
                ("shared_type", .text (Text.lower raw))]) ∧
          (∀ situation : Situation,
            situation.world.Posts text (situation.hindrance? .newModel)
              (createModel ⟨name, description, sharing⟩ situation).1
              (createModel ⟨name, description, sharing⟩ situation).2.world) ∧
          ∀ (config : Config) (world : World), world.Posts text (creationHindrance? config world)
            (openedByCreating config ⟨name, description, sharing⟩ world).1
            (openedByCreating config ⟨name, description, sharing⟩ world).2
      | .error message =>
        message = "unknown shared type: " ++ Text.lower raw ∧
        Text.lower raw ∉ ["private", "all", "tenant"] ∧
        ∀ found : CommandLine.Found, found.value? "shared-type" = some raw →
          CommandLine.proposalOf found = .error .refused := by
  refine ⟨ChatRequest.tells, fun content options situation => ?_, fun name description raw => ?_⟩
  · exact ⟨_, (chatRequest content options).tells, query_posts content options situation⟩
  · have asked := Sharing.ofRequest_eq raw
    cases request : Sharing.ofRequest raw with
    | ok sharing =>
        rw [request] at asked
        obtain ⟨isWord, isListed⟩ := asked
        rw [← isWord]
        refine ⟨?_, _, ModelProposal.tells ⟨name, description, sharing⟩,
          createModel_posts _, fun config world => openedByCreating_posts config _ world⟩
        cases sharing <;> first | exact absurd rfl isListed | decide
    | error message =>
        rw [request] at asked
        obtain ⟨isMessage, notListed⟩ := asked
        refine ⟨isMessage, ?_, fun found isRaw => ?_⟩
        · intro isListed
          simp only [List.mem_cons, List.not_mem_nil, or_false] at isListed
          rcases isListed with isWord | isWord | isWord
          · exact notListed .ownerOnly (by decide) isWord.symm
          · exact notListed .everyone (by decide) isWord.symm
          · exact notListed .tenant (by decide) isWord.symm
        · simp only [CommandLine.proposalOf, isRaw, Option.getD_some, request, Except.toOption]
          cases found.value? "name" <;> rfl

/-- A client that is bound sends what it is asked, though the connection is dropped then. -/
example :
    (query "Hi" .usual ⟨⟨.sample, some "m"⟩, .sample []⟩).2.world.bodies =
      [String.ofList (chatRequest "Hi" .usual).jsonChars] :=
  (query_posts "Hi" .usual ⟨⟨.sample, some "m"⟩, .sample []⟩).sent (by decide +kernel)

end Client
end KnowledgeClient
