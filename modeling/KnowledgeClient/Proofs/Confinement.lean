import KnowledgeClient.Proofs.Addressing
import KnowledgeClient.Proofs.Judging

/-!
# What ids can address

Ids stand in the address of a call as they are.  Where no id holds a slash, the pieces
of the path are the segments of the call, and tell it.  What a request names is another
matter, since an address is read before it is sent: dots are resolved, blanks are
dropped, and some characters end the path.  Ids that are plain in this respect are
named each by a segment of its own, so that no call reaches what another call is about.
-/

namespace KnowledgeClient

/-! ## What segments stand for -/

namespace Http

/-- The bytes that a segment of an address stands for. -/
def segmentBytes (segment : List Char) : Bytes :=
  unescape (segment.flatMap String.utf8EncodeChar)

/-- Escaped segments stand for the bytes of what was escaped, and are told from each other by
the slashes between them. -/
theorem cutAt_escaped_segments
    {texts : List (List Char)}
    (areSegments : ∀ text ∈ texts, Url.IsSegment text)
    {below : List Char}
    (isBelow : '/' :: below = (texts.map (escape escapedInPath)).flatMap ('/' :: ·)) :
    (Text.cutAt '/' below).map segmentBytes =
      texts.map (·.flatMap String.utf8EncodeChar) := by
  have noSlash : ∀ segment ∈ texts.map (escape escapedInPath), '/' ∉ segment := by
    intro segment member
    obtain ⟨text, isText, rfl⟩ := List.mem_map.mp member
    exact slash_notMem_escape ((areSegments text isText).notMem (by decide))
  rw [Text.cutAt_of_flatMap isBelow, (Text.flatMap_cutAt_eq_self_iff _).mpr noSlash, List.map_map]
  apply List.map_congr_left
  intro text isText
  exact unescape_escape escapedInPath (areSegments text isText).noEscape

end Http

/-! ## Ids in the paths of calls -/

namespace Call

/-- The ids that the path of the call is built from. -/
def ids : Call → List String
  | .models | .newModel | .languageModels | .probe => []
  | .upload model | .documents model | .chat model => [model]
  | .removal model document => [model, document]

/-- The ids of the call read as one segment each, and no control or space ends its path. -/
structure Plain (call : Call) : Prop where
  isAbout : call.ids ≠ []
  areSegments : ∀ id ∈ call.ids, Http.Url.IsSegment id.toList
  ends : ∀ last, call.path.toList.getLast? = some last → Http.Url.isControlOrSpace last = false

/-- The path of a call is cut into the pieces of its segments. -/
theorem cutAt_path (call : Call) :
    Text.cutAt '/' call.path.toList = call.segments.flatMap (Text.cutAt '/') :=
  Text.cutAt_of_flatMap call.slash_path

/-- Only ids bring slashes into the segments of a call. -/
theorem slash_notMem_segments_iff (call : Call) :
    (∀ segment ∈ call.segments, '/' ∉ segment) ↔ ∀ id ∈ call.ids, '/' ∉ id.toList := by
  cases call <;> simp [segments, ids]

/-- A path is cut into the segments of its call exactly if no id holds a slash. -/
theorem cutAt_path_eq_segments_iff (call : Call) :
    Text.cutAt '/' call.path.toList = call.segments ↔ ∀ id ∈ call.ids, '/' ∉ id.toList := by
  rw [cutAt_path, Text.flatMap_cutAt_eq_self_iff, slash_notMem_segments_iff]

/-- The method and the segments tell the call. -/
theorem eq_of_segments_eq
    {first second : Call}
    (sameMethod : first.method = second.method)
    (same : first.segments = second.segments) :
    first = second := by
  cases first <;> cases second <;> simp_all [segments, method, String.toList_inj]

/-- The segments of a plain call are those of an address about a knowledge model. -/
theorem Plain.areBelowModels
    {call : Call}
    (plain : call.Plain) :
    Http.Url.AreBelowModels call.segments where
  first := by
    have isAbout := plain.isAbout
    cases call <;> simp [segments, ids] at isAbout ⊢
  areSegments := by
    have modelsPlain : Http.Url.IsSegment "knowledge-models".toList := by decide
    have filesPlain : Http.Url.IsSegment "files".toList := by decide
    have chatPlain : Http.Url.IsSegment "chat".toList := by decide
    have completionsPlain : Http.Url.IsSegment "completions".toList := by decide
    have isAbout := plain.isAbout
    have idsPlain := plain.areSegments
    cases call <;> simp_all [segments, ids]
  ends := by
    intro last isLast
    rw [← slash_path] at isLast
    cases path : call.path.toList with
    | nil =>
        rw [path] at isLast
        obtain rfl : '/' = last := by simpa using isLast
        decide
    | cons c rest =>
        rw [path, List.getLast?_cons_cons, ← path] at isLast
        exact plain.ends last isLast

end Call

/-! ## What goes out -/

@[simp] theorem Http.Url.withoutUser_isWeb (url : Url) :
    url.withoutUser.isWeb = url.isWeb := by
  unfold withoutUser
  split <;> rfl

namespace World

/-- A request goes out only to the web. -/
theorem isWeb_of_target_eq_ok
    {world : World}
    {address : String}
    {payload : Option Http.Payload}
    {url : Http.Url}
    (goes : world.target address payload = .ok url) :
    url.isWeb = true := by
  obtain ⟨given, reading, rfl⟩ := read_of_target_eq_ok goes
  simp only [target, reading, obstacle?] at goes
  cases isWeb : given.withoutUser.isWeb with
  | true => rfl
  | false => simp [isWeb] at goes

/-- The exchanges that a request to an address comes to: one with the next answer, if it goes
out. -/
def handed
    (world : World)
    (access : Http.Header)
    (method : Http.Method)
    (address : String)
    (payload : Option Http.Payload) : List Http.Exchange :=
  match world.target address payload with
  | .error _ => []
  | .ok url => [⟨requestTo access method url payload, world.network.next⟩]

end World

/-- An operation that makes a call hands on the address of the call, and nothing else. -/
theorem Situation.calling_exchanges
    {α : Type}
    (situation : Situation)
    (call : Call)
    (payload : Option Http.Payload)
    (judge : Http.Reply → Except Failure α)
    (notes : Http.Reply → List Note) :
    (situation.calling call payload judge notes).2.world.exchanges =
      situation.world.exchanges ++
        situation.world.handed situation.client.config.accessHeader call.method
          (situation.client.config.address call) payload := by
  unfold calling World.handed
  cases situation.world.target (situation.client.config.address call) payload with
  | error fault => simp
  | ok url => cases next : situation.world.network.next <;> simp [next]

/-! ## Requests to plain ids -/

namespace Config

/-- The endpoint has no query and no fragment. -/
def EndsInPath (config : Config) : Prop :=
  ∀ c ∈ config.endpoint.toList, Http.Url.isPathEnd c = false

variable
  {config : Config}
  {call : Call}
  {world : World}
  {payload : Option Http.Payload}
  {url : Http.Url}

/-- The request of a plain call names what the endpoint says and then each segment of the call. -/
theorem segments_of_target
    (endsInPath : config.EndsInPath)
    (plain : call.Plain)
    (goes : world.target (config.url call.path) payload = .ok url) :
    ∃ below, url.requestChars = Http.Url.requestStart config.base ++ '/' :: below ∧
      (Text.cutAt '/' below).map Http.segmentBytes =
        call.segments.map (·.flatMap String.utf8EncodeChar) := by
  have isWeb := World.isWeb_of_target_eq_ok goes
  obtain ⟨given, reading, rfl⟩ := World.read_of_target_eq_ok goes
  rw [Http.Url.withoutUser_isWeb] at isWeb
  have noEnd : ∀ c ∈ config.base, Http.Url.isPathEnd c = false := by
    intro c member
    apply endsInPath
    exact List.mem_reverse.mp ((List.dropWhile_sublist _).mem (List.mem_reverse.mp member))
  rw [url_path, address] at reading
  have named := Http.Url.requestChars_of_read noEnd plain.areBelowModels reading isWeb
  obtain ⟨below, isBelow⟩ : ∃ below, '/' :: below =
      (call.segments.map (Http.escape Http.escapedInPath)).flatMap ('/' :: ·) := by
    obtain ⟨next, further, isSegments⟩ := plain.areBelowModels.first
    rw [isSegments]
    exact ⟨_, rfl⟩
  rw [← isBelow] at named
  exact ⟨below, named, Http.cutAt_escaped_segments plain.areBelowModels.areSegments isBelow⟩

/-- Requests of plain calls that have one method and name one text are of one call. -/
theorem eq_of_requestChars_eq
    {first second : Call}
    {firstWorld secondWorld : World}
    {firstPayload secondPayload : Option Http.Payload}
    {firstUrl secondUrl : Http.Url}
    (endsInPath : config.EndsInPath)
    (firstPlain : first.Plain)
    (secondPlain : second.Plain)
    (firstGoes : firstWorld.target (config.url first.path) firstPayload = .ok firstUrl)
    (secondGoes : secondWorld.target (config.url second.path) secondPayload = .ok secondUrl)
    (sameMethod : first.method = second.method)
    (same : firstUrl.requestChars = secondUrl.requestChars) :
    first = second := by
  obtain ⟨below, named, isFirst⟩ := segments_of_target endsInPath firstPlain firstGoes
  obtain ⟨other, otherNamed, isSecond⟩ := segments_of_target endsInPath secondPlain secondGoes
  -- Both begin with what the endpoint says, and so they agree behind it.
  rw [named, otherNamed, List.append_cancel_left_eq, List.cons.injEq] at same
  rw [← same.2, isFirst] at isSecond
  apply Call.eq_of_segments_eq sameMethod
  exact List.map_injective_iff.mpr Http.flatMap_utf8EncodeChar_injective isSecond

/-- A client that is bound to a model hands on the address of the document for its removal,
and nothing else. -/
theorem exchanges_of_removeDocument
    {situation : Situation}
    {model : ModelId}
    (isClient : situation.client = ⟨config, some model⟩)
    (document : String) :
    (Client.removeDocument document situation).2.world.exchanges =
      situation.world.exchanges ++
        situation.world.handed config.accessHeader .delete
          (config.url (Client.documentPath model document)) (some .nothing) := by
  have isBound : situation.client.bound = some model := by rw [isClient]
  have isConfig : situation.client.config = config := by rw [isClient]
  rw [Client.removeDocument_of_bound isBound, Client.removeFrom_calling,
    Situation.calling_exchanges, isConfig, ← url_path]
  rfl

/-! ## Confinement -/

/-- What can be told of the addresses of calls below an endpoint. -/
structure Confinement (config : Config) : Prop where
  /-- A client that is bound to a model hands on the address of the document for its removal,
  and nothing else. -/
  hands : ∀ (situation : Situation) (model : ModelId) (document : String),
    situation.client = ⟨config, some model⟩ →
    (Client.removeDocument document situation).2.world.exchanges =
      situation.world.exchanges ++
        situation.world.handed config.accessHeader .delete
          (config.url (Client.documentPath model document)) (some .nothing)
  /-- Behind the endpoint and a slash, the address has the pieces of the ids in their places. -/
  pieces : ∀ (model : ModelId) (document : String), ∃ below,
    (config.url (Client.documentPath model document)).toList = config.base ++ '/' :: below ∧
    Text.cutAt '/' below =
      "knowledge-models".toList :: Text.cutAt '/' model.toList ++
        "files".toList :: Text.cutAt '/' document.toList
  /-- These pieces are the four segments exactly if no id holds a slash. -/
  segments : ∀ (model : ModelId) (document : String) (below : List Char),
    (config.url (Client.documentPath model document)).toList = config.base ++ '/' :: below →
    (Text.cutAt '/' below =
        ["knowledge-models".toList, model.toList, "files".toList, document.toList] ↔
      '/' ∉ model.toList ∧ '/' ∉ document.toList)
  /-- Documents of models that hold as many slashes have addresses of their own. -/
  pairs : ∀ (model other : ModelId) (document otherDocument : String),
    model.toList.count '/' = other.toList.count '/' →
    config.url (Client.documentPath model document) =
      config.url (Client.documentPath other otherDocument) →
    model = other ∧ document = otherDocument
  /-- Calls of one method whose ids hold no slash have addresses of their own. -/
  calls : ∀ first second : Call, (∀ id ∈ first.ids ++ second.ids, '/' ∉ id.toList) →
    first.method = second.method → config.url first.path = config.url second.path →
    first = second
  /-- The request of a plain call names what the endpoint says and then each segment. -/
  named : config.EndsInPath →
    ∀ (call : Call) (world : World) (payload : Option Http.Payload) (url : Http.Url),
    call.Plain → world.target (config.url call.path) payload = .ok url →
    ∃ below, url.requestChars = Http.Url.requestStart config.base ++ '/' :: below ∧
      (Text.cutAt '/' below).map Http.segmentBytes =
        call.segments.map (·.flatMap String.utf8EncodeChar)
  /-- Plain calls of one method whose requests name the same are the same. -/
  apart : config.EndsInPath →
    ∀ (first second : Call) (world other : World) (payload otherPayload : Option Http.Payload)
      (url otherUrl : Http.Url),
    first.Plain → second.Plain → first.method = second.method →
    world.target (config.url first.path) payload = .ok url →
    other.target (config.url second.path) otherPayload = .ok otherUrl →
    url.requestText = otherUrl.requestText → first = second

/-- Below every endpoint, ids without slashes are told apart by the addresses of calls, and
plain ones by what the requests name. -/
theorem confinement (config : Config) : config.Confinement where
  hands situation model document isClient := exchanges_of_removeDocument isClient document
  pieces model document := by
    refine ⟨_, config.url_eq_base_path (.removal model document), ?_⟩
    have models : '/' ∉ "knowledge-models".toList := by decide
    have files : '/' ∉ "files".toList := by decide
    simp only [Call.cutAt_path, Call.segments, List.flatMap_cons, List.flatMap_nil,
      Text.cutAt_of_notMem models, Text.cutAt_of_notMem files, List.append_nil]
    rfl
  segments model document below isBelow := by
    have isAddress := config.url_eq_base_path (.removal model document)
    rw [Call.path, isBelow, List.append_cancel_left_eq, List.cons.injEq] at isAddress
    rw [isAddress.2]
    have iff : Text.cutAt '/' (Client.documentPath model document).toList =
        ["knowledge-models".toList, model.toList, "files".toList, document.toList] ↔
          ∀ id ∈ [model, document], '/' ∉ id.toList :=
      (Call.removal model document).cutAt_path_eq_segments_iff
    rw [iff]
    simp
  pairs model other document otherDocument sameCount same := by
    have samePath : (Call.removal model document).path =
        (Call.removal other otherDocument).path := path_eq_of_url_eq same
    have samePieces := congrArg (Text.cutAt '/' ·.toList) samePath
    simp only [Call.cutAt_path, Call.segments, List.flatMap_cons, List.flatMap_nil,
      List.append_nil, List.append_cancel_left_eq] at samePieces
    obtain ⟨sameModel, sameDocument⟩ := Text.cutAt_append_inj sameCount samePieces
    rw [List.append_cancel_left_eq] at sameDocument
    exact ⟨String.toList_inj.mp sameModel,
      String.toList_inj.mp (Text.cutAt_injective '/' sameDocument)⟩
  calls first second noSlash sameMethod same := by
    rw [List.forall_mem_append] at noSlash
    apply Call.eq_of_segments_eq sameMethod
    rw [← first.cutAt_path_eq_segments_iff.mpr noSlash.1,
      ← second.cutAt_path_eq_segments_iff.mpr noSlash.2, path_eq_of_url_eq same]
  named endsInPath call world payload url plain goes :=
    segments_of_target endsInPath plain goes
  apart endsInPath first second world other payload otherPayload url otherUrl firstPlain
      secondPlain sameMethod firstGoes secondGoes same :=
    eq_of_requestChars_eq endsInPath firstPlain secondPlain firstGoes secondGoes sameMethod
      (String.ofList_injective same)

/-- The removal of a document whose id has a blank and a letter outside ASCII. -/
def sampleRemoval : Call := .removal "m" "a é"

theorem plain_sampleRemoval : sampleRemoval.Plain where
  isAbout := by decide
  areSegments := by
    intro id member
    have isId : id = "m" ∨ id = "a é" := by simpa [sampleRemoval, Call.ids] using member
    rcases isId with rfl | rfl <;> decide
  ends := by
    have isLast : sampleRemoval.path.toList.getLast? = some 'é' := by decide
    intro last same
    obtain rfl : 'é' = last := Option.some.inj (isLast.symm.trans same)
    decide

/-- The removal goes out, and names the id by one segment. -/
theorem confinement_sample :
    Config.sample.EndsInPath ∧ sampleRemoval.Plain ∧
      ∃ url below,
        (World.sample []).target (Config.sample.url sampleRemoval.path) (some .nothing) = .ok url ∧
        url.requestText = "http://127.0.0.1/v1/knowledge-models/m/files/a%20%C3%A9" ∧
        url.requestChars = Http.Url.requestStart Config.sample.base ++ '/' :: below ∧
        (Text.cutAt '/' below).map Http.segmentBytes =
          ["knowledge-models", "m", "files", "a é"].map Text.encode := by
  have endsInPath : Config.sample.EndsInPath := by
    simp [EndsInPath, Config.sample, Http.Url.isPathEnd]
  have texts : ((World.sample []).target (Config.sample.url sampleRemoval.path)
      (some .nothing)).toOption.map Http.Url.requestText =
        some "http://127.0.0.1/v1/knowledge-models/m/files/a%20%C3%A9" := by
    decide +kernel
  cases goes : (World.sample []).target (Config.sample.url sampleRemoval.path)
      (some .nothing) with
  | error fault =>
      rw [goes] at texts
      cases texts
  | ok url =>
      rw [goes] at texts
      obtain ⟨below, named, isBelow⟩ := (confinement .sample).named endsInPath sampleRemoval
        (.sample []) (some .nothing) url plain_sampleRemoval goes
      exact ⟨endsInPath, plain_sampleRemoval, url, below, rfl, Option.some.inj texts, named,
        isBelow⟩

/-- Ids with a slash in them pass for others, and what a request names is not always the
document: dots, also escaped ones, lead to the model itself, some characters are lost or end
the path, and everything is lost behind an endpoint with a fragment. -/
theorem not_always_confined :
    (¬ ∀ (config : Config) (model other : ModelId) (document otherDocument : String),
      config.url (Client.documentPath model document) =
        config.url (Client.documentPath other otherDocument) →
      model = other ∧ document = otherDocument) ∧
    Text.cutAt '/' (Client.documentPath "a" "b/files/c").toList =
      ["knowledge-models", "a", "files", "b", "files", "c"].map String.toList ∧
    [("", ".."), ("", "%2e%2E"), ("", "b?c"), ("", "b\\c"), ("", "b\tc "), ("#", "b")].map
        (fun (fragment, document) =>
          ((World.sample []).target
            ((⟨"http://127.0.0.1/v1" ++ fragment, "token", .requireSuccess⟩ : Config).url
              (Client.documentPath "a" document))
            (some .nothing)).toOption.map Http.Url.requestText) =
      ["http://127.0.0.1/v1/knowledge-models/a/",
        "http://127.0.0.1/v1/knowledge-models/a/",
        "http://127.0.0.1/v1/knowledge-models/a/files/b?c",
        "http://127.0.0.1/v1/knowledge-models/a/files/b/c",
        "http://127.0.0.1/v1/knowledge-models/a/files/bc",
        "http://127.0.0.1/v1"].map some := by
  refine ⟨fun apart => ?_, by decide +kernel, by decide +kernel⟩
  have same : Config.sample.url (Client.documentPath "a/files/b" "c") =
      Config.sample.url (Client.documentPath "a" "b/files/c") := by decide +kernel
  exact absurd (apart .sample _ _ _ _ same).1 (by decide)

end Config
end KnowledgeClient
