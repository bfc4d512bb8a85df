import KnowledgeClient.Proofs.Confinement
import KnowledgeClient.Proofs.Logs
import KnowledgeClient.Proofs.Rooted

/-!
# What is uploaded

An upload by a client that is bound fails before anything is sent if its path cannot be opened.
A file goes out in one request, under the last name of its path and with all its bytes, unless
no request can be sent to the address.  A folder can be opened, but there is nothing to be sent
of it: what fails then is the request.
-/

namespace KnowledgeClient

open Files Operation

/-! ## The name of a file -/

/-- A path that leads to a file ends with the file's name. -/
theorem Files.Tree.fileName?_of_file
    {tree : Tree}
    {path : Path}
    {content : Bytes}
    (rooted : tree.IsRooted)
    (finds : tree.find path = .ok (.file content)) :
    ∃ name, path.fileName? = some name ∧ (cutAtSlashes path.bytes).getLast? = some name := by
  obtain ⟨reached, locates, stands⟩ := find_eq_ok_iff.mp finds
  have follows := (locate_eq_ok_iff.mp locates).2.2.2
  cases cut : cutAtSlashes path.bytes using List.reverseRecOn with
  | nil => exact absurd cut (cutAtSlashes_ne_nil _)
  | append_singleton pieces last =>
      rw [cut, follow_append] at follows
      cases onto : tree.follow (tree.start path) pieces with
      | error fault => rw [onto] at follows; cases follows
      | ok folder =>
          rw [onto] at follows
          obtain ⟨isFolder, _, further⟩ := follow_cons_eq_ok follows
          have isLast : stepTo folder last = reached := Except.ok.inj further
          -- Any other piece would lead to a folder.
          have leads : (!last.isEmpty && last != hereName) = true := by
            by_contra idle
            rw [stepTo_of_idle (eq_false_of_ne_true idle)] at isLast
            simp [← isLast, isFolder] at stands
          have notAbove : last ≠ aboveName := by
            rintro rfl
            have above := rooted.above folder (by simp [isFolder])
            have isAbove : folder.dropLast = reached := isLast
            simp [← isAbove, above] at stands
          refine ⟨last, ?_, List.getLast?_concat⟩
          rw [Path.fileName?, Path.names, cut, List.filter_append, List.filter_singleton, leads]
          simp [notAbove]

/-! ## Requests of uploads -/

namespace World

variable {world : World} {address : String}

/-- A request with a payload is not refused for its payload. -/
theorem ne_bodyUnreadable_of_target
    {payload : Http.Payload}
    {fault : TransportFault}
    (refuses : world.target address (some payload) = .error fault)
    (url : String) :
    fault ≠ .bodyUnreadable url := by
  rintro rfl
  unfold target at refuses
  cases reading : Http.Url.read address with
  | error fault => simp [reading] at refuses
  | ok given =>
      simp only [reading] at refuses
      split at refuses
      · rename_i obstacle
        obtain rfl := Except.error.inj refuses
        unfold obstacle? at obstacle
        split_ifs at obstacle <;> simp_all
      · cases refuses

/-- Where a request could go out, it is refused for want of a payload alone. -/
theorem target_none
    {url : Http.Url}
    (goes : world.target address (some .nothing) = .ok url) :
    world.target address none = .error (.bodyUnreadable url.text) := by
  obtain ⟨given, reading, rfl⟩ := read_of_target_eq_ok goes
  unfold target at goes ⊢
  simp only [reading] at goes ⊢
  unfold obstacle? at goes ⊢
  split_ifs at goes ⊢ <;> simp_all

end World

namespace Situation

variable {situation : Situation} {call : Call}

/-- Where requests for a call go out, its address is one that they can be sent to. -/
theorem Reaches.target
    (reaches : situation.Reaches [call])
    (payload : Http.Payload) :
    ∃ url, situation.world.target (situation.client.config.address call) (some payload) =
      .ok url := by
  obtain ⟨url, reading, isWeb, isAddress⟩ :=
    reaches.accepts call (List.mem_singleton_self call)
  exact ⟨_, World.target_eq_ok reading isWeb isAddress reaches.reachable payload⟩

end Situation

/-! ## The law -/

/-- The one part of the form in which a file of this name and this content is uploaded.  Of
which media type the file is said to be is the platform's guess from the path. -/
def Http.FilePart.ofFile
    (platform : Platform)
    (path : Path)
    (name : Name)
    (content : Bytes) : FilePart :=
  ⟨"file", Text.decodeLossy name, platform.mediaType path, content⟩

/-- The exchange is for an upload into the model, and its one part has this name and this
content. -/
structure Http.Exchange.Delivers
    (exchange : Exchange)
    (situation : Situation)
    (model : ModelId)
    (path : Path)
    (name : Name)
    (content : Bytes) : Prop where
  isFor : exchange.IsFor situation.client.config (.upload model)
  payload_eq :
    exchange.request.payload = .form (.ofFile situation.world.platform path name content)

/-- What an upload by a client that is bound to the model does with what its path leads to. -/
structure UploadLaw
    (situation : Situation)
    (model : ModelId)
    (path : Path) : Prop where
  /-- What cannot be opened is told with its path and the reason; nothing is sent or changed. -/
  closed :
    ∀ reason, situation.world.files.find path = .error reason →
      Client.upload path situation = (.error (.unreadable path reason), situation)
  /-- Of a folder nothing is sent and nothing is changed; the failure is one of the request,
  and if requests can be sent to the address, it tells that there was no payload. -/
  folder :
    situation.world.files.find path = .ok .folder →
      ∃ fault, Client.upload path situation = (.error (.requestFailed fault), situation) ∧
        (situation.Reaches [.upload model] → ∃ url, fault = .bodyUnreadable url)
  /-- A file is sent in one request, under the last name of its path and with all its bytes,
  if requests can be sent to the address.  If they cannot, that is what fails. -/
  file :
    ∀ content, situation.world.files.find path = .ok (.file content) →
      ∃ name, path.fileName? = some name ∧
        (cutAtSlashes path.bytes).getLast? = some name ∧
        ((∃ exchange,
            (Client.upload path situation).2.world.exchanges =
              situation.world.exchanges ++ [exchange] ∧
            exchange.Delivers situation model path name content) ∨
          ¬ situation.Reaches [.upload model] ∧
            ∃ fault, Client.upload path situation = (.error (.requestFailed fault), situation) ∧
              ∀ url, fault ≠ .bodyUnreadable url)

/-- A client that is bound uploads into its model. -/
theorem Client.upload_of_bound
    {situation : Situation}
    {model : ModelId}
    (isBound : situation.client.bound = some model)
    (path : Path) :
    upload path situation = uploadInto path model situation :=
  bind_of_ok (resolve_of_bound isBound) _

/-- What is uploaded is what the path leads to. -/
theorem uploadLaw_of_bound
    (situation : Situation)
    (model : ModelId)
    (path : Path)
    (isBound : situation.client.bound = some model)
    (rooted : situation.world.files.IsRooted) :
    UploadLaw situation model path where
  closed reason closed := by
    rw [Client.upload_of_bound isBound, Client.uploadInto_of_closed closed]
  folder opens := by
    obtain ⟨fault, refuses, fails⟩ := Client.uploadInto_of_folder opens model
    refine ⟨fault, ?_, fun reaches => ?_⟩
    · rw [Client.upload_of_bound isBound, fails]
    · obtain ⟨url, goes⟩ := reaches.target .nothing
      rw [World.target_none goes] at refuses
      exact ⟨url.text, (Except.error.inj refuses).symm⟩
  file content opens := by
    obtain ⟨name, isName, isLast⟩ := Tree.fileName?_of_file rooted opens
    refine ⟨name, isName, isLast, ?_⟩
    have payload : Client.uploadPayload situation.world.platform path (.file content) =
        some (.form (.ofFile situation.world.platform path name content)) := by
      simp only [Client.uploadPayload, Client.uploadName, isName, Http.FilePart.ofFile]
    rw [Client.upload_of_bound isBound, Client.uploadInto_calling opens, payload]
    cases goes : situation.world.target
        (situation.client.config.address (.upload model))
        (some (.form (.ofFile situation.world.platform path name content))) with
    | ok url =>
        refine .inl ⟨_, ?_, Http.Exchange.isFor_of_target goes situation.world.network.next, rfl⟩
        rw [Situation.calling_exchanges, World.handed, goes]
    | error fault =>
        refine .inr ⟨fun reaches => ?_, fault, ?_, World.ne_bodyUnreadable_of_target goes⟩
        · obtain ⟨url, sent⟩ := reaches.target
            (.form (.ofFile situation.world.platform path name content))
          rw [sent] at goes
          cases goes
        · simp only [Situation.calling, goes]

/-- A client that is bound, a file in a folder, and no answers. -/
def Situation.sampleUpload : Situation :=
  ⟨⟨.sample, some "m"⟩,
    { World.sample [] with
      files := (Tree.empty []).plant (.ofText "d/a.txt") (.file [0xFF, 0x0A]) }⟩

/-- The file is sent under its own name, with bytes that are no text. -/
theorem uploadLaw_of_bound_sample :
    let path := Path.ofText "d/./a.txt"
    (Situation.sampleUpload.client.bound = some "m" ∧
      Situation.sampleUpload.world.files.IsRooted) ∧
      ∃ exchange,
        (Client.upload path Situation.sampleUpload).2.world.exchanges = [exchange] ∧
          exchange.Delivers .sampleUpload "m" path (Text.encode "a.txt") [0xFF, 0x0A] := by
  intro path
  have rooted : Situation.sampleUpload.world.files.IsRooted := by decide +kernel
  have finds : Situation.sampleUpload.world.files.find path = .ok (.file [0xFF, 0x0A]) := by
    decide +kernel
  have law := uploadLaw_of_bound Situation.sampleUpload "m" path rfl rooted
  obtain ⟨name, isName, _, sent | ⟨unreached, _⟩⟩ := law.file _ finds
  · obtain rfl : Text.encode "a.txt" = name :=
      Option.some.inj ((by decide +kernel : path.fileName? = _).symm.trans isName)
    exact ⟨⟨rfl, rooted⟩, sent⟩
  · have accepts : Config.sample.Accepts (.upload "m") := by decide +kernel
    refine absurd ⟨by decide, fun call member => ?_⟩ unreached
    rw [List.mem_singleton.mp member]
    exact accepts

/-- The path of a folder has nothing to be uploaded, and yet it is not told as unreadable. -/
theorem not_always_unreadable :
    ¬ ∀ (situation : Situation) (model : ModelId) (path : Path),
      situation.client.bound = some model →
      situation.world.files.IsRooted →
      (∀ content, situation.world.files.find path ≠ .ok (.file content)) →
      ∃ reason, Client.upload path situation = (.error (.unreadable path reason), situation) := by
  intro unreadable
  have isFolder : Situation.sampleUpload.world.files.find (.ofText "d") = .ok .folder := by
    decide +kernel
  obtain ⟨reason, told⟩ := unreadable .sampleUpload "m" (.ofText "d") rfl (by decide +kernel)
    (by simp [isFolder])
  have fails : (Client.upload (.ofText "d") .sampleUpload).1 =
      .error (.requestFailed
        (.bodyUnreadable "http://127.0.0.1/v1/knowledge-models/m/files")) := by
    decide +kernel
  rw [told] at fails
  cases fails

end KnowledgeClient
