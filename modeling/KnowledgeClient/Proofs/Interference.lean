import KnowledgeClient.Proofs.Chronicle
import KnowledgeClient.Proofs.Commands

/-!
# The journal keeps to itself

Two runs may differ in whether they keep a journal, in when they switch it, and in all
that stands at the journal's places at first.  As long as no path that is given leads
through one of these places they give the same, hold the same exchanges and bind their
clients to the same models.  They also say the same, but for the events that a record was
lost.  Whether a record can be written bears on nothing else, and no run changes a file at
any other place.
-/

namespace KnowledgeClient

open Files Operation

variable {folder : Path} {base : Tree}

/-! ## What is said of the journal -/

/-- The diagnostic is an event of the journal. -/
def Diagnostic.isOfJournal : Diagnostic → Bool
  | .event given => given.origin == Event.journalOrigin
  | .line _ => false

/-- Some diagnostics without the events of the journal. -/
def Diagnostic.others (diagnostics : List Diagnostic) : List Diagnostic :=
  diagnostics.filter (!·.isOfJournal)

theorem Diagnostic.others_append (first second : List Diagnostic) :
    others (first ++ second) = others first ++ others second :=
  List.filter_append _ _

/-- All that the journal says is that a record is lost, which is an event of the journal. -/
theorem Journal.others_loss?
    (journal : Journal)
    (files : Tree) :
    Diagnostic.others ((journal.loss? files).map .event).toList = [] := by
  unfold loss?
  split
  · cases journal.fault? files with
    | none => rfl
    | some fault => simp [Diagnostic.others, Diagnostic.isOfJournal, Event.recordLost]
  · rfl

/-- Noting something adds to what is said, where the events of the journal are left out, the
same in every world. -/
theorem World.others_said_note
    (world : World)
    (noted : Note) :
    Diagnostic.others (world.note noted).said =
      Diagnostic.others world.said ++
        match noted with
        | .record _ => []
        | .event event => Diagnostic.others [.event event] := by
  cases noted with
  | record record =>
      have others := Diagnostic.others_append world.said
        ((world.journal.loss? world.files).map .event).toList
      rw [Journal.others_loss?] at others
      exact others
  | event event => exact Diagnostic.others_append world.said [.event event]

/-- To whoever is shown no event of the journal, what is said of it makes no difference. -/
theorem World.complaints_eq_others
    {world : World}
    {directive : Option String}
    (hidden : ∀ event, event.origin = Event.journalOrigin →
      world.platform.shows directive event = false) :
    world.complaints directive =
      String.join ((Diagnostic.others world.said).map
        (world.platform.shown directive world.time)) := by
  have shownOthers : ∀ said : List Diagnostic,
      String.join (said.map (world.platform.shown directive world.time)) =
        String.join ((Diagnostic.others said).map
          (world.platform.shown directive world.time)) := by
    intro said
    induction said with
    | nil => rfl
    | cons diagnostic said inductionHypothesis =>
        cases isOf : diagnostic.isOfJournal with
        | false =>
            have kept : Diagnostic.others (diagnostic :: said) =
                diagnostic :: Diagnostic.others said := by
              simp [Diagnostic.others, isOf]
            rw [kept, List.map_cons, List.map_cons, String.join_cons, String.join_cons,
              inductionHypothesis]
        | true =>
            have dropped : Diagnostic.others (diagnostic :: said) = Diagnostic.others said := by
              simp [Diagnostic.others, isOf]
            have nothing : world.platform.shown directive world.time diagnostic = "" := by
              cases diagnostic with
              | line text => cases isOf
              | event event =>
                  have isEvent : event.origin = Event.journalOrigin := eq_of_beq isOf
                  simp [Platform.shown, hidden event isEvent]
            rw [dropped, List.map_cons, String.join_cons, nothing, inductionHypothesis,
              String.empty_append]
  exact shownOthers world.said

/-! ## Situations apart by the journal -/

/-- The world keeps its journal in the folder, and its files are those of the base except at
the journal's places. -/
structure World.IsBeside
    (folder : Path)
    (base : Tree)
    (world : World) : Prop where
  folder_eq : world.journal.folder = folder
  files : Tree.SameBut (Journal.Owns folder base) base world.files

/-- The worlds have the same platform, the same network and the same exchanges; what was said
in them differs by events of the journal only, and they differ besides at the journal's places
and in the journal itself. -/
structure World.Apart
    (folder : Path)
    (base : Tree)
    (one other : World) : Prop where
  platform_eq : other.platform = one.platform
  network_eq : other.network = one.network
  exchanges_eq : other.exchanges = one.exchanges
  said_eq : Diagnostic.others other.said = Diagnostic.others one.said
  isBeside : one.IsBeside folder base
  otherIsBeside : other.IsBeside folder base

/-- The situations have the same client in worlds that are apart by the journal. -/
structure Situation.Apart
    (folder : Path)
    (base : Tree)
    (one other : Situation) : Prop where
  client_eq : other.client = one.client
  world : one.world.Apart folder base other.world

namespace World

variable {one other : World}

/-- What is noted is written beside the files of the base. -/
theorem IsBeside.note
    (isBeside : one.IsBeside folder base)
    (noted : Note) :
    (one.note noted).IsBeside folder base := by
  cases noted with
  | record record =>
      obtain ⟨rfl, files⟩ := isBeside
      exact ⟨rfl, Journal.write_keeps files one.time record⟩
  | event event => exact ⟨isBeside.folder_eq, isBeside.files⟩

/-- Noting the same on both sides keeps worlds apart by the journal. -/
theorem Apart.note
    (apart : one.Apart folder base other)
    (noted : Note) :
    (one.note noted).Apart folder base (other.note noted) where
  platform_eq := by cases noted <;> exact apart.platform_eq
  network_eq := by cases noted <;> exact apart.network_eq
  exchanges_eq := by cases noted <;> exact apart.exchanges_eq
  said_eq := by rw [others_said_note, others_said_note, apart.said_eq]
  isBeside := apart.isBeside.note noted
  otherIsBeside := apart.otherIsBeside.note noted

/-- So does saying the same. -/
theorem Apart.say
    (apart : one.Apart folder base other)
    (diagnostics : List Diagnostic) :
    (one.say diagnostics).Apart folder base (other.say diagnostics) where
  platform_eq := apart.platform_eq
  network_eq := apart.network_eq
  exchanges_eq := apart.exchanges_eq
  said_eq := by
    rw [World.say, World.say, Diagnostic.others_append, Diagnostic.others_append, apart.said_eq]
  isBeside := ⟨apart.isBeside.folder_eq, apart.isBeside.files⟩
  otherIsBeside := ⟨apart.otherIsBeside.folder_eq, apart.otherIsBeside.files⟩

theorem Apart.answering
    (apart : one.Apart folder base other)
    (request : Http.Request) :
    (one.answering request).Apart folder base (other.answering request) where
  platform_eq := apart.platform_eq
  said_eq := apart.said_eq
  network_eq := by simp only [World.answering, World.record, apart.network_eq]
  exchanges_eq := by
    rw [answering_exchanges, answering_exchanges, apart.exchanges_eq, apart.network_eq]
  isBeside := ⟨apart.isBeside.folder_eq, apart.isBeside.files⟩
  otherIsBeside := ⟨apart.otherIsBeside.folder_eq, apart.otherIsBeside.files⟩

end World

namespace Situation

/-- Being apart by the journal is carried along by everything that an operation does, and by
what a command says. -/
theorem spoken_apart
    (folder : Path)
    (base : Tree) :
    CommandLine.Spoken (Apart folder base) where
  say one other diagnostics := by
    rintro ⟨client_eq, apart⟩
    exact ⟨client_eq, apart.say diagnostics⟩
  sendAny method path payload := by
    rintro one other ⟨client_eq, apart⟩
    have target : ∀ address, other.world.target address payload =
        one.world.target address payload :=
      fun address => World.target_congr (by rw [apart.network_eq]) address payload
    rw [sendAny_apply, sendAny_apply, client_eq, target, apart.network_eq]
    cases one.world.target (one.client.config.url path) payload with
    | error fault => exact ⟨rfl, client_eq, apart⟩
    | ok url => exact ⟨rfl, client_eq, apart.answering _⟩
  note noted := by
    rintro one other ⟨client_eq, apart⟩
    rw [note_apply, note_apply]
    exact ⟨rfl, client_eq, apart.note noted⟩
  platform_eq := by
    rintro one other ⟨_, apart⟩
    exact apart.platform_eq.symm
  withBound := by
    rintro one other model ⟨client_eq, apart⟩
    exact ⟨congrArg (fun client : Client => { client with bound := some model }) client_eq, apart⟩
  bound_eq := by
    rintro one other ⟨client_eq, _⟩
    rw [client_eq]

theorem policy_eq_of_apart
    {one other : Situation}
    (apart : one.Apart folder base other) :
    one.client.config.policy = other.client.config.policy := by
  rw [apart.client_eq]

/-- A path that leads through none of the journal's places leads to the same. -/
theorem findsAlike_apart
    {path : Path}
    (avoids : base.Avoids path (Journal.Owns folder base)) :
    FindsAlike (Apart folder base) path := by
  intro one other apart
  rw [apart.world.isBeside.files.find_eq avoids, apart.world.otherIsBeside.files.find_eq avoids]

end Situation

/-! ## Openings -/

/-- A client that makes its model is opened alike in worlds that are apart by the journal. -/
theorem Client.openedByCreating_apart
    {one other : World}
    (apart : one.Apart folder base other)
    (config : Config)
    (proposal : ModelProposal) :
    ∃ result oneAfter otherAfter,
      openedByCreating config proposal one = (result, oneAfter) ∧
        openedByCreating config proposal other = (result, otherAfter) ∧
        oneAfter.Apart folder base otherAfter := by
  unfold openedByCreating
  cases opened config none with
  | error failure => exact ⟨_, one, other, rfl, rfl, apart⟩
  | ok client =>
      have beside : Situation.Apart folder base ⟨client, one⟩ ⟨client, other⟩ := ⟨rfl, apart⟩
      obtain ⟨result, _, _, ran, otherRan, stillApart⟩ :=
        (announceModel_agree (Situation.spoken_apart folder base).toCarried proposal).runs beside
      dsimp only
      rw [ran, otherRan]
      cases result <;> exact ⟨_, _, _, rfl, rfl, stillApart.world⟩

/-- Clients are opened alike in worlds that are apart by the journal. -/
theorem Opening.client_apart
    {one other : World}
    (apart : one.Apart folder base other)
    (opening : Opening)
    (config : Config) :
    ∃ result oneAfter otherAfter,
      opening.client config one = (result, oneAfter) ∧
        opening.client config other = (result, otherAfter) ∧
        oneAfter.Apart folder base otherAfter := by
  cases opening with
  | unbound => exact ⟨_, one, other, rfl, rfl, apart⟩
  | bound model => exact ⟨_, one, other, rfl, rfl, apart⟩
  | creating proposal => exact Client.openedByCreating_apart apart config proposal

/-! ## Turns -/

/-- The turn is about the journal alone. -/
def Turn.isAboutJournal (turn : Turn) : Bool :=
  match turn.step with
  | .switchJournal _ | .readJournal => true
  | _ => false

/-- The paths that the turn is given. -/
def Turn.paths (turn : Turn) : List Path :=
  match turn.step with
  | .action action => action.paths
  | _ => []

namespace Session

/-- The sessions have the same configuration and the same client, on the same platform and in
worlds that differ besides at the journal's places and in the journal itself. -/
structure Apart
    (folder : Path)
    (base : Tree)
    (one other : Session) : Prop where
  config_eq : other.config = one.config
  client_eq : other.client = one.client
  platform_eq : other.world.platform = one.world.platform
  isBeside : one.world.IsBeside folder base
  otherIsBeside : other.world.IsBeside folder base

/-- What a turn gives, holds and leaves the client bound to, and what it says besides events of
the journal. -/
structure Answer where
  result : StepResult
  exchanges : List Http.Exchange
  bound : Option ModelId
  said : List Diagnostic

/-- What a session answers to turns, apart from turns that are about the journal. -/
def answers (session : Session) : List Turn → List Answer
  | [] => []
  | turn :: turns =>
    let further := answers (session.take turn).2 turns
    if turn.isAboutJournal then further
    else
      let seen := session.observe turn
      ⟨seen.result, seen.exchanges, seen.bound, Diagnostic.others seen.said⟩ :: further

variable {one other session : Session} {turn : Turn} {turns : List Turn}

/-- Sessions that are apart by the journal face the same network in worlds that are. -/
theorem Apart.facing
    (apart : one.Apart folder base other)
    (network : Http.Network) :
    (one.facing network).world.Apart folder base (other.facing network).world where
  platform_eq := apart.platform_eq
  network_eq := rfl
  exchanges_eq := rfl
  said_eq := rfl
  isBeside := ⟨apart.isBeside.folder_eq, apart.isBeside.files⟩
  otherIsBeside := ⟨apart.otherIsBeside.folder_eq, apart.otherIsBeside.files⟩

/-- Sessions with the same configuration and the same client are apart by the journal when their
worlds are. -/
theorem Apart.of_worlds
    (config_eq : other.config = one.config)
    (client_eq : other.client = one.client)
    (worlds : one.world.Apart folder base other.world) :
    one.Apart folder base other :=
  ⟨config_eq, client_eq, worlds.platform_eq, worlds.isBeside, worlds.otherIsBeside⟩

/-- A turn that is not about the journal is the same in sessions that are apart by it. -/
theorem take_apart
    (apart : one.Apart folder base other)
    (isOther : turn.isAboutJournal = false)
    (avoids : ∀ path ∈ turn.paths, base.Avoids path (Journal.Owns folder base)) :
    (one.take turn).1 = (other.take turn).1 ∧
      (other.take turn).2.config = (one.take turn).2.config ∧
      (other.take turn).2.client = (one.take turn).2.client ∧
      (one.take turn).2.world.Apart folder base (other.take turn).2.world := by
  obtain ⟨step, network⟩ := turn
  have worlds := apart.facing network
  have sameConfig : (other.facing network).config = (one.facing network).config := apart.config_eq
  have sameClient : (other.facing network).client = (one.facing network).client := apart.client_eq
  simp only [take]
  generalize one.facing network = first at worlds sameConfig sameClient ⊢
  generalize other.facing network = second at worlds sameConfig sameClient ⊢
  cases step with
  | switchJournal on => cases isOther
  | readJournal => cases isOther
  | opening opening =>
      obtain ⟨result, _, _, ran, otherRan, stillApart⟩ := opening.client_apart worlds first.config
      simp only [step, sameConfig, ran, otherRan]
      cases result with
      | ok client => exact ⟨rfl, rfl, rfl, stillApart⟩
      | error failure => exact ⟨rfl, rfl, sameClient, stillApart⟩
  | showConfig =>
      simp only [step, sameClient]
      cases isOpen : first.client <;> exact ⟨rfl, sameConfig, sameClient, worlds⟩
  | action action =>
      simp only [step, sameClient]
      cases isOpen : first.client with
      | none => exact ⟨rfl, sameConfig, sameClient, worlds⟩
      | some client =>
          have found : ∀ path ∈ action.paths, FindsAlike (Situation.Apart folder base) path :=
            fun path member => Situation.findsAlike_apart (avoids path member)
          have beside : Situation.Apart folder base ⟨client, first.world⟩ ⟨client, second.world⟩ :=
            ⟨rfl, worlds⟩
          obtain ⟨result, _, _, ran, otherRan, stillApart⟩ :=
            (action.operation_agree (Situation.spoken_apart folder base).toShared found
              fun _ _ _ => Situation.policy_eq_of_apart).runs beside
          dsimp only
          rw [ran, otherRan]
          cases result <;>
            exact ⟨rfl, sameConfig, congrArg some stillApart.client_eq, stillApart.world⟩

/-- A turn about the journal changes nothing besides the journal. -/
theorem take_aboutJournal
    (apart : one.Apart folder base other)
    (isAbout : turn.isAboutJournal = true) :
    (one.take turn).2.Apart folder base other := by
  obtain ⟨step, network⟩ := turn
  obtain ⟨config_eq, client_eq, platform_eq, ⟨folder_eq, files⟩, otherIsBeside⟩ := apart
  cases step with
  | switchJournal on =>
      exact ⟨config_eq, client_eq, platform_eq, ⟨folder_eq, files⟩, otherIsBeside⟩
  | readJournal => exact ⟨config_eq, client_eq, platform_eq, ⟨folder_eq, files⟩, otherIsBeside⟩
  | _ => cases isAbout

/-- What a session answers does not change when turns about the journal are left out, nor with
what stands at the journal's places. -/
theorem answers_apart
    (apart : one.Apart folder base other)
    (avoids : ∀ turn ∈ turns, ∀ path ∈ turn.paths,
      base.Avoids path (Journal.Owns folder base)) :
    one.answers turns = other.answers (turns.filter (!·.isAboutJournal)) := by
  induction turns generalizing one other with
  | nil => rfl
  | cons turn turns inductionHypothesis =>
      have further : ∀ later ∈ turns, ∀ path ∈ later.paths,
          base.Avoids path (Journal.Owns folder base) :=
        fun later member => avoids later (List.mem_cons_of_mem _ member)
      cases isAbout : turn.isAboutJournal with
      | true =>
          have same := inductionHypothesis (take_aboutJournal apart isAbout) further
          simpa [answers, isAbout] using same
      | false =>
          obtain ⟨result, config_eq, client_eq, worlds⟩ :=
            take_apart apart isAbout (avoids turn List.mem_cons_self)
          have same := inductionHypothesis (.of_worlds config_eq client_eq worlds) further
          have bound : (other.take turn).2.boundModel? = (one.take turn).2.boundModel? := by
            rw [boundModel?, client_eq, boundModel?]
          simp [answers, isAbout, observe, result, worlds.exchanges_eq, worlds.said_eq, bound,
            same]

/-- A turn changes files only at the journal's places. -/
theorem take_isBeside
    (isBeside : session.world.IsBeside folder base)
    (turn : Turn) :
    (session.take turn).2.world.IsBeside folder base := by
  obtain ⟨rfl, files⟩ := isBeside
  obtain ⟨log, _, _, journal, written⟩ := session.take_chronicle turn
  refine ⟨?_, ?_⟩
  · by_cases switches : ∃ on, turn.step = .switchJournal on
    · obtain ⟨step, network⟩ := turn
      obtain ⟨on, rfl⟩ := switches
      rfl
    · rw [journal (not_exists.mp switches)]
  · rw [written]
    exact Journal.writes_keep files _

/-- Whatever a session does, the files that are seen in it are changed only at the journal's
places. -/
theorem observations_isBeside
    (isBeside : session.world.IsBeside folder base)
    (turns : List Turn) :
    ∀ seen ∈ session.observations turns,
      Tree.SameBut (Journal.Owns folder base) base seen.files := by
  induction turns generalizing session with
  | nil => simp
  | cons turn turns inductionHypothesis =>
      have after := take_isBeside isBeside turn
      intro seen member
      rcases List.mem_cons.mp member with rfl | later
      · exact after.files
      · exact inductionHypothesis after seen later

end Session

/-! ## Command lines -/

/-- Everything leaves the platform and the time as they are. -/
theorem Situation.spoken_fixed
    (platform : Platform)
    (time : String) :
    CommandLine.Spoken fun one other =>
      other = one ∧ one.world.platform = platform ∧ one.world.time = time where
  sendAny method path payload := by
    rintro _ one ⟨rfl, fixed⟩
    refine ⟨rfl, rfl, ?_⟩
    rw [sendAny_apply]
    cases one.world.target (one.client.config.url path) payload with
    | error fault => exact fixed
    | ok url => exact fixed
  note noted := by
    rintro one _ ⟨rfl, fixed⟩
    refine ⟨rfl, rfl, ?_⟩
    rw [note_apply, noting_platform, noting_time]
    exact fixed
  platform_eq := by
    rintro one _ ⟨rfl, _⟩
    rfl
  withBound := by
    rintro one _ model ⟨rfl, fixed⟩
    exact ⟨rfl, fixed⟩
  bound_eq := by
    rintro one _ ⟨rfl, _⟩
    rfl
  say := by
    rintro one _ diagnostics ⟨rfl, fixed⟩
    exact ⟨rfl, fixed⟩

namespace CommandLine

variable {one other : World}

theorem runCommand_fixed
    (config : Config)
    (invocation : Invocation)
    (world : World) :
    (runCommand config invocation world).2.platform = world.platform ∧
      (runCommand config invocation world).2.time = world.time := by
  by_cases creates : ∃ proposal, invocation.command = .createModel proposal
  · obtain ⟨proposal, isCreation⟩ := creates
    obtain ⟨network, exchanges, said, frame⟩ :=
      (Opening.creating proposal).client_frame config world
    simp only [Opening.client] at frame
    simp only [runCommand, isCreation, runCreateModel]
    rcases opened : Client.openedByCreating config proposal world with ⟨failure | client, after⟩
    all_goals
      rw [opened] at frame
      subst frame
      exact ⟨rfl, rfl⟩
  · have opens := not_exists.mp creates
    cases opened : Client.opened (commandConfig config invocation.command) invocation.model with
    | error failure =>
        rw [runCommand_of_unopened opens opened]
        exact ⟨rfl, rfl⟩
    | ok client =>
        rw [runCommand_of_opened opens opened]
        obtain ⟨_, last, _, ⟨_, fixed⟩, left, _⟩ :=
          runOpen_alike (Situation.spoken_fixed world.platform world.time)
            (by rintro one _ ⟨rfl, _⟩; rfl) invocation
            (fun path _ => by rintro one _ ⟨rfl, _⟩; rfl) ⟨client, world⟩ ⟨client, world⟩
            ⟨rfl, rfl, rfl⟩
        rw [left]
        exact fixed

/-- A run leaves the platform and the time as they are. -/
theorem run_fixed
    (words : List String)
    (environment : Environment)
    (world : World) :
    (run words environment world).2.platform = world.platform ∧
      (run words environment world).2.time = world.time := by
  unfold run
  cases Invocation.read words with
  | error halt => exact ⟨rfl, rfl⟩
  | ok invocation =>
      simp only [runInvocation]
      cases Config.ofEnvironment environment with
      | error failure => exact ⟨rfl, rfl⟩
      | ok config => exact runCommand_fixed config invocation _

/-- A command is reported alike in worlds that are apart by the journal, and leaves worlds that
are. -/
theorem runCommand_apart
    (apart : one.Apart folder base other)
    (config : Config)
    {invocation : Invocation}
    (avoids : ∀ path ∈ invocation.paths, base.Avoids path (Journal.Owns folder base)) :
    (runCommand config invocation one).1 = (runCommand config invocation other).1 ∧
      (runCommand config invocation one).2.Apart folder base
        (runCommand config invocation other).2 := by
  by_cases creates : ∃ proposal, invocation.command = .createModel proposal
  · obtain ⟨proposal, isCreation⟩ := creates
    obtain ⟨result, _, _, ran, otherRan, stillApart⟩ :=
      Client.openedByCreating_apart apart config proposal
    simp only [runCommand, isCreation, runCreateModel, ran, otherRan]
    cases result <;> exact ⟨rfl, stillApart⟩
  · have opens := not_exists.mp creates
    cases opened :
        Client.opened (commandConfig config invocation.command) invocation.model with
    | error failure =>
        rw [runCommand_of_unopened opens opened, runCommand_of_unopened opens opened]
        exact ⟨rfl, apart⟩
    | ok client =>
        rw [runCommand_of_opened opens opened, runCommand_of_opened opens opened]
        have found : ∀ path ∈ invocation.paths, FindsAlike (Situation.Apart folder base) path :=
          fun path member => Situation.findsAlike_apart (avoids path member)
        obtain ⟨same, oneLast, otherLast, stillApart, left, leftOther⟩ :=
          runOpen_alike (Situation.spoken_apart folder base)
            (fun _ _ => Situation.policy_eq_of_apart) invocation found ⟨client, one⟩
            ⟨client, other⟩ ⟨rfl, apart⟩
        refine ⟨same, ?_⟩
        rw [left, leftOther]
        exact stillApart.world

/-- An invocation is reported alike whether it keeps a journal or not. -/
theorem runInvocation_apart
    (apart : one.Apart folder base other)
    (environment : Environment)
    {invocation : Invocation}
    (avoids : ∀ path ∈ invocation.paths, base.Avoids path (Journal.Owns folder base))
    (journal : Bool) :
    (runInvocation invocation environment one).1 =
        (runInvocation { invocation with journal } environment other).1 ∧
      (runInvocation invocation environment one).2.Apart folder base
        (runInvocation { invocation with journal } environment other).2 := by
  have switched : ∀ on otherOn : Bool,
      World.Apart folder base { one.hushed with journal := { one.journal with enabled := on } }
        { other.hushed with journal := { other.journal with enabled := otherOn } } :=
    fun _ _ => ⟨apart.platform_eq, apart.network_eq, apart.exchanges_eq, rfl,
      ⟨apart.isBeside.folder_eq, apart.isBeside.files⟩,
      ⟨apart.otherIsBeside.folder_eq, apart.otherIsBeside.files⟩⟩
  unfold runInvocation
  cases Config.ofEnvironment environment with
  | error failure => exact ⟨rfl, switched _ _⟩
  | ok config => exact runCommand_apart (switched _ _) config avoids

/-- What runs of command lines leave is the same, but for what the runs say of the journal: both
ended before anything was run, or with the same report, which each shows after what it said. -/
structure LeavesAlike
    (folder : Path)
    (base : Tree)
    (directive : Option String)
    (one other : Output × World) : Prop where
  worlds : one.2.Apart folder base other.2
  outputs : (∃ halt : Halt, one.1 = halt.output ∧ other.1 = halt.output) ∨
    ∃ report : Report, one.1 = report.output (one.2.complaints directive) ∧
      other.1 = report.output (other.2.complaints directive)

namespace LeavesAlike

variable {directive : Option String} {left otherLeft : Output × World}

theorem exitCode_eq (alike : LeavesAlike folder base directive left otherLeft) :
    left.1.exitCode = otherLeft.1.exitCode := by
  rcases alike.outputs with ⟨halt, output, otherOutput⟩ | ⟨report, output, otherOutput⟩
  · rw [output, otherOutput]
  · rw [output, otherOutput]
    rfl

theorem stdout_eq (alike : LeavesAlike folder base directive left otherLeft) :
    left.1.stdout = otherLeft.1.stdout := by
  rcases alike.outputs with ⟨halt, output, otherOutput⟩ | ⟨report, output, otherOutput⟩
  · rw [output, otherOutput]
  · rw [output, otherOutput]
    rfl

/-- Runs at the same time leave the same to whoever is shown no event of the journal. -/
theorem output_eq
    (alike : LeavesAlike folder base directive left otherLeft)
    (sameTime : left.2.time = otherLeft.2.time)
    (hidden : ∀ event, event.origin = Event.journalOrigin →
      left.2.platform.shows directive event = false) :
    left.1 = otherLeft.1 := by
  rcases alike.outputs with ⟨halt, output, otherOutput⟩ | ⟨report, output, otherOutput⟩
  · rw [output, otherOutput]
  · have otherHidden : ∀ event, event.origin = Event.journalOrigin →
        otherLeft.2.platform.shows directive event = false := by
      rw [alike.worlds.platform_eq]
      exact hidden
    rw [output, otherOutput, World.complaints_eq_others hidden,
      World.complaints_eq_others otherHidden, alike.worlds.said_eq, alike.worlds.platform_eq,
      sameTime]

end LeavesAlike

/-- Command lines that ask for the same, but for the journal, leave the same. -/
theorem run_apart
    (apart : one.Apart folder base other)
    (environment : Environment)
    {words otherWords : List String}
    (same : (Invocation.read words).map (fun asked => { asked with journal := false }) =
      (Invocation.read otherWords).map fun asked => { asked with journal := false })
    (avoids : ∀ asked, Invocation.read words = .ok asked → ∀ path ∈ asked.paths,
      base.Avoids path (Journal.Owns folder base)) :
    LeavesAlike folder base (environment.text? directiveVariable)
      (run words environment one) (run otherWords environment other) := by
  unfold run
  cases read : Invocation.read words with
  | error halt =>
      cases otherRead : Invocation.read otherWords with
      | error otherHalt =>
          rw [read, otherRead] at same
          obtain rfl := Except.error.inj same
          exact ⟨apart, .inl ⟨halt, rfl, rfl⟩⟩
      | ok otherAsked => rw [read, otherRead] at same; cases same
  | ok asked =>
      cases otherRead : Invocation.read otherWords with
      | error otherHalt => rw [read, otherRead] at same; cases same
      | ok otherAsked =>
          rw [read, otherRead] at same
          have likewise : otherAsked = { asked with journal := otherAsked.journal } := by
            have fields := Except.ok.inj same
            obtain ⟨model, journal, command⟩ := asked
            obtain ⟨otherModel, otherJournal, otherCommand⟩ := otherAsked
            simp only [Invocation.mk.injEq, true_and] at fields ⊢
            exact ⟨fields.1.symm, fields.2.symm⟩
          obtain ⟨report, worlds⟩ :=
            runInvocation_apart apart environment (avoids asked read) otherAsked.journal
          rw [← likewise] at report worlds
          exact ⟨worlds, .inr ⟨(runInvocation asked environment one).1, rfl,
            by rw [report]⟩⟩

end CommandLine

/-! ## The law -/

/-- How little a journal that is kept in the folder bears on anything else, where the files are
those of the base except at the journal's places. -/
structure Journal.KeepsToItself
    (folder : Path)
    (base : Tree) : Prop where
  /-- Sessions that differ in the journal and at its places answer the same, whenever they
  switch or read the journal, as long as no path that is given leads through these places:
  neither what their turns give nor what is sent nor the bound model tells of a journal. -/
  sessions : ∀ (one other : Session) (turns otherTurns : List Turn),
    one.Apart folder base other →
    turns.filter (!·.isAboutJournal) = otherTurns.filter (!·.isAboutJournal) →
    (∀ turn ∈ turns, ∀ path ∈ turn.paths, base.Avoids path (Journal.Owns folder base)) →
    one.answers turns = other.answers otherTurns
  /-- Whatever a session does, files are changed only at the journal's places. -/
  files : ∀ (session : Session) (turns : List Turn),
    session.world.IsBeside folder base →
    ∀ seen ∈ session.observations turns,
      Tree.SameBut (Journal.Owns folder base) base seen.files
  /-- Command lines that ask for the same, but for the journal, leave the same exit code and
  the same on the first channel, the same exchanges, and files that differ only at the journal's
  places.  What they leave on the second channel differs by events of the journal only, so that
  it is the same, too, for runs at the same time if no such event is shown. -/
  commandLines : ∀ (words otherWords : List String) (environment : Environment)
      (one other : World),
    one.Apart folder base other →
    (CommandLine.Invocation.read words).map (fun asked => { asked with journal := false }) =
      (CommandLine.Invocation.read otherWords).map
        (fun asked => { asked with journal := false }) →
    (∀ asked, CommandLine.Invocation.read words = .ok asked → ∀ path ∈ asked.paths,
      base.Avoids path (Journal.Owns folder base)) →
    let directive := environment.text? CommandLine.directiveVariable
    let left := CommandLine.run words environment one
    let otherLeft := CommandLine.run otherWords environment other
    CommandLine.LeavesAlike folder base directive left otherLeft ∧
      left.1.exitCode = otherLeft.1.exitCode ∧
      left.1.stdout = otherLeft.1.stdout ∧
      (one.time = other.time →
        (∀ event, event.origin = Event.journalOrigin →
          one.platform.shows directive event = false) →
        left.1 = otherLeft.1)
  /-- The places of a journal in the usual folder are those in that folder, below a working
  folder that stands. -/
  usual : folder = Journal.usualFolder → base.entry? base.working = some .folder →
    ∀ place, Journal.Owns folder base place ↔ base.working ++ [Text.encode "logs"] <+: place

/-- The journal bears on nothing but itself. -/
theorem journal_keepsToItself
    (folder : Path)
    (base : Tree) :
    Journal.KeepsToItself folder base where
  sessions one other turns otherTurns apart same avoids := by
    have otherAvoids : ∀ turn ∈ otherTurns, ∀ path ∈ turn.paths,
        base.Avoids path (Journal.Owns folder base) := by
      intro turn member path given
      cases isAbout : turn.isAboutJournal with
      | true =>
          obtain ⟨step, network⟩ := turn
          cases step with
          | action action => cases isAbout
          | _ => cases given
      | false =>
          have kept : turn ∈ otherTurns.filter (!·.isAboutJournal) :=
            List.mem_filter.mpr ⟨member, by rw [isAbout]; rfl⟩
          rw [← same] at kept
          exact avoids turn (List.mem_filter.mp kept).1 path given
    have itself : other.Apart folder base other :=
      ⟨rfl, rfl, rfl, apart.otherIsBeside, apart.otherIsBeside⟩
    rw [Session.answers_apart apart avoids, same, Session.answers_apart itself otherAvoids]
  files _ turns isBeside := Session.observations_isBeside isBeside turns
  commandLines words otherWords environment one other apart same avoids := by
    have alike := CommandLine.run_apart apart environment same avoids
    refine ⟨alike, alike.exitCode_eq, alike.stdout_eq, fun sameTime hidden => ?_⟩
    obtain ⟨platform, time⟩ := CommandLine.run_fixed words environment one
    obtain ⟨_, otherTime⟩ := CommandLine.run_fixed otherWords environment other
    refine alike.output_eq (by rw [time, otherTime, sameTime]) ?_
    rw [platform]
    exact hidden
  usual isUsual stands place := by
    subst isUsual
    exact Journal.owns_usualFolder_iff stands place

/-- A session with one file and a client that is bound, with a file in the way of the journal
or without. -/
def Session.sampleBeside (obstructed : Bool) : Session :=
  let files := (Tree.empty []).plant (.ofText "a.txt") (.file [])
  ⟨.sample, some ⟨.sample, some "m"⟩,
    { World.sample [] with
      files := if obstructed then files.put [Text.encode "logs"] (.file []) else files }⟩

/-- A session that writes a record answers the same as one in which a file is in the way of the
journal. -/
theorem journal_keepsToItself_sample :
    let asks : Turn := ⟨.action (.upload (.ofText "a.txt")),
      .reachable [.reply ⟨⟨404, by decide, by decide⟩, [], true⟩]⟩
    let turns : List Turn := [⟨.switchJournal true, .unreachable⟩, asks]
    (Session.sampleBeside false).answers turns = (Session.sampleBeside true).answers turns ∧
      [false, true].map (fun obstructed =>
        ((Session.sampleBeside obstructed).after turns).world.journal.read?
          ((Session.sampleBeside obstructed).after turns).world.files) =
        [some " [ERROR] client.upload - a.txt -> 404 Not Found\n", none] := by
  intro asks turns
  let base := (Session.sampleBeside false).world.files
  have owned : Journal.Owns Journal.usualFolder base [Text.encode "logs"] := by decide +kernel
  have apart : (Session.sampleBeside false).Apart Journal.usualFolder base
      (Session.sampleBeside true) :=
    ⟨rfl, rfl, rfl, ⟨rfl, .refl _ _⟩, ⟨rfl, .put owned base (.file [])⟩⟩
  have avoids : ∀ turn ∈ turns, ∀ path ∈ turn.paths,
      base.Avoids path (Journal.Owns Journal.usualFolder base) := by
    decide +kernel
  exact ⟨(journal_keepsToItself Journal.usualFolder base).sessions _ _ turns turns apart rfl avoids,
    by decide +kernel⟩

end KnowledgeClient
