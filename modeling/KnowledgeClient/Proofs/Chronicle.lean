import KnowledgeClient.Proofs.Journaling
import KnowledgeClient.Proofs.Tracing
import KnowledgeClient.Proofs.Turn

/-!
# The journal tells of the exchanges

What an action writes to the journal is told by the exchanges that it held: each exchange
has its records, most have none, and the records of all of them are written in the order
of the exchanges.  The resolution of the model leaves no record, and nothing else that a
session does leaves any.
-/

namespace KnowledgeClient

open Files

/-! ## The records of exchanges -/

/-- The records that an action writes of the reply to one of its calls, where the files are
these. -/
def Action.recordsOf
    (files : Tree)
    (action : Action)
    (call : Call)
    (reply : Http.Reply) : List JournalRecord :=
  match action, call with
  | .upload path, .upload _ => Client.uploadRecords path reply
  | .removeDocument _, .removal _ document => Client.removalRecords document reply
  | .removeAllDocuments, .removal _ document => Client.removalRecords document reply
  | .query content options, .chat _ => Client.chatRecords content options reply
  | .queryFile path options, .chat _ =>
    match files.readText path with
    | .ok content => Client.chatRecords content options reply
    | .error _ => []
  | _, _ => []

/-- The records that are written of a call and the exchange held for it. -/
def Call.told
    (recordsOf : Call → Http.Reply → List JournalRecord)
    (entry : Call × Http.Exchange) : List JournalRecord :=
  match entry.2.answer with
  | .reply reply => recordsOf entry.1 reply
  | .dropped => []

/-- The records that are written at some time of the calls of a log, in their order. -/
def Log.told
    (recordsOf : Call → Http.Reply → List JournalRecord)
    (time : String)
    (log : Log) : List (String × JournalRecord) :=
  (log.flatMap (Call.told recordsOf)).map fun record => (time, record)

theorem Log.told_append
    (recordsOf : Call → Http.Reply → List JournalRecord)
    (time : String)
    (first second : Log) :
    Log.told recordsOf time (first ++ second) =
      Log.told recordsOf time first ++ Log.told recordsOf time second := by
  rw [Log.told, List.flatMap_append, List.map_append]
  rfl

/-! ## Chronicles of operations -/

namespace Situation

/-- The calls lead from the first situation to the second with the exchanges of the log, and
the files are changed by nothing but the records of these exchanges. -/
structure Chronicle
    (recordsOf : Call → Http.Reply → List JournalRecord)
    (before : Situation)
    (calls : List Call)
    (log : Log)
    (after : Situation) : Prop extends before.Makes calls log after where
  journal_eq : after.world.journal = before.world.journal
  time_eq : after.world.time = before.world.time
  files_eq : after.world.files =
    before.world.journal.writes (Log.told recordsOf before.world.time log) before.world.files

namespace Chronicle

variable
  {recordsOf : Call → Http.Reply → List JournalRecord}
  {before middle after : Situation}
  {earlier later calls : List Call}
  {firstLog secondLog log : Log}

theorem refl
    (recordsOf : Call → Http.Reply → List JournalRecord)
    (situation : Situation) :
    situation.Chronicle recordsOf [] [] situation :=
  ⟨.refl situation, rfl, rfl, rfl⟩

theorem append
    (first : before.Chronicle recordsOf earlier firstLog middle)
    (second : middle.Chronicle recordsOf later secondLog after) :
    before.Chronicle recordsOf (earlier ++ later) (firstLog ++ secondLog) after where
  toMakes := first.toMakes.append second.toMakes
  journal_eq := second.journal_eq.trans first.journal_eq
  time_eq := second.time_eq.trans first.time_eq
  files_eq := by
    rw [second.files_eq, first.journal_eq, first.time_eq, first.files_eq, Log.told_append,
      Journal.writes_append]

/-- What is only said afterwards is no part of the chronicle. -/
theorem noting
    (chronicle : before.Chronicle recordsOf calls log after)
    {notes : List Note}
    (unrecorded : notes.filterMap Note.record? = []) :
    before.Chronicle recordsOf calls log (after.noting notes) where
  toMakes := chronicle.toMakes.noting notes
  journal_eq := by rw [noting_journal, chronicle.journal_eq]
  time_eq := by rw [noting_time, chronicle.time_eq]
  files_eq := by rw [noting_files after unrecorded, chronicle.files_eq]

/-- Nor is what is only said before. -/
theorem of_noting
    {notes : List Note}
    (unrecorded : notes.filterMap Note.record? = [])
    (chronicle : (before.noting notes).Chronicle recordsOf calls log after) :
    before.Chronicle recordsOf calls log after where
  toMakes := chronicle.toMakes.of_noting
  journal_eq := by rw [chronicle.journal_eq, noting_journal]
  time_eq := by rw [chronicle.time_eq, noting_time]
  files_eq := by
    rw [chronicle.files_eq, noting_journal, noting_time, noting_files before unrecorded]

end Chronicle

/-- A request that goes out is chronicled by the records that are noted of its answer. -/
theorem chronicle_answering
    {situation : Situation}
    {call : Call}
    {payload : Option Http.Payload}
    {url : Http.Url}
    (recordsOf : Call → Http.Reply → List JournalRecord)
    (goes : situation.world.target (situation.client.config.address call) payload = .ok url)
    (notes : List Note) :
    let request := World.requestTo situation.client.config.accessHeader call.method url payload
    let entry : Call × Http.Exchange := (call, ⟨request, situation.world.network.next⟩)
    notes.filterMap Note.record? = Call.told recordsOf entry →
      situation.Chronicle recordsOf [call] [entry]
        ((situation.answering request).noting notes) := by
  intro request entry recorded
  refine ⟨(makes_answering goes).noting notes, ?_, ?_, ?_⟩
  · rw [noting_journal]
    rfl
  · rw [noting_time]
    rfl
  · rw [noting_writes, recorded, Log.told, List.flatMap_singleton]
    rfl

/-- What makes a call writes the records that are noted of its answer, whatever becomes of the
call. -/
theorem calling_chronicle
    {α : Type}
    (situation : Situation)
    {recordsOf : Call → Http.Reply → List JournalRecord}
    {call : Call}
    {notes : Http.Reply → List Note}
    (recorded : ∀ reply, (notes reply).filterMap Note.record? = recordsOf call reply)
    (payload : Http.Payload)
    (judge : Http.Reply → Except Failure α) :
    ∃ log, situation.Chronicle recordsOf [call] log
      (situation.calling call (some payload) judge notes).2 := by
  unfold calling
  cases goes : situation.world.target (situation.client.config.address call) (some payload) with
  | error fault => exact ⟨[], makes_nothing goes, rfl, rfl, rfl⟩
  | ok url =>
      cases answered : situation.world.network.next with
      | dropped =>
          have chronicle := chronicle_answering recordsOf goes []
          simp only [Call.told, answered] at chronicle
          exact ⟨_, chronicle rfl⟩
      | reply given =>
          have chronicle := chronicle_answering recordsOf goes (notes given)
          simp only [Call.told, answered] at chronicle
          exact ⟨_, chronicle (recorded given)⟩

end Situation

section Resolving

variable {recordsOf : Call → Http.Reply → List JournalRecord}

/-- A resolution writes nothing, if nothing is written of a listing of models. -/
theorem Resolution.chronicle
    {situation after : Situation}
    {outcome : Except Failure ModelId}
    (untold : ∀ reply, recordsOf .models reply = [])
    (resolution : Resolution situation outcome after) :
    ∃ log, situation.Chronicle recordsOf situation.learning log after := by
  have nothing : ∀ exchange, Call.told recordsOf (.models, exchange) = [] := by
    intro exchange
    unfold Call.told
    cases exchange.answer with
    | dropped => rfl
    | reply reply => exact untold reply
  cases resolution with
  | bound model isBound =>
      rw [Situation.learning, isBound]
      exact ⟨[], .refl recordsOf situation⟩
  | refused fault unbound refuses =>
      rw [Situation.learning, unbound]
      exact ⟨[], Situation.makes_nothing refuses, rfl, rfl, rfl⟩
  | failed url failure unbound goes fails =>
      have chronicle := Situation.chronicle_answering recordsOf goes
        situation.world.network.next.listingNotes
      rw [Situation.learning, unbound]
      exact ⟨_, chronicle (by rw [nothing, Http.Answer.filterMap_listingNotes])⟩
  | found url model unbound goes finds =>
      have chronicle := (Situation.chronicle_answering recordsOf goes
        situation.world.network.next.listingNotes
        (by rw [nothing, Http.Answer.filterMap_listingNotes])).noting
          (show (Situation.bindingNotes model).filterMap Note.record? = [] from rfl)
      rw [Situation.learning, unbound]
      exact ⟨_, ⟨chronicle.config_eq, chronicle.reachable, chronicle.exchanges_eq, chronicle.isFor,
        chronicle.sublist, chronicle.complete⟩, chronicle.journal_eq, chronicle.time_eq,
        chronicle.files_eq⟩

namespace Client

variable {α : Type} {situation : Situation} {next : ModelId → Operation α}

/-- What resolves the model and then makes calls writes the records of the calls. -/
theorem resolve_bind_chronicle
    {calls : ModelId → List Call}
    (untold : ∀ reply, recordsOf .models reply = [])
    (chronicles : ∀ model after, resolve situation = (.ok model, after) →
      ∃ log, after.Chronicle recordsOf (calls model) log (next model after).2) :
    ∃ log, situation.Chronicle recordsOf (situation.asking calls) log
      ((resolve >>= next) situation).2 := by
  obtain ⟨log, resolves⟩ := (resolution situation).chronicle untold
  rw [Operation.bind_apply, Situation.asking]
  rcases resolved : resolve situation with ⟨failure | model, after⟩
  · rw [resolved] at resolves
    exact ⟨log, by rw [List.append_nil]; exact resolves⟩
  · rw [resolved] at resolves
    obtain ⟨furtherLog, further⟩ := chronicles model after resolved
    exact ⟨log ++ furtherLog, resolves.append further⟩

/-- What resolves the model and then makes one call writes the records of that call. -/
theorem resolve_bind_calling_chronicle
    {call : ModelId → Call}
    {payload : Http.Payload}
    {judge : ModelId → Situation → Http.Reply → Except Failure α}
    {notes : Http.Reply → List Note}
    (untold : ∀ reply, recordsOf .models reply = [])
    (recorded : ∀ model reply,
      (notes reply).filterMap Note.record? = recordsOf (call model) reply)
    (calls : ∀ model after, next model after =
      after.calling (call model) (some payload) (judge model after) notes) :
    ∃ log, situation.Chronicle recordsOf (situation.asking fun model => [call model]) log
      ((resolve >>= next) situation).2 := by
  apply resolve_bind_chronicle untold
  intro model after _
  rw [calls]
  exact after.calling_chronicle (recorded model) payload _

/-- What asks the chat of the model writes the records of the answer. -/
theorem query_chronicle
    {content : String}
    {options : ChatOptions}
    (untold : ∀ reply, recordsOf .models reply = [])
    (told : ∀ model, recordsOf (.chat model) = chatRecords content options)
    (situation : Situation) :
    ∃ log, situation.Chronicle recordsOf (situation.asking fun model => [.chat model]) log
      (query content options situation).2 := by
  apply resolve_bind_chronicle untold
  intro model after _
  have recorded : ∀ reply,
      (chatNotes after.client.config.policy content options reply).filterMap Note.record? =
        recordsOf (.chat model) reply := by
    intro reply
    rw [filterMap_chatNotes, told]
  rw [askOf_calling]
  obtain ⟨log, chronicle⟩ :=
    (after.noting (askingNotes content options)).calling_chronicle recorded _ _
  exact ⟨log, chronicle.of_noting rfl⟩

/-- A number of resolutions writes nothing. -/
theorem resolutions_chronicle
    (untold : ∀ reply, recordsOf .models reply = [])
    (count : Nat)
    (situation : Situation) :
    ∃ log, situation.Chronicle recordsOf (situation.learnings count) log
      (resolutions count situation).2 := by
  induction count generalizing situation with
  | zero => exact ⟨[], .refl recordsOf situation⟩
  | succ count inductionHypothesis =>
      obtain ⟨firstLog, first⟩ := (resolution situation).chronicle untold
      obtain ⟨furtherLog, further⟩ := inductionHypothesis (resolve situation).2
      exact ⟨firstLog ++ furtherLog, first.append further⟩

/-- Removals one after the other write the records of each. -/
theorem removals_chronicle
    (told : ∀ model document, recordsOf (.removal model document) = removalRecords document)
    (model : ModelId)
    (documents : List String)
    (situation : Situation) :
    ∃ log, situation.Chronicle recordsOf (documents.map (.removal model)) log
      (removals (removeFrom · model) documents situation).2 := by
  induction documents generalizing situation with
  | nil => exact ⟨[], .refl recordsOf situation⟩
  | cons document documents inductionHypothesis =>
      have recorded : ∀ reply, (documentNotes document reply).filterMap Note.record? =
          recordsOf (.removal model document) reply := by
        intro reply
        rw [filterMap_documentNotes, told]
      have chronicle := situation.calling_chronicle recorded .nothing
        ((Call.removal model document).judge situation.client.config.policy fun _ => .ok ())
      rw [← removeFrom_calling] at chronicle
      obtain ⟨firstLog, first⟩ := chronicle
      rw [removals_cons]
      generalize removeFrom document model situation = removal at first ⊢
      obtain ⟨furtherLog, further⟩ := inductionHypothesis removal.2
      exact ⟨firstLog ++ furtherLog, first.append further⟩

theorem removeAllDocuments_chronicle
    (untold : ∀ call, (∀ model document, call ≠ .removal model document) →
      ∀ reply, recordsOf call reply = [])
    (told : ∀ model document, recordsOf (.removal model document) = removalRecords document)
    (situation : Situation) :
    ∃ log, situation.Chronicle recordsOf (Action.removeAllDocuments.trace situation) log
      (removeAllDocuments situation).2 := by
  have nothing : ∀ model reply, ([] : List Note).filterMap Note.record? =
      recordsOf (.documents model) reply :=
    fun model reply => (untold (.documents model) (by simp) reply).symm
  have listing : ∃ log, situation.Chronicle recordsOf
      (situation.asking fun model => [.documents model]) log (listDocuments situation).2 :=
    resolve_bind_calling_chronicle (untold .models (by simp)) nothing documentsOf_calling
  obtain ⟨log, chronicle⟩ := listing
  rcases lists : listDocuments situation with ⟨failure | documents, listed⟩
  · rw [lists] at chronicle
    have unlisted : situation.listedDocuments = [] := by
      rw [Situation.listedDocuments, lists]
    rw [removeAllDocuments_of_unlisted lists, Action.trace, unlisted]
    exact ⟨log, chronicle⟩
  · rw [lists] at chronicle
    obtain ⟨model, isBound, trace⟩ := trace_of_listed lists
    obtain ⟨removalLog, removing⟩ :=
      removals_chronicle told model (documents.map (·.id)) listed
    rw [removeAllDocuments_of_listed lists isBound, trace]
    exact ⟨log ++ removalLog, chronicle.append (removing.noting rfl)⟩

end Client

end Resolving

/-! ## Chronicles of actions -/

namespace Action

variable (files : Tree)

theorem recordsOf_models
    (action : Action)
    (reply : Http.Reply) :
    action.recordsOf files .models reply = [] := by
  cases action <;> rfl

/-- An action whose one call does not need the model writes nothing. -/
theorem independent_chronicle
    {α : Type}
    {action : Action}
    {situation : Situation}
    {call : Call}
    {payload : Http.Payload}
    {judge : Http.Reply → Except Failure α}
    {notes : Http.Reply → List Note}
    {operation : Operation α}
    (recorded : ∀ reply,
      (notes reply).filterMap Note.record? = action.recordsOf files call reply)
    (calls : operation situation = situation.calling call (some payload) judge notes)
    (function : α → Outcome) :
    ∃ log, situation.Chronicle (action.recordsOf files) [call] log
      ((function <$> operation) situation).2 := by
  have chronicle := situation.calling_chronicle recorded payload judge
  rw [← calls] at chronicle
  rw [Operation.map_apply]
  exact chronicle

/-- Only a file that can be opened and read has an upload to tell of. -/
theorem upload_chronicle
    (path : Path)
    (situation : Situation) :
    ∃ log, situation.Chronicle ((Action.upload path).recordsOf files)
      ((Action.upload path).trace situation) log (Client.upload path situation).2 := by
  apply Client.resolve_bind_chronicle (recordsOf_models files _)
  intro model after resolved
  have same := (Client.resolution situation).files_eq
  rw [resolved] at same
  rw [← same]
  cases opens : after.world.files.find path with
  | error reason =>
      rw [Client.uploadInto_of_closed opens]
      exact ⟨[], .refl _ after⟩
  | ok entry =>
      cases entry with
      | file content =>
          rw [Client.uploadInto_calling opens]
          exact after.calling_chronicle (Client.filterMap_uploadNotes path) _ _
      | folder =>
          obtain ⟨fault, _, fails⟩ := Client.uploadInto_of_folder opens model
          rw [fails]
          exact ⟨[], .refl _ after⟩

/-- A chat about a file is told like one about the text in it. -/
theorem queryFile_chronicle
    (path : Path)
    (options : ChatOptions)
    (situation : Situation) :
    ∃ log, situation.Chronicle ((Action.queryFile path options).recordsOf situation.world.files)
      ((Action.queryFile path options).trace situation) log
      (Client.queryFile path options situation).2 := by
  unfold Client.queryFile
  rw [Operation.get_bind_apply]
  simp only [trace]
  cases reads : situation.world.files.readText path with
  | error reason => exact ⟨[], .refl _ situation⟩
  | ok content =>
      refine Client.query_chronicle (recordsOf_models _ _) (fun model => ?_) situation
      funext reply
      simp only [recordsOf, reads]

/-- Every action writes the records of its calls and nothing else. -/
theorem chronicle
    (action : Action)
    (situation : Situation) :
    ∃ log, situation.Chronicle (action.recordsOf situation.world.files)
      (action.trace situation) log (action.operation situation).2 := by
  have models := recordsOf_models situation.world.files action
  cases action with
  | checkAlive =>
      exact independent_chronicle _ (fun _ => rfl) (Client.checkAlive_calling situation) _
  | listModels =>
      exact independent_chronicle _ Http.Reply.filterMap_listingNotes
        (Client.listModels_calling situation) _
  | createModel proposal =>
      exact independent_chronicle _ (fun _ => rfl) (Client.createModel_calling proposal situation) _
  | listLanguageModels =>
      exact independent_chronicle _ (fun _ => rfl) (Client.listLanguageModels_calling situation) _
  | resolve =>
      exact Client.resolve_bind_chronicle models fun model after _ => ⟨[], .refl _ after⟩
  | resolveMany count =>
      rw [resolveMany_operation]
      exact Client.resolutions_chronicle models count situation
  | upload path =>
      rw [operation, Operation.map_apply]
      exact upload_chronicle _ path situation
  | listDocuments =>
      rw [operation, Operation.map_apply]
      exact Client.resolve_bind_calling_chronicle models (fun _ _ => rfl)
        Client.documentsOf_calling
  | removeDocument document =>
      rw [operation, Operation.map_apply]
      exact Client.resolve_bind_calling_chronicle models
        (fun _ => Client.filterMap_documentNotes document) (Client.removeFrom_calling document)
  | removeAllDocuments =>
      rw [operation, Operation.map_apply]
      refine Client.removeAllDocuments_chronicle ?_ (fun _ _ => rfl) situation
      intro call notRemoval reply
      cases call with
      | removal model document => exact absurd rfl (notRemoval model document)
      | _ => rfl
  | query content options =>
      rw [operation, Operation.map_apply]
      exact Client.query_chronicle models (fun _ => rfl) situation
  | queryFile path options =>
      rw [operation, Operation.map_apply]
      exact queryFile_chronicle path options situation

end Action

/-! ## Chronicles of sessions -/

/-- An opening changes the network, the exchanges and what was said at most. -/
theorem Opening.client_frame
    (opening : Opening)
    (config : Config)
    (world : World) :
    ∃ network exchanges said,
      (opening.client config world).2 = { world with network, exchanges, said } := by
  cases opening with
  | unbound => exact ⟨world.network, world.exchanges, world.said, rfl⟩
  | bound model => exact ⟨world.network, world.exchanges, world.said, rfl⟩
  | creating proposal =>
      simp only [client, Client.openedByCreating]
      cases Client.opened config none with
      | error failure => exact ⟨world.network, world.exchanges, world.said, rfl⟩
      | ok opened =>
          obtain ⟨network, exchanges, said, frame⟩ :=
            Session.announceModel_frame proposal ⟨opened, world⟩
          rcases announced : Client.announceModel proposal ⟨opened, world⟩ with
            ⟨failure | model, situation⟩
          all_goals
            rw [announced] at frame
            simp only [announced]
            exact ⟨network, exchanges, said, congrArg Situation.world frame⟩

namespace Session

/-- The records that a turn of the session writes of the reply to one of its calls: only
actions write any. -/
def recordsOf
    (session : Session)
    (turn : Turn)
    (call : Call)
    (reply : Http.Reply) : List JournalRecord :=
  match turn.step with
  | .action action => action.recordsOf session.world.files call reply
  | _ => []

/-- The turn of the session holds the exchanges of the log; those of an action are held for the
calls of its trace. -/
structure Holds
    (session : Session)
    (turn : Turn)
    (log : Log) : Prop where
  exchanges_eq : (session.take turn).2.world.exchanges = log.map (·.2)
  makes : ∀ client action, session.client = some client → turn.step = .action action →
    (session.meeting client turn.network).Makes
      (action.trace (session.meeting client turn.network)) log
      (action.operation (session.meeting client turn.network)).2

/-- The turns of the session, one after the other, hold exchanges whose records are these. -/
inductive Tells : Session → List Turn → List JournalRecord → Prop
  | nil (session : Session) : Tells session [] []
  | cons
      {session : Session}
      {turn : Turn}
      {turns : List Turn}
      {records : List JournalRecord}
      (log : Log)
      (holds : session.Holds turn log)
      (further : Tells (session.take turn).2 turns records) :
      Tells session (turn :: turns)
        (log.flatMap (Call.told (session.recordsOf turn)) ++ records)

variable {session : Session} {turn : Turn}

theorem told_of_noAction
    (noAction : ∀ action, turn.step ≠ .action action)
    (log : Log) :
    Log.told (session.recordsOf turn) session.world.time log = [] := by
  have untold : ∀ entry, Call.told (session.recordsOf turn) entry = [] := by
    rintro ⟨call, request, answer⟩
    cases answer with
    | dropped => rfl
    | reply reply =>
        cases kind : turn.step with
        | action action => exact absurd kind (noAction action)
        | _ => simp [Call.told, recordsOf, kind]
  simp [Log.told, untold]

/-- A turn writes the records of its exchanges, and changes neither the files otherwise nor the
time; the journal stays as it is unless it is switched. -/
theorem take_chronicle
    (session : Session)
    (turn : Turn) :
    ∃ log, session.Holds turn log ∧
      (session.take turn).2.world.time = session.world.time ∧
      ((∀ on, turn.step ≠ .switchJournal on) →
        (session.take turn).2.world.journal = session.world.journal) ∧
      (session.take turn).2.world.files =
        session.world.journal.writes
          (Log.told (session.recordsOf turn) session.world.time log) session.world.files := by
  obtain ⟨step, network⟩ := turn
  cases step with
  | opening opening =>
      obtain ⟨left, exchanges, said, frame⟩ :=
        opening.client_frame session.config (session.facing network).world
      have world : (session.take ⟨.opening opening, network⟩).2.world =
          (opening.client session.config (session.facing network).world).2 := by
        have sameConfig : (session.facing network).config = session.config := rfl
        simp only [take, step, sameConfig]
        rcases opening.client session.config (session.facing network).world with
          ⟨failure | client, world⟩ <;> rfl
      rw [world, frame]
      refine ⟨exchanges.map fun exchange => (.newModel, exchange), ⟨?_, by simp⟩, rfl,
        fun _ => rfl, ?_⟩
      · rw [world, frame]
        simp [Function.comp_def]
      · rw [told_of_noAction (by simp)]
        rfl
  | action action =>
      cases isOpen : session.client with
      | none =>
          have stays : session.take ⟨.action action, network⟩ =
              (.noClient, session.facing network) := by
            simp [take, step, facing, isOpen]
          rw [stays]
          exact ⟨[], ⟨by rw [stays]; rfl, by simp [isOpen]⟩, rfl, fun _ => rfl, rfl⟩
      | some client =>
          obtain ⟨log, chronicle⟩ := action.chronicle (session.meeting client network)
          have exchanges := chronicle.exchanges_eq
          rw [take_action isOpen]
          refine ⟨log, ⟨?_, ?_⟩, chronicle.time_eq, fun _ => chronicle.journal_eq,
            chronicle.files_eq⟩
          · rw [take_action isOpen, exchanges]
            rfl
          · intro other otherAction same sameAction
            obtain rfl := Option.some.inj (isOpen.symm.trans same)
            obtain rfl := Step.action.inj sameAction
            exact chronicle.toMakes
  | showConfig =>
      have stays : (session.take ⟨.showConfig, network⟩).2 = session.facing network := by
        cases isOpen : session.client <;> simp [take, step, facing, isOpen]
      rw [stays]
      exact ⟨[], ⟨by rw [stays]; rfl, by simp⟩, rfl, fun _ => rfl, rfl⟩
  | switchJournal on => exact ⟨[], ⟨rfl, by simp⟩, rfl, fun stays => absurd rfl (stays on), rfl⟩
  | readJournal => exact ⟨[], ⟨rfl, by simp⟩, rfl, fun _ => rfl, rfl⟩

/-- A turn that does not switch the journal off leaves an enabled journal as it is. -/
theorem take_journal
    (enabled : session.world.journal.enabled = true)
    (stays : turn.step ≠ .switchJournal false) :
    (session.take turn).2.world.journal = session.world.journal := by
  obtain ⟨log, _, _, journal, _⟩ := session.take_chronicle turn
  by_cases switched : turn.step = .switchJournal true
  · obtain ⟨step, network⟩ := turn
    subst switched
    change { session.world.journal with enabled := true } = session.world.journal
    rw [← enabled]
  · refine journal fun on isSwitch => ?_
    cases on with
    | true => exact switched isSwitch
    | false => exact stays isSwitch

/-- The journal tells of the exchanges of a session: as long as it is not switched off, turns
append the records of their exchanges to what the journal's file holds, one after the other,
and change no file otherwise. -/
theorem journal_tells
    (session : Session)
    (turns : List Turn)
    (held : Bytes)
    (enabled : session.world.journal.enabled = true)
    (stays : ∀ turn ∈ turns, turn.step ≠ .switchJournal false)
    (holds : session.world.journal.content? session.world.files = some held) :
    ∃ records, session.Tells turns records ∧
      let entries := records.map fun record => (session.world.time, record)
      (session.after turns).world.journal = session.world.journal ∧
      (session.after turns).world.files =
        session.world.journal.writes entries session.world.files ∧
      session.world.journal.content? (session.after turns).world.files =
        some (held ++ Text.encode (Journal.written entries)) ∧
      (records ≠ [] →
        (session.after turns).world.files.read session.world.journal.file =
          .ok (held ++ Text.encode (Journal.written entries))) := by
  have told : ∃ records, session.Tells turns records ∧
      (session.after turns).world.journal = session.world.journal ∧
      (session.after turns).world.files = session.world.journal.writes
        (records.map fun record => (session.world.time, record)) session.world.files := by
    clear holds
    induction turns generalizing session with
    | nil => exact ⟨[], .nil session, rfl, rfl⟩
    | cons turn turns inductionHypothesis =>
        obtain ⟨log, isHeld, time, _, files⟩ := session.take_chronicle turn
        have journal := take_journal enabled (stays turn List.mem_cons_self)
        obtain ⟨records, further, lastJournal, lastFiles⟩ :=
          inductionHypothesis (session.take turn).2 (by rw [journal, enabled])
            fun later member => stays later (List.mem_cons_of_mem _ member)
        refine ⟨_, .cons log isHeld further, lastJournal.trans journal, ?_⟩
        rw [after_cons, lastFiles, journal, time, files, List.map_append, Journal.writes_append]
        rfl
  obtain ⟨records, tells, journal, files⟩ := told
  refine ⟨records, tells, journal, files, ?_, ?_⟩
  · rw [files]
    exact Journal.content?_writes enabled holds _
  · intro nonempty
    rw [files]
    exact Journal.read_writes enabled holds (by simpa using nonempty)

/-- A session whose client is bound and keeps a journal. -/
def sampleKeeping : Session :=
  ⟨.sample, some ⟨.sample, some "m"⟩,
    { World.sample [] with journal := ⟨true, Journal.usualFolder⟩ }⟩

/-- A removal that is refused leaves the one record of its exchange. -/
theorem journal_tells_sample :
    let turns : List Turn :=
      [⟨.action (.removeDocument "d"), .reachable [.reply ⟨⟨404, by decide, by decide⟩, [], true⟩]⟩]
    (∃ records, sampleKeeping.Tells turns records) ∧
      (sampleKeeping.after turns).world.journal.read? (sampleKeeping.after turns).world.files =
        some " [ERROR] client.remove - d -> 404 Not Found\n" := by
  intro turns
  have holds : sampleKeeping.world.journal.content? sampleKeeping.world.files = some [] := by
    decide +kernel
  obtain ⟨records, tells, _⟩ :=
    journal_tells sampleKeeping turns [] rfl (by simp [turns]) holds
  exact ⟨⟨records, tells⟩, by decide +kernel⟩

end Session
end KnowledgeClient
