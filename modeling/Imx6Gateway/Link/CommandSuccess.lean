import Imx6Gateway.Link.CommandDelivery
import Imx6Gateway.Pc.CommandThreads
import Imx6Gateway.Ui.CommandResult

namespace Imx6Gateway
namespace Link

open Library Pc

/-!
# Commands that are reported as successful

The user interface learns that a command has succeeded from Pc_data, and
Pc_data from an answer with the identifier of the command.  Any gateway can
publish an answer.  The file says what keeps the answer of one gateway from
completing the command of another.
-/

/-- The topic is the one on which the gateway, or its port, answers the command. -/
def AnsweredOn (topic : String) (target : PendingCommandTarget) : Prop :=
  exists portId, parsePortUpTopic topic = some (target.gatewayId, portId) ∧
    (isGatewayCommand target.commandType = false -> portId = target.portId)

/-- The command has been published to where its target says. -/
def SentTo (world : CommandWorld) (target : PendingCommandTarget) : Prop :=
  exists requestTimeMs,
    (commandTopicFor target.commandType target.gatewayId target.portId,
      { target with requestTimeMs := requestTimeMs }) ∈ world.published

section Earned

-- which topics an answer to a command may come on
variable (on : String -> PendingCommandTarget -> Prop)

/-- The success of the command has been reported on a topic that fits to where
it has been published. -/
def Earned (world : CommandWorld) (commandId : String) : Prop :=
  exists answer target, answer ∈ world.received ∧ ackCmdId answer.2 = commandId ∧
    isFinalBusinessSuccess answer.2 = true ∧ target.commandId = commandId ∧
    SentTo world target ∧ on answer.1 target

theorem sentTo_mono {world next : CommandWorld} {target : PendingCommandTarget}
    (published : forall entry, entry ∈ world.published -> entry ∈ next.published)
    (sent : SentTo world target) : SentTo next target := by
  rcases sent with ⟨requestTimeMs, listed⟩
  exact ⟨requestTimeMs, published _ listed⟩

theorem earned_mono {world next : CommandWorld} {commandId : String}
    (published : forall entry, entry ∈ world.published -> entry ∈ next.published)
    (received : forall entry, entry ∈ world.received -> entry ∈ next.received)
    (earned : Earned on world commandId) : Earned on next commandId := by
  rcases earned with ⟨answer, target, listed, answers, success, named, sent, fits⟩
  exact ⟨answer, target, received answer listed, answers, success, named,
    sentTo_mono published sent, fits⟩

/-- Whatever Pc_data holds as successful has been earned. -/
structure Accounted (world : CommandWorld) : Prop where
  logged : forall topic target, world.ipc = .logged topic target ->
    topic = commandTopicFor target.commandType target.gatewayId target.portId
  published : forall target, world.ipc = .published target true ∨
    world.ipc = .logUpdated target true -> SentTo world target
  waiting : forall commandId command, world.pendingCommands.get commandId = some command ->
    command.target.commandId = commandId ∧ SentTo world command.target
  matched : forall ack, world.mqtt = .matched ack ∨ world.mqtt = .answered ack ->
    (complete ack.root ack.target).success = true -> Earned on world ack.target.commandId
  written : forall ack status reason message,
    world.mqtt = .logUpdated ack status reason message -> status = "success" ->
      Earned on world ack.target.commandId
  told : forall message, message ∈ world.toUi -> forall commandId,
    Ui.succeeds message = some commandId -> Earned on world commandId

/-- The final answer that completes a waiting command successfully comes from
where the command has been sent. -/
def AnswersItsOwn (pc : JsonCodec) (world : CommandWorld) : CommandEvent -> Prop
  | .ackArrives topic payload =>
      match world.mqtt, readAck pc topic payload with
      | .idle, some (commandId, root) =>
          forall command, world.pendingCommands.get commandId = some command ->
            (complete root command.target).success = true -> on topic command.target
      | _, _ => True
  | _ => True

end Earned

section Steps

variable {on : String -> PendingCommandTarget -> Prop} {world : CommandWorld}

theorem told_sendMessage (accounted : Accounted on world) {message : UiMessage}
    (justified : forall commandId, Ui.succeeds message = some commandId ->
      Earned on world commandId) {other : UiMessage}
    (listed : other ∈ (world.sendMessage message).toUi) {commandId : String}
    (success : Ui.succeeds other = some commandId) : Earned on world commandId := by
  unfold CommandWorld.sendMessage at listed
  dsimp only at listed
  split at listed
  · rcases List.mem_append.mp listed with before | new
    · exact accounted.told other before commandId success
    · rw [List.mem_singleton.mp new] at success
      exact justified commandId success
  · exact accounted.told other listed commandId success

theorem succeeds_failed (commandId commandType stage reason message : String) :
    Ui.succeeds (.commandAck commandId commandType stage false reason message) = none := by
  rw [Ui.succeeds, Bool.and_false]
  rfl

theorem accounted_request (accounted : Accounted on world) (portConnected : Bool) (nowMs : Int)
    (root : Json) (cmdId : String) :
    Accounted on (world.request portConnected nowMs root cmdId) := by
  unfold CommandWorld.request
  split
  case h_2 => exact accounted
  case h_1 =>
    split
    · exact accounted
    · refine ⟨accounted.logged, accounted.published, accounted.waiting, accounted.matched,
        accounted.written, ?_⟩
      intro message listed commandId success
      apply told_sendMessage accounted _ listed success
      intro other impossible
      cases (succeeds_failed _ _ _ _ _).symm.trans impossible
    · rename_i topic _ target forwarded
      rcases handleCommand_describes forwarded with ⟨describes, -, -⟩
      refine ⟨?_, ?_, accounted.waiting, accounted.matched, accounted.written, accounted.told⟩
      · intro other begun same
        cases same
        rw [(handleCommand_topic forwarded).1, describes.commandType, describes.gatewayId,
          describes.portId]
      · rintro begun (same | same) <;> cases same

theorem accounted_continueIpc (accounted : Accounted on world) (publishOk : Bool) (nowMs : Int) :
    Accounted on (world.continueIpc publishOk nowMs) := by
  unfold CommandWorld.continueIpc
  split
  · exact accounted
  · rename_i topic target begun
    have published : forall entry, entry ∈ world.published ->
        entry ∈ if publishOk && isValidPublishTopic topic then
          world.published ++ [(topic, target)] else world.published := by
      intro entry listed
      split
      · exact List.mem_append_left _ listed
      · exact listed
    have kept {commandId : String} (earned : Earned on world commandId) :=
      @earned_mono on world { world with
        ipc := .published target (publishOk && isValidPublishTopic topic)
        published := if publishOk && isValidPublishTopic topic then
          world.published ++ [(topic, target)] else world.published } commandId published
        (fun _ listed => listed) earned
    refine ⟨?_, ?_, ?_, ?_, ?_, ?_⟩
    · intro other begun same
      cases same
    · rintro other (same | same)
      · injection same with sameTarget sent
        subst sameTarget
        refine ⟨target.requestTimeMs, ?_⟩
        dsimp only
        rw [sent, if_pos rfl, ← accounted.logged topic target begun]
        exact List.mem_append_right _ List.mem_cons_self
      · cases same
    · intro commandId command found
      rcases accounted.waiting commandId command found with ⟨named, sent⟩
      exact ⟨named, sentTo_mono published sent⟩
    · exact fun ack thread success => kept (accounted.matched ack thread success)
    · exact fun ack status reason message thread success =>
        kept (accounted.written ack status reason message thread success)
    · exact fun message listed commandId success =>
        kept (accounted.told message listed commandId success)
  · rename_i target ok begun
    refine ⟨?_, ?_, accounted.waiting, accounted.matched, accounted.written, accounted.told⟩
    · intro topic other same
      cases same
    · rintro other (same | same)
      · cases same
      · injection same with sameTarget sent
        subst sameTarget
        rw [sent] at begun
        exact accounted.published target (Or.inl begun)
  · rename_i target ok begun
    refine ⟨?_, ?_, ?_, accounted.matched, accounted.written, accounted.told⟩
    · intro topic other same
      cases same
    · rintro other (same | same) <;> cases same
    · intro commandId command found
      dsimp only at found
      split at found
      · rename_i sent
        rw [sent] at begun
        unfold CommandWorld.rememberPendingCommand at found
        dsimp only at found
        split at found
        · exact accounted.waiting commandId command found
        · rw [Table.get_put] at found
          split at found
          · rename_i same
            cases found
            exact ⟨same.symm, accounted.published target (Or.inr begun)⟩
          · exact accounted.waiting commandId command found
      · exact accounted.waiting commandId command found
  · refine ⟨?_, ?_, accounted.waiting, accounted.matched, accounted.written, ?_⟩
    · intro topic other same
      cases same
    · rintro other (same | same) <;> cases same
    · intro message listed commandId success
      apply told_sendMessage accounted _ listed success
      intro other impossible
      cases (succeeds_failed _ _ _ _ _).symm.trans impossible

theorem success_of_complete {root : Json} {target : PendingCommandTarget}
    (success : (complete root target).success = true) : isFinalBusinessSuccess root = true := by
  cases final : isFinalBusinessSuccess root with
  | true => rfl
  | false => simp [complete, final] at success

theorem accounted_ackArrives (pc : JsonCodec) (accounted : Accounted on world)
    {topic payload : String} (own : AnswersItsOwn on pc world (.ackArrives topic payload)) :
    Accounted on (world.ackArrives pc topic payload) := by
  unfold AnswersItsOwn at own
  dsimp only at own
  unfold CommandWorld.ackArrives
  split
  case h_2 => exact accounted
  case h_1 commandId root idle read =>
    rw [idle, read] at own
    dsimp only at own
    have received : forall entry, entry ∈ world.received ->
        entry ∈ world.received ++ [(topic, root)] :=
      fun entry => List.mem_append_left _
    cases found : world.pendingCommands.get commandId with
    | none =>
        refine ⟨accounted.logged, accounted.published, accounted.waiting, ?_, ?_, ?_⟩
        · intro ack thread success
          exact @earned_mono on world _ _ (fun _ listed => listed) received
            (accounted.matched ack thread success)
        · intro ack status reason message thread success
          exact @earned_mono on world _ _ (fun _ listed => listed) received
            (accounted.written ack status reason message thread success)
        · intro message listed other success
          exact @earned_mono on world _ _ (fun _ listed => listed) received
            (accounted.told message listed other success)
    | some command =>
        rcases accounted.waiting commandId command found with ⟨named, sent⟩
        refine ⟨accounted.logged, accounted.published, ?_, ?_, ?_, ?_⟩
        · intro other waiting remains
          dsimp only at remains
          split at remains
          · rw [Table.get_erase] at remains
            split at remains
            · cases remains
            · exact accounted.waiting other waiting remains
          · exact accounted.waiting other waiting remains
        · rintro ack (same | same) success
          · cases same
            refine ⟨(topic, root), command.target, List.mem_append_right _ List.mem_cons_self, ?_,
              success_of_complete success, rfl, sent, own command found success⟩
            rw [named]
            exact (readAck_cmdId read).symm
          · cases same
        · intro ack status reason message same
          cases same
        · intro message listed other success
          exact @earned_mono on world _ _ (fun _ listed => listed) received
            (accounted.told message listed other success)

theorem success_of_ackLog {ack : MatchedAck} {deleteOk : Bool}
    (written : (ackLog ack deleteOk).1 = "success") :
    (complete ack.root ack.target).success = true := by
  unfold ackLog at written
  dsimp only at written
  split at written
  · change "failed" = "success" at written
    exact absurd written (by decide)
  · dsimp only at written
    split at written
    · assumption
    · split at written
      · exact absurd written (by decide)
      · exact absurd written (by decide)

theorem accounted_continueMqtt (accounted : Accounted on world) (deleteOk : Bool) :
    Accounted on (world.continueMqtt deleteOk) := by
  unfold CommandWorld.continueMqtt
  split
  · exact accounted
  · rename_i ack thread
    refine ⟨accounted.logged, accounted.published, accounted.waiting, ?_, ?_, ?_⟩
    · rintro other (same | same) success
      · cases same
      · cases same
        exact accounted.matched ack (Or.inl thread) success
    · intro other status reason message same
      cases same
    · intro message listed commandId success
      dsimp only at listed
      split at listed
      · apply told_sendMessage accounted _ listed success
        intro named told
        rw [Ui.succeeds] at told
        split at told
        · rename_i both
          cases told
          exact accounted.matched ack (Or.inl thread) ((Bool.and_eq_true _ _).mp both).2
        · cases told
      · exact accounted.told message listed commandId success
  · rename_i ack thread
    refine ⟨accounted.logged, accounted.published, accounted.waiting, ?_, ?_, accounted.told⟩
    · rintro other (same | same) <;> cases same
    · intro other status reason message same success
      cases same
      exact accounted.matched ack (Or.inr thread) (success_of_ackLog success)
  · rename_i ack status reason text thread
    refine ⟨accounted.logged, accounted.published, accounted.waiting, ?_, ?_, ?_⟩
    · rintro other (same | same) <;> cases same
    · intro other stated why message same
      cases same
    · intro message listed commandId success
      apply told_sendMessage accounted _ listed success
      intro named told
      rw [Ui.succeeds] at told
      split at told
      · rename_i ended
        cases told
        exact accounted.written ack status reason text thread ended
      · cases told

theorem accounted_collectDue (accounted : Accounted on world) (nowMs : Int)
    (due : WaitingCommand -> Bool) (note : WaitingCommand -> WaitingCommand)
    (noted : forall command, (note command).target = command.target) (scan : ScanThread) :
    Accounted on { (world.collectDue nowMs due note).1 with scan := scan } := by
  refine ⟨accounted.logged, accounted.published, ?_, accounted.matched, accounted.written,
    accounted.told⟩
  intro commandId command found
  unfold CommandWorld.collectDue at found
  dsimp only at found
  split at found
  · exact accounted.waiting commandId command found
  · rw [Table.get_updateWhere, Option.map_eq_some_iff] at found
    rcases found with ⟨old, present, rfl⟩
    have target : (if due old then note old else old).target = old.target := by
      split
      · exact noted old
      · rfl
    rw [target]
    exact accounted.waiting commandId old present

theorem accounted_startScan (accounted : Accounted on world) (nowMs : Int) :
    Accounted on (world.startScan nowMs) := by
  unfold CommandWorld.startScan
  split
  · exact accounted_collectDue accounted nowMs _
      (fun command => { command with timeoutNotified := true }) (fun _ => rfl) _
  · exact accounted

theorem accounted_report (accounted : Accounted on world) (commandId commandType : String)
    {status : String} (late : status = "waiting" ∨ status = "timeout") (reason message : String)
    (scan : ScanThread) :
    Accounted on { world.sendMessage (.commandLogUpdate commandId commandType status reason message)
      with scan := scan } := by
  refine ⟨accounted.logged, accounted.published, accounted.waiting, accounted.matched,
    accounted.written, ?_⟩
  intro other listed named success
  apply told_sendMessage accounted _ listed success
  intro told impossible
  have unsuccessful : status ≠ "success" := by
    rcases late with rfl | rfl <;> decide
  rw [Ui.succeeds, if_neg unsuccessful] at impossible
  cases impossible

theorem accounted_continueScan (accounted : Accounted on world) (pick : Nat) :
    Accounted on (world.continueScan pick) := by
  unfold CommandWorld.continueScan
  split
  · exact accounted
  · exact accounted_collectDue accounted _ _
      (fun command => { command with hardTimeoutNotified := true }) (fun _ => rfl) _
  · split
    · exact accounted
    · exact accounted_report accounted _ _ (Or.inl rfl) _ _ _
  · exact ⟨accounted.logged, accounted.published, accounted.waiting, accounted.matched,
      accounted.written, accounted.told⟩
  · split
    · exact accounted
    · exact ⟨accounted.logged, accounted.published, accounted.waiting, accounted.matched,
        accounted.written, accounted.told⟩
  · exact accounted_report accounted _ _ (Or.inr rfl) _ _ _

theorem accounted_step (pc : JsonCodec) (accounted : Accounted on world) {event : CommandEvent}
    (own : AnswersItsOwn on pc world event) : Accounted on (world.step pc event) := by
  cases event with
  | request portConnected nowMs root cmdId =>
      exact accounted_request accounted portConnected nowMs root cmdId
  | continueIpc publishOk nowMs => exact accounted_continueIpc accounted publishOk nowMs
  | ackArrives topic payload => exact accounted_ackArrives pc accounted own
  | continueMqtt deleteOk => exact accounted_continueMqtt accounted deleteOk
  | startScan nowMs => exact accounted_startScan accounted nowMs
  | continueScan pick => exact accounted_continueScan accounted pick

/-- What has been published and received stays on record. -/
theorem history_step (pc : JsonCodec) (world : CommandWorld) (event : CommandEvent) :
    world.published ⊆ (world.step pc event).published ∧
      world.received ⊆ (world.step pc event).received := by
  have same : world.published ⊆ world.published ∧ world.received ⊆ world.received :=
    ⟨List.Subset.refl _, List.Subset.refl _⟩
  cases event with
  | request portConnected nowMs root cmdId =>
      unfold CommandWorld.step CommandWorld.request
      dsimp only
      split
      · split <;> exact same
      · exact same
  | continueIpc publishOk nowMs =>
      unfold CommandWorld.step CommandWorld.continueIpc
      dsimp only
      split
      · exact same
      · dsimp only
        split
        · exact ⟨List.subset_append_left _ _, same.2⟩
        · exact same
      · exact same
      · exact same
      · exact same
  | ackArrives topic payload =>
      unfold CommandWorld.step CommandWorld.ackArrives
      dsimp only
      split
      · split <;> exact ⟨same.1, List.subset_append_left _ _⟩
      · exact same
  | continueMqtt deleteOk =>
      unfold CommandWorld.step CommandWorld.continueMqtt
      dsimp only
      split <;> exact same
  | startScan nowMs =>
      unfold CommandWorld.step CommandWorld.startScan
      dsimp only
      split <;> exact same
  | continueScan pick =>
      unfold CommandWorld.step CommandWorld.continueScan
      dsimp only
      split
      · exact same
      · exact same
      · split <;> exact same
      · exact same
      · split <;> exact same
      · exact same

theorem earned_step (pc : JsonCodec) (event : CommandEvent) {commandId : String}
    (earned : Earned on world commandId) : Earned on (world.step pc event) commandId := by
  rcases history_step pc world event with ⟨published, received⟩
  exact earned_mono on (fun _ listed => published listed) (fun _ listed => received listed) earned

end Steps

/-! ## Runs -/

/-- The user interface and Pc_data.  The interface has handled the first
messages that Pc_data has sent to it. -/
structure ResultWorld where
  ui : Ui.CommandManager
  toPc : List (Json × String)
  pcData : CommandWorld
  handled : Nat

/-- A command is sent with any content.  Requests come from the user interface. -/
inductive ResultEvent where
  | send (cmdId : String) (record : Ui.CommandRecord) (root : Json)
  | request (portConnected : Bool) (nowMs : Int)
  | pcData (event : CommandEvent)
  | handleMessage

def ResultWorld.step (pc : JsonCodec) (world : ResultWorld) : ResultEvent -> ResultWorld
  | .send cmdId record root =>
      { world with
        ui := world.ui.insert cmdId record
        toPc := world.toPc ++ [(root, cmdId)] }
  | .request portConnected nowMs =>
      match world.pcData.ipc, world.toPc with
      | .idle, (root, cmdId) :: rest =>
          { world with
            toPc := rest
            pcData := world.pcData.step pc (.request portConnected nowMs root cmdId) }
      | _, _ => world
  | .pcData (.request _ _ _ _) => world
  | .pcData event => { world with pcData := world.pcData.step pc event }
  | .handleMessage =>
      match world.pcData.toUi[world.handled]? with
      | none => world
      | some message =>
          { world with
            ui := world.ui.handleMessage (Ui.messageJson message)
            handled := world.handled + 1 }

def resultSystem (pc : JsonCodec) (hasClient databaseOpen : Bool)
    (commandLog : Table String CommandLogRow) : TransitionSystem ResultWorld ResultEvent where
  initial := ⟨⟨∅, []⟩, [], .start hasClient databaseOpen commandLog, 0⟩
  step := ResultWorld.step pc

section Success

variable {on : String -> PendingCommandTarget -> Prop}

/-- A command that the user interface has finished as successful has been
reported as successful on a topic that fits to where it was sent. -/
def ResultWorld.NoFalseSuccess (on : String -> PendingCommandTarget -> Prop)
    (world : ResultWorld) : Prop :=
  forall commandId, (commandId, Ui.CommandOutcome.succeeded) ∈ world.ui.finished ->
    Earned on world.pcData commandId

def OwnAnswers (on : String -> PendingCommandTarget -> Prop) (pc : JsonCodec)
    (world : ResultWorld) : ResultEvent -> Prop
  | .pcData event => AnswersItsOwn on pc world.pcData event
  | _ => True

theorem accounted_start (hasClient databaseOpen : Bool)
    (commandLog : Table String CommandLogRow) :
    Accounted on (.start hasClient databaseOpen commandLog) := by
  constructor
  · intro topic target same
    cases same
  · rintro target (same | same) <;> cases same
  · intro commandId command found
    cases found
  · rintro ack (same | same) <;> cases same
  · intro ack status reason message same
    cases same
  · intro message listed
    cases listed

/-- A step of Pc_data keeps what both sides hold as successful. -/
theorem success_pcData (pc : JsonCodec) {world : ResultWorld}
    (accounted : Accounted on world.pcData) (justified : world.NoFalseSuccess on)
    (event : CommandEvent) (own : AnswersItsOwn on pc world.pcData event) :
    Accounted on (world.pcData.step pc event) ∧
      forall commandId, (commandId, Ui.CommandOutcome.succeeded) ∈ world.ui.finished ->
        Earned on (world.pcData.step pc event) commandId :=
  ⟨accounted_step pc accounted own,
    fun commandId finished => earned_step pc event (justified commandId finished)⟩

theorem success_step (pc : JsonCodec) {world : ResultWorld} {event : ResultEvent}
    (accounted : Accounted on world.pcData) (justified : world.NoFalseSuccess on)
    (own : OwnAnswers on pc world event) :
    Accounted on (world.step pc event).pcData ∧ (world.step pc event).NoFalseSuccess on := by
  cases event with
  | send cmdId record root => exact ⟨accounted, justified⟩
  | request portConnected nowMs =>
      unfold ResultWorld.step
      dsimp only
      split
      · rename_i root cmdId rest _ _
        exact success_pcData pc accounted justified (.request portConnected nowMs root cmdId) trivial
      · exact ⟨accounted, justified⟩
  | pcData event =>
      have kept := success_pcData pc accounted justified event own
      cases event with
      | request portConnected nowMs root cmdId => exact ⟨accounted, justified⟩
      | _ => exact kept
  | handleMessage =>
      unfold ResultWorld.step
      dsimp only
      cases next : world.pcData.toUi[world.handled]? with
      | none => exact ⟨accounted, justified⟩
      | some message =>
          refine ⟨accounted, ?_⟩
          intro commandId finished
          rcases Ui.CommandManager.succeeded_handleMessage finished with before | ⟨named, success⟩
          · exact justified commandId before
          · have told := Ui.succeeds_of_ackSuccess success
            rw [← named] at told
            exact accounted.told message (List.mem_of_getElem? next) commandId told

theorem success_run (pc : JsonCodec) (hasClient databaseOpen : Bool)
    (commandLog : Table String CommandLogRow) {events : List ResultEvent}
    (own : (resultSystem pc hasClient databaseOpen commandLog).Admissible (OwnAnswers on pc)
      events) :
    ((resultSystem pc hasClient databaseOpen commandLog).run events).NoFalseSuccess on := by
  let invariant (world : ResultWorld) : Prop :=
    Accounted on world.pcData ∧ world.NoFalseSuccess on
  have kept : invariant ((resultSystem pc hasClient databaseOpen commandLog).run events) := by
    apply TransitionSystem.invariant_run _ _ _ own
    · refine ⟨accounted_start hasClient databaseOpen commandLog, ?_⟩
      intro commandId finished
      cases finished
    · intro world event ⟨accounted, justified⟩ condition
      exact success_step pc accounted justified condition
  exact kept.2

end Success

/-- In every run a success has been reported by some port of some gateway. -/
theorem success_was_answered (pc : JsonCodec) (hasClient databaseOpen : Bool)
    (commandLog : Table String CommandLogRow) (events : List ResultEvent) :
    ((resultSystem pc hasClient databaseOpen commandLog).run events).NoFalseSuccess
      fun topic _ => (parsePortUpTopic topic).isSome = true := by
  apply success_run
  apply TransitionSystem.admissibleFrom_of_forall
  intro world event
  cases event with
  | pcData event =>
      unfold OwnAnswers AnswersItsOwn
      dsimp only
      split
      · split
        · rename_i read
          exact fun _ _ _ => readAck_topic read
        · trivial
      · trivial
  | _ => trivial

/-- In a run in which every successful answer that completes a command comes
from where the command was sent, the user interface reports no false success. -/
theorem no_false_success (pc : JsonCodec) (hasClient databaseOpen : Bool)
    (commandLog : Table String CommandLogRow) (events : List ResultEvent)
    (own : (resultSystem pc hasClient databaseOpen commandLog).Admissible
      (OwnAnswers AnsweredOn pc) events) :
    ((resultSystem pc hasClient databaseOpen commandLog).run events).NoFalseSuccess AnsweredOn :=
  success_run pc hasClient databaseOpen commandLog own

section Removal

variable {pc : JsonCodec} {topic payload gatewayId : String}

def removalRecord : Ui.CommandRecord :=
  ⟨"remove_device", "gateway_001", "port_001", "pending", false, ""⟩

/-- A removal that is sent to gateway_001. -/
def removalSending : List ResultEvent :=
  [.send "CMD1" removalRecord removalRequest, .request true 0, .pcData (.continueIpc true 0),
    .pcData (.continueIpc true 0), .pcData (.continueIpc true 0), .pcData (.continueIpc true 0)]

/-- An answer to it, up to the message that the user interface gets. -/
def removalRun (topic payload : String) : List ResultEvent :=
  removalSending ++ [.pcData (.ackArrives topic payload), .pcData (.continueMqtt true),
    .handleMessage, .handleMessage]

def removalSent : ResultWorld where
  ui := ⟨(∅ : Table String Ui.CommandRecord).put "CMD1" removalRecord, []⟩
  toPc := []
  pcData :=
    { CommandWorld.start true true ∅ with
      pendingCommands := (∅ : Table String WaitingCommand).put "CMD1" ⟨removalTarget, false, false⟩
      commandLog := (∅ : Table String CommandLogRow).put "CMD1" ⟨"sent", "", "command sent"⟩
      toUi := [.commandAck "CMD1" "remove_device" "sent" false "" "command published to gateway"]
      submitted := ["CMD1"]
      published := [("cmd/gateway_001/port_001", removalTarget)] }
  handled := 0

theorem run_removalSending :
    (resultSystem pc true true ∅).run removalSending = removalSent := rfl

theorem run_removalRun
    (read : readAck pc topic payload = some ("CMD1", removalAnswer gatewayId)) :
    ((resultSystem pc true true ∅).run (removalRun topic payload)).ui.finished =
        [("CMD1", .succeeded)] ∧
      ((resultSystem pc true true ∅).run (removalRun topic payload)).pcData.received =
        [(topic, removalAnswer gatewayId)] ∧
      ((resultSystem pc true true ∅).run (removalRun topic payload)).pcData.published =
        [("cmd/gateway_001/port_001", removalTarget)] := by
  have arrived : removalSent.pcData.ackArrives pc topic payload =
      { removalSent.pcData with
        received := [(topic, removalAnswer gatewayId)]
        mqtt := .matched ⟨removalTarget, removalAnswer gatewayId⟩
        pendingCommands := AList.erase "CMD1" removalSent.pcData.pendingCommands } :=
    (ackArrives_read read _).trans rfl
  rw [TransitionSystem.run, removalRun, TransitionSystem.runFrom_append, ← TransitionSystem.run,
    run_removalSending]
  simp only [TransitionSystem.runFrom_cons, TransitionSystem.runFrom_nil]
  have step : (resultSystem pc true true ∅).step removalSent (.pcData (.ackArrives topic payload)) =
      { removalSent with pcData := removalSent.pcData.ackArrives pc topic payload } := rfl
  rw [step, arrived]
  exact ⟨rfl, rfl, rfl⟩

theorem removalRun_own
    (read : readAck pc topic payload = some ("CMD1", removalAnswer gatewayId))
    (on : AnsweredOn topic removalTarget) :
    (resultSystem pc true true ∅).Admissible (OwnAnswers AnsweredOn pc)
      (removalRun topic payload) := by
  apply (TransitionSystem.admissibleFrom_append _).mpr
  refine ⟨⟨trivial, trivial, trivial, trivial, trivial, trivial, trivial⟩, ?_, trivial, trivial,
    trivial, trivial⟩
  change AnswersItsOwn AnsweredOn pc ((resultSystem pc true true ∅).run removalSending).pcData
    (.ackArrives topic payload)
  rw [run_removalSending]
  unfold AnswersItsOwn
  dsimp only
  rw [read]
  intro command found _
  cases found
  exact on

theorem not_earned_elsewhere {world : CommandWorld} {elsewhere port : String} {root : Json}
    (published : world.published = [("cmd/gateway_001/port_001", removalTarget)])
    (received : world.received = [(topic, root)])
    (from_ : parsePortUpTopic topic = some (elsewhere, port)) (other : elsewhere ≠ "gateway_001") :
    ¬Earned AnsweredOn world "CMD1" := by
  rintro ⟨answer, target, listed, -, -, -, ⟨requestTimeMs, sent⟩, ⟨portId, on, -⟩⟩
  rw [received, List.mem_singleton] at listed
  rw [published, List.mem_singleton] at sent
  have gateway : target.gatewayId = "gateway_001" :=
    congrArg (fun entry => entry.2.gatewayId) sent
  rw [listed, from_, Option.some.injEq, Prod.mk.injEq] at on
  exact other (on.1.trans gateway)

end Removal

theorem removal_success_earned :
    ((resultSystem (JsonText.codec false) true true ∅).run
        (removalRun (removalAnswerTopic "gateway_001")
          (removalAnswerText "gateway_001"))).ui.finished = [("CMD1", .succeeded)] ∧
      ((resultSystem (JsonText.codec false) true true ∅).run
        (removalRun (removalAnswerTopic "gateway_001")
          (removalAnswerText "gateway_001"))).NoFalseSuccess AnsweredOn := by
  have read := read_removalAnswer (Or.inl rfl)
  refine ⟨(run_removalRun read).1, ?_⟩
  apply no_false_success (JsonText.codec false) true true ∅
  exact removalRun_own read ⟨"port_001", by decide, fun _ => rfl⟩

/-- The answer of gateway_002 ends the command that was sent to gateway_001. -/
theorem removal_success_not_earned :
    ((resultSystem (JsonText.codec false) true true ∅).run
        (removalRun (removalAnswerTopic "gateway_002")
          (removalAnswerText "gateway_002"))).ui.finished = [("CMD1", .succeeded)] ∧
      ¬((resultSystem (JsonText.codec false) true true ∅).run
        (removalRun (removalAnswerTopic "gateway_002")
          (removalAnswerText "gateway_002"))).NoFalseSuccess AnsweredOn := by
  rcases run_removalRun (read_removalAnswer (Or.inr rfl)) with ⟨finished, received, published⟩
  refine ⟨finished, ?_⟩
  intro justified
  have elsewhere : parsePortUpTopic (removalAnswerTopic "gateway_002") =
      some ("gateway_002", "port_001") := by
    decide
  apply not_earned_elsewhere published received elsewhere (by decide)
  apply justified
  rw [finished]
  exact List.mem_cons_self

end Link
end Imx6Gateway
