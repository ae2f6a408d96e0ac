import Imx6Gateway.Library.Table
import Imx6Gateway.Library.Transition
import Imx6Gateway.Library.JsonText
import Imx6Gateway.Pc.CommandAck

namespace Imx6Gateway
namespace Pc

open Library

/-!
# The threads that work on a command

The thread of the user interface publishes a command and then remembers it,
the thread of MQTT handles the answers of the boards, and the main thread looks
for commands that have waited too long.  Each of them updates the log and
tells the user interface, one statement after the other, so a state says how
far every thread has come.  What happens to the device of a command is left
out.
-/

/-- An entry of `m_pendingCommandsByCommandId`. -/
structure WaitingCommand where
  target : PendingCommandTarget
  timeoutNotified : Bool
  hardTimeoutNotified : Bool
deriving DecidableEq

structure CommandLogRow where
  status : String
  reason : String
  message : String
deriving DecidableEq

/-- What the user interface is told about a command. -/
inductive UiMessage where
  | commandAck (commandId commandType stage : String) (ok : Bool) (reason message : String)
  | commandLogUpdate (commandId commandType status reason message : String)
deriving DecidableEq

/-- How far the thread of the user interface has come with a request. -/
inductive IpcThread where
  | idle
  | logged (topic : String) (target : PendingCommandTarget)
  | published (target : PendingCommandTarget) (publishOk : Bool)
  | logUpdated (target : PendingCommandTarget) (publishOk : Bool)
  | remembered (target : PendingCommandTarget) (publishOk : Bool)
deriving DecidableEq

/-- An answer with the command that it belongs to. -/
structure MatchedAck where
  target : PendingCommandTarget
  root : Json

/-- How far the thread of MQTT has come with an answer. -/
inductive MqttThread where
  | idle
  | matched (ack : MatchedAck)
  | answered (ack : MatchedAck)
  | logUpdated (ack : MatchedAck) (status reason message : String)

/-- How far the main thread has come with the commands that it has collected. -/
inductive ScanThread where
  | idle
  | announcing (nowMs : Int) (commands : List WaitingCommand)
  | expiring (commands : List WaitingCommand)
  | reporting (command : WaitingCommand) (commands : List WaitingCommand)
deriving DecidableEq

/-- The state the threads share and how far each has come.  The last four
fields remember what has happened. -/
structure CommandWorld where
  hasClient : Bool
  databaseOpen : Bool
  pendingCommands : Table String WaitingCommand
  commandLog : Table String CommandLogRow
  toUi : List UiMessage
  ipc : IpcThread
  mqtt : MqttThread
  scan : ScanThread
  submitted : List String
  published : List (String × PendingCommandTarget)
  received : List (String × Json)
  settled : List String

def softTimeoutMs : Int := 10000

def hardTimeoutMs : Int := 30000

/-! ## Answers -/

/-- The checks of the branch for answers, up to the look for the command: the
`cmd_id` and the whole answer. -/
def readAck (pc : JsonCodec) (topic payload : String) : Option (String × Json) :=
  if !isAnswer (extractJsonStringValue payload "type") then none
  else
    match parsePortUpTopic topic, pc.parse payload with
    | some (topicGatewayId, topicPortId), some (.obj members) =>
        let root := Json.obj members
        let ackCmdId := getJsonStringAny root ["cmd_id", "cmdId", "commandId"]
        if identityMismatch root topicGatewayId topicPortId ∨ ackCmdId = "" then none
        else some (ackCmdId, root)
    | _, _ => none

def ackCmdId (root : Json) : String :=
  getJsonStringAny root ["cmd_id", "cmdId", "commandId"]

def isFinalAck (root : Json) : Bool :=
  getJsonString root "stage" = "done"

theorem readAck_cmdId {pc : JsonCodec} {topic payload commandId : String} {root : Json}
    (read : readAck pc topic payload = some (commandId, root)) : commandId = ackCmdId root := by
  unfold readAck at read
  split at read
  · cases read
  · split at read
    · dsimp only at read
      split at read
      · cases read
      · cases read
        rfl
    · cases read

theorem readAck_topic {pc : JsonCodec} {topic payload : String} {answer : String × Json}
    (read : readAck pc topic payload = some answer) : (parsePortUpTopic topic).isSome = true := by
  unfold readAck at read
  split at read
  · cases read
  · cases named : parsePortUpTopic topic with
    | none =>
        rw [named] at read
        cases read
    | some names => rfl

/-- `readAck` is what the branch does before it looks for the command. -/
theorem handleAck_eq_readAck (pc : JsonCodec) (commands : List PendingCommandTarget)
    (topic payload : String) :
    handleAck pc commands topic payload =
      match readAck pc topic payload with
      | none => (commands, none)
      | some (commandId, root) =>
          match findPendingCommand commands commandId with
          | none => (commands, none)
          | some target =>
              if isFinalAck root then
                (withoutPendingCommand commands commandId, some (complete root target))
              else (commands, none) := by
  unfold handleAck readAck
  by_cases answer : (!isAnswer (extractJsonStringValue payload "type")) = true
  · rw [if_pos answer, if_pos answer]
  · rw [if_neg answer, if_neg answer]
    cases parsePortUpTopic topic with
    | none => rfl
    | some names =>
        cases pc.parse payload with
        | none => rfl
        | some root =>
            cases root with
            | obj members =>
                dsimp only
                by_cases wrong : identityMismatch (.obj members) names.1 names.2 = true ∨
                    getJsonStringAny (.obj members) ["cmd_id", "cmdId", "commandId"] = ""
                · rw [if_pos wrong, if_pos wrong]
                · rw [if_neg wrong, if_neg wrong]
                  simp only [isFinalAck, decide_eq_true_eq] <;> rfl
            | _ => rfl

/-- The type that the answer names, or that of the command. -/
def ackCommandType (ack : MatchedAck) : String :=
  let named := getJsonStringAny ack.root ["cmd", "commandType", "command"]
  if named = "" then ack.target.commandType else named

def ackReason (ack : MatchedAck) : String :=
  let completion := complete ack.root ack.target
  if !isFinalAck ack.root && completion.reason = "" then "waiting_linux_data_ack"
  else completion.reason

/-- Status, reason and message for the log.  The removal of a device may still
fail in the database. -/
def ackLog (ack : MatchedAck) (deleteOk : Bool) : String × String × String :=
  let completion := complete ack.root ack.target
  if completion.success && ackCommandType ack = "remove_device" &&
      ack.target.commandType = "remove_device" && !deleteOk then
    ("failed", "delete_device_data_failed",
      if completion.message = "" then "gateway removed device, but Pc_data database delete failed"
      else completion.message)
  else
    (if completion.success then "success" else if isFinalAck ack.root then "failed" else "sent",
      ackReason ack, completion.message)

/-! ## The state that the threads share -/

namespace CommandWorld

def start (hasClient databaseOpen : Bool) (commandLog : Table String CommandLogRow) :
    CommandWorld where
  hasClient := hasClient
  databaseOpen := databaseOpen
  pendingCommands := ∅
  commandLog := commandLog
  toUi := []
  ipc := .idle
  mqtt := .idle
  scan := .idle
  submitted := []
  published := []
  received := []
  settled := []

/-- `IpcServer::sendMessage`. -/
def sendMessage (world : CommandWorld) (message : UiMessage) : CommandWorld :=
  { world with toUi := if world.hasClient then world.toUi ++ [message] else world.toUi }

/-- An older row of the same command is replaced. -/
def createCommandLog (world : CommandWorld) (commandId commandType : String) : CommandWorld :=
  { world with
    commandLog :=
      if !world.databaseOpen || commandId = "" || commandType = "" then world.commandLog
      else world.commandLog.put commandId ⟨"pending", "", ""⟩ }

/-- The status that a row has does not matter. -/
def updateCommandLogByCommandId (world : CommandWorld) (commandId status reason message : String) :
    CommandWorld :=
  { world with
    commandLog :=
      if !world.databaseOpen || commandId = "" || status = "" then world.commandLog
      else world.commandLog.updateWhere (fun key _ => key = commandId)
        fun _ => ⟨status, reason, message⟩ }

def rememberPendingCommand (world : CommandWorld) (nowMs : Int) (target : PendingCommandTarget) :
    CommandWorld :=
  { world with
    pendingCommands :=
      if target.commandId = "" ∨ target.commandType = "" then world.pendingCommands
      else world.pendingCommands.put target.commandId
        ⟨{ target with requestTimeMs := nowMs }, false, false⟩ }

/-! ## The thread of the user interface -/

/-- A refused request is answered at once; the two refusals that the database
decides are also logged. -/
def refuse (world : CommandWorld) (commandId commandType reason message : String) : CommandWorld :=
  { world.sendMessage (.commandAck commandId commandType "done" false reason message) with
    commandLog :=
      if reason = "gateway_not_registered" ∨ reason = "port_not_connected" then
        ((world.createCommandLog commandId commandType).updateCommandLogByCommandId commandId
          "failed" reason message).commandLog
      else world.commandLog }

/-- The command branch up to the log entry. -/
def request (world : CommandWorld) (portConnected : Bool) (nowMs : Int) (root : Json)
    (cmdId : String) : CommandWorld :=
  match world.ipc with
  | .idle =>
      match handleCommand ⟨world.databaseOpen, portConnected, nowMs⟩ root cmdId with
      | .aborted => world
      | .refused reason message =>
          { world with submitted := world.submitted ++ [cmdId] }.refuse cmdId (commandNameFrom root)
            reason message
      | .publish topic _ target =>
          let logged := world.createCommandLog target.commandId target.commandType
          { logged with
            submitted := world.submitted ++ [cmdId]
            ipc := .logged topic target }
  | _ => world

/-- The next statement of the branch; `publishOk` and `nowMs` are what MQTT and
the clock say. -/
def continueIpc (world : CommandWorld) (publishOk : Bool) (nowMs : Int) : CommandWorld :=
  match world.ipc with
  | .idle => world
  | .logged topic target =>
      let ok := publishOk && isValidPublishTopic topic
      { world with
        ipc := .published target ok
        published := if ok then world.published ++ [(topic, target)] else world.published }
  | .published target ok =>
      { world.updateCommandLogByCommandId target.commandId (if ok then "sent" else "failed")
          (if ok then "" else "mqtt_publish_failed")
          (if ok then "command sent" else "mqtt publish failed") with
        ipc := .logUpdated target ok }
  | .logUpdated target ok =>
      { world with
        ipc := .remembered target ok
        pendingCommands := if ok then (world.rememberPendingCommand nowMs target).pendingCommands
          else world.pendingCommands }
  | .remembered target ok =>
      { world.sendMessage (.commandAck target.commandId target.commandType
          (if ok then "sent" else "done") false (if ok then "" else "mqtt_publish_failed")
          (if ok then "command published to gateway" else "MQTT publish failed")) with
        ipc := .idle }

/-! ## The thread of MQTT -/

/-- An answer arrives; a final one takes its command out of the map. -/
def ackArrives (pc : JsonCodec) (world : CommandWorld) (topic payload : String) : CommandWorld :=
  match world.mqtt, readAck pc topic payload with
  | .idle, some (commandId, root) =>
      match world.pendingCommands.get commandId with
      | none => { world with received := world.received ++ [(topic, root)] }
      | some waiting =>
          { world with
            received := world.received ++ [(topic, root)]
            mqtt := .matched ⟨waiting.target, root⟩
            pendingCommands := if isFinalAck root then AList.erase commandId world.pendingCommands
              else world.pendingCommands }
  | _, _ => world

/-- The next statement for an answer. -/
def continueMqtt (world : CommandWorld) (deleteOk : Bool) : CommandWorld :=
  match world.mqtt with
  | .idle => world
  | .matched ack =>
      let told := world.sendMessage (.commandAck ack.target.commandId (ackCommandType ack) "done"
        (complete ack.root ack.target).success (ackReason ack)
        (complete ack.root ack.target).message)
      { world with
        mqtt := .answered ack
        toUi := if isFinalAck ack.root then told.toUi else world.toUi }
  | .answered ack =>
      let entry := ackLog ack deleteOk
      let logged := world.updateCommandLogByCommandId ack.target.commandId entry.1 entry.2.1
        entry.2.2
      { logged with
        mqtt := .logUpdated ack entry.1 entry.2.1 entry.2.2
        settled := if isFinalAck ack.root && world.databaseOpen then
          world.settled ++ [ack.target.commandId] else world.settled }
  | .logUpdated ack status reason message =>
      { world.sendMessage (.commandLogUpdate ack.target.commandId (ackCommandType ack) status
          reason message) with
        mqtt := .idle }

/-! ## The main thread -/

/-- The commands that are due are noted and returned. -/
def collectDue (world : CommandWorld) (nowMs : Int) (due : WaitingCommand -> Bool)
    (note : WaitingCommand -> WaitingCommand) : CommandWorld × List WaitingCommand :=
  ({ world with
    pendingCommands :=
      if nowMs ≤ 0 then world.pendingCommands
      else world.pendingCommands.updateWhere (fun _ command => due command) note },
  if nowMs ≤ 0 then [] else (world.pendingCommands.values.filter due).map note)

def collectCommandSoftTimeouts (world : CommandWorld) (nowMs : Int) :
    CommandWorld × List WaitingCommand :=
  world.collectDue nowMs
    (fun command =>
      !command.timeoutNotified && softTimeoutMs ≤ nowMs - command.target.requestTimeMs)
    fun command => { command with timeoutNotified := true }

def collectCommandHardTimeouts (world : CommandWorld) (nowMs : Int) :
    CommandWorld × List WaitingCommand :=
  world.collectDue nowMs
    (fun command =>
      !command.hardTimeoutNotified && hardTimeoutMs ≤ nowMs - command.target.requestTimeMs)
    fun command => { command with hardTimeoutNotified := true }

def startScan (world : CommandWorld) (nowMs : Int) : CommandWorld :=
  match world.scan with
  | .idle =>
      let collected := world.collectCommandSoftTimeouts nowMs
      { collected.1 with scan := .announcing nowMs collected.2 }
  | _ => world

/-- The next statement of the scan.  The collected commands may come in any
order. -/
def continueScan (world : CommandWorld) (pick : Nat) : CommandWorld :=
  match world.scan with
  | .idle => world
  | .announcing nowMs [] =>
      let collected := world.collectCommandHardTimeouts nowMs
      { collected.1 with scan := .expiring collected.2 }
  | .announcing nowMs (first :: rest) =>
      match (first :: rest)[pick]? with
      | none => world
      | some command =>
          { world.sendMessage (.commandLogUpdate command.target.commandId
              command.target.commandType "waiting" "waiting_linux_data_ack"
              "waiting for Linux_data final ack") with
            scan := .announcing nowMs ((first :: rest).eraseIdx pick) }
  | .expiring [] => { world with scan := .idle }
  | .expiring (first :: rest) =>
      match (first :: rest)[pick]? with
      | none => world
      | some command =>
          { world.updateCommandLogByCommandId command.target.commandId "timeout"
              "linux_data_ack_timeout" "device execution timeout, keep waiting final ack" with
            scan := .reporting command ((first :: rest).eraseIdx pick) }
  | .reporting command commands =>
      { world.sendMessage (.commandLogUpdate command.target.commandId command.target.commandType
          "timeout" "linux_data_ack_timeout" "device execution timeout, keep waiting final ack") with
        scan := .expiring commands }

end CommandWorld

/-! ## Requests that are forwarded -/

/-- The command that is remembered, as the request describes it. -/
structure PendingCommandTarget.Describes (target : PendingCommandTarget) (root : Json)
    (cmdId : String) : Prop where
  commandId : target.commandId = cmdId
  commandType : target.commandType = commandNameFrom root
  gatewayId : target.gatewayId = requestGatewayId root
  portId : target.portId = requestPortId root

theorem handleCommand_describes {context : CommandContext} {root payload : Json}
    {cmdId topic : String} {target : PendingCommandTarget}
    (published : handleCommand context root cmdId = .publish topic payload target) :
    target.Describes root cmdId ∧ cmdId ≠ "" ∧ target.commandType ≠ "" := by
  have allowed : isRemoteCommandAllowed (commandNameFrom root) = true := by
    by_contra refused
    unfold handleCommand at published
    rw [if_pos (by simp [refused])] at published
    cases published
  have named : cmdId ≠ "" := by
    intro empty
    unfold handleCommand at published
    rw [if_neg (by simp [allowed]), if_pos (Or.inl empty)] at published
    cases published
  have typed : commandNameFrom root ≠ "" := by
    intro empty
    rw [empty] at allowed
    revert allowed
    decide
  have describes : target.Describes root cmdId := by
    have accepted := handleCommand_accepted published
    split_ifs at accepted with relay threshold device
    · unfold forwardSetRelay at accepted
      dsimp only at accepted
      split at accepted
      · cases accepted
      · cases accepted
      · split at accepted
        · cases accepted
        · have rest := getD_portRefusal accepted
          split at rest
          · cases rest
          · cases rest
            exact ⟨rfl, relay.symm, rfl, rfl⟩
    · unfold forwardThreshold at accepted
      dsimp only at accepted
      split at accepted
      · cases accepted
      · split at accepted
        · cases accepted
        · split at accepted
          · cases accepted
          · have rest := getD_portRefusal accepted
            cases rest
            exact ⟨rfl, rfl, rfl, rfl⟩
    · unfold forwardDevice at accepted
      dsimp only at accepted
      split at accepted
      · cases accepted
      · have rest := getD_portRefusal accepted
        split at rest
        · cases rest
        · cases rest
          exact ⟨rfl, rfl, rfl, rfl⟩
    · unfold forwardGateway at accepted
      dsimp only at accepted
      split at accepted
      · cases accepted
      · cases accepted
        exact ⟨rfl, rfl, rfl, rfl⟩
  refine ⟨describes, named, ?_⟩
  rw [describes.commandType]
  exact typed

/-! ## Runs -/

inductive CommandEvent where
  | request (portConnected : Bool) (nowMs : Int) (root : Json) (cmdId : String)
  | continueIpc (publishOk : Bool) (nowMs : Int)
  | ackArrives (topic payload : String)
  | continueMqtt (deleteOk : Bool)
  | startScan (nowMs : Int)
  | continueScan (pick : Nat)

def CommandWorld.step (pc : JsonCodec) (world : CommandWorld) : CommandEvent -> CommandWorld
  | .request portConnected nowMs root cmdId => world.request portConnected nowMs root cmdId
  | .continueIpc publishOk nowMs => world.continueIpc publishOk nowMs
  | .ackArrives topic payload => world.ackArrives pc topic payload
  | .continueMqtt deleteOk => world.continueMqtt deleteOk
  | .startScan nowMs => world.startScan nowMs
  | .continueScan pick => world.continueScan pick

def commandSystem (pc : JsonCodec) (hasClient databaseOpen : Bool)
    (commandLog : Table String CommandLogRow) : TransitionSystem CommandWorld CommandEvent where
  initial := .start hasClient databaseOpen commandLog
  step := CommandWorld.step pc

theorem ackArrives_read {pc : JsonCodec} {topic payload commandId : String} {root : Json}
    (read : readAck pc topic payload = some (commandId, root)) (world : CommandWorld) :
    world.ackArrives pc topic payload =
      match world.mqtt with
      | .idle =>
          match world.pendingCommands.get commandId with
          | none => { world with received := world.received ++ [(topic, root)] }
          | some waiting =>
              { world with
                received := world.received ++ [(topic, root)]
                mqtt := .matched ⟨waiting.target, root⟩
                pendingCommands := if isFinalAck root then
                    AList.erase commandId world.pendingCommands
                  else world.pendingCommands }
      | _ => world := by
  unfold CommandWorld.ackArrives
  rw [read]
  cases world.mqtt <;> rfl

/-! ## A removal and its answer -/

def removalRequest : Json :=
  .obj [("type", .str "command"), ("cmdType", .str "remove_device"), ("cmd_id", .str "CMD1"),
    ("seq", .int 7), ("gatewayId", .str "gateway_001"), ("portId", .str "port_001"),
    ("deviceId", .int 3)]

def removalTarget : PendingCommandTarget :=
  ⟨"CMD1", 7, 7, "remove_device", "gateway_001", "port_001", 3, 0⟩

theorem forward_removal : exists payload,
    handleCommand ⟨true, true, 0⟩ removalRequest "CMD1" =
      .publish "cmd/gateway_001/port_001" payload removalTarget :=
  ⟨_, rfl⟩

/-- The answer of a gateway that has removed the device. -/
def removalAnswer (gatewayId : String) : Json :=
  .obj [("type", .str "ack"), ("cmd_id", .str "CMD1"), ("seq", .int 7),
    ("cmd", .str "remove_device"), ("ok", .bool true), ("status", .str "success"),
    ("stage", .str "done"), ("gatewayId", .str gatewayId), ("portId", .str "port_001")]

def removalAnswerTopic (gatewayId : String) : String :=
  "gateway/" ++ gatewayId ++ "/port_001/up"

def removalAnswerText (gatewayId : String) : String :=
  (JsonText.codec false).print (removalAnswer gatewayId)

theorem read_removalAnswer {gatewayId : String}
    (known : gatewayId = "gateway_001" ∨ gatewayId = "gateway_002") :
    readAck (JsonText.codec false) (removalAnswerTopic gatewayId) (removalAnswerText gatewayId) =
      some ("CMD1", removalAnswer gatewayId) := by
  have parsed : (JsonText.codec false).parse (removalAnswerText gatewayId) =
      some (removalAnswer gatewayId) := by
    apply (JsonText.codec false).parse_print
    rcases known with rfl | rfl <;> decide
  have answer : isAnswer (extractJsonStringValue (removalAnswerText gatewayId) "type") = true := by
    rcases known with rfl | rfl <;> decide +kernel
  have topic : parsePortUpTopic (removalAnswerTopic gatewayId) = some (gatewayId, "port_001") := by
    rcases known with rfl | rfl <;> decide
  unfold readAck
  rw [answer, parsed, topic]
  rcases known with rfl | rfl <;> rfl

end Pc
end Imx6Gateway
