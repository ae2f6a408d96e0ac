import Imx6Gateway.Pc.JsonUtils
import Imx6Gateway.Pc.Topics

namespace Imx6Gateway
namespace Pc

open Library

/-!
# Commands from the user interface

The command branch of `IpcMessageHandler::handle`: a request of the user
interface is refused, or written anew and published for the board.  The
`cmd_id` is cut out of the request's text before the branch begins, so it is
an argument of its own.  Log entries of the database are left out; the two
questions the branch asks the database are part of its context.
-/

structure CommandContext where
  databaseOpen : Bool
  portConnected : Bool
  nowMs : Int
deriving DecidableEq, Repr

/-- What Pc_data remembers until the board has answered. -/
structure PendingCommandTarget where
  commandId : String
  uiSeq : Int
  boardSeq : Int
  commandType : String
  gatewayId : String
  portId : String
  deviceId : Int
  requestTimeMs : Int
deriving DecidableEq, Repr

/-- The end of the branch.  `aborted` is an uncaught exception or a failed
assertion of rapidjson. -/
inductive Forward where
  | refused (reason message : String)
  | publish (topic : String) (payload : Json) (pending : PendingCommandTarget)
  | aborted

def isRemoteCommandAllowed (commandType : String) : Bool :=
  ["add_device", "remove_device", "set_relay", "set_device_threshold", "set_threshold",
    "get_config", "request_config_snapshot", "discover"].contains commandType

def commandNameFrom (root : Json) : String :=
  getJsonStringAny root ["cmdType", "cmd", "commandType", "command"]

def payloadObjectOrRoot (root : Json) : Json :=
  (memberObject root "payload").getD root

def sequenceFrom (root : Json) : Int :=
  getJsonInt64Any root ["seq", "sequence"] 0

/-- The low 31 bits, never zero. -/
def linuxDataSeqFrom (seq : Int) : Int :=
  if 0 < seq % 2 ^ 31 then seq % 2 ^ 31 else 1

def deviceIdFrom (root : Json) : Int :=
  getJsonIntAny root ["deviceId", "slave_id", "slaveAddress", "device_id", "slave_addr"] 0

/-- `std::stoi` throws on a value that is no `int`. -/
def slotFromPortId (portId : String) (fallback : Int) : Option Int :=
  if 0 ≤ fallback then some fallback
  else
    let digits := portId.toList.filter Char.isDigit
    if digits = [] then some 0
    else
      let value := Nat.ofDigitChars 10 digits 0
      if value < 2 ^ 31 then some (if 0 < value then (value : Int) - 1 else 0) else none

def requestSlot (requestPayload root : Json) : Int :=
  getJsonInt requestPayload "slot" (getJsonInt root "slot" (getJsonInt root "master_slot" (-1)))

def requestGatewayId (root : Json) : String :=
  let named := getJsonString ((memberObject root "target").getD .null) "gatewayId"
  if named ≠ "" then named
  else if getJsonString root "gatewayId" ≠ "" then getJsonString root "gatewayId"
  else getJsonString root "gateway_id"

def requestPortId (root : Json) : String :=
  let named := getJsonString ((memberObject root "target").getD .null) "portId"
  if named ≠ "" then named else getJsonString root "portId"

/-- The checks of an open database before a message to a port. -/
def portRefusal (context : CommandContext) : Option Forward :=
  if context.databaseOpen && !context.portConnected then
    some (.refused "port_not_connected" "gateway port is not connected")
  else none

theorem isInt_requestSlot (requestPayload root : Json) :
    IsInt (requestSlot requestPayload root) :=
  isInt_getJsonInt _ _ (isInt_getJsonInt _ _ (isInt_getJsonInt _ _ (by unfold IsInt; decide)))

theorem isInt_deviceIdFrom (root : Json) : IsInt (deviceIdFrom root) :=
  isInt_getJsonIntAny _ _ (by unfold IsInt; decide)

theorem isInt_linuxDataSeqFrom (seq : Int) : IsInt (linuxDataSeqFrom seq) := by
  unfold linuxDataSeqFrom IsInt
  split <;> omega

theorem wire_isInt {value : Int} (depth : Nat) (isInt : IsInt value) :
    (Json.int value).Wire depth := by
  unfold IsInt at isInt
  rw [Json.wire_int]
  omega

/-- One entry of `states` as it is streamed. -/
def relayStateFlag : Json -> Option Bool
  | .bool value => some value
  | .int value => if -2 ^ 31 ≤ value ∧ value < 2 ^ 31 then some (value ≠ 0) else none
  | _ => none

/-- The command `set_relay` as it is written for the board. -/
def setRelayJson (nowMs : Int) (cmdId gatewayId portId : String) (boardSeq slot slaveId : Int)
    (flags : List Bool) (states : List Json) : Json :=
  .obj [("type", .str "command"), ("cmd", .str "set_relay"), ("cmd_id", .str cmdId),
    ("seq", .int boardSeq), ("cmdType", .str "set_relay"), ("gatewayId", .str gatewayId),
    ("portId", .str portId), ("deviceId", .int slaveId), ("timestampMs", .int nowMs),
    ("slot", .int slot), ("slave_id", .int slaveId), ("device_id", .int slaveId),
    ("states", .arr (flags.map .bool)),
    ("payload", .obj [("slot", .int slot), ("slave_id", .int slaveId), ("deviceId", .int slaveId),
      ("states", .arr states)])]

theorem wire_setRelayJson (depth : Nat) (clock : Int64) (cmdId gatewayId portId : String)
    {boardSeq slot slaveId : Int} (flags : List Bool) {states : List Json}
    (seqFits : IsInt boardSeq) (slotFits : IsInt slot) (idFits : IsInt slaveId)
    (scalars : forall state, state ∈ states -> state.Wire depth) :
    (setRelayJson clock.toInt cmdId gatewayId portId boardSeq slot slaveId flags states).Wire
      (depth + 3) := by
  have earliest := clock.le_toInt
  have latest := clock.toInt_lt
  unfold IsInt at seqFits slotFits idFits
  simp [setRelayJson, Json.wire_obj_succ, Json.wire_arr_succ]
  refine ⟨by omega, by omega, by omega, by omega, by omega, ?_, by omega, by omega, scalars⟩
  rintro item (⟨-, rfl⟩ | ⟨-, rfl⟩) <;> exact Json.wire_bool _ _

def forwardSetRelay (context : CommandContext) (root : Json) (cmdId gatewayId portId : String) :
    Forward :=
  let uiSeq := sequenceFrom root
  let boardSeq := linuxDataSeqFrom uiSeq
  let requestPayload := payloadObjectOrRoot root
  let slot := requestSlot requestPayload root
  let slaveId := deviceIdFrom requestPayload
  match memberArray requestPayload "states" with
  | none | some [] => .refused "invalid_request" "invalid relay command"
  | some states =>
      if uiSeq ≤ 0 ∨ gatewayId = "" ∨ portId = "" ∨ slot < 0 ∨ slaveId ≤ 0 then
        .refused "invalid_request" "invalid relay command"
      else (portRefusal context).getD
        (match states.mapM relayStateFlag with
        | none => .aborted
        | some flags => .publish (makePortCommandTopic gatewayId portId)
            (setRelayJson context.nowMs cmdId gatewayId portId boardSeq slot slaveId flags states)
            ⟨cmdId, uiSeq, boardSeq, "set_relay", gatewayId, portId, slaveId, context.nowMs⟩)

theorem getD_portRefusal {context : CommandContext} {rest : Forward} {topic : String}
    {payload : Json} {pending : PendingCommandTarget}
    (published : (portRefusal context).getD rest = .publish topic payload pending) :
    rest = .publish topic payload pending := by
  unfold portRefusal at published
  split at published
  · cases published
  · exact published

/-- What a published `set_relay` has been made of. -/
theorem forwardSetRelay_publish {context : CommandContext} {root payload : Json}
    {cmdId gatewayId portId topic : String} {pending : PendingCommandTarget}
    (published : forwardSetRelay context root cmdId gatewayId portId =
      .publish topic payload pending) :
    topic = makePortCommandTopic gatewayId portId ∧
      exists states flags, memberArray (payloadObjectOrRoot root) "states" = some states ∧
        states ≠ [] ∧ states.mapM relayStateFlag = some flags ∧
        payload = setRelayJson context.nowMs cmdId gatewayId portId
          (linuxDataSeqFrom (sequenceFrom root)) (requestSlot (payloadObjectOrRoot root) root)
          (deviceIdFrom (payloadObjectOrRoot root)) flags states := by
  simp only [forwardSetRelay] at published
  split at published
  · cases published
  · cases published
  · rename_i states nonempty member
    split at published
    · cases published
    · have rest := getD_portRefusal published
      split at rest
      · cases rest
      · rename_i flags found
        injection rest with sameTopic samePayload
        exact ⟨sameTopic.symm, states, flags, member, fun empty => nonempty empty, found,
          samePayload.symm⟩

/-- The first of the three spellings that is an object. -/
def thresholdMember (object : Json) : Option (String × Json) :=
  ["thresholds", "threshold_config", "thresholdConfig"].findSome? fun key =>
    (memberObject object key).map fun value => (key, value)

def thresholdEnabled (object : Json) : Bool :=
  getJsonBoolAny object ["threshold_enabled", "thresholdEnabled"] true

def thresholdDeviceId (root : Json) : Int :=
  let named := deviceIdFrom (payloadObjectOrRoot root)
  if named ≤ 0 then ((memberObject root "device").map deviceIdFrom).getD named else named

def forwardThreshold (context : CommandContext) (root : Json)
    (cmdId gatewayId portId commandType : String) : Forward :=
  let uiSeq := sequenceFrom root
  let boardSeq := linuxDataSeqFrom uiSeq
  let requestPayload := payloadObjectOrRoot root
  let slaveId := thresholdDeviceId root
  match slotFromPortId portId (requestSlot requestPayload root) with
  | none => .aborted
  | some slot =>
      match thresholdMember requestPayload with
      | none =>
          .refused "invalid_request" "slot, slave_id and thresholds are required"
      | some thresholds =>
          if uiSeq ≤ 0 ∨ slot < 0 ∨ slaveId ≤ 0 then
            .refused "invalid_request" "slot, slave_id and thresholds are required"
          else (portRefusal context).getD
            (.publish (makePortCommandTopic gatewayId portId)
              (.obj [("type", .str "command"), ("cmd", .str "set_device_threshold"),
                ("cmd_id", .str cmdId), ("seq", .int boardSeq),
                ("cmdType", .str "set_device_threshold"), ("gatewayId", .str gatewayId),
                ("portId", .str portId), ("deviceId", .int slaveId),
                ("timestampMs", .int context.nowMs), ("slot", .int slot),
                ("slave_id", .int slaveId),
                ("threshold_enabled", .bool (thresholdEnabled requestPayload)), thresholds,
                ("payload", .obj [("slot", .int slot), ("slave_id", .int slaveId),
                  ("deviceId", .int slaveId),
                  ("threshold_enabled", .bool (thresholdEnabled requestPayload)), thresholds])])
              ⟨cmdId, uiSeq, boardSeq, commandType, gatewayId, portId, slaveId, context.nowMs⟩)

/-- The members `add_device` writes besides those of `remove_device`. -/
def addDeviceMembers (root : Json) (deviceId : Int) (deviceType : String) (pollIntervalMs : Int) :
    List (String × Json) :=
  let options := ((memberObject root "device").bind fun device =>
    memberObject device "device_options").map fun value => ("device_options", value)
  [("device_type", .str deviceType), ("poll_interval_ms", .int pollIntervalMs),
    ("device", .obj ([("slave_id", .int deviceId), ("deviceId", .int deviceId),
      ("slaveAddress", .int deviceId), ("device_type", .str deviceType),
      ("deviceType", .str deviceType), ("poll_interval_ms", .int pollIntervalMs),
      ("pollIntervalMs", .int pollIntervalMs)] ++ options.toList))] ++
    match thresholdMember root with
    | some thresholds => [("threshold_enabled", .bool (thresholdEnabled root)), thresholds]
    | none => []

def deviceCommandId (root : Json) : Int :=
  let named := ((memberObject root "device").map deviceIdFrom).getD 0
  if named ≤ 0 then deviceIdFrom (payloadObjectOrRoot root) else named

def deviceCommandType (root : Json) : String :=
  let named := getJsonStringAny ((memberObject root "device").getD .null)
    ["deviceType", "device_type"]
  let typed := if named = "" then
      getJsonStringAny (payloadObjectOrRoot root) ["deviceType", "device_type"]
    else named
  if typed = "" then "sensor_th" else typed

def forwardDevice (context : CommandContext) (root : Json)
    (cmdId gatewayId portId commandType : String) : Forward :=
  let uiSeq := sequenceFrom root
  let boardSeq := linuxDataSeqFrom uiSeq
  let deviceId := deviceCommandId root
  if uiSeq ≤ 0 ∨ deviceId ≤ 0 then
    .refused "invalid_request" "deviceId or slave_id is required"
  else
    let deviceType := deviceCommandType root
    let pollIntervalMs := getJsonIntAny ((memberObject root "device").getD .null)
      ["pollIntervalMs", "poll_interval_ms"] 1000
    (portRefusal context).getD
      (match slotFromPortId portId (getJsonInt root "slot" (getJsonInt root "master_slot" (-1))) with
      | none => .aborted
      | some slot => .publish (makePortCommandTopic gatewayId portId)
          (.obj ([("type", .str "command"), ("cmd", .str commandType), ("cmd_id", .str cmdId),
            ("seq", .int boardSeq), ("cmdType", .str commandType), ("gatewayId", .str gatewayId),
            ("portId", .str portId), ("deviceId", .int deviceId),
            ("timestampMs", .int context.nowMs), ("slot", .int slot),
            ("slave_id", .int deviceId)] ++
            (if commandType = "add_device" then
              addDeviceMembers root deviceId deviceType pollIntervalMs else []) ++
            [("payload", .obj ([("slot", .int slot), ("slave_id", .int deviceId),
              ("deviceId", .int deviceId)] ++
              (if commandType = "add_device" then
                [("device_type", .str deviceType), ("deviceType", .str deviceType),
                  ("poll_interval_ms", .int pollIntervalMs),
                  ("pollIntervalMs", .int pollIntervalMs)] ++ (thresholdMember root).toList
              else [])))]))
          ⟨cmdId, uiSeq, boardSeq, commandType, gatewayId, portId, deviceId, context.nowMs⟩)

/-- The rest of the branch, in practice the commands to the gateway itself. -/
def forwardGateway (context : CommandContext) (root : Json)
    (cmdId gatewayId portId commandType : String) : Forward :=
  let seq := sequenceFrom root
  let boardSeq := linuxDataSeqFrom seq
  let whole (key : String) : List (String × Json) :=
    ((root.lookup key).map fun value => (key, value)).toList
  if commandTopicFor commandType gatewayId portId = "" then
    .refused "gateway_not_registered" "gateway is not registered"
  else .publish (commandTopicFor commandType gatewayId portId)
    (.obj ([("type", .str "command"), ("cmd", .str commandType), ("cmd_id", .str cmdId),
      ("seq", .int boardSeq), ("cmdType", .str commandType), ("commandType", .str commandType),
      ("gatewayId", .str gatewayId)] ++
      (if portId ≠ "" then [("portId", .str portId)] else []) ++ whole "target" ++
      whole "payload"))
    ⟨cmdId, seq, boardSeq, commandType, gatewayId, portId, 0, context.nowMs⟩

/-- The command branch of `IpcMessageHandler::handle`. -/
def handleCommand (context : CommandContext) (root : Json) (cmdId : String) : Forward :=
  let commandType := commandNameFrom root
  let gatewayId := requestGatewayId root
  let portId := requestPortId root
  if !isRemoteCommandAllowed commandType then
    .refused "unsupported_command" "unsupported command"
  else if cmdId = "" ∨ gatewayId = "" ∨ (!isGatewayCommand commandType ∧ portId = "") then
    .refused "invalid_request" "gatewayId, seq, cmd_id and portId for port commands are required"
  else if commandType = "set_relay" then
    forwardSetRelay context root cmdId gatewayId portId
  else if commandType = "set_device_threshold" ∨ commandType = "set_threshold" then
    forwardThreshold context root cmdId gatewayId portId commandType
  else if commandType = "add_device" ∨ commandType = "remove_device" then
    forwardDevice context root cmdId gatewayId portId commandType
  else forwardGateway context root cmdId gatewayId portId commandType

/-- A request that is forwarded has passed the checks in front of its branch. -/
theorem handleCommand_accepted {context : CommandContext} {root payload : Json}
    {cmdId topic : String} {pending : PendingCommandTarget}
    (published : handleCommand context root cmdId = .publish topic payload pending) :
    (if commandNameFrom root = "set_relay" then
      forwardSetRelay context root cmdId (requestGatewayId root) (requestPortId root)
    else if commandNameFrom root = "set_device_threshold" ∨
        commandNameFrom root = "set_threshold" then
      forwardThreshold context root cmdId (requestGatewayId root) (requestPortId root)
        (commandNameFrom root)
    else if commandNameFrom root = "add_device" ∨ commandNameFrom root = "remove_device" then
      forwardDevice context root cmdId (requestGatewayId root) (requestPortId root)
        (commandNameFrom root)
    else forwardGateway context root cmdId (requestGatewayId root) (requestPortId root)
      (commandNameFrom root)) = .publish topic payload pending := by
  simp only [handleCommand] at published
  split at published
  · cases published
  · split at published
    · cases published
    · exact published

/-- A forwarded command reaches the broker unless the client refuses its topic. -/
def publishCommand (pc : JsonCodec) (context : CommandContext) (root : Json) (cmdId : String) :
    Option Publication :=
  match handleCommand context root cmdId with
  | .publish topic payload _ => mqttPublish topic (pc.print payload)
  | _ => none

end Pc
end Imx6Gateway
