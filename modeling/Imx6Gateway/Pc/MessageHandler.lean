import Imx6Gateway.Pc.CommandAck
import Imx6Gateway.Pc.TelemetryHandler

namespace Imx6Gateway
namespace Pc

open Library

/-!
# Messages of the boards in Pc_data

`MqttMessageHandler::handle`, branch by branch.  A branch changes the database
first and the memory only if the database has been changed, and it publishes
its answer whatever has happened.  What is sent to the user interface and to
the log of commands is left out.
-/

namespace PcData

section Branches

variable (pc : JsonCodec) (nowMs : Int)

/-- Publishes an answer. -/
def answered (state : PcData) (ack : RegisterAck) : PcData × List Publication :=
  (state, (publishRegisterAck pc nowMs ack).toList)

def isValidRegisterTopic (topic : String) : Bool :=
  topic = "gateway/register"

/-- The gateway a message names, also when it cannot be parsed. -/
def fallbackGatewayId (payload : String) : String :=
  match parseObject pc payload with
  | some root => extractGatewayIdCompat root
  | none => extractJsonStringValue payload "gatewayId"

def fallbackPortId (payload : String) : String :=
  match parseObject pc payload with
  | some root => extractPortIdCompat root
  | none => extractJsonStringValue payload "portId"

def fallbackSeq (payload : String) : Int :=
  ((parseObject pc payload).map messageSeq).getD 0

def fallbackConfigVersion (payload : String) : Int :=
  ((parseObject pc payload).map messageConfigVersion).getD 0

/-! ## Gateways and ports -/

/-- The writes of a registration stop at the gateway if it is not stored. -/
def storeGateway (database : Database) (details : GatewayDetails) : Database × Refusal :=
  if !database.isOpen then (database, ⟨"db_error", "database is not open"⟩)
  else
    let registry := database.upsertGatewayRegistry details.registry
    let gateway := if registry.2 then registry.1.upsertGatewayStatus details.gateway
      else (registry.1, false)
    if !gateway.2 then (gateway.1, ⟨"db_error", "gateway_register database save failed"⟩)
    else
      let ports := gateway.1.each Database.upsertGatewayPort details.ports
      (ports.1, if ports.2 then ⟨"", ""⟩
        else ⟨"db_error", "gateway_register port save failed"⟩)

def handleGatewayRegister (state : PcData) (topic payload : String) : PcData × List Publication :=
  if !isValidRegisterTopic topic then (state, [])
  else
    match (parseObject pc payload).bind (parseGatewayRegisterDetails nowMs) with
    | none =>
        let gatewayId := fallbackGatewayId pc payload
        state.answered pc nowMs
          { cmd := "gateway_register"
            seq := fallbackSeq pc payload
            ok := false
            gatewayId := gatewayId
            portId := ""
            configVersion := fallbackConfigVersion pc payload
            reason := if gatewayId = "" then "missing_field" else "parse_error"
            message := if gatewayId = "" then "gateway_register missing gatewayId"
              else "gateway_register parse failed"
            retryable := false }
    | some details =>
        let stored := storeGateway state.database details
        let ok := stored.2.reason = ""
        let service := if ok then
            ((state.service.rememberGatewayRegistry details.registry).rememberGatewayPorts
              details.ports).updateGatewayStatus details.gateway
          else state.service
        { state with database := stored.1, service := service }.answered pc nowMs
          { cmd := "gateway_register"
            seq := fallbackSeq pc payload
            ok := ok
            gatewayId := details.gateway.gatewayId
            portId := ""
            configVersion := fallbackConfigVersion pc payload
            reason := stored.2.reason
            message := stored.2.message
            retryable := true }

def handleGatewayHeartbeat (state : PcData) (messageType topic payload : String) : PcData :=
  let parsed := (parseObject pc payload).bind (if messageType = "gateway_heartbeat" then
    parseGatewayHeartbeat nowMs else parseGatewayStatus nowMs)
  match parsed with
  | none => state
  | some gateway =>
      if !isValidGatewayUpTopic topic gateway.gatewayId then state
      else
        let registry := state.database.updateGatewayRegistryHeartbeat nowMs gateway.gatewayId
          gateway.status
        let status := if registry.2 then
            registry.1.updateGatewayHeartbeat nowMs gateway.gatewayId gateway.status
          else (registry.1, false)
        { state with
          database := status.1
          service := if status.2 then state.service.updateGatewayStatus gateway else state.service }

/-- The row of a port, and why it has not been written. -/
def storePort (database : Database) (port : GatewayPort) (failure : String) : Database × Refusal :=
  if !database.isOpen then (database, ⟨"db_error", "database is not open"⟩)
  else
    let stored := database.upsertGatewayPort port
    (stored.1, if stored.2 then ⟨"", ""⟩ else ⟨"db_error", failure⟩)

/-- The end of the two branches for a port: the memory follows the database. -/
def answerPort (state : PcData) (messageType payload : String) (port : GatewayPort)
    (stored : Database × Refusal) : PcData × List Publication :=
  let ok := stored.2.reason = ""
  let service := if ok then state.service.updateGatewayPort port else state.service
  { state with database := stored.1, service := service }.answered pc nowMs
    { cmd := messageType
      seq := fallbackSeq pc payload
      ok := ok
      gatewayId := port.gatewayId
      portId := port.portId
      configVersion := fallbackConfigVersion pc payload
      reason := stored.2.reason
      message := stored.2.message
      retryable := true }

def handlePortRegister (state : PcData) (topic payload : String) : PcData × List Publication :=
  if !isValidRegisterTopic topic then (state, [])
  else
    match (parseObject pc payload).bind (parsePortRegister nowMs) with
    | none =>
        let gatewayId := fallbackGatewayId pc payload
        let portId := fallbackPortId pc payload
        state.answered pc nowMs
          { cmd := "port_register"
            seq := fallbackSeq pc payload
            ok := false
            gatewayId := gatewayId
            portId := portId
            configVersion := fallbackConfigVersion pc payload
            reason := if gatewayId = "" ∨ portId = "" then "missing_field" else "parse_error"
            message := if gatewayId = "" then "port_register missing gatewayId"
              else if portId = "" then "port_register missing portId"
              else "port_register parse failed"
            retryable := false }
    | some port =>
        state.answerPort pc nowMs "port_register" payload port
          (storePort state.database port "port_register database save failed")

def handlePortStatus (state : PcData) (topic payload : String) : PcData × List Publication :=
  match parsePortUpTopic topic with
  | none => (state, [])
  | some (topicGatewayId, topicPortId) =>
      match parseObject pc payload with
      | none =>
          let gatewayId := extractJsonStringValue payload "gatewayId"
          state.answered pc nowMs
            { cmd := "port_status"
              seq := 0
              ok := false
              gatewayId := gatewayId
              portId := extractJsonStringValue payload "portId"
              configVersion := 0
              reason := if gatewayId = "" then "invalid_payload" else "parse_error"
              message := "port_status parse failed"
              retryable := false }
      | some root =>
          let details := parsePortStatusDetails nowMs root
          let port := details.1
          let stored := match details.2 with
            | some refusal => (state.database, refusal)
            | none =>
                if port.gatewayId ≠ topicGatewayId ∨ port.portId ≠ topicPortId then
                  (state.database,
                    ⟨"topic_payload_mismatch", "port_status topic and payload mismatch"⟩)
                else storePort state.database port "port_status database save failed"
          state.answerPort pc nowMs "port_status" payload port stored

/-! ## Answers to commands -/

/-- The command that an answer speaks of. -/
def answeredCommand (root : Json) (target : PendingCommandTarget) : String :=
  orElse (getJsonStringAny root ["cmd", "commandType", "command"]) target.commandType

/-- `deleteDeviceData` and, if it has succeeded, `removeDeviceData`. -/
def deleteDevice (state : PcData) (gatewayId portId : String) (deviceId : Int) : PcData :=
  let deleted := state.database.deleteDeviceData nowMs gatewayId portId deviceId
  { state with
    database := deleted.1
    service := if deleted.2 then state.service.removeDeviceData nowMs gatewayId portId deviceId
      else state.service }

/-- What a device that has been added anew undoes. -/
def restoreDevice (state : PcData) (gatewayId portId : String) (deviceId : Int) : PcData :=
  let restored := if state.database.isOpen then
      (state.database.reactivateDeletedDevice nowMs gatewayId portId deviceId).1
    else state.database
  { state with
    database := restored
    service := state.service.forgetRemovedDevice nowMs gatewayId portId deviceId }

/-- What follows from the end of a command. -/
def followUp (state : PcData) (root : Json) (completion : Completion) :
    PcData × List Publication :=
  let target := completion.target
  let command := answeredCommand root target
  if completion.success ∧ command = "remove_device" ∧ target.commandType = "remove_device" then
    (state.deleteDevice nowMs target.gatewayId target.portId target.deviceId, [])
  else if completion.success ∧ command = "add_device" ∧ target.commandType = "add_device" then
    (state.restoreDevice nowMs target.gatewayId target.portId target.deviceId,
      (publishConfigSnapshotRequest pc nowMs target.gatewayId).toList)
  else (state, [])

def handleAnswer (state : PcData) (topic payload : String) : PcData × List Publication :=
  let taken := handleAck pc state.service.pendingCommands topic payload
  let waiting := { state with service := { state.service with pendingCommands := taken.1 } }
  match taken.2, parseObject pc payload with
  | some completion, some root => waiting.followUp pc nowMs root completion
  | _, _ => (waiting, [])

/-! ## Configuration snapshots -/

def isFullSnapshot (root : Json) : Bool :=
  getJsonBool root "fullSnapshot" (getJsonBool root "full_snapshot" false)

/-- A snapshot that nobody has asked for: the memory forgets the devices that
a full snapshot has removed. -/
def storeSnapshot (state : PcData) (gatewayId : String) (snapshot : ConfigSnapshot)
    (fullSnapshot : Bool) : PcData × Bool :=
  let missing := state.database.activeKeys.filter
    (Database.missingFrom gatewayId snapshot.devices)
  let stored := state.database.upsertGatewayConfigSnapshot nowMs gatewayId snapshot fullSnapshot
  if stored.2 then
    let removed := if fullSnapshot then
        missing.foldl (fun service key =>
          service.removeDeviceData nowMs key.gatewayId key.portId key.deviceId) state.service
      else state.service
    ({ state with
      database := stored.1
      service := removed.replaceGatewayRegistry gatewayId snapshot fullSnapshot }, true)
  else ({ state with database := stored.1 }, false)

/-- A snapshot for a request of the user. -/
def storeSelection (state : PcData) (pending : SyncGatewayPending) (snapshot : ConfigSnapshot) :
    PcData × Bool :=
  let stored := state.database.replaceSelectedDeviceConfig pending.gatewayId pending.devices snapshot
  if stored.2 then
    let forgotten := snapshot.devices.foldl (fun service device =>
      service.forgetRemovedDevice nowMs device.gatewayId device.portId device.deviceId) state.service
    ({ state with
      database := stored.1
      service := forgotten.replaceGatewayRegistry pending.gatewayId snapshot false }, true)
  else ({ state with database := stored.1 }, false)

/-- The answer to a snapshot that has been read. -/
def snapshotAck (messageType gatewayId : String) (seq configVersion : Int) (ok : Bool)
    (refusal : Refusal) (snapshot : ConfigSnapshot) : RegisterAck where
  cmd := messageType
  seq := seq
  ok := ok
  gatewayId := gatewayId
  portId := ""
  configVersion := configVersion
  reason := refusal.reason
  message := refusal.message
  retryable := true
  registeredDeviceCount := if ok then snapshot.devices.length else -1
  registeredPointCount := if ok then snapshot.pointConfigs.length else -1

/-- The answer to a snapshot that is refused before it is read. -/
def refusedSnapshot (messageType gatewayId : String) (seq configVersion : Int)
    (refusal : Refusal) : RegisterAck where
  cmd := messageType
  seq := seq
  ok := false
  gatewayId := gatewayId
  portId := ""
  configVersion := configVersion
  reason := refusal.reason
  message := refusal.message
  retryable := false

/-- The writes of a snapshot: for a request if one waits for it. -/
def applySnapshot (state : PcData) (root : Json) (waiting : Option SyncGatewayPending)
    (gatewayId : String) (snapshot : ConfigSnapshot) : PcData × Bool :=
  match waiting with
  | some pending => state.storeSelection nowMs pending snapshot
  | none => state.storeSnapshot nowMs gatewayId snapshot (isFullSnapshot root)

/-- The end of the branch, with what the database has made of the snapshot. -/
def handleSnapshotOf (state : PcData) (messageType : String) (root : Json)
    (waiting : Option SyncGatewayPending) (gatewayId : String) : PcData × List Publication :=
  let seq := getJsonInt64 root "seq" 0
  let configVersion := messageConfigVersion root
  let selected := (waiting.map SyncGatewayPending.devices).getD []
  let outcome : PcData × Bool × Refusal × ConfigSnapshot :=
    match parseConfigSnapshot nowMs root gatewayId selected with
    | none => (state, false, ⟨"parse_error", "config_snapshot parse failed"⟩, ⟨[], [], []⟩)
    | some snapshot =>
        if !state.database.isOpen then
          (state, false, ⟨"db_error", "database is not open"⟩, snapshot)
        else
          let applied := state.applySnapshot nowMs root waiting gatewayId snapshot
          (applied.1, applied.2, if applied.2 then ⟨"", ""⟩
            else ⟨"db_error", "config_snapshot database save failed"⟩, snapshot)
  let completed := if waiting.isSome then
      { outcome.1 with service := outcome.1.service.completeSyncConfig seq }
    else outcome.1
  completed.answered pc nowMs
    (snapshotAck messageType gatewayId seq configVersion outcome.2.1 outcome.2.2.1 outcome.2.2.2)

def handleConfigSnapshot (state : PcData) (messageType topic payload : String) :
    PcData × List Publication :=
  if !isValidRegisterTopic topic then (state, [])
  else
    match parseObject pc payload with
    | none =>
        let gatewayId := extractJsonStringValue payload "gatewayId"
        state.answered pc nowMs (refusedSnapshot messageType gatewayId 0 0
          ⟨if gatewayId = "" then "invalid_payload" else "parse_error",
            "config_snapshot parse failed"⟩)
    | some root =>
        let seq := getJsonInt64 root "seq" 0
        let configVersion := messageConfigVersion root
        if configVersion ≤ 0 ∧ (root.lookup "fullSnapshot").isNone ∧
            (root.lookup "full_snapshot").isNone then
          state.answered pc nowMs (refusedSnapshot messageType (extractGatewayIdCompat root) seq
            configVersion
            ⟨"missing_snapshot_version", "config snapshot missing configVersion/fullSnapshot"⟩)
        else
          let waiting := state.service.findSyncPending seq
          let gatewayId := match waiting with
            | some pending => pending.gatewayId
            | none => extractGatewayIdCompat root
          if gatewayId = "" then
            state.answered pc nowMs (refusedSnapshot messageType gatewayId seq configVersion
              ⟨"missing_field", "config snapshot missing gatewayId"⟩)
          else if waiting.any fun pending => pending.devices.isEmpty then
            state.answered pc nowMs (refusedSnapshot messageType gatewayId seq configVersion
              ⟨"invalid_payload", "config snapshot pending devices empty"⟩)
          else state.handleSnapshotOf pc nowMs messageType root waiting gatewayId

/-! ## Devices -/

/-- The reason for which a read registration is not stored, if any. -/
def storeDevice (state : PcData) (details : DeviceDetails) : PcData × String :=
  let device := details.device
  if details.reason ≠ "" then (state, details.reason)
  else if !state.database.isOpen then (state, "database_not_open")
  else
    let checked := state.service.isRemovedDevice nowMs device.gatewayId device.portId device.deviceId
    let pruned := { state with service := checked.1 }
    if checked.2 ∨ state.database.deviceDeleted device.gatewayId device.portId device.deviceId then
      (pruned, "device_removed_wait_config_snapshot")
    else
      let stored := state.database.upsertDevice device false
      if stored.2 then
        ({ pruned with
          database := stored.1
          service := pruned.service.rememberDeviceRegistry device }, "")
      else ({ pruned with database := stored.1 }, "device_db_save_failed")

def handleDeviceRegister (state : PcData) (topic payload : String) : PcData × List Publication :=
  if !isValidRegisterTopic topic then (state, [])
  else
    match (parseObject pc payload).bind (parseDeviceRegister nowMs) with
    | none =>
        let gatewayId := fallbackGatewayId pc payload
        let portId := fallbackPortId pc payload
        state.answered pc nowMs
          { cmd := "device_register"
            seq := fallbackSeq pc payload
            ok := false
            gatewayId := gatewayId
            portId := portId
            configVersion := 0
            reason := if gatewayId = "" ∨ portId = "" then "missing_field" else "parse_error"
            message := if gatewayId = "" then "device_register missing gatewayId"
              else if portId = "" then "device_register missing portId"
              else "device_register parse failed"
            retryable := false
            deviceId := ((parseObject pc payload).map fun root =>
              getJsonIntAny root ["deviceId", "device_id", "slave_id", "slaveAddress"] 0).getD 0 }
    | some details =>
        let stored := state.storeDevice nowMs details
        let ok := stored.2 = ""
        stored.1.answered pc nowMs
          { cmd := "device_register"
            seq := details.sequence
            ok := ok
            gatewayId := details.device.gatewayId
            portId := details.device.portId
            configVersion := 0
            reason := stored.2
            message := stored.2
            retryable := stored.2 ≠ "device_removed_wait_config_snapshot"
            registeredDeviceCount := if ok then 1 else -1
            deviceId := details.device.deviceId }

/-! ## Thresholds and alarms -/

/-- An entry under the usual key of its point, if it is accepted. -/
def acceptThreshold (database : Database) (config : PointConfig) : Option PointConfig :=
  if !database.knowsConfig config then none
  else
    let pointKey := normalizeTelemetryPointKey config.pointKey
    let named := if pointKey ≠ config.pointKey ∧ config.pointId ≠ "" then
        { config with
          pointKey := pointKey
          pointId := config.factoryId ++ "." ++ config.areaId ++ "." ++ config.gatewayId ++ "." ++
            config.portId ++ "." ++ toString config.deviceId ++ "." ++ pointKey }
      else { config with pointKey := pointKey }
    let deviceType := orElse
      (database.queryDeviceType config.gatewayId config.portId config.deviceId) config.deviceType
    if database.pointConfigExists config.gatewayId config.portId config.deviceId pointKey ∨
        isDefaultTelemetryPointKey deviceType pointKey then some named
    else none

def handleThresholdConfig (state : PcData) (payload : String) : PcData :=
  match (parseObject pc payload).bind (parsePointConfigPack nowMs) with
  | none => state
  | some configs =>
      if !state.database.isOpen then state
      else
        let accepted := configs.filterMap (acceptThreshold state.database)
        let saved := state.database.savePointConfigs accepted
        { state with
          database := saved.1
          service := if saved.2 then state.service.rememberPointConfigs accepted
            else state.service }

variable (stod : String -> Option Rat)

def handleAlarm (state : PcData) (topic payload : String) : PcData :=
  match savedAlarm stod nowMs pc topic payload with
  | none => state
  | some event =>
      if state.database.isOpen then
        { state with database := (state.database.saveAlarmEvent event).1 }
      else state

/-- `MqttMessageHandler::handle`. -/
def handle (state : PcData) (topic payload : String) : PcData × List Publication :=
  let messageType := extractJsonStringValue payload "type"
  if messageType = "telemetry_pack" then (state.enqueueTelemetry ⟨topic, payload⟩, [])
  else if isAlarmMessage payload then (state.handleAlarm pc nowMs stod topic payload, [])
  else if messageType = "gateway_register" then state.handleGatewayRegister pc nowMs topic payload
  else if messageType = "gateway_heartbeat" ∨ messageType = "gateway_status" then
    (state.handleGatewayHeartbeat pc nowMs messageType topic payload, [])
  else if messageType = "port_register" then state.handlePortRegister pc nowMs topic payload
  else if messageType = "port_status" then state.handlePortStatus pc nowMs topic payload
  else if isAnswer messageType then state.handleAnswer pc nowMs topic payload
  else if messageType = "config_snapshot" ∨ messageType = "device_config_snapshot" then
    state.handleConfigSnapshot pc nowMs messageType topic payload
  else if messageType = "device_register" then state.handleDeviceRegister pc nowMs topic payload
  else if messageType = "threshold_config" then (state.handleThresholdConfig pc nowMs payload, [])
  else (state, [])

end Branches
end PcData
end Pc
end Imx6Gateway
