import Imx6Gateway.Pc.AlarmEvent
import Imx6Gateway.Pc.RegisterAck

namespace Imx6Gateway
namespace Pc

open Library

/-!
# Registrations in Pc_data

What a gateway tells Pc_data about itself, its ports and its devices, and how
`MqttMessageHandler.cpp` and `PcDataMessages.cpp` read it.  The members are
read with defaults; a message is refused where it names no gateway or port.
A time of `0` in a device record is one that the message does not set.
-/

structure DeviceRecord where
  factoryId : String
  factoryName : String
  areaId : String
  areaName : String
  gatewayId : String
  gatewayName : String
  portId : String
  portName : String
  deviceId : Int
  deviceName : String
  deviceType : String
  pollIntervalMs : Int
  expectTelemetry : Bool
  enabled : Bool
  status : String
  lastSeenMs : Int
  lastOfflineMs : Int
  statusReason : String
  createTimeMs : Int
  updateTimeMs : Int
deriving DecidableEq, Repr

structure GatewayPort where
  gatewayId : String
  portId : String
  portName : String
  slot : Int
  devicePath : String
  baud : Int
  status : String
  lastRegisterTimeMs : Int
  updateTimeMs : Int
deriving DecidableEq, Repr

structure GatewayStatus where
  gatewayId : String
  gatewayName : String
  factoryId : String
  areaId : String
  status : String
  lastRegisterTimeMs : Int
  lastHeartbeatTimeMs : Int
  updateTimeMs : Int
deriving DecidableEq, Repr

structure GatewayRegistry where
  gatewayId : String
  gatewayName : String
  status : String
  upTopic : String
  cmdTopic : String
  broadcastTopic : String
  lastRegisterTimeMs : Int
  lastHeartbeatTimeMs : Int
  updateTimeMs : Int
deriving DecidableEq, Repr

/-- An alarm limit that is not set is `none`. -/
structure PointConfig where
  pointId : String
  factoryId : String
  factoryName : String
  areaId : String
  areaName : String
  gatewayId : String
  gatewayName : String
  portId : String
  portName : String
  deviceId : Int
  deviceName : String
  deviceType : String
  pointKey : String
  pointName : String
  unit : String
  valueType : String
  enableAlarm : Bool
  alarmLow : Option Rat
  alarmHigh : Option Rat
  enabled : Bool
  timestampMs : Int
deriving DecidableEq, Repr

/-- A payload that is an object. -/
def parseObject (pc : JsonCodec) (payload : String) : Option Json :=
  match pc.parse payload with
  | some (.obj members) => some (.obj members)
  | _ => none

theorem parseObject_of_parse {pc : JsonCodec} {payload : String} {members : List (String × Json)}
    (parsed : pc.parse payload = some (.obj members)) :
    parseObject pc payload = some (.obj members) := by
  rw [parseObject, parsed]

theorem isObj_of_parseObject {pc : JsonCodec} {payload : String} {root : Json}
    (parsed : parseObject pc payload = some root) : root.isObj = true := by
  unfold parseObject at parsed
  split at parsed
  · injection parsed with same
    rw [← same, Json.isObj]
  · cases parsed

/-- The members that describe the site, or the message itself. -/
def siteOf (root : Json) : Json :=
  (memberObject root "site").getD root

def messageSeq (root : Json) : Int :=
  getJsonInt64Any root ["seq", "sequence"] 0

def messageConfigVersion (root : Json) : Int :=
  getJsonInt64Any root ["configVersion", "config_version"] 0

/-- The state of a port in a message that may give it in two ways. -/
def portState (port : Json) : String :=
  if (port.lookup "connected").isSome then
    if getJsonBool port "connected" false then "connected" else "disconnected"
  else orElse (getJsonString port "status") "connected"

section Parsing

variable (nowMs : Int)

/-! ## Gateways and ports -/

def registeredPort (gatewayId : String) (port : Json) : GatewayPort where
  gatewayId := gatewayId
  portId := getJsonString port "portId"
  portName := getJsonString port "portName"
  slot := getJsonInt port "slot" 0
  devicePath := orElse (orElse (getJsonString port "port") (getJsonString port "devicePath"))
    (getJsonString port "path")
  baud := getJsonInt port "baud" 0
  status := portState port
  lastRegisterTimeMs := nowMs
  updateTimeMs := nowMs

def registeredGateway (root : Json) : GatewayStatus where
  gatewayId := orElse (getJsonStringAny root ["gatewayId", "gateway_id"])
    (getJsonString (siteOf root) "gatewayId")
  gatewayName := orElse (getJsonStringAny root ["gatewayName", "gateway_name"])
    (getJsonString (siteOf root) "gatewayName")
  factoryId := orElse (getJsonStringAny root ["factoryId", "factory_id"])
    (getJsonString (siteOf root) "factoryId")
  areaId := orElse (getJsonStringAny root ["areaId", "area_id"])
    (getJsonString (siteOf root) "areaId")
  status := orElse (getJsonString root "status") "online"
  lastRegisterTimeMs := nowMs
  lastHeartbeatTimeMs := nowMs
  updateTimeMs := nowMs

def gatewayTopics (root : Json) (gateway : GatewayStatus) : GatewayRegistry where
  gatewayId := gateway.gatewayId
  gatewayName := gateway.gatewayName
  status := gateway.status
  upTopic := orElse (getJsonString root "upTopic") (defaultUpTopic gateway.gatewayId)
  cmdTopic := if isValidPublishTopic (getJsonString root "cmdTopic") then
    getJsonString root "cmdTopic" else defaultCmdTopic gateway.gatewayId
  broadcastTopic := getJsonString root "broadcastTopic"
  lastRegisterTimeMs := nowMs
  lastHeartbeatTimeMs := nowMs
  updateTimeMs := nowMs

/-- A gateway with the ports that it names. -/
structure GatewayDetails where
  gateway : GatewayStatus
  registry : GatewayRegistry
  ports : List GatewayPort
deriving DecidableEq, Repr

def parseGatewayRegisterDetails (root : Json) : Option GatewayDetails :=
  let gateway := registeredGateway nowMs root
  if getJsonString root "type" ≠ "gateway_register" ∨ gateway.gatewayId = "" then none
  else some
    { gateway := gateway
      registry := gatewayTopics nowMs root gateway
      ports := ((((memberArray root "ports").getD []).filter Json.isObj).map
        (registeredPort nowMs gateway.gatewayId)).filter fun port => port.portId ≠ "" }

/-- The gateway and the status of a heartbeat. -/
def parseGatewayHeartbeat (root : Json) : Option GatewayStatus :=
  let gatewayId := getJsonString root "gatewayId"
  if getJsonString root "type" ≠ "gateway_heartbeat" ∨ gatewayId = "" then none
  else
    let timestampMs := getJsonInt64 root "timestampMs" nowMs
    some ⟨gatewayId, "", "", "", orElse (getJsonString root "status") "online", 0, timestampMs,
      timestampMs⟩

/-- The same for a message of type `gateway_status`. -/
def parseGatewayStatus (root : Json) : Option GatewayStatus :=
  let gatewayId := extractGatewayIdCompat root
  if gatewayId = "" then none
  else
    let timestampMs := getJsonInt64 root "timestampMs" nowMs
    some ⟨gatewayId, "", "", "", orElse (getJsonString root "status") "online", 0, timestampMs,
      timestampMs⟩

def parsePortRegister (root : Json) : Option GatewayPort :=
  let port : GatewayPort :=
    { gatewayId := getJsonString root "gatewayId"
      portId := getJsonString root "portId"
      portName := getJsonString root "portName"
      slot := getJsonInt root "slot" 0
      devicePath := getJsonString root "devicePath"
      baud := getJsonInt root "baud" 0
      status := orElse (getJsonString root "status") "connected"
      lastRegisterTimeMs := nowMs
      updateTimeMs := nowMs }
  if getJsonString root "type" ≠ "port_register" ∨ port.gatewayId = "" ∨ port.portId = "" then none
  else some port

def statusPort (root : Json) : GatewayPort where
  gatewayId := extractGatewayIdCompat root
  portId := extractPortIdCompat root
  portName := getJsonStringAny root ["portName", "port_name"]
  slot := getJsonInt root "slot" (getJsonInt root "master_slot" 0)
  devicePath := getJsonStringAny root ["devicePath", "device_path", "port", "path"]
  baud := getJsonInt root "baud" 0
  status := portState root
  lastRegisterTimeMs := nowMs
  updateTimeMs := nowMs

/-- The reason and the message of a refusal. -/
structure Refusal where
  reason : String
  message : String
deriving DecidableEq, Repr

def parsePortStatusDetails (root : Json) : GatewayPort × Option Refusal :=
  let port := statusPort nowMs root
  (port, if port.gatewayId = "" then some ⟨"missing_field", "port_status missing gatewayId"⟩
    else if port.portId = "" then some ⟨"missing_field", "port_status missing portId"⟩
    else none)

/-! ## Devices -/

/-- A registered device, its sequence number, and why it is refused. -/
structure DeviceDetails where
  device : DeviceRecord
  sequence : Int
  reason : String
deriving DecidableEq, Repr

def registeredDevice (root : Json) : DeviceRecord where
  factoryId := getJsonString (siteOf root) "factoryId"
  factoryName := getJsonString (siteOf root) "factoryName"
  areaId := getJsonString (siteOf root) "areaId"
  areaName := getJsonString (siteOf root) "areaName"
  gatewayId := getJsonString (siteOf root) "gatewayId"
  gatewayName := getJsonString (siteOf root) "gatewayName"
  portId := getJsonString (siteOf root) "portId"
  portName := getJsonString (siteOf root) "portName"
  deviceId := getJsonInt root "deviceId" (getJsonInt root "slave_id" 0)
  deviceName := getJsonString root "deviceName"
  deviceType := getJsonString root "deviceType"
  pollIntervalMs := getJsonInt root "pollIntervalMs" 1000
  expectTelemetry := getJsonBool root "expectTelemetry" (getJsonString root "deviceType" ≠ "relay")
  enabled := true
  status := "online"
  lastSeenMs := nowMs
  lastOfflineMs := 0
  statusReason := ""
  createTimeMs := nowMs
  updateTimeMs := nowMs

/-- `std::to_string` in the default name. -/
def defaultDeviceName (deviceId : Int) : String :=
  "Device " ++ toString deviceId

def parseDeviceRegister (root : Json) : Option DeviceDetails :=
  if getJsonString root "type" ≠ "device_register" then none
  else
    let device := registeredDevice nowMs root
    let sequence := getJsonInt root "sequence" (getJsonInt root "seq" 0) % 2 ^ 32
    if device.gatewayId = "" ∨ device.portId = "" ∨ device.deviceId ≤ 0 ∨ device.deviceType = "" then
      some ⟨device, sequence, "invalid_device_register"⟩
    else some
      ⟨{ device with deviceName := orElse device.deviceName (defaultDeviceName device.deviceId) },
        sequence, ""⟩

/-! ## Configuration snapshots -/

def getOptionalSnapshotDouble (object : Json) (snakeKey camelKey : String) : Option Rat :=
  match (object.lookup snakeKey).or (object.lookup camelKey) with
  | some (.int value) => some (doubleOfInt value)
  | some (.real value) => some value
  | _ => none

def buildSnapshotPointId (device : DeviceRecord) (pointKey : String) : String :=
  device.factoryId ++ "." ++ device.areaId ++ "." ++ device.gatewayId ++ "." ++ device.portId ++
    "." ++ toString device.deviceId ++ "." ++ pointKey

/-- `appendThresholdPointConfig`: the entry that is appended, if any. -/
def thresholdPointConfig (timestampMs : Int) (device : DeviceRecord) (threshold : Json)
    (pointKey unit : String) : Option PointConfig :=
  if !threshold.isObj ∨ device.factoryId = "" ∨ device.areaId = "" ∨ device.gatewayId = "" ∨
      device.portId = "" ∨ device.deviceId ≤ 0 then none
  else some
    { pointId := buildSnapshotPointId device pointKey
      factoryId := device.factoryId
      factoryName := ""
      areaId := device.areaId
      areaName := ""
      gatewayId := device.gatewayId
      gatewayName := device.gatewayName
      portId := device.portId
      portName := device.portName
      deviceId := device.deviceId
      deviceName := device.deviceName
      deviceType := device.deviceType
      pointKey := pointKey
      pointName := pointKey
      unit := unit
      valueType := "number"
      enableAlarm := getJsonBool threshold "enable_alarm" (getJsonBool threshold "enableAlarm" false)
      alarmLow := getOptionalSnapshotDouble threshold "alarm_low" "alarmLow"
      alarmHigh := getOptionalSnapshotDouble threshold "alarm_high" "alarmHigh"
      enabled := true
      timestampMs := timestampMs }

def snapshotPointConfigs (timestampMs : Int) (device : DeviceRecord) (deviceValue : Json) :
    List PointConfig :=
  if device.deviceType ≠ "sensor_th" then []
  else
    match (memberObject deviceValue "threshold_config").or
        (memberObject deviceValue "thresholdConfig") with
    | none => []
    | some thresholdConfig =>
        match memberObject thresholdConfig "thresholds" with
        | none => []
        | some thresholds =>
            let entry (pointKey unit : String) : List PointConfig :=
              ((thresholds.lookup pointKey).bind fun threshold =>
                thresholdPointConfig timestampMs device threshold pointKey unit).toList
            entry "temperature" "c" ++ entry "humidity" "%"

def snapshotPort (gatewayId : String) (portValue : Json) : GatewayPort where
  gatewayId := gatewayId
  portId := getJsonString portValue "portId"
  portName := getJsonString portValue "portName"
  slot := getJsonInt portValue "slot" 0
  devicePath := getJsonString portValue "port"
  baud := getJsonInt portValue "baud" 0
  status := if getJsonBool portValue "connected" false then "connected" else "disconnected"
  lastRegisterTimeMs := nowMs
  updateTimeMs := nowMs

def snapshotDeviceId (deviceValue : Json) : Int :=
  getJsonIntAny deviceValue ["deviceId", "slave_id", "slaveAddress"] 0

def snapshotDevice (site : Json) (port : GatewayPort) (deviceValue : Json) : DeviceRecord where
  factoryId := getJsonString site "factoryId"
  factoryName := getJsonString site "factoryName"
  areaId := getJsonString site "areaId"
  areaName := getJsonString site "areaName"
  gatewayId := port.gatewayId
  gatewayName := getJsonString site "gatewayName"
  portId := port.portId
  portName := port.portName
  deviceId := snapshotDeviceId deviceValue
  deviceName := defaultDeviceName (snapshotDeviceId deviceValue)
  deviceType := getJsonStringAny deviceValue ["deviceType", "device_type"]
  pollIntervalMs := getJsonInt deviceValue "pollIntervalMs" 1000
  expectTelemetry := getJsonStringAny deviceValue ["deviceType", "device_type"] ≠ "relay"
  enabled := true
  status := if port.status = "connected" then "online" else "unknown"
  lastSeenMs := if port.status = "connected" then nowMs else 0
  lastOfflineMs := 0
  statusReason := ""
  createTimeMs := nowMs
  updateTimeMs := nowMs

/-- A device of a snapshot with the value it was read from. -/
structure SnapshotEntry where
  device : DeviceRecord
  value : Json

structure ConfigSnapshot where
  ports : List GatewayPort
  devices : List DeviceRecord
  pointConfigs : List PointConfig
deriving DecidableEq, Repr

/-- The entries of one port.  A user's request restricts them to the selected devices. -/
def portEntries (selected : List SyncSelectedDevice) (gatewayId : String) (site portValue : Json) :
    List SnapshotEntry :=
  let port := snapshotPort nowMs gatewayId portValue
  (((memberArray portValue "devices").getD []).filter fun deviceValue =>
    deviceValue.isObj && (selected.isEmpty ||
      selected.contains ⟨port.portId, snapshotDeviceId deviceValue⟩)).map fun deviceValue =>
    ⟨snapshotDevice nowMs site port deviceValue, deviceValue⟩

def snapshotGatewayId (root : Json) : String :=
  orElse (getJsonString root "gatewayId") (getJsonString (siteOf root) "gatewayId")

def parseConfigSnapshot (root : Json) (pendingGatewayId : String)
    (selected : List SyncSelectedDevice) : Option ConfigSnapshot :=
  let gatewayId := snapshotGatewayId root
  match memberArray root "ports" with
  | none => none
  | some portValues =>
      if (getJsonString root "type" ≠ "config_snapshot" ∧
          getJsonString root "type" ≠ "device_config_snapshot") ∨
          gatewayId ≠ pendingGatewayId ∨ getJsonString (siteOf root) "factoryId" = "" ∨
          getJsonString (siteOf root) "areaId" = "" then none
      else
        let timestampMs := getJsonInt64 root "timestampMs" nowMs
        let objects := portValues.filter Json.isObj
        let entries := objects.flatMap (portEntries nowMs selected gatewayId (siteOf root))
        some
          { ports := (objects.map (snapshotPort nowMs gatewayId)).filter fun port =>
              port.portId ≠ ""
            devices := entries.map SnapshotEntry.device
            pointConfigs := entries.flatMap fun entry =>
              snapshotPointConfigs timestampMs entry.device entry.value }

end Parsing
end Pc
end Imx6Gateway
