import Imx6Gateway.Library.JsonAssembly
import Imx6Gateway.Link.LatestPointsText
import Imx6Gateway.Ui.AlarmView

namespace Imx6Gateway
namespace Link

open Library JsonDocument Pc

/-!
# The messages that Pc_data puts together

Except for what it passes on, Pc_data writes its messages into a stream: the
brackets and keys as fixed texts, every string through `jsonEscape`, and values
of a request as RapidJSON prints them.  Here is each of its builders, as the
assembly that it writes.  A message is JSON exactly if its strings have no
control character but the three that `jsonEscape` knows, and its numbers are
finite.
-/

namespace Assembled

/-! ## What stands between the brackets -/

/-- A `double` as the stream receives it. -/
inductive StreamDouble where
  | finite (value : FloatFormat.Value FloatFormat.binary64)
  | other (special : NotFinite)

inductive Fragment where
  | text (value : String)
  | integer (value : Int)
  | boolean (value : Bool)
  | double (value : StreamDouble)
  | printed (value : Json)

/-- The text between two quotes. -/
def literal (value : String) : List Char :=
  '"' :: (jsonEscape value ++ ['"'])

namespace Fragment

/-- `jsonValueToString` is a parameter. -/
def shown (jsonValueToString : Json -> List Char) : Fragment -> List Char
  | text value => literal value
  | integer value => JsonText.intText value
  | boolean value => boolText value
  | double (.finite value) => (StreamNumber.numeral value.1).text
  | double (.other special) => special.text
  | printed value => jsonValueToString value

/-- What a reader finds in that text. -/
def read : Fragment -> Option Json
  | text value => if Clean value.toList then some (.str value) else none
  | integer value => some (.int value)
  | boolean value => some (.bool value)
  | double (.finite value) => (StreamNumber.numeral value.1).json
  | double (.other _) => none
  | printed value => some value

/-- Strings with no other control character than newline, return and tab, and
finite numbers. -/
def Valid : Fragment -> Prop
  | text value => Clean value.toList
  | double (.other _) => False
  | _ => True

instance validDecidable : forall fragment : Fragment, Decidable fragment.Valid
  | text value => inferInstanceAs (Decidable (Clean value.toList))
  | double (.other _) => isFalse id
  | integer _ => isTrue trivial
  | boolean _ => isTrue trivial
  | double (.finite _) => isTrue trivial
  | printed _ => isTrue trivial

end Fragment

/-- The text of the value is read as the value, wherever it stands. -/
def Prints (jsonValueToString : Json -> List Char) (value : Json) : Prop :=
  forall depth, (jsonValueToString value).length ≤ depth ->
    Shows depth (jsonValueToString value) (some value)

/-! ## The builders -/

def string (value : String) : Assembly Fragment := .leaf (.text value)

def int (value : Int) : Assembly Fragment := .leaf (.integer value)

def bool (value : Bool) : Assembly Fragment := .leaf (.boolean value)

def number (value : StreamDouble) : Assembly Fragment := .leaf (.double value)

def printed (value : Json) : Assembly Fragment := .leaf (.printed value)

/-- A member whose key needs no escaping. -/
def key (name : String) (item : Assembly Fragment) (plain : Plain name := by decide +kernel) :
    PlainKey × Assembly Fragment :=
  (⟨name, plain⟩, item)

def buildCommandAckJson (cmdId : String) (ok : Bool) (reason : String) (seq : Int)
    (commandType stage message : String) (boardSeq : Int) (gatewayId portId : String)
    (deviceId nowMs : Int) : Assembly Fragment :=
  let boardSeq := if boardSeq ≤ 0 then seq else boardSeq
  let finalDone : Bool := stage = "done"
  let effectiveOk := finalDone && ok
  let status := if finalDone then (if effectiveOk then "success" else "failed")
    else if stage = "" then "accepted" else stage
  .object <| List.flatten
    [[key "type" (string "command_ack"), key "cmd_id" (string cmdId), key "seq" (int seq),
      key "uiSeq" (int seq), key "boardSeq" (int boardSeq), key "board_seq" (int boardSeq),
      key "cmd" (string commandType), key "cmdType" (string commandType),
      key "command" (string commandType), key "commandType" (string commandType),
      key "stage" (string (if stage = "" then "accepted" else stage)),
      key "status" (string status), key "ok" (bool effectiveOk), key "reason" (string reason),
      key "message" (string message)],
    if gatewayId ≠ "" then [key "gatewayId" (string gatewayId)] else [],
    if portId ≠ "" then [key "portId" (string portId)] else [],
    if 0 < deviceId then
      [key "deviceId" (int deviceId), key "device_id" (int deviceId), key "slave_id" (int deviceId)]
    else [],
    [key "timestampMs" (int nowMs), key "timestamp" (int nowMs)]]

/-- A point with its number, which the stored record has as a rational. -/
structure StreamedPoint where
  stored : SnapshotPoint
  numberValue : StreamDouble

def latestPoint (shown : StreamedPoint) : Assembly Fragment :=
  let p := shown.stored.point
  .object <| List.flatten
    [[key "pointId" (string p.pointId), key "timestampMs" (int p.timestampMs),
      key "receiveTimeMs" (int shown.stored.shownTimeMs),
      key "factoryId" (string p.site.factoryId), key "factoryName" (string p.site.factoryName),
      key "areaId" (string p.site.areaId), key "areaName" (string p.site.areaName),
      key "gatewayId" (string p.site.gatewayId), key "gatewayName" (string p.site.gatewayName),
      key "portId" (string p.site.portId), key "portName" (string p.site.portName),
      key "deviceId" (int p.deviceId), key "deviceName" (string p.deviceName),
      key "deviceType" (string p.deviceType), key "pointKey" (string p.pointKey),
      key "pointName" (string p.pointName), key "unit" (string p.unit),
      key "valueType" (string (valueTypeToString p.valueType))],
    if p.valueType = .text then
      [key "value" (string p.textValue), key "numberValue" (int 0),
        key "textValue" (string p.textValue)]
    else
      [key "value" (number shown.numberValue), key "numberValue" (number shown.numberValue),
        key "textValue" (string "")],
    [key "valid" (bool p.valid), key "errorMessage" (string p.errorMessage)]]

def buildLatestPointsJson (points : List StreamedPoint) : Assembly Fragment :=
  .object [key "type" (string "latest_points"), key "count" (int points.length),
    key "points" (.array (points.map latestPoint))]

structure CommandLogTarget where
  commandId : String
  gatewayId : String
  portId : String
  deviceId : Int

def buildCommandLogUpdateJson (seq : Int) (commandType status reason message : String)
    (target : Option CommandLogTarget) (boardSeq nowMs : Int) : Assembly Fragment :=
  let boardSeq := if boardSeq ≤ 0 then seq else boardSeq
  .object <| List.flatten
    [[key "type" (string "command_log_update")],
    (target.map fun target => key "cmd_id" (string target.commandId)).toList,
    [key "seq" (int seq), key "boardSeq" (int boardSeq), key "cmd" (string commandType),
      key "command" (string commandType), key "commandType" (string commandType),
      key "cmdType" (string commandType),
      key "stage" (string (if status = "sent" ∨ status = "waiting" then "sent" else "done")),
      key "status" (string status), key "ok" (bool (status = "success")),
      key "reason" (string reason), key "message" (string message)],
    (target.map fun target => [key "gatewayId" (string target.gatewayId),
      key "portId" (string target.portId), key "deviceId" (int target.deviceId)]).getD [],
    [key "timestampMs" (int nowMs)]]

def buildDevicesSnapshotJson (devices : List DeviceRecord) : Assembly Fragment :=
  .object [key "type" (string "devices_snapshot"), key "count" (int devices.length),
    key "devices" (.array (devices.map fun d => .object
      [key "factoryId" (string d.factoryId), key "factoryName" (string d.factoryName),
        key "areaId" (string d.areaId), key "areaName" (string d.areaName),
        key "gatewayId" (string d.gatewayId), key "gatewayName" (string d.gatewayName),
        key "portId" (string d.portId), key "portName" (string d.portName),
        key "deviceId" (int d.deviceId), key "deviceName" (string d.deviceName),
        key "deviceType" (string d.deviceType), key "pollIntervalMs" (int d.pollIntervalMs),
        key "expectTelemetry" (bool d.expectTelemetry), key "enabled" (bool d.enabled),
        key "status" (string d.status), key "lastSeenMs" (int d.lastSeenMs),
        key "lastOfflineMs" (int d.lastOfflineMs), key "statusReason" (string d.statusReason),
        key "createTimeMs" (int d.createTimeMs), key "updateTimeMs" (int d.updateTimeMs)]))]

def buildGatewayStatusSnapshotJson (gateways : List GatewayStatus) : Assembly Fragment :=
  .object [key "type" (string "gateway_status_snapshot"), key "count" (int gateways.length),
    key "gateways" (.array (gateways.map fun g => .object
      [key "gatewayId" (string g.gatewayId), key "gatewayName" (string g.gatewayName),
        key "factoryId" (string g.factoryId), key "areaId" (string g.areaId),
        key "status" (string g.status), key "lastRegisterTimeMs" (int g.lastRegisterTimeMs),
        key "lastHeartbeatTimeMs" (int g.lastHeartbeatTimeMs),
        key "updateTimeMs" (int g.updateTimeMs)]))]

def buildPortStatusSnapshotJson (ports : List GatewayPort) : Assembly Fragment :=
  .object [key "type" (string "port_status_snapshot"), key "count" (int ports.length),
    key "ports" (.array (ports.map fun p => .object
      [key "gatewayId" (string p.gatewayId), key "portId" (string p.portId),
        key "portName" (string p.portName), key "slot" (int p.slot),
        key "devicePath" (string p.devicePath), key "baud" (int p.baud),
        key "status" (string p.status), key "lastRegisterTimeMs" (int p.lastRegisterTimeMs),
        key "updateTimeMs" (int p.updateTimeMs)]))]

def buildDeviceRegisterAckJson (sequence : Int) (device : DeviceRecord) (ok : Bool)
    (reason : String) (nowMs : Int) : Assembly Fragment :=
  .object [key "type" (string "device_register_ack"), key "sequence" (int sequence),
    key "seq" (int sequence), key "ok" (bool ok), key "reason" (string reason),
    key "gatewayId" (string device.gatewayId), key "portId" (string device.portId),
    key "deviceId" (int device.deviceId), key "timestampMs" (int nowMs)]

def buildHistoryPointsJson (pointId : String) (points : List StreamedPoint) (ok : Bool)
    (reason message : String) : Assembly Fragment :=
  let actualReason := if reason = "" ∧ ok ∧ points = [] then "no_data" else reason
  .object <| List.flatten
    [[key "type" (string "history_points"), key "ok" (bool ok),
      key "reason" (string actualReason)],
    if message ≠ "" then [key "message" (string message)] else [],
    [key "pointId" (string pointId), key "count" (int points.length),
      key "points" (.array (points.map fun p => .object
        [key "timestampMs" (int p.stored.point.timestampMs),
          key "numberValue" (number p.numberValue),
          key "textValue" (string p.stored.point.textValue),
          key "valid" (bool p.stored.point.valid)]))]]

def buildDeleteDataAckJson (action : String) (ok : Bool) (reason : String) (nowMs : Int) :
    Assembly Fragment :=
  .object [key "type" (string "delete_data_ack"), key "action" (string action), key "ok" (bool ok),
    key "reason" (string reason), key "timestamp" (int nowMs)]

def buildAlarmActionAckJson (action : String) (ok : Bool) (reason alarmId : String) (nowMs : Int) :
    Assembly Fragment :=
  .object <| List.flatten
    [[key "type" (string "alarm_action_ack"), key "action" (string action), key "ok" (bool ok),
      key "reason" (string reason)],
    if alarmId ≠ "" then [key "alarm_id" (string alarmId), key "alarmId" (string alarmId)] else [],
    [key "timestamp" (int nowMs)]]

/-- An alarm with its two numbers, which the event has as rationals. -/
structure StreamedAlarm where
  event : TimedAlarmEvent
  value : StreamDouble
  threshold : StreamDouble

def alarmSnapshot (shown : StreamedAlarm) : Assembly Fragment :=
  let event := shown.event
  .object [key "alarm_id" (string event.alarmId), key "alarmId" (string event.alarmId),
    key "timestampMs" (int event.timestampMs), key "ack_time_ms" (int event.ackTimeMs),
    key "ackTimeMs" (int event.ackTimeMs), key "recover_time_ms" (int event.recoverTimeMs),
    key "recoverTimeMs" (int event.recoverTimeMs), key "factoryId" (string event.factoryId),
    key "factory_id" (string event.factoryId), key "areaId" (string event.areaId),
    key "area_id" (string event.areaId), key "areaName" (string event.areaName),
    key "area_name" (string event.areaName), key "gatewayId" (string event.gatewayId),
    key "gateway_id" (string event.gatewayId), key "portId" (string event.portId),
    key "port_id" (string event.portId), key "deviceId" (int event.deviceId),
    key "device_id" (int event.deviceId), key "deviceName" (string event.deviceName),
    key "device_name" (string event.deviceName), key "deviceType" (string event.deviceType),
    key "device_type" (string event.deviceType), key "pointKey" (string event.pointKey),
    key "point_key" (string event.pointKey), key "pointName" (string event.pointName),
    key "point_name" (string event.pointName), key "alarmType" (string event.alarmType),
    key "alarm_type" (string event.alarmType), key "level" (string event.level),
    key "alarm_level" (string event.level), key "message" (string event.message),
    key "alarm_message" (string event.message), key "state" (string event.state),
    key "status" (string event.state), key "value" (number shown.value),
    key "trigger_value" (number shown.value), key "threshold" (number shown.threshold),
    key "threshold_value" (number shown.threshold)]

def buildAlarmEventsSnapshotJson (events : List StreamedAlarm) : Assembly Fragment :=
  .object [key "type" (string "alarm_events_snapshot"), key "count" (int events.length),
    key "alarms" (.array (events.map alarmSnapshot))]

def buildMqttConfigJson (host : String) (port : Int) (status : String) : Assembly Fragment :=
  .object [key "type" (string "mqtt_config"), key "host" (string host), key "port" (int port),
    key "status" (string status)]

def buildMqttConfigAckJson (ok : Bool) (reason host : String) (port : Int) (status : String) :
    Assembly Fragment :=
  .object [key "type" (string "mqtt_config_ack"), key "ok" (bool ok), key "reason" (string reason),
    key "host" (string host), key "port" (int port), key "status" (string status)]

def buildSyncConfigResultJson (success : Bool) (message : String) (portCount deviceCount : Int) :
    Assembly Fragment :=
  .object [key "type" (string "sync_config_result"), key "success" (bool success),
    key "message" (string message), key "portCount" (int portCount),
    key "deviceCount" (int deviceCount)]

def buildRequestConfigSnapshotJson (gatewayId : String) (seq nowMs : Int) : Assembly Fragment :=
  .object [key "type" (string "command"), key "cmd" (string "request_config_snapshot"),
    key "seq" (int seq), key "cmdType" (string "request_config_snapshot"),
    key "gatewayId" (string gatewayId), key "timestampMs" (int nowMs),
    key "target" (.object [key "gatewayId" (string gatewayId)]),
    key "payload" (.object [key "gatewayId" (string gatewayId)])]

def buildRegisterAckJson (cmd : String) (seq : Int) (ok : Bool) (status gatewayId portId : String)
    (configVersion : Int) (reason message : String) (retryable : Bool)
    (registeredDeviceCount registeredPointCount deviceId nowMs : Int) : Assembly Fragment :=
  .object <| List.flatten
    [[key "type" (string "ack"), key "cmd" (string cmd), key "seq" (int seq), key "ok" (bool ok),
      key "status" (string (if ok ∧ status = "" then "success" else status)),
      key "gatewayId" (string gatewayId)],
    if portId ≠ "" then [key "portId" (string portId)] else [],
    if 0 < deviceId then [key "deviceId" (int deviceId)] else [],
    if 0 < configVersion then [key "configVersion" (int configVersion)] else [],
    [key "reason" (string (if ok then "saved" else reason)), key "commandType" (string cmd),
      key "cmdType" (string cmd), key "message" (string (if ok then "regsit save ok" else message)),
      key "retryable" (bool retryable)],
    if 0 ≤ registeredDeviceCount then
      [key "registeredDeviceCount" (int registeredDeviceCount)] else [],
    if 0 ≤ registeredPointCount then
      [key "registeredPointCount" (int registeredPointCount)] else [],
    [key "timestampMs" (int nowMs)]]

def buildAlarmEventJson (shown : StreamedAlarm) : Assembly Fragment :=
  let event := shown.event
  .object [key "type" (string "alarm_event"), key "alarm_id" (string event.alarmId),
    key "alarmId" (string event.alarmId), key "timestampMs" (int event.timestampMs),
    key "gatewayId" (string event.gatewayId), key "gateway_id" (string event.gatewayId),
    key "portId" (string event.portId), key "port_id" (string event.portId),
    key "deviceId" (int event.deviceId), key "device_id" (int event.deviceId),
    key "deviceType" (string event.deviceType), key "device_type" (string event.deviceType),
    key "pointKey" (string event.pointKey), key "point_key" (string event.pointKey),
    key "alarmType" (string event.alarmType), key "alarm_type" (string event.alarmType),
    key "level" (string event.level), key "value" (number shown.value),
    key "threshold" (number shown.threshold), key "state" (string event.state),
    key "status" (string event.state), key "message" (string event.message)]

def buildGetConfigCommandJson (pending : SyncGatewayPending) : Assembly Fragment :=
  .object [key "type" (string "command"), key "cmd" (string "get_config"),
    key "seq" (int pending.seq),
    key "target" (.object [key "gatewayId" (string pending.gatewayId),
      key "devices" (.array (pending.devices.map fun device => .object
        [key "portId" (string device.portId), key "deviceId" (int device.deviceId)]))])]

/-! The payloads that `IpcMessageHandler::handle` writes for the board. -/

def setRelayPayload (commandId : String) (boardSeq : Int) (gatewayId portId : String)
    (slaveId nowMs slot : Int) (flags : List Bool) (states : Json) : Assembly Fragment :=
  .object [key "type" (string "command"), key "cmd" (string "set_relay"),
    key "cmd_id" (string commandId), key "seq" (int boardSeq), key "cmdType" (string "set_relay"),
    key "gatewayId" (string gatewayId), key "portId" (string portId), key "deviceId" (int slaveId),
    key "timestampMs" (int nowMs), key "slot" (int slot), key "slave_id" (int slaveId),
    key "device_id" (int slaveId), key "states" (.array (flags.map bool)),
    key "payload" (.object [key "slot" (int slot), key "slave_id" (int slaveId),
      key "deviceId" (int slaveId), key "states" (printed states)])]

/-- The three spellings of the thresholds in a request. -/
inductive ThresholdKey where
  | thresholds
  | snakeCase
  | camelCase

/-- The thresholds go on under the key that the request has. -/
def thresholdMember (thresholds : ThresholdKey × Json) : PlainKey × Assembly Fragment :=
  match thresholds.1 with
  | .thresholds => key "thresholds" (printed thresholds.2)
  | .snakeCase => key "threshold_config" (printed thresholds.2)
  | .camelCase => key "thresholdConfig" (printed thresholds.2)

def setDeviceThresholdPayload (commandId : String) (boardSeq : Int) (gatewayId portId : String)
    (slaveId nowMs slot : Int) (enabled : Bool) (thresholds : ThresholdKey × Json) :
    Assembly Fragment :=
  .object [key "type" (string "command"), key "cmd" (string "set_device_threshold"),
    key "cmd_id" (string commandId), key "seq" (int boardSeq),
    key "cmdType" (string "set_device_threshold"), key "gatewayId" (string gatewayId),
    key "portId" (string portId), key "deviceId" (int slaveId), key "timestampMs" (int nowMs),
    key "slot" (int slot), key "slave_id" (int slaveId), key "threshold_enabled" (bool enabled),
    thresholdMember thresholds,
    key "payload" (.object [key "slot" (int slot), key "slave_id" (int slaveId),
      key "deviceId" (int slaveId), key "threshold_enabled" (bool enabled),
      thresholdMember thresholds])]

/-- What `add_device` has besides the members of `remove_device`. -/
structure AddedDevice where
  deviceType : String
  pollIntervalMs : Int
  deviceOptions : Option Json
  thresholdEnabled : Bool
  thresholds : Option (ThresholdKey × Json)

def addedMembers (deviceId : Int) (device : AddedDevice) : List (PlainKey × Assembly Fragment) :=
  [key "device_type" (string device.deviceType),
    key "poll_interval_ms" (int device.pollIntervalMs),
    key "device" (.object
      ([key "slave_id" (int deviceId), key "deviceId" (int deviceId),
        key "slaveAddress" (int deviceId), key "device_type" (string device.deviceType),
        key "deviceType" (string device.deviceType),
        key "poll_interval_ms" (int device.pollIntervalMs),
        key "pollIntervalMs" (int device.pollIntervalMs)] ++
      (device.deviceOptions.map fun options => key "device_options" (printed options)).toList))] ++
    (device.thresholds.map fun thresholds =>
      [key "threshold_enabled" (bool device.thresholdEnabled), thresholdMember thresholds]).getD []

def addedPayloadMembers (device : AddedDevice) : List (PlainKey × Assembly Fragment) :=
  [key "device_type" (string device.deviceType), key "deviceType" (string device.deviceType),
    key "poll_interval_ms" (int device.pollIntervalMs),
    key "pollIntervalMs" (int device.pollIntervalMs)] ++
    (device.thresholds.map thresholdMember).toList

/-- `remove_device` when there is no device to add, and `add_device` otherwise. -/
def devicePayload (commandId : String) (boardSeq : Int) (gatewayId portId : String)
    (deviceId nowMs slot : Int) (added : Option AddedDevice) : Assembly Fragment :=
  let commandType := if added.isSome then "add_device" else "remove_device"
  .object <| List.flatten
    [[key "type" (string "command"), key "cmd" (string commandType),
      key "cmd_id" (string commandId), key "seq" (int boardSeq), key "cmdType" (string commandType),
      key "gatewayId" (string gatewayId), key "portId" (string portId),
      key "deviceId" (int deviceId), key "timestampMs" (int nowMs), key "slot" (int slot),
      key "slave_id" (int deviceId)],
    (added.map (addedMembers deviceId)).getD [],
    [key "payload" (.object
      ([key "slot" (int slot), key "slave_id" (int deviceId), key "deviceId" (int deviceId)] ++
        (added.map addedPayloadMembers).getD []))]]

def commandPayload (commandType commandId : String) (boardSeq : Int) (gatewayId portId : String)
    (target payload : Option Json) : Assembly Fragment :=
  .object <| List.flatten
    [[key "type" (string "command"), key "cmd" (string commandType),
      key "cmd_id" (string commandId), key "seq" (int boardSeq), key "cmdType" (string commandType),
      key "commandType" (string commandType), key "gatewayId" (string gatewayId)],
    if portId ≠ "" then [key "portId" (string portId)] else [],
    (target.map fun target => key "target" (printed target)).toList,
    (payload.map fun payload => key "payload" (printed payload)).toList]

/-- A call of a builder with its arguments. -/
inductive PcMessage where
  | commandAck (cmdId : String) (ok : Bool) (reason : String) (seq : Int)
      (commandType stage message : String) (boardSeq : Int) (gatewayId portId : String)
      (deviceId nowMs : Int)
  | latestPoints (points : List StreamedPoint)
  | commandLogUpdate (seq : Int) (commandType status reason message : String)
      (target : Option CommandLogTarget) (boardSeq nowMs : Int)
  | devicesSnapshot (devices : List DeviceRecord)
  | gatewayStatusSnapshot (gateways : List GatewayStatus)
  | portStatusSnapshot (ports : List GatewayPort)
  | deviceRegisterAck (sequence : Int) (device : DeviceRecord) (ok : Bool) (reason : String)
      (nowMs : Int)
  | historyPoints (pointId : String) (points : List StreamedPoint) (ok : Bool)
      (reason message : String)
  | deleteDataAck (action : String) (ok : Bool) (reason : String) (nowMs : Int)
  | alarmActionAck (action : String) (ok : Bool) (reason alarmId : String) (nowMs : Int)
  | alarmEventsSnapshot (events : List StreamedAlarm)
  | mqttConfig (host : String) (port : Int) (status : String)
  | mqttConfigAck (ok : Bool) (reason host : String) (port : Int) (status : String)
  | syncConfigResult (success : Bool) (message : String) (portCount deviceCount : Int)
  | requestConfigSnapshot (gatewayId : String) (seq nowMs : Int)
  | registerAck (cmd : String) (seq : Int) (ok : Bool) (status gatewayId portId : String)
      (configVersion : Int) (reason message : String) (retryable : Bool)
      (registeredDeviceCount registeredPointCount deviceId nowMs : Int)
  | alarmEvent (shown : StreamedAlarm)
  | getConfigCommand (pending : SyncGatewayPending)
  | setRelay (commandId : String) (boardSeq : Int) (gatewayId portId : String)
      (slaveId nowMs slot : Int) (flags : List Bool) (states : Json)
  | setDeviceThreshold (commandId : String) (boardSeq : Int) (gatewayId portId : String)
      (slaveId nowMs slot : Int) (enabled : Bool) (thresholds : ThresholdKey × Json)
  | deviceCommand (commandId : String) (boardSeq : Int) (gatewayId portId : String)
      (deviceId nowMs slot : Int) (added : Option AddedDevice)
  | command (commandType commandId : String) (boardSeq : Int) (gatewayId portId : String)
      (target payload : Option Json)

namespace PcMessage

def assembly : PcMessage -> Assembly Fragment
  | commandAck cmdId ok reason seq commandType stage message boardSeq gatewayId portId deviceId
      nowMs => buildCommandAckJson cmdId ok reason seq commandType stage message boardSeq gatewayId
        portId deviceId nowMs
  | latestPoints points => buildLatestPointsJson points
  | commandLogUpdate seq commandType status reason message target boardSeq nowMs =>
      buildCommandLogUpdateJson seq commandType status reason message target boardSeq nowMs
  | devicesSnapshot devices => buildDevicesSnapshotJson devices
  | gatewayStatusSnapshot gateways => buildGatewayStatusSnapshotJson gateways
  | portStatusSnapshot ports => buildPortStatusSnapshotJson ports
  | deviceRegisterAck sequence device ok reason nowMs =>
      buildDeviceRegisterAckJson sequence device ok reason nowMs
  | historyPoints pointId points ok reason message =>
      buildHistoryPointsJson pointId points ok reason message
  | deleteDataAck action ok reason nowMs => buildDeleteDataAckJson action ok reason nowMs
  | alarmActionAck action ok reason alarmId nowMs =>
      buildAlarmActionAckJson action ok reason alarmId nowMs
  | alarmEventsSnapshot events => buildAlarmEventsSnapshotJson events
  | mqttConfig host port status => buildMqttConfigJson host port status
  | mqttConfigAck ok reason host port status => buildMqttConfigAckJson ok reason host port status
  | syncConfigResult success message portCount deviceCount =>
      buildSyncConfigResultJson success message portCount deviceCount
  | requestConfigSnapshot gatewayId seq nowMs => buildRequestConfigSnapshotJson gatewayId seq nowMs
  | registerAck cmd seq ok status gatewayId portId configVersion reason message retryable
      registeredDeviceCount registeredPointCount deviceId nowMs =>
      buildRegisterAckJson cmd seq ok status gatewayId portId configVersion reason message retryable
        registeredDeviceCount registeredPointCount deviceId nowMs
  | alarmEvent shown => buildAlarmEventJson shown
  | getConfigCommand pending => buildGetConfigCommandJson pending
  | setRelay commandId boardSeq gatewayId portId slaveId nowMs slot flags states =>
      setRelayPayload commandId boardSeq gatewayId portId slaveId nowMs slot flags states
  | setDeviceThreshold commandId boardSeq gatewayId portId slaveId nowMs slot enabled thresholds =>
      setDeviceThresholdPayload commandId boardSeq gatewayId portId slaveId nowMs slot enabled
        thresholds
  | deviceCommand commandId boardSeq gatewayId portId deviceId nowMs slot added =>
      devicePayload commandId boardSeq gatewayId portId deviceId nowMs slot added
  | command commandType commandId boardSeq gatewayId portId target payload =>
      commandPayload commandType commandId boardSeq gatewayId portId target payload

/-- The text that the builder returns. -/
def text (jsonValueToString : Json -> List Char) (message : PcMessage) : String :=
  String.ofList (message.assembly.text (Fragment.shown jsonValueToString))

/-- Every string is clean and every number finite. -/
def Valid (message : PcMessage) : Prop :=
  forall fragment, fragment ∈ message.assembly.pieces -> fragment.Valid

instance validDecidable (message : PcMessage) : Decidable message.Valid :=
  List.decidableBAll (fun fragment : Fragment => fragment.Valid) message.assembly.pieces

/-- The values that RapidJSON writes into the message are read back. -/
def Printable (jsonValueToString : Json -> List Char) (message : PcMessage) : Prop :=
  forall value, Fragment.printed value ∈ message.assembly.pieces -> Prints jsonValueToString value

end PcMessage

end Assembled
end Link
end Imx6Gateway
